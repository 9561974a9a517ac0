import RasterTensor.Proofs.Conversion.Atomicity

/-!
# Files that are already there

A run attempts to create its output at one moment, in whatever files there are by then. It keeps
all of them as they are, also when its own file has to be removed again, and gives up with a
failure to write when the output is among them.
-/

namespace RasterTensor.Conversion

open Files

variable {resample : Resampler} {writer : Writer} {loader : Loader} {observer : Option Observer}
  {settings : Settings} {t t₁ t₂ t' before : Tree} {p q : Position} {loads : List PathName}
  {trail : List Stage}

/-- Every entry is kept, and only what a path name leads to can be there in addition. -/
structure AddsOnly (path : PathName) (t t' : Tree) : Prop extends Tree.Grows t t' where
  added : ∀ place e, t'.get? place = some e → t.get? place = some e ∨ t.locate path = .ok place

theorem AddsOnly.refl (path : PathName) (t : Tree) : AddsOnly path t t where
  toGrows := .refl t
  added _ _ he := .inl he

theorem addsOnly_put {path : PathName} {place : Location} (hplace : t.locate path = .ok place)
    (hfree : t.get? place = none) (e : Entry) : AddsOnly path t (t.put place e) where
  toGrows := Tree.grows_put hfree e
  added other e' he := by
    rw [Tree.get?_put (by simp [hfree])] at he
    split at he
    · next heq => exact .inr (heq ▸ hplace)
    · exact .inl he

theorem create_of_look {path : PathName} {e : Entry} (h : t.look path = .ok (some e)) :
    t.create path = .error (.refused .alreadyExists path.text) := by
  obtain ⟨place, hplace, he⟩ := Tree.look_eq_some_iff.mp h
  rw [Tree.create, hplace, ok_bind, he]
  rfl

/-! ## Up to the attempt -/

/-- Only the creation of the output comes after rank 2, so a run without an attempt at it stays
below. -/
theorem Arrives.rank_lt (h : Arrives resample writer loader observer settings t p t₁)
    (hnone : ∀ image tensor before,
      ¬ Arrives resample writer loader observer settings t (.normalized image tensor) before) :
    p.rank < 3 := by
  induction h with
  | start htell => exact Nat.zero_lt_succ 2
  | @pass p q _ _ _ _ h hwork htell ih =>
      cases q with
      | configured | loaded | resized => simp [Position.rank]
      | normalized image tensor => exact absurd (h.pass hwork htell) (hnone image tensor _)
      | serialized image byteCount =>
          have hrank : 4 = p.rank + 1 := hwork.rank_eq rfl
          omega

theorem Halts.changedByOthers {f : Failure}
    (h : Halts resample writer loader observer settings t trail loads t₁ f)
    (hnone : ∀ image tensor before,
      ¬ Arrives resample writer loader observer settings t (.normalized image tensor) before) :
    ChangedByOthers loader observer t t₁ := by
  cases h with
  | work h hwork =>
      have hrank := h.rank_lt hnone
      exact (h.changedByOthers (by omega)).trans (hwork.changedByOthers hrank)
  | told h hwork htell =>
      have hrank := h.rank_lt hnone
      exact ChangedByOthers.of_tell
        ((h.changedByOthers (by omega)).trans (hwork.changedByOthers hrank)) htell

theorem RunEnd.changedByOthers {outcome : Except Failure TensorSummary}
    (h : RunEnd resample writer loader observer settings t outcome trail loads t')
    (hnone : ∀ image tensor before,
      ¬ Arrives resample writer loader observer settings t (.normalized image tensor) before) :
    ChangedByOthers loader observer t t' := by
  cases h with
  | unheard f _ htell => exact ChangedByOthers.of_tell .refl htell
  | interrupted _ _ f _ h hf => exact h.changedByOthers hnone
  | failed _ _ f _ _ h hf htell => exact (h.changedByOthers hnone).of_tell htell
  | replaced _ _ f g _ _ h hf htell => exact (h.changedByOthers hnone).of_tell htell
  | unfinished image byteCount f _ _ h htell =>
      have hrank : 4 < 3 := h.rank_lt hnone
      omega
  | finished image byteCount _ _ h htell =>
      have hrank : 4 < 3 := h.rank_lt hnone
      omega

/-! ## The attempt and what comes after it -/

theorem Works.addsOnly {image : PixelBuffer} {tensor : Tensor} {r : Except Failure Position}
    (h : Works resample writer loader settings t (.normalized image tensor) loads r t') :
    AddsOnly settings.outputPath t t' := by
  cases h with
  | refused | abandoned => exact .refl _ t
  | written _ _ place size hplace hfree houtcome => exact addsOnly_put hplace hfree _

theorem Works.eq_of_look {image : PixelBuffer} {tensor : Tensor} {r : Except Failure Position}
    {e : Entry} (h : Works resample writer loader settings t (.normalized image tensor) loads r t')
    (hlook : t.look settings.outputPath = .ok (some e)) :
    t' = t ∧ r = .error (.write settings.outputPath.text occupied) := by
  have hcreate := create_of_look hlook
  have hwork : Works resample writer loader settings t (.normalized image tensor) []
      (.error (.write settings.outputPath.text occupied)) t := .refused image tensor _ hcreate
  obtain ⟨hr, htree⟩ := h.unique hwork
  exact ⟨htree, hr⟩

/-- Work that a run does not get past is done at its attempt, if it comes to one. -/
theorem Arrives.eq_attempt {image : PixelBuffer} {tensor : Tensor} {r : Except Failure Position}
    (h : Arrives resample writer loader observer settings t p t₁)
    (hattempt :
      Arrives resample writer loader observer settings t (.normalized image tensor) before)
    (hwork : Works resample writer loader settings t₁ p loads r t₂)
    (hstops : ∀ q t', r = .ok q → Observer.tell observer q.stage t₂ ≠ (.ok (), t')) :
    p = .normalized image tensor ∧ t₁ = before := by
  rcases hattempt.eq_or_passes h hwork.rank_le with heq | ⟨-, _, q, _, t', hpasses, htell⟩
  · exact heq
  · obtain ⟨rfl, rfl⟩ := hwork.unique hpasses
    exact absurd htell (hstops q t' rfl)

theorem Halts.after_attempt {image : PixelBuffer} {tensor : Tensor} {f : Failure}
    (h : Halts resample writer loader observer settings t trail loads t₁ f)
    (hattempt :
      Arrives resample writer loader observer settings t (.normalized image tensor) before) :
    ∃ loads r after,
      Works resample writer loader settings before (.normalized image tensor) loads r after ∧
      ChangedByOthers loader observer after t₁ ∧ ∀ g, r = .error g → g = f ∧ t₁ = after := by
  cases h with
  | work h hwork =>
      obtain ⟨rfl, rfl⟩ := h.eq_attempt hattempt hwork (by rintro q t' ⟨⟩)
      exact ⟨_, _, _, hwork, .refl, fun g hg => ⟨(Except.error.inj hg).symm, rfl⟩⟩
  | told h hwork htell =>
      obtain ⟨rfl, rfl⟩ := h.eq_attempt hattempt hwork (by
        rintro q t' ⟨⟩ hpassed
        simp [htell] at hpassed)
      exact ⟨_, _, _, hwork, ChangedByOthers.of_tell .refl htell, by rintro g ⟨⟩⟩

theorem Arrives.after_attempt {image image' : PixelBuffer} {tensor : Tensor} {byteCount : Nat}
    (h : Arrives resample writer loader observer settings t (.serialized image' byteCount) t₁)
    (hattempt :
      Arrives resample writer loader observer settings t (.normalized image tensor) before) :
    ∃ loads q after,
      Works resample writer loader settings before (.normalized image tensor) loads (.ok q) after ∧
      ChangedByOthers loader observer after t₁ := by
  cases h with
  | @pass p _ _ _ _ _ h hwork htell =>
      have hrank : 4 = p.rank + 1 := hwork.rank_eq rfl
      have hle : p.rank ≤ 3 := by omega
      rcases hattempt.eq_or_passes h hle with ⟨rfl, rfl⟩ | ⟨hlt, -⟩
      · exact ⟨_, _, _, hwork, ChangedByOthers.of_tell .refl htell⟩
      · have hthree : p.rank < 3 := hlt
        omega

theorem RunEnd.after_attempt {outcome : Except Failure TensorSummary} {image : PixelBuffer}
    {tensor : Tensor}
    (h : RunEnd resample writer loader observer settings t outcome trail loads t')
    (hattempt :
      Arrives resample writer loader observer settings t (.normalized image tensor) before) :
    ∃ loads r after,
      Works resample writer loader settings before (.normalized image tensor) loads r after ∧
      ChangedByOthers loader observer after t' ∧
      ∀ f, r = .error f → FirstFailure resample writer loader observer settings t f ∧
        (outcome = .error f ∨ ∃ g, outcome = .error g ∧
          Observer.tell observer .failed after = (.error g, t')) := by
  -- Each end comes after a failure on the way or after the whole way, and both pass the attempt.
  cases h with
  | unheard f _ htell =>
      obtain ⟨_, htold⟩ := hattempt.told_configured
      simp [htell] at htold
  | interrupted _ _ f _ h hf =>
      obtain ⟨loads, r, after, hwork, hothers, hr⟩ := h.after_attempt hattempt
      refine ⟨loads, r, after, hwork, hothers, fun g hg => ?_⟩
      obtain ⟨rfl, rfl⟩ := hr g hg
      exact ⟨.halts h, .inl rfl⟩
  | failed _ _ f _ _ h hf htell =>
      obtain ⟨loads, r, after, hwork, hothers, hr⟩ := h.after_attempt hattempt
      refine ⟨loads, r, after, hwork, hothers.of_tell htell, fun g hg => ?_⟩
      obtain ⟨rfl, rfl⟩ := hr g hg
      exact ⟨.halts h, .inl rfl⟩
  | replaced _ _ f g _ _ h hf htell =>
      obtain ⟨loads, r, after, hwork, hothers, hr⟩ := h.after_attempt hattempt
      refine ⟨loads, r, after, hwork, hothers.of_tell htell, fun f' hf' => ?_⟩
      obtain ⟨rfl, rfl⟩ := hr f' hf'
      exact ⟨.halts h, .inr ⟨g, rfl, htell⟩⟩
  | unfinished image' byteCount f _ _ h htell =>
      obtain ⟨loads, q, after, hwork, hothers⟩ := h.after_attempt hattempt
      exact ⟨loads, .ok q, after, hwork, hothers.of_tell htell, by rintro g ⟨⟩⟩
  | finished image' byteCount _ _ h htell =>
      obtain ⟨loads, q, after, hwork, hothers⟩ := h.after_attempt hattempt
      exact ⟨loads, .ok q, after, hwork, hothers.of_tell htell, by rintro g ⟨⟩⟩

/-- Where a run attempts to create its output, the files of that moment are the ones that others
left. All of them stay, at most the output is new, and every later change is made by others again.
If the output is there already, nothing changes and the run fails for that reason, which an
observer that fails when it is told so can replace. Without an attempt the run changes no file. -/
theorem addsOnly_of_run {outcome : Except Failure TensorSummary} {s : Scene}
    (h : (run resample writer loader observer settings).play (.opening t) = (outcome, s)) :
    (∀ image tensor before,
      Arrives resample writer loader observer settings t (.normalized image tensor) before →
        ChangedByOthers loader observer t before ∧
        ∃ after, AddsOnly settings.outputPath before after ∧
          ChangedByOthers loader observer after s.tree ∧
          ∀ e, before.look settings.outputPath = .ok (some e) →
            after = before ∧
            FirstFailure resample writer loader observer settings t
              (.write settings.outputPath.text occupied) ∧
            (outcome = .error (.write settings.outputPath.text occupied) ∨
              ∃ g, outcome = .error g ∧
                Observer.tell observer .failed before = (.error g, s.tree))) ∧
    ((∀ image tensor before,
      ¬ Arrives resample writer loader observer settings t (.normalized image tensor) before) →
        ChangedByOthers loader observer t s.tree) := by
  have hend := runEnd_run h
  refine ⟨fun image tensor before hattempt => ?_, fun hnone => hend.changedByOthers hnone⟩
  obtain ⟨loads, r, after, hwork, hothers, hr⟩ := hend.after_attempt hattempt
  refine ⟨hattempt.changedByOthers (Nat.le_refl 3), after, hwork.addsOnly, hothers, ?_⟩
  intro e hlook
  obtain ⟨rfl, hoccupied⟩ := hwork.eq_of_look hlook
  exact ⟨rfl, hr _ hoccupied⟩

/-- A loader that makes a file at the output path of a run while it is under way. -/
def intruding : Loader := fun _ t =>
  (.ok (.array PixelBuffer.onePixel.toArray), t.put [['o', '.', 'b', 'i', 'n']] (.file ⟨#[7]⟩))

/-- The file of another that came in between is kept, and the run gives up. -/
theorem addsOnly_of_intruded_run :
    ∃ before s, (run .bilinear .plain intruding none onePixelSettings).play (.opening ⟨[], []⟩) =
        (.error (.write "o.bin" occupied), s) ∧
      before.look onePixelSettings.outputPath = .ok (some (.file ⟨#[7]⟩)) ∧
      AddsOnly onePixelSettings.outputPath before before ∧
      ChangedByOthers intruding none before s.tree := by
  generalize hplay : (run .bilinear .plain intruding none onePixelSettings).play
    (.opening ⟨[], []⟩) = ended
  obtain ⟨outcome, s⟩ := ended
  have hnormal : ((Profile.parameters .caffe .quantized8).normalize .onePixel .nhwc
      .quantized8).isOk = true := by decide +kernel
  cases hnormalize : (Profile.parameters .caffe .quantized8).normalize .onePixel .nhwc
      .quantized8 with
  | error f =>
      rw [hnormalize] at hnormal
      cases hnormal
  | ok tensor =>
      have hloaded : Arrives .bilinear .plain intruding none onePixelSettings ⟨[], []⟩
          (.loaded .onePixel) (intruding onePixelSettings.inputPath ⟨[], []⟩).2 :=
        .pass (.start rfl) (.loaded _ rfl rfl) rfl
      have hresized := hloaded.pass (.resized .onePixel .onePixel rfl) rfl
      have harrives := hresized.pass (.normalized _ tensor hnormalize) rfl
      obtain ⟨-, after, hadds, hothers, houtput⟩ := (addsOnly_of_run hplay).1 _ _ _ harrives
      obtain ⟨rfl, -, rfl | ⟨g, -, htell⟩⟩ := houtput (.file ⟨#[7]⟩) rfl
      · exact ⟨_, s, rfl, rfl, hadds, hothers⟩
      · cases htell

end RasterTensor.Conversion
