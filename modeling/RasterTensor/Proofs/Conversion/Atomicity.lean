import Mathlib.Logic.Relation
import RasterTensor.Proofs.Conversion.Course

/-!
# What a failed conversion leaves behind

A conversion that fails before its tensor file is complete changes no file itself: whatever has
changed, the loader or the observer has changed. Once the file is complete it stays, and only an
observer can then make the run fail: when it is told of the stage `serialized`, or of the stage
`done`.
-/

namespace RasterTensor.Conversion

open Files Relation

/-- A change of the files that is not made by the conversion itself. -/
inductive OthersChange (loader : Loader) (observer : Option Observer) : Tree → Tree → Prop
  | load (path : PathName) (t : Tree) : OthersChange loader observer t (loader path t).2
  | tell (observe : Observer) (h : observe ∈ observer) (stage : Stage) (t : Tree) :
      OthersChange loader observer t (observe stage t).2

/-- Any number of changes that are not made by the conversion itself. -/
abbrev ChangedByOthers (loader : Loader) (observer : Option Observer) : Tree → Tree → Prop :=
  ReflTransGen (OthersChange loader observer)

section Ends

variable (resample : Resampler) (writer : Writer) (loader : Loader) (observer : Option Observer)
  (settings : Settings)

/-- The complete tensor file is put where nothing was when the run came to it. -/
inductive Wrote (t : Tree) : Tree → Prop
  | intro {image : PixelBuffer} {tensor : Tensor} {place : Location} {size : Nat} {before : Tree}
      (h : Arrives resample writer loader observer settings t (.normalized image tensor) before)
      (hplace : before.locate settings.outputPath = .ok place)
      (hfree : before.get? place = none)
      (houtcome : (writer tensor.bytes).outcome = .ok size) :
      Wrote t (before.put place (.file (writer tensor.bytes).received))

/-- Among the changes, the creation of the complete tensor file. -/
inductive Created (t t' : Tree) : Prop
  | intro (after : Tree) (hwrote : Wrote resample writer loader observer settings t after)
      (hothers : ChangedByOthers loader observer after t')

/-- How a failure within a run comes to the caller. It is told first unless it is an interrupt, and
a failure of the observer takes its place. -/
inductive Surfaces : Failure → Tree → Failure → Tree → Prop
  | interrupted {f : Failure} {t : Tree} (hf : f.isInterrupt = true) : Surfaces f t f t
  | told {f : Failure} {t t' : Tree} (hf : f.isInterrupt = false)
      (htell : Observer.tell observer .failed t = (.ok (), t')) : Surfaces f t f t'
  | replaced {f g : Failure} {t t' : Tree} (hf : f.isInterrupt = false)
      (htell : Observer.tell observer .failed t = (.error g, t')) : Surfaces f t g t'

/-- A run that fails with its tensor file complete: the observer fails when it is told of one of
the two stages after that. -/
inductive FailedAfter (t : Tree) : Failure → Tree → Prop
  | serialized {after t₁ t₂ : Tree} {f g : Failure}
      (hwrote : Wrote resample writer loader observer settings t after)
      (htell : Observer.tell observer .serialized after = (.error f, t₁))
      (hsurfaces : Surfaces observer f t₁ g t₂) : FailedAfter t g t₂
  | done {after t₁ t₂ : Tree} {f : Failure}
      (hwrote : Wrote resample writer loader observer settings t after)
      (htell : Observer.tell observer .serialized after = (.ok (), t₁))
      (hdone : Observer.tell observer .done t₁ = (.error f, t₂)) : FailedAfter t f t₂

end Ends

variable {resample : Resampler} {writer : Writer} {loader : Loader} {observer : Option Observer}
  {settings : Settings} {t t₀ t₁ t' : Tree} {p : Position} {loads : List PathName}
  {trail reached : List Stage} {f : Failure}

theorem ChangedByOthers.tell (h : ChangedByOthers loader observer t₀ t) (stage : Stage) :
    ChangedByOthers loader observer t₀ (Observer.tell observer stage t).2 := by
  cases observer with
  | none => exact h
  | some observe => exact h.tail (.tell observe rfl stage t)

theorem ChangedByOthers.of_tell {stage : Stage} {r : Except Failure Unit}
    (h : ChangedByOthers loader observer t₀ t)
    (htell : Observer.tell observer stage t = (r, t')) : ChangedByOthers loader observer t₀ t' := by
  have htold := h.tell stage
  rwa [htell] at htold

theorem Surfaces.changedByOthers {g : Failure} (h : Surfaces observer f t g t') :
    ChangedByOthers loader observer t t' := by
  cases h with
  | interrupted hf => exact .refl
  | told hf htell => exact .of_tell .refl htell
  | replaced hf htell => exact .of_tell .refl htell

/-! ## Up to the file -/

theorem Works.rank_le {r : Except Failure Position}
    (h : Works resample writer loader settings t p loads r t') : p.rank ≤ 3 := by
  cases h <;> simp [Position.rank]

theorem Works.changedByOthers {r : Except Failure Position}
    (h : Works resample writer loader settings t p loads r t') (hp : p.rank < 3) :
    ChangedByOthers loader observer t t' := by
  cases h with
  | unloaded f hfree h => exact .single (.load _ _)
  | loaded image hfree h => exact .single (.load _ _)
  | unchecked | taken | unresized | resized | unnormalized | normalized => exact .refl
  | refused | abandoned | written => exact absurd hp (Nat.lt_irrefl 3)

theorem Works.changedByOthers_of_error
    (h : Works resample writer loader settings t p loads (.error f) t') :
    ChangedByOthers loader observer t t' := by
  cases h with
  | unloaded f hfree h => exact .single (.load _ _)
  | unchecked | taken | unresized | unnormalized | refused | abandoned => exact .refl

theorem Arrives.changedByOthers
    (h : Arrives resample writer loader observer settings t p t₁) (hp : p.rank ≤ 3) :
    ChangedByOthers loader observer t t₁ := by
  induction h with
  | start htell => exact ChangedByOthers.of_tell .refl htell
  | @pass p _ _ _ _ _ h hwork htell ih =>
      have hrank := hwork.rank_eq rfl
      have hbefore : p.rank < 3 := by omega
      exact ChangedByOthers.of_tell
        ((ih (Nat.le_of_lt hbefore)).trans (hwork.changedByOthers hbefore)) htell

theorem Position.serialized_mem_trail_iff (p : Position) : .serialized ∈ p.trail ↔ p.rank = 4 := by
  cases p <;> simp [trail, rank]

/-! ## From the file on -/

theorem Arrives.wrote {image : PixelBuffer} {byteCount : Nat}
    (h : Arrives resample writer loader observer settings t (.serialized image byteCount) t₁) :
    ∃ after, Wrote resample writer loader observer settings t after ∧
      Observer.tell observer .serialized after = (.ok (), t₁) := by
  cases h with
  | pass h hwork htell =>
      cases hwork with
      | written image tensor place _ hplace hfree houtcome =>
          exact ⟨_, ⟨h, hplace, hfree, houtcome⟩, htell⟩

theorem Arrives.created_of_tell {image : PixelBuffer} {byteCount : Nat} {stage : Stage}
    {r : Except Failure Unit}
    (h : Arrives resample writer loader observer settings t (.serialized image byteCount) t₁)
    (htell : Observer.tell observer stage t₁ = (r, t')) :
    Created resample writer loader observer settings t t' := by
  obtain ⟨after, hwrote, htold⟩ := h.wrote
  exact ⟨after, hwrote, (ChangedByOthers.of_tell .refl htold).of_tell htell⟩

/-- Where a run stops on its way, it has changed no file itself, or it has completed its file and
the observer has failed when it was told so. -/
theorem Halts.pending_or_wrote
    (h : Halts resample writer loader observer settings t trail loads t₁ f) :
    (.serialized ∉ trail ∧ ChangedByOthers loader observer t t₁) ∨
      .serialized ∈ trail ∧ ∃ after, Wrote resample writer loader observer settings t after ∧
        Observer.tell observer .serialized after = (.error f, t₁) := by
  cases h with
  | @work p _ _ _ _ h hwork =>
      have hle := hwork.rank_le
      refine .inl ⟨fun hmem => ?_, (h.changedByOthers hle).trans hwork.changedByOthers_of_error⟩
      have hrank := p.serialized_mem_trail_iff.mp hmem
      omega
  | @told p q _ _ _ _ _ h hwork htell =>
      have hrank := hwork.rank_eq rfl
      rcases Nat.lt_or_ge p.rank 3 with hlt | hge
      · refine .inl ⟨fun hmem => ?_, ?_⟩
        · have hserialized := q.serialized_mem_trail_iff.mp hmem
          omega
        · have hbefore := h.changedByOthers (Nat.le_of_lt hlt)
          exact ChangedByOthers.of_tell (hbefore.trans (hwork.changedByOthers hlt)) htell
      · cases hwork with
        | written image tensor place size hplace hfree houtcome =>
            exact .inr ⟨by simp [Position.trail], _, ⟨h, hplace, hfree, houtcome⟩, htell⟩
        | loaded | resized | normalized => simp [Position.rank] at hge

theorem Halts.failed_of_surfaces {g : Failure}
    (h : Halts resample writer loader observer settings t trail loads t₁ f)
    (hsurfaces : Surfaces observer f t₁ g t') :
    (.serialized ∉ trail ∧ ChangedByOthers loader observer t t') ∨
      .serialized ∈ trail ∧ FailedAfter resample writer loader observer settings t g t' := by
  rcases h.pending_or_wrote with ⟨hnot, hothers⟩ | ⟨hmem, after, hwrote, htell⟩
  · exact .inl ⟨hnot, hothers.trans hsurfaces.changedByOthers⟩
  · exact .inr ⟨hmem, .serialized hwrote htell hsurfaces⟩

/-- A run that fails has changed no file itself, or it fails after its file was complete. -/
theorem RunEnd.pending_or_failedAfter
    (h : RunEnd resample writer loader observer settings t (.error f) reached loads t') :
    (.serialized ∉ reached ∧ ChangedByOthers loader observer t t') ∨
      .serialized ∈ reached ∧ FailedAfter resample writer loader observer settings t f t' := by
  have hmem (trail : List Stage) :
      .serialized ∈ trail ++ [.failed] ↔ .serialized ∈ trail := by simp
  cases h with
  | unheard _ _ htell => exact .inl ⟨by simp, .of_tell .refl htell⟩
  | interrupted _ _ _ _ h hf => exact h.failed_of_surfaces (.interrupted hf)
  | failed _ _ _ _ _ h hf htell =>
      rw [hmem]
      exact h.failed_of_surfaces (.told hf htell)
  | replaced _ _ _ _ _ _ h hf htell =>
      rw [hmem]
      exact h.failed_of_surfaces (.replaced hf htell)
  | unfinished image byteCount _ _ _ h htell =>
      obtain ⟨after, hwrote, htold⟩ := h.wrote
      exact .inr ⟨by simp, .done hwrote htold htell⟩

theorem FailedAfter.created
    (h : FailedAfter resample writer loader observer settings t f t') :
    Created resample writer loader observer settings t t' := by
  cases h with
  | serialized hwrote htell hsurfaces =>
      exact ⟨_, hwrote, (ChangedByOthers.of_tell .refl htell).trans hsurfaces.changedByOthers⟩
  | done hwrote htell hdone =>
      exact ⟨_, hwrote, (ChangedByOthers.of_tell .refl htell).of_tell hdone⟩

theorem created_of_run {s : Scene} {r : TensorSummary}
    (h : (run resample writer loader observer settings).play (.opening t) = (.ok r, s)) :
    Created resample writer loader observer settings t s.tree := by
  have hend := runEnd_run h
  generalize s.reached = reached, s.loaded = loads, s.tree = t' at hend
  cases hend with
  | finished image byteCount t₁ _ harrives htell => exact harrives.created_of_tell htell

/-! ## The output path -/

/-- The loader and the observer leave alone what a path name leads to. -/
structure Spared (loader : Loader) (observer : Option Observer) (path : PathName) : Prop where
  load : ∀ source t, (loader source t).2.look path = t.look path
  tell : Observer.Spares observer path

theorem Spared.look_eq {path : PathName} (hspared : Spared loader observer path)
    (h : ChangedByOthers loader observer t₀ t) : t.look path = t₀.look path := by
  induction h with
  | refl => rfl
  | tail _ hstep ih =>
      rw [← ih]
      cases hstep with
      | load source => exact hspared.load source _
      | tell observe h stage => exact hspared.tell observe h stage _

/-- Where nobody else touches the output path, a complete tensor file is there that was not. -/
theorem Spared.look_created (hspared : Spared loader observer settings.outputPath)
    (h : Created resample writer loader observer settings t t') :
    t.look settings.outputPath = .ok none ∧ ∃ image tensor before size,
      Arrives resample writer loader observer settings t (.normalized image tensor) before ∧
      (writer tensor.bytes).outcome = .ok size ∧
      t'.look settings.outputPath = .ok (some (.file (writer tensor.bytes).received)) := by
  obtain ⟨after, hwrote, hothers⟩ := h
  cases hwrote with
  | @intro image tensor place size before harrives hplace hnone houtcome =>
      have hbefore : ChangedByOthers loader observer t before :=
        harrives.changedByOthers (Nat.le_refl 3)
      have hfree : before.get? place ≠ some .directory := by simp [hnone]
      refine ⟨?_, image, tensor, before, size, harrives, houtcome, ?_⟩
      · rw [← hspared.look_eq hbefore, Tree.look_of_locate hplace, hnone]
      · rw [hspared.look_eq hothers, Tree.look_put hplace hfree]

/-- A run that fails without having announced the stage `serialized` changes no file itself. One
that fails later has completed its file, where nothing was at that moment, and fails because of the
observer: at that stage, at the last one, or by failing again when it is told of its own failure. So
where nobody else touches the output path, it is as the run found it exactly when that stage was not
reached, and holds the complete file otherwise. -/
theorem look_output_of_failed_run {s : Scene}
    (h : (run resample writer loader observer settings).play (.opening t) = (.error f, s)) :
    (.serialized ∉ s.reached → ChangedByOthers loader observer t s.tree) ∧
    (.serialized ∈ s.reached →
      FailedAfter resample writer loader observer settings t f s.tree) ∧
    (Spared loader observer settings.outputPath →
      (.serialized ∉ s.reached →
        s.tree.look settings.outputPath = t.look settings.outputPath) ∧
      (.serialized ∈ s.reached → t.look settings.outputPath = .ok none ∧
        ∃ image tensor before size,
          Arrives resample writer loader observer settings t (.normalized image tensor) before ∧
          (writer tensor.bytes).outcome = .ok size ∧
          s.tree.look settings.outputPath =
            .ok (some (.file (writer tensor.bytes).received)))) := by
  rcases (runEnd_run h).pending_or_failedAfter with ⟨hnot, hothers⟩ | ⟨hreached, hfailed⟩
  · exact ⟨fun _ => hothers, fun hs => absurd hs hnot, fun hspared =>
      ⟨fun _ => hspared.look_eq hothers, fun hs => absurd hs hnot⟩⟩
  · exact ⟨fun hs => absurd hreached hs, fun _ => hfailed, fun hspared =>
      ⟨fun hs => absurd hreached hs, fun _ => hspared.look_created hfailed.created⟩⟩

def onePixelSettings : Settings :=
  ⟨.ofText "a.png", .ofText "o.bin", .caffe, .quantized8, 0, 0, .nhwc⟩

def fullDisk : Writer := .failing 2 (.foreign ⟨"OSError", "disk full", .system⟩)

/-- On a full disk the output path is free again after the failure. -/
theorem look_output_of_full_disk :
    ∃ f s, (run .bilinear fullDisk (.constant .onePixel) none onePixelSettings).play
        (.opening ⟨[], []⟩) = (.error f, s) ∧
      s.tree.look onePixelSettings.outputPath = .ok none := by
  generalize hplay : (run .bilinear fullDisk (.constant .onePixel) none onePixelSettings).play
    (.opening ⟨[], []⟩) = outcome
  have hfails : outcome.1.isOk = false := by rw [← hplay]; decide +kernel
  have hreached : .serialized ∉ outcome.2.reached := by rw [← hplay]; decide +kernel
  have hspared : Spared (.constant .onePixel) none onePixelSettings.outputPath :=
    ⟨fun _ _ => rfl, fun _ h => by cases h⟩
  obtain ⟨f | summary, s⟩ := outcome
  · exact ⟨f, s, rfl, ((look_output_of_failed_run hplay).2.2 hspared).1 hreached⟩
  · cases hfails

def failingAt (stage : Stage) : Observer := fun reached t =>
  (if reached = stage then .error (.foreign ⟨"RuntimeError", "stop", .ordinary⟩) else .ok (), t)

/-- The output path need not be as a failed run found it, even if nobody else touches it. -/
theorem not_forall_look_output_eq :
    ¬ ∀ (resample : Resampler) (writer : Writer) (loader : Loader) (observer : Option Observer)
      (settings : Settings) (t : Tree) (s : Scene) (f : Failure),
        Spared loader observer settings.outputPath →
        (run resample writer loader observer settings).play (.opening t) = (.error f, s) →
          s.tree.look settings.outputPath = t.look settings.outputPath := by
  intro hkept
  let observer : Option Observer := some (failingAt .serialized)
  generalize hplay : (run .bilinear .plain (.constant .onePixel) observer onePixelSettings).play
    (.opening ⟨[], []⟩) = outcome
  have hfails : outcome.1.isOk = false := by rw [← hplay]; decide +kernel
  have hspared : Spared (.constant .onePixel) observer onePixelSettings.outputPath := by
    refine ⟨fun _ _ => rfl, fun observe h => ?_⟩
    obtain rfl := Option.some.inj h
    exact fun _ _ => rfl
  have hthere : (outcome.2.tree.contains onePixelSettings.outputPath).toOption = some true := by
    rw [← hplay]
    decide +kernel
  obtain ⟨f | summary, s⟩ := outcome
  · have hlook := hkept _ _ _ _ _ _ _ _ hspared hplay
    have hnone : (⟨[], []⟩ : Tree).look onePixelSettings.outputPath = .ok none := rfl
    simp [Tree.contains, hlook, hnone, Except.toOption, bind, Except.bind, pure, Except.pure]
      at hthere
  · cases hfails

end RasterTensor.Conversion
