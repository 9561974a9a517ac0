import RasterTensor.Proofs.Conversion.Exclusion
import RasterTensor.Proofs.Tensor.Resizing

/-!
# What an observer is told

An observer that never fails is told of every stage of a successful run, and of the stages before
a failure and then of the failure. An observer that fails itself is still told of that, unless it
fails at the first stage or at the last, which lie outside the part of a run that is guarded.
-/

namespace RasterTensor

open Files

/-- The observer does not fail, whatever else it does. -/
def Observer.NeverFails (observer : Option Observer) : Prop :=
  ∀ observe ∈ observer, ∀ stage t, (observe stage t).1 = .ok ()

theorem Observer.NeverFails.tell_ne_error {observer : Option Observer}
    (h : Observer.NeverFails observer) (stage : Stage) (t t' : Tree) (f : Failure) :
    Observer.tell observer stage t ≠ (.error f, t') := by
  intro htell
  cases observer with
  | none => cases htell
  | some observe =>
      have hok := h observe rfl stage t
      have herror : (observe stage t).1 = .error f := congrArg Prod.fst htell
      rw [hok] at herror
      cases herror

/-- The loader gives an image or fails in an orderly way. -/
def Loader.NeverInterrupts (loader : Loader) : Prop :=
  ∀ path t f, (loader path t).1 = .error f → f.isInterrupt = false

/-- The interpolation gives an image or fails in an orderly way. -/
def Resampler.NeverInterrupts (resample : Resampler) : Prop :=
  ∀ image height width f, resample image height width = .error f → f.isInterrupt = false

/-- The writer succeeds or fails in an orderly way. -/
def Writer.NeverInterrupts (writer : Writer) : Prop :=
  ∀ data f, (writer data).outcome = .error f → f.isInterrupt = false

/-- The observer never fails, and the other parts of a run fail in an orderly way. -/
structure Conversion.Orderly (resample : Resampler) (writer : Writer) (loader : Loader)
    (observer : Option Observer) : Prop where
  observer : Observer.NeverFails observer
  loader : loader.NeverInterrupts
  resample : resample.NeverInterrupts
  writer : writer.NeverInterrupts

/-! ## Failures of the library are no interrupts -/

theorem PixelBuffer.isInterrupt_of_ofSupplied {source : String} {supplied : Supplied} {f : Failure}
    (h : ofSupplied source supplied = .error f) : f.isInterrupt = false := by
  unfold ofSupplied at h
  split at h
  · cases h
    rfl
  · split at h
    · cases h
      rfl
    · split at h
      · split at h
        · cases h
        · cases h
          rfl
      · cases h
        rfl

theorem Resampler.NeverInterrupts.isInterrupt_of_resize {resample : Resampler}
    (hresample : resample.NeverInterrupts) {image : PixelBuffer} {width height : Nat} {f : Failure}
    (h : image.resize resample width height = .error f) : f.isInterrupt = false := by
  rw [PixelBuffer.resize_eq] at h
  split at h
  · cases h
  · exact hresample _ _ _ _ h

theorem Parameters.isInterrupt_of_normalize {p : Parameters} {image : PixelBuffer}
    {layout : Layout} {element : ElementType} {f : Failure}
    (h : p.normalize image layout element = .error f) : f.isInterrupt = false := by
  unfold normalize at h
  cases happly : p.apply image with
  | ok values =>
      rw [happly] at h
      cases h
  | error g =>
      rw [happly] at h
      cases h
      unfold apply at happly
      dsimp only at happly
      split at happly
      · unfold Failure.raise at happly
        split at happly <;> cases happly <;> rfl
      · cases happly

theorem isInterrupt_creationFailure (path : PathName) (e : Files.Error) :
    (creationFailure path e).isInterrupt = false := by
  cases e with
  | embeddedNul => rfl
  | refused fault shown => cases fault <;> rfl

theorem isInterrupt_writingFailure (path : PathName) {cause : Failure}
    (h : cause.isInterrupt = false) : (writingFailure path cause).isInterrupt = false := by
  unfold writingFailure
  split
  · rfl
  · exact h

namespace Conversion

variable {resample : Resampler} {writer : Writer} {loader : Loader} {observer : Option Observer}
  {settings : Settings} {t t₁ t' : Tree} {p q : Position} {loads : List PathName}
  {trail reached : List Stage} {f : Failure}

theorem isInterrupt_of_imageAt (hloader : loader.NeverInterrupts) {path : PathName}
    (h : imageAt loader path t = .error f) : f.isInterrupt = false := by
  unfold imageAt at h
  cases hload : (loader path t).1 with
  | error g =>
      rw [hload] at h
      cases h
      exact hloader path t _ hload
  | ok supplied =>
      rw [hload] at h
      exact PixelBuffer.isInterrupt_of_ofSupplied h

theorem Works.isInterrupt_eq_false (horderly : Orderly resample writer loader observer)
    (h : Works resample writer loader settings t p loads (.error f) t') :
    f.isInterrupt = false := by
  cases h with
  | unchecked e h => cases e <;> rfl
  | taken h => rfl
  | unloaded f hfree h => exact isInterrupt_of_imageAt horderly.loader h
  | unresized image f h => exact horderly.resample.isInterrupt_of_resize h
  | unnormalized image f h => exact Parameters.isInterrupt_of_normalize h
  | refused image tensor e h => exact isInterrupt_creationFailure _ e
  | abandoned image tensor place cause hplace hfree houtcome =>
      exact isInterrupt_writingFailure _ (horderly.writer _ cause houtcome)

/-! ## Loading -/

/-- The images are loaded from the input path, once, and only when the output was found free. -/
structure LoadsOnce (settings : Settings) (checked : Tree) (loads : List PathName) : Prop where
  free : checked.contains settings.outputPath = .ok false → loads = [settings.inputPath]
  taken : checked.contains settings.outputPath ≠ .ok false → loads = []

theorem loadsOnce_of_free {checked : Tree}
    (h : checked.contains settings.outputPath = .ok false) :
    LoadsOnce settings checked [settings.inputPath] :=
  ⟨fun _ => rfl, fun hne => absurd h hne⟩

theorem loadsOnce_of_taken {checked : Tree}
    (h : checked.contains settings.outputPath ≠ .ok false) : LoadsOnce settings checked [] :=
  ⟨fun hfree => absurd hfree h, fun _ => rfl⟩

theorem Works.loadsOnce {r : Except Failure Position}
    (h : Works resample writer loader settings t .configured loads r t') :
    LoadsOnce settings t loads := by
  cases h with
  | unchecked e h => exact loadsOnce_of_taken (by simp [h])
  | taken h => exact loadsOnce_of_taken (by simp [h])
  | unloaded f hfree h => exact loadsOnce_of_free hfree
  | loaded image hfree h => exact loadsOnce_of_free hfree

theorem Works.loads_eq_nil {r : Except Failure Position}
    (h : Works resample writer loader settings t p loads r t') (hp : 0 < p.rank) : loads = [] := by
  cases h with
  | unchecked | taken | unloaded | loaded => exact absurd hp (Nat.lt_irrefl 0)
  | unresized | resized | unnormalized | normalized | refused | abandoned | written => rfl

theorem Arrives.loadsOnce (h : Arrives resample writer loader observer settings t p t₁) :
    (p = .configured ∧ t₁ = (Observer.tell observer .configured t).2) ∨
      0 < p.rank ∧ LoadsOnce settings (Observer.tell observer .configured t).2
        (p.loads settings.inputPath) := by
  induction h with
  | start htell => exact .inl ⟨rfl, (congrArg Prod.snd htell).symm⟩
  | @pass p q loads _ _ _ h hwork htell ih =>
      have hrank := hwork.rank_eq rfl
      rw [hwork.loads_eq rfl]
      rcases ih with ⟨rfl, rfl⟩ | ⟨hpos, honce⟩
      · exact .inr ⟨by omega, hwork.loadsOnce⟩
      · rw [hwork.loads_eq_nil hpos, List.append_nil]
        exact .inr ⟨by omega, honce⟩

theorem loadsOnce_of_work {r : Except Failure Position}
    (h : Arrives resample writer loader observer settings t p t₁)
    (hwork : Works resample writer loader settings t₁ p loads r t') :
    LoadsOnce settings (Observer.tell observer .configured t).2
      (p.loads settings.inputPath ++ loads) := by
  rcases h.loadsOnce with ⟨rfl, rfl⟩ | ⟨hpos, honce⟩
  · exact hwork.loadsOnce
  · rw [hwork.loads_eq_nil hpos, List.append_nil]
    exact honce

theorem Halts.loadsOnce (h : Halts resample writer loader observer settings t trail loads t₁ f) :
    LoadsOnce settings (Observer.tell observer .configured t).2 loads := by
  cases h with
  | work h hwork => exact loadsOnce_of_work h hwork
  | told h hwork htell =>
      rw [hwork.loads_eq rfl]
      exact loadsOnce_of_work h hwork

theorem Arrives.loadsOnce_serialized {image : PixelBuffer} {byteCount : Nat}
    (h : Arrives resample writer loader observer settings t (.serialized image byteCount) t₁) :
    LoadsOnce settings (Observer.tell observer .configured t).2 [settings.inputPath] := by
  rcases h.loadsOnce with ⟨hp, -⟩ | ⟨-, honce⟩
  · cases hp
  · exact honce

theorem LoadsOnce.of_spared
    (h : LoadsOnce settings (Observer.tell observer .configured t).2 loads)
    (hspared : Spared loader observer settings.outputPath) : LoadsOnce settings t loads := by
  have hlook := hspared.tell.look_tell .configured t
  have hcontains : (Observer.tell observer .configured t).2.contains settings.outputPath =
      t.contains settings.outputPath := by
    rw [Tree.contains, Tree.contains, hlook]
  constructor
  · intro hfree
    exact h.free (hcontains.trans hfree)
  · intro htaken
    exact h.taken (hcontains ▸ htaken)

/-! ## Stages -/

/-- The stage `failed` comes last and once, and the stage `done` does not come. -/
structure FailedLast (reached : List Stage) : Prop where
  last : reached.getLast? = some .failed
  once : reached.count .failed = 1
  not_done : .done ∉ reached

theorem Position.failedLast_trail (p : Position) : FailedLast (p.trail ++ [.failed]) := by
  cases p <;> exact ⟨rfl, rfl, by simp [trail]⟩

theorem Halts.failedLast (h : Halts resample writer loader observer settings t trail loads t₁ f) :
    FailedLast (trail ++ [.failed]) := by
  cases h with
  | work h hwork => exact Position.failedLast_trail _
  | told h hwork htell => exact Position.failedLast_trail _

/-- A run that fails has told of its failure as its last stage, and the failure is the one that it
met first, except where the observer failed: at the stage `configured`, at the stage `done`, or
when it was told of the failure. Then that is the failure of the run, and at the first two of
these stages nothing more is told. -/
theorem failedLast_of_run {s : Scene} (hf : f.isInterrupt = false)
    (h : (run resample writer loader observer settings).play (.opening t) = (.error f, s)) :
    (FailedLast s.reached ∧ FirstFailure resample writer loader observer settings t f) ∨
    (Observer.tell observer .configured t = (.error f, s.tree) ∧ s.reached = [.configured]) ∨
    (s.reached = [.configured, .loaded, .resized, .normalized, .serialized, .done] ∧
      ∃ t₁, Observer.tell observer .done t₁ = (.error f, s.tree)) ∨
    (FailedLast s.reached ∧ ∃ g t₁, FirstFailure resample writer loader observer settings t g ∧
      Observer.tell observer .failed t₁ = (.error f, s.tree)) := by
  have hend := runEnd_run h
  obtain ⟨tree, notes, reached, loaded⟩ := s
  dsimp only at hend ⊢
  cases hend with
  | unheard _ _ htell => exact .inr (.inl ⟨htell, rfl⟩)
  | interrupted _ _ _ _ h hinterrupt => simp [hf] at hinterrupt
  | failed _ _ _ _ _ h _ htell => exact .inl ⟨h.failedLast, .halts h⟩
  | replaced _ _ g _ t₁ _ h _ htell =>
      exact .inr (.inr (.inr ⟨h.failedLast, g, t₁, .halts h, htell⟩))
  | unfinished image byteCount _ t₁ _ h htell => exact .inr (.inr (.inl ⟨rfl, t₁, htell⟩))

/-- An observer that fails between the first stage and the last is told of that. -/
theorem failedLast_of_failingAt_resized :
    ∃ f s, (run .bilinear .plain (.constant .onePixel) (some (failingAt .resized))
        onePixelSettings).play (.opening ⟨[], []⟩) = (.error f, s) ∧ FailedLast s.reached ∧
      FirstFailure .bilinear .plain (.constant .onePixel) (some (failingAt .resized))
        onePixelSettings
        ⟨[], []⟩ f := by
  generalize hplay : (run .bilinear .plain (.constant .onePixel) (some (failingAt .resized))
    onePixelSettings).play (.opening ⟨[], []⟩) = ended
  have hfails : ended.1.isOk = false := by rw [← hplay]; decide +kernel
  have horderly : (match ended.1 with
      | .error f => f.isInterrupt
      | .ok _ => false) = false := by
    rw [← hplay]
    decide +kernel
  obtain ⟨f | r, s⟩ := ended
  · rcases failedLast_of_run horderly hplay with
      hfailed | ⟨htell, -⟩ | ⟨-, _, htell⟩ | ⟨-, _, _, -, htell⟩
    · exact ⟨f, s, rfl, hfailed⟩
    · simp [Observer.tell, failingAt] at htell
    · simp [Observer.tell, failingAt] at htell
    · simp [Observer.tell, failingAt] at htell
  · cases hfails

/-- An observer that fails at the first stage is told of nothing more. -/
theorem not_forall_failedLast :
    ¬ ∀ (resample : Resampler) (writer : Writer) (loader : Loader) (observer : Option Observer)
      (settings : Settings) (t : Tree) (s : Scene) (f : Failure), f.isInterrupt = false →
        (run resample writer loader observer settings).play (.opening t) = (.error f, s) →
          FailedLast s.reached ∧ FirstFailure resample writer loader observer settings t f := by
  intro hall
  obtain ⟨hlast, -⟩ := hall .bilinear .plain (.constant .onePixel) (some (failingAt .configured))
    onePixelSettings ⟨[], []⟩ _ _ rfl rfl
  cases hlast.last

/-! ## Observers that never fail -/

theorem Works.trail_guarded {r : Except Failure Position}
    (h : Works resample writer loader settings t p loads r t') :
    p.trail ≠ [] ∧ p.trail <+: [.configured, .loaded, .resized, .normalized] := by
  have hle := h.rank_le
  cases p with
  | configured => exact ⟨by simp [Position.trail], [.loaded, .resized, .normalized], rfl⟩
  | loaded image => exact ⟨by simp [Position.trail], [.resized, .normalized], rfl⟩
  | resized image => exact ⟨by simp [Position.trail], [.normalized], rfl⟩
  | normalized image tensor => exact ⟨by simp [Position.trail], [], rfl⟩
  | serialized image byteCount => exact absurd hle (Nat.not_succ_le_self 3)

theorem serialized_notMem_of_guarded {trail : List Stage}
    (h : trail <+: [.configured, .loaded, .resized, .normalized]) :
    .serialized ∉ trail ++ [.failed] := by
  intro hmem
  rcases List.mem_append.mp hmem with hmem | hmem
  · have hguarded := h.subset hmem
    simp at hguarded
  · simp at hmem

/-- Only the work between two stages fails then, and it leaves no file. -/
theorem Halts.guarded (horderly : Orderly resample writer loader observer)
    (h : Halts resample writer loader observer settings t trail loads t₁ f) :
    trail ≠ [] ∧ trail <+: [.configured, .loaded, .resized, .normalized] ∧
      ChangedByOthers loader observer t t₁ := by
  cases h with
  | work h hwork =>
      obtain ⟨hne, hprefix⟩ := hwork.trail_guarded
      have hbefore := h.changedByOthers hwork.rank_le
      exact ⟨hne, hprefix, hbefore.trans hwork.changedByOthers_of_error⟩
  | told h hwork htell => exact absurd htell (horderly.observer.tell_ne_error _ _ _ _)

theorem Halts.isInterrupt_eq_false (horderly : Orderly resample writer loader observer)
    (h : Halts resample writer loader observer settings t trail loads t₁ f) :
    f.isInterrupt = false := by
  cases h with
  | work h hwork => exact hwork.isInterrupt_eq_false horderly
  | told h hwork htell => exact absurd htell (horderly.observer.tell_ne_error _ _ _ _)

/-- A run then finishes, or tells of the failure that it met and ends with it. -/
theorem RunEnd.finished_or_failed {outcome : Except Failure TensorSummary}
    (horderly : Orderly resample writer loader observer)
    (h : RunEnd resample writer loader observer settings t outcome reached loads t') :
    (∃ image byteCount t₁,
      Arrives resample writer loader observer settings t (.serialized image byteCount) t₁ ∧
      Observer.tell observer .done t₁ = (.ok (), t') ∧
      outcome = .ok (summarize settings image byteCount) ∧
      reached = [.configured, .loaded, .resized, .normalized, .serialized, .done] ∧
      loads = [settings.inputPath]) ∨
    ∃ trail f t₁, Halts resample writer loader observer settings t trail loads t₁ f ∧
      Observer.tell observer .failed t₁ = (.ok (), t') ∧
      outcome = .error f ∧ reached = trail ++ [.failed] := by
  cases h with
  | unheard f _ htell => exact absurd htell (horderly.observer.tell_ne_error _ _ _ _)
  | interrupted _ _ f _ h hf =>
      rw [h.isInterrupt_eq_false horderly] at hf
      cases hf
  | failed trail _ f t₁ _ h hf htell => exact .inr ⟨trail, f, t₁, h, htell, rfl, rfl⟩
  | replaced _ _ f g _ _ h hf htell => exact absurd htell (horderly.observer.tell_ne_error _ _ _ _)
  | unfinished image byteCount f _ _ h htell =>
      exact absurd htell (horderly.observer.tell_ne_error _ _ _ _)
  | finished image byteCount t₁ _ h htell =>
      exact .inl ⟨image, byteCount, t₁, h, htell, rfl, rfl, rfl⟩

theorem RunEnd.files {outcome : Except Failure TensorSummary}
    (horderly : Orderly resample writer loader observer)
    (h : RunEnd resample writer loader observer settings t outcome reached loads t') :
    (.serialized ∈ reached → Created resample writer loader observer settings t t') ∧
      (.serialized ∉ reached → ChangedByOthers loader observer t t') := by
  rcases h.finished_or_failed horderly with
    ⟨image, byteCount, t₁, harrives, htell, -, rfl, -⟩ | ⟨trail, f, t₁, hhalts, htell, -, rfl⟩
  · exact ⟨fun _ => harrives.created_of_tell htell, fun hs => absurd (by simp) hs⟩
  · obtain ⟨-, hprefix, hbefore⟩ := hhalts.guarded horderly
    exact ⟨fun hs => absurd hs (serialized_notMem_of_guarded hprefix),
      fun _ => ChangedByOthers.of_tell hbefore htell⟩

theorem RunEnd.loadsOnce {outcome : Except Failure TensorSummary}
    (horderly : Orderly resample writer loader observer)
    (h : RunEnd resample writer loader observer settings t outcome reached loads t') :
    LoadsOnce settings (Observer.tell observer .configured t).2 loads := by
  rcases h.finished_or_failed horderly with
    ⟨image, byteCount, t₁, harrives, -, -, -, rfl⟩ | ⟨trail, f, t₁, hhalts, -, -, -⟩
  · exact harrives.loadsOnce_serialized
  · exact hhalts.loadsOnce

/-- Where nobody else touches the output path, the file there tells whether it is the run's. -/
theorem Spared.serialized_iff (hspared : Spared loader observer settings.outputPath)
    (hfiles : (.serialized ∈ reached → Created resample writer loader observer settings t t') ∧
      (.serialized ∉ reached → ChangedByOthers loader observer t t')) :
    .serialized ∈ reached ↔ t.look settings.outputPath = .ok none ∧
      ∃ content, t'.look settings.outputPath = .ok (some (.file content)) := by
  constructor
  · intro hserialized
    obtain ⟨hfree, _, _, _, _, -, -, hfile⟩ := hspared.look_created (hfiles.1 hserialized)
    exact ⟨hfree, _, hfile⟩
  · rintro ⟨hfree, content, hfile⟩
    by_cases hserialized : .serialized ∈ reached
    · exact hserialized
    · rw [hspared.look_eq (hfiles.2 hserialized), hfree] at hfile
      cases hfile

/-- With an observer that never fails, and a loader, an interpolation and a writer that fail in an
orderly way, a run tells of all its stages exactly when it succeeds, and otherwise of the first ones
and then of its failure, which is the one that it met. The loader is called once, for the input
path, if the output was found free after the observer was told of the first stage, and not at all
otherwise. The run completes its file, where nothing was, exactly when the stage `serialized` was
told of, and changes no file itself otherwise. Where nobody else touches the output path, the files
at the start tell whether the loader is called, and the file is there at the end exactly when that
stage was told of. -/
theorem stages_of_run {outcome : Except Failure TensorSummary} {s : Scene}
    (horderly : Orderly resample writer loader observer)
    (h : (run resample writer loader observer settings).play (.opening t) = (outcome, s)) :
    (outcome.isOk = true ↔
      s.reached = [.configured, .loaded, .resized, .normalized, .serialized, .done]) ∧
    (∀ f, outcome = .error f → FirstFailure resample writer loader observer settings t f ∧
      ∃ trail, trail ≠ [] ∧ trail <+: [.configured, .loaded, .resized, .normalized] ∧
        s.reached = trail ++ [.failed]) ∧
    LoadsOnce settings (Observer.tell observer .configured t).2 s.loaded ∧
    (.serialized ∈ s.reached →
      Created resample writer loader observer settings t s.tree) ∧
    (.serialized ∉ s.reached → ChangedByOthers loader observer t s.tree) ∧
    (Spared loader observer settings.outputPath →
      LoadsOnce settings t s.loaded ∧
      (.serialized ∈ s.reached ↔ t.look settings.outputPath = .ok none ∧
        ∃ content, s.tree.look settings.outputPath = .ok (some (.file content)))) := by
  have hend := runEnd_run h
  have hfiles := hend.files horderly
  have hloads := hend.loadsOnce horderly
  refine ⟨?_, ?_, hloads, hfiles.1, hfiles.2, fun hspared =>
    ⟨hloads.of_spared hspared, hspared.serialized_iff hfiles⟩⟩
  · rcases hend.finished_or_failed horderly with
      ⟨_, _, _, -, -, rfl, hreached, -⟩ | ⟨trail, f, _, hhalts, -, rfl, hreached⟩
    · exact ⟨fun _ => hreached, fun _ => rfl⟩
    · obtain ⟨-, hprefix, -⟩ := hhalts.guarded horderly
      have hnot := serialized_notMem_of_guarded hprefix
      refine ⟨by rintro ⟨⟩, fun hall => ?_⟩
      rw [← hreached, hall] at hnot
      simp at hnot
  · rintro f rfl
    rcases hend.finished_or_failed horderly with
      ⟨_, _, _, -, -, hok, -⟩ | ⟨trail, g, _, hhalts, -, herror, hreached⟩
    · cases hok
    · cases herror
      obtain ⟨hne, hprefix, -⟩ := hhalts.guarded horderly
      exact ⟨.halts hhalts, trail, hne, hprefix, hreached⟩

def changing (change : Stage → Tree → Tree) : Observer := fun stage t => (.ok (), change stage t)

def taking : Writer := fun data => ⟨[data], data, .ok data.size⟩

theorem orderly_changing (change : Stage → Tree → Tree) (hwriter : writer.NeverInterrupts) :
    Orderly .bilinear writer (.constant .onePixel) (some (changing change)) where
  observer := by
    intro observe h stage t
    cases h
    rfl
  loader := nofun
  resample := by
    intro image height width f h
    unfold Resampler.bilinear at h
    split at h
    · split at h
      · cases h
        rfl
      · cases h
    · cases h
      rfl
  writer := hwriter

theorem neverInterrupts_fullDisk : Writer.NeverInterrupts fullDisk := by
  intro data f h
  cases h
  rfl

/-- On a full disk the observer is told of four stages and of the failure. -/
theorem stages_of_full_disk :
    ∃ f s, (run .bilinear fullDisk (.constant .onePixel) (some (changing fun _ t => t))
        onePixelSettings).play (.opening ⟨[], []⟩) = (.error f, s) ∧
      (∃ trail, trail ≠ [] ∧ trail <+: [.configured, .loaded, .resized, .normalized] ∧
        s.reached = trail ++ [.failed]) ∧
      s.loaded = [onePixelSettings.inputPath] ∧
      s.tree.look onePixelSettings.outputPath = .ok none := by
  generalize hplay : (run .bilinear fullDisk (.constant .onePixel) (some (changing fun _ t => t))
    onePixelSettings).play (.opening ⟨[], []⟩) = ended
  have hfails : ended.1.isOk = false := by rw [← hplay]; decide +kernel
  have hreached : .serialized ∉ ended.2.reached := by rw [← hplay]; decide +kernel
  have hspared : Spared (.constant .onePixel) (some (changing fun _ t => t))
      onePixelSettings.outputPath :=
    ⟨fun _ _ => rfl, fun _ h => by cases h; exact fun _ _ => rfl⟩
  obtain ⟨f | r, s⟩ := ended
  · obtain ⟨-, hfailure, hloads, -, hothers, -⟩ :=
      stages_of_run (orderly_changing _ neverInterrupts_fullDisk) hplay
    obtain ⟨-, htrail⟩ := hfailure f rfl
    exact ⟨f, s, rfl, htrail, hloads.free rfl, hspared.look_eq (hothers hreached)⟩
  · cases hfails

def outputPlace : Location := [['o', '.', 'b', 'i', 'n']]

/-- An observer that makes the output when it is told of the first stage. -/
def occupying : Observer :=
  changing fun stage t => if stage = .configured then t.put outputPlace (.file ⟨#[7]⟩) else t

/-- An observer that removes the output when it is told of the last stage. -/
def clearing : Observer := changing fun stage t => if stage = .done then t.erase outputPlace else t

/-- The files at the start do not tell whether the loader is called, nor those at the end whether
the run has written its own: an observer that never fails can make the output, or remove it. -/
theorem not_forall_loadsOnce_and_serialized_iff :
    (¬ ∀ resample writer loader observer settings t outcome s,
      Orderly resample writer loader observer →
      (run resample writer loader observer settings).play (.opening t) = (outcome, s) →
        LoadsOnce settings t s.loaded) ∧
    ¬ ∀ resample writer loader observer settings t outcome s,
      Orderly resample writer loader observer →
      (run resample writer loader observer settings).play (.opening t) = (outcome, s) →
        (.serialized ∈ s.reached ↔ t.look settings.outputPath = .ok none ∧
          ∃ content, s.tree.look settings.outputPath = .ok (some (.file content))) := by
  have hwriter : taking.NeverInterrupts := nofun
  constructor
  · intro hall
    generalize hplay : (run .bilinear taking (.constant .onePixel) (some occupying)
      onePixelSettings).play (.opening ⟨[], []⟩) = ended
    have hloaded : ended.2.loaded = [] := by rw [← hplay]; decide +kernel
    have honce := (hall _ _ _ _ _ _ ended.1 ended.2 (orderly_changing _ hwriter) hplay).free rfl
    rw [hloaded] at honce
    cases honce
  · intro hall
    generalize hplay : (run .bilinear taking (.constant .onePixel) (some clearing)
      onePixelSettings).play (.opening ⟨[], []⟩) = ended
    have hreached : .serialized ∈ ended.2.reached := by rw [← hplay]; decide +kernel
    have hgone : (ended.2.tree.contains onePixelSettings.outputPath).toOption = some false := by
      rw [← hplay]
      decide +kernel
    obtain ⟨-, content, hthere⟩ :=
      (hall _ _ _ _ _ _ ended.1 ended.2 (orderly_changing _ hwriter) hplay).mp hreached
    rw [Tree.contains, hthere] at hgone
    cases hgone

end Conversion

end RasterTensor
