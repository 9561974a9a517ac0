import RasterTensor.Proofs.Conversion.Stages

/-!
# The course of a conversion

A conversion stands at a stage, works towards the next one, and tells the observer of it. Either
part can stop it. Every run follows this course, so its outcome, the stages it went through, the
images it loaded and the files it leaves are read off the point where it stopped.
-/

namespace RasterTensor.Conversion

open Files

/-- The image that a loader gives for a path name, if it gives one. -/
def imageAt (loader : Loader) (path : PathName) (t : Tree) : Except Failure PixelBuffer :=
  (loader path t).1.bind (PixelBuffer.ofSupplied path.text)

/-- What a conversion that has written some bytes for an image tells of it. -/
def summarize (settings : Settings) (image : PixelBuffer) (byteCount : Nat) : TensorSummary where
  outputPath := settings.outputPath
  shape := settings.layout.shape image.height image.width
  elementType := settings.elementType
  layout := settings.layout
  byteCount
  parameters := Profile.parameters settings.frontEnd settings.elementType

/-- Where a conversion stands, with the data that it goes on from. -/
inductive Position where
  | configured
  | loaded (image : PixelBuffer)
  | resized (image : PixelBuffer)
  | normalized (image : PixelBuffer) (tensor : Tensor)
  | serialized (image : PixelBuffer) (byteCount : Nat)

namespace Position

def stage : Position → Stage
  | configured => .configured
  | loaded _ => .loaded
  | resized _ => .resized
  | normalized _ _ => .normalized
  | serialized _ _ => .serialized

def rank : Position → Nat
  | configured => 0
  | loaded _ => 1
  | resized _ => 2
  | normalized _ _ => 3
  | serialized _ _ => 4

/-- The stages up to a position. -/
def trail : Position → List Stage
  | configured => [.configured]
  | loaded _ => [.configured, .loaded]
  | resized _ => [.configured, .loaded, .resized]
  | normalized _ _ => [.configured, .loaded, .resized, .normalized]
  | serialized _ _ => [.configured, .loaded, .resized, .normalized, .serialized]

/-- The path names from which images were loaded up to a position. -/
def loads (path : PathName) : Position → List PathName
  | configured => []
  | _ => [path]

end Position

section Course

variable (resample : Resampler) (writer : Writer) (loader : Loader) (observer : Option Observer)
  (settings : Settings)

/-- How the work after a position can end: what is loaded meanwhile, the next position or the
failure, and the files. -/
inductive Works (t : Tree) : Position → List PathName → Except Failure Position → Tree → Prop
  | unchecked (e : Files.Error) (h : t.contains settings.outputPath = .error e) :
      Works t .configured [] (.error (.file e)) t
  | taken (h : t.contains settings.outputPath = .ok true) :
      Works t .configured [] (.error (.write settings.outputPath.text occupied)) t
  | unloaded (f : Failure) (hfree : t.contains settings.outputPath = .ok false)
      (h : imageAt loader settings.inputPath t = .error f) :
      Works t .configured [settings.inputPath] (.error f) (loader settings.inputPath t).2
  | loaded (image : PixelBuffer) (hfree : t.contains settings.outputPath = .ok false)
      (h : imageAt loader settings.inputPath t = .ok image) :
      Works t .configured [settings.inputPath] (.ok (.loaded image))
        (loader settings.inputPath t).2
  | unresized (image : PixelBuffer) (f : Failure)
      (h : image.resize resample settings.width settings.height = .error f) :
      Works t (.loaded image) [] (.error f) t
  | resized (image resized : PixelBuffer)
      (h : image.resize resample settings.width settings.height = .ok resized) :
      Works t (.loaded image) [] (.ok (.resized resized)) t
  | unnormalized (image : PixelBuffer) (f : Failure)
      (h : (Profile.parameters settings.frontEnd settings.elementType).normalize image
        settings.layout settings.elementType = .error f) :
      Works t (.resized image) [] (.error f) t
  | normalized (image : PixelBuffer) (tensor : Tensor)
      (h : (Profile.parameters settings.frontEnd settings.elementType).normalize image
        settings.layout settings.elementType = .ok tensor) :
      Works t (.resized image) [] (.ok (.normalized image tensor)) t
  | refused (image : PixelBuffer) (tensor : Tensor) (e : Files.Error)
      (h : t.create settings.outputPath = .error e) :
      Works t (.normalized image tensor) []
        (.error (creationFailure settings.outputPath e)) t
  | abandoned (image : PixelBuffer) (tensor : Tensor) (place : Location) (cause : Failure)
      (hplace : t.locate settings.outputPath = .ok place) (hfree : t.get? place = none)
      (houtcome : (writer tensor.bytes).outcome = .error cause) :
      Works t (.normalized image tensor) []
        (.error (writingFailure settings.outputPath cause)) t
  | written (image : PixelBuffer) (tensor : Tensor) (place : Location) (size : Nat)
      (hplace : t.locate settings.outputPath = .ok place) (hfree : t.get? place = none)
      (houtcome : (writer tensor.bytes).outcome = .ok size) :
      Works t (.normalized image tensor) [] (.ok (.serialized image size))
        (t.put place (.file (writer tensor.bytes).received))

/-- From the files at the start, a run comes to a position with the files as they are then. -/
inductive Arrives (t : Tree) : Position → Tree → Prop
  | start {t₁ : Tree} (htell : Observer.tell observer .configured t = (.ok (), t₁)) :
      Arrives t .configured t₁
  | pass {p q : Position} {loads : List PathName} {t₁ t₂ t₃ : Tree} (h : Arrives t p t₁)
      (hwork : Works resample writer loader settings t₁ p loads (.ok q) t₂)
      (htell : Observer.tell observer q.stage t₂ = (.ok (), t₃)) : Arrives t q t₃

/-- The part of a run that ends by failing: the stages it went through, what it loaded, the files
after it, and the failure. -/
inductive Halts (t : Tree) : List Stage → List PathName → Tree → Failure → Prop
  | work {p : Position} {loads : List PathName} {t₁ t₂ : Tree} {f : Failure}
      (h : Arrives resample writer loader observer settings t p t₁)
      (hwork : Works resample writer loader settings t₁ p loads (.error f) t₂) :
      Halts t p.trail (p.loads settings.inputPath ++ loads) t₂ f
  | told {p q : Position} {loads : List PathName} {t₁ t₂ t₃ : Tree} {f : Failure}
      (h : Arrives resample writer loader observer settings t p t₁)
      (hwork : Works resample writer loader settings t₁ p loads (.ok q) t₂)
      (htell : Observer.tell observer q.stage t₂ = (.error f, t₃)) :
      Halts t q.trail (q.loads settings.inputPath) t₃ f

/-- The failure that a run meets first. -/
inductive FirstFailure (t : Tree) : Failure → Prop
  | configured {f : Failure} {t₁ : Tree}
      (htell : Observer.tell observer .configured t = (.error f, t₁)) : FirstFailure t f
  | halts {trail : List Stage} {loads : List PathName} {t₁ : Tree} {f : Failure}
      (h : Halts resample writer loader observer settings t trail loads t₁ f) : FirstFailure t f
  | done {image : PixelBuffer} {byteCount : Nat} {t₁ t₂ : Tree} {f : Failure}
      (h : Arrives resample writer loader observer settings t (.serialized image byteCount) t₁)
      (htell : Observer.tell observer .done t₁ = (.error f, t₂)) : FirstFailure t f

end Course

variable {resample : Resampler} {writer : Writer} {loader : Loader} {observer : Option Observer}
  {settings : Settings} {t t₁ t₂ t₃ : Tree} {p q : Position} {loads : List PathName}

theorem Works.trail_eq {r : Except Failure Position}
    (h : Works resample writer loader settings t₁ p loads r t₂) (hr : r = .ok q) :
    q.trail = p.trail ++ [q.stage] := by
  cases h <;> cases hr <;> rfl

theorem Works.rank_eq {r : Except Failure Position}
    (h : Works resample writer loader settings t₁ p loads r t₂) (hr : r = .ok q) :
    q.rank = p.rank + 1 := by
  cases h <;> cases hr <;> rfl

theorem Works.loads_eq {r : Except Failure Position}
    (h : Works resample writer loader settings t₁ p loads r t₂) (hr : r = .ok q) :
    q.loads settings.inputPath = p.loads settings.inputPath ++ loads := by
  cases h <;> cases hr <;> rfl

theorem Works.unique {loads' : List PathName} {r r' : Except Failure Position} {t' : Tree}
    (h : Works resample writer loader settings t₁ p loads r t₂)
    (h' : Works resample writer loader settings t₁ p loads' r' t') : r = r' ∧ t₂ = t' := by
  cases h <;> cases h' <;> simp_all [Tree.create, ok_bind, pure, Except.pure]

theorem Arrives.told_configured (h : Arrives resample writer loader observer settings t p t₁) :
    ∃ t₂, Observer.tell observer .configured t = (.ok (), t₂) := by
  induction h with
  | start htell => exact ⟨_, htell⟩
  | pass h hwork htell ih => exact ih

/-- There is one course only: a run that comes at least as far passes through the position. -/
theorem Arrives.eq_or_passes (hq : Arrives resample writer loader observer settings t q t₂)
    (hp : Arrives resample writer loader observer settings t p t₁) (hle : p.rank ≤ q.rank) :
    (p = q ∧ t₁ = t₂) ∨ p.rank < q.rank ∧ ∃ loads r t' t'',
      Works resample writer loader settings t₁ p loads (.ok r) t' ∧
      Observer.tell observer r.stage t' = (.ok (), t'') := by
  induction hq generalizing p t₁ with
  | start htell =>
      cases hp with
      | start htell' =>
          rw [htell] at htell'
          exact .inl ⟨rfl, (congrArg Prod.snd htell').symm⟩
      | pass h hwork htell' =>
          rw [hwork.rank_eq rfl] at hle
          exact absurd hle (Nat.not_succ_le_zero _)
  | @pass p' q loads t₁' t₂' t₃' h hwork htell ih =>
      have hrank := hwork.rank_eq rfl
      rcases Nat.lt_or_ge p'.rank p.rank with hlt | hge
      · -- Both are at the same rank, so they come from the same position in the same way.
        cases hp with
        | start htell' => exact absurd hlt (Nat.not_lt_zero _)
        | pass h' hwork' htell' =>
            have hrank' := hwork'.rank_eq rfl
            rcases ih h' (by omega) with ⟨rfl, rfl⟩ | ⟨hless, -⟩
            · obtain ⟨hr, rfl⟩ := hwork.unique hwork'
              cases hr
              rw [htell] at htell'
              exact .inl ⟨rfl, (congrArg Prod.snd htell').symm⟩
            · omega
      · rcases ih hp hge with ⟨rfl, rfl⟩ | ⟨hless, hpasses⟩
        · exact .inr ⟨by omega, loads, q, t₂', t₃', hwork, htell⟩
        · exact .inr ⟨by omega, hpasses⟩

/-! ## Every run takes this course -/

/-- A scene of a run that stands at a position. -/
structure At (resample : Resampler) (writer : Writer) (loader : Loader)
    (observer : Option Observer) (settings : Settings) (t : Tree) (p : Position) (s : Scene) :
    Prop where
  arrives : Arrives resample writer loader observer settings t p s.tree
  reached_eq : s.reached = p.trail
  loaded_eq : s.loaded = p.loads settings.inputPath

/-- A scene in which the work before a position is done. -/
inductive Worked (resample : Resampler) (writer : Writer) (loader : Loader)
    (observer : Option Observer) (settings : Settings) (t : Tree) (q : Position) (s : Scene) : Prop
  | intro (p : Position) (loads : List PathName) (t₁ : Tree)
      (h : Arrives resample writer loader observer settings t p t₁)
      (hwork : Works resample writer loader settings t₁ p loads (.ok q) s.tree)
      (hreached : s.reached = p.trail) (hloaded : s.loaded = q.loads settings.inputPath)

/-- A scene in which a run has failed on its way. -/
abbrev Halted (resample : Resampler) (writer : Writer) (loader : Loader)
    (observer : Option Observer) (settings : Settings) (t : Tree) (f : Failure) (s : Scene) :
    Prop :=
  Halts resample writer loader observer settings t s.reached s.loaded s.tree f

theorem At.worked {s : Scene} {t' : Tree} (notes : List Note)
    (hs : At resample writer loader observer settings t p s)
    (hwork : Works resample writer loader settings s.tree p loads (.ok q) t') :
    Worked resample writer loader observer settings t q
      { s with tree := t', notes, loaded := s.loaded ++ loads } := by
  refine .intro p loads s.tree hs.arrives hwork hs.reached_eq ?_
  rw [hwork.loads_eq rfl, hs.loaded_eq]

theorem At.halted {s : Scene} {t' : Tree} {f : Failure} (notes : List Note)
    (hs : At resample writer loader observer settings t p s)
    (hwork : Works resample writer loader settings s.tree p loads (.error f) t') :
    Halted resample writer loader observer settings t f
      { s with tree := t', notes, loaded := s.loaded ++ loads } := by
  have hhalts := Halts.work hs.arrives hwork
  rw [← hs.reached_eq, ← hs.loaded_eq] at hhalts
  exact hhalts

theorem ends_advance_of_tell {stage : Stage} {P : Scene → Prop} {Q : Unit → Scene → Prop}
    {E : Failure → Scene → Prop}
    (hok : ∀ s t', P s → Observer.tell observer stage s.tree = (.ok (), t') →
      Q () { s with tree := t', reached := s.reached ++ [stage] })
    (herror : ∀ s t' f, P s → Observer.tell observer stage s.tree = (.error f, t') →
      E f { s with tree := t', reached := s.reached ++ [stage] }) :
    Step.Ends P (advance observer stage) Q E := by
  intro s hs
  rw [play_advance]
  cases htell : Observer.tell observer stage s.tree with
  | mk outcome t' =>
      cases outcome with
      | ok u => exact hok s t' hs htell
      | error f => exact herror s t' f hs htell

theorem ends_advance {q : Position} {stage : Stage} (hstage : q.stage = stage) :
    Step.Ends (Worked resample writer loader observer settings t q) (advance observer stage)
      (fun _ => At resample writer loader observer settings t q)
      (Halted resample writer loader observer settings t) := by
  subst hstage
  have htrail {s : Scene} (hs : Worked resample writer loader observer settings t q s) :
      s.reached ++ [q.stage] = q.trail := by
    obtain ⟨p, loads, t₁, harrives, hwork, hreached, hloaded⟩ := hs
    rw [hreached, hwork.trail_eq rfl]
  apply ends_advance_of_tell
  · intro s t' hs htell
    have hreached := htrail hs
    obtain ⟨p, loads, t₁, harrives, hwork, -, hloaded⟩ := hs
    exact ⟨.pass harrives hwork htell, hreached, hloaded⟩
  · intro s t' f hs htell
    have hreached := htrail hs
    obtain ⟨p, loads, t₁, harrives, hwork, -, hloaded⟩ := hs
    have hhalts := Halts.told harrives hwork htell
    rw [← hreached, ← hloaded] at hhalts
    exact hhalts

theorem ends_load :
    Step.Ends
      (fun s => At resample writer loader observer settings t .configured s ∧
        s.tree.contains settings.outputPath = .ok false)
      (loadImage loader settings.inputPath)
      (fun image => Worked resample writer loader observer settings t (.loaded image))
      (Halted resample writer loader observer settings t) := by
  rintro s ⟨hs, hfree⟩
  have hplay : (loadImage loader settings.inputPath).play s =
      (imageAt loader settings.inputPath s.tree,
        { s with
          tree := (loader settings.inputPath s.tree).2
          loaded := s.loaded ++ [settings.inputPath] }) := play_loadImage loader _ s
  rw [hplay]
  cases himage : imageAt loader settings.inputPath s.tree with
  | ok image => exact hs.worked s.notes (.loaded image hfree himage)
  | error f => exact hs.halted s.notes (.unloaded f hfree himage)

theorem ends_resize (image : PixelBuffer) :
    Step.Ends (At resample writer loader observer settings t (.loaded image))
      (resizeImage resample image settings.width settings.height)
      (fun resized => Worked resample writer loader observer settings t (.resized resized))
      (Halted resample writer loader observer settings t) := by
  intro s hs
  obtain ⟨notes, hplay⟩ := play_resizeImage resample image settings.width settings.height s
  rw [hplay]
  cases hresize : image.resize resample settings.width settings.height with
  | ok resized => simpa using hs.worked notes (.resized image resized hresize)
  | error f => simpa using hs.halted notes (.unresized image f hresize)

theorem ends_normalize (image : PixelBuffer) :
    Step.Ends (At resample writer loader observer settings t (.resized image))
      (Step.ofExcept ((Profile.parameters settings.frontEnd settings.elementType).normalize image
        settings.layout settings.elementType))
      (fun tensor => Worked resample writer loader observer settings t (.normalized image tensor))
      (Halted resample writer loader observer settings t) := by
  intro s hs
  rw [Step.play_ofExcept]
  cases hnormalize : (Profile.parameters settings.frontEnd settings.elementType).normalize image
      settings.layout settings.elementType with
  | ok tensor => simpa using hs.worked s.notes (.normalized image tensor hnormalize)
  | error f => simpa using hs.halted s.notes (.unnormalized image f hnormalize)

theorem ends_write (image : PixelBuffer) (tensor : Tensor) :
    Step.Ends (At resample writer loader observer settings t (.normalized image tensor))
      (writeTensor writer tensor.content settings.outputPath)
      (fun byteCount =>
        Worked resample writer loader observer settings t (.serialized image byteCount))
      (Halted resample writer loader observer settings t) := by
  intro s hs
  have hend := writeEnd_writeTensor writer tensor.content settings.outputPath s
  generalize (writeTensor writer tensor.content settings.outputPath).play s = outcome at hend
  cases hend with
  | refused e h => simpa using hs.halted s.notes (.refused image tensor e h)
  | written place size notes hplace hfree houtcome =>
      simpa [Tensor.content] using
        hs.worked notes (.written image tensor place size hplace hfree houtcome)
  | abandoned place cause notes hplace hfree houtcome =>
      simpa using
        hs.halted notes (.abandoned image tensor place cause hplace hfree houtcome)

theorem ends_course :
    Step.Ends (At resample writer loader observer settings t .configured)
      (produce resample writer loader observer settings)
      (fun r s => ∃ image byteCount,
        At resample writer loader observer settings t (.serialized image byteCount) s ∧
        r = summarize settings image byteCount)
      (Halted resample writer loader observer settings t) := by
  -- The files are looked at before the loader is called, so its changes do not count for the check.
  unfold produce
  refine .bind (Q := fun files s => At resample writer loader observer settings t .configured s ∧
    files = s.tree) (fun s hs => ⟨hs, rfl⟩) fun files => ?_
  refine .bind (Q := fun taken s => At resample writer loader observer settings t .configured s ∧
    s.tree.contains settings.outputPath = .ok taken) ?_ fun taken => ?_
  · rintro s ⟨hs, rfl⟩
    rw [Step.play_ofFile]
    cases hcontains : s.tree.contains settings.outputPath with
    | ok taken => exact ⟨hs, hcontains⟩
    | error e => simpa [liftFile] using hs.halted s.notes (.unchecked e hcontains)
  dsimp only
  cases taken with
  | true =>
      refine .bind (Q := fun _ _ => False) (Step.ends_throw ?_) fun _ _ hs => hs.elim
      rintro s ⟨hs, htaken⟩
      simpa using hs.halted s.notes (.taken htaken)
  | false =>
      refine .bind ends_load fun image => ?_
      refine .bind (ends_advance rfl) fun _ => ?_
      refine .bind (Step.ends_note fun s notes hs => ⟨hs.arrives, hs.reached_eq, hs.loaded_eq⟩)
        fun _ => ?_
      refine .bind (ends_resize image) fun resized => ?_
      refine .bind (ends_advance rfl) fun _ => ?_
      refine .bind (ends_normalize resized) fun tensor => ?_
      refine .bind (ends_advance rfl) fun _ => ?_
      refine .bind (ends_write resized tensor) fun byteCount => ?_
      refine .bind (ends_advance rfl) fun _ => ?_
      exact Step.ends_pure fun s hs => ⟨resized, byteCount, hs, rfl⟩

/-- How a run from some files can end: the outcome, the stages told of, the images loaded, and the
files. -/
inductive RunEnd (resample : Resampler) (writer : Writer) (loader : Loader)
    (observer : Option Observer) (settings : Settings) (t : Tree) :
    Except Failure TensorSummary → List Stage → List PathName → Tree → Prop
  | unheard (f : Failure) (t₁ : Tree)
      (htell : Observer.tell observer .configured t = (.error f, t₁)) :
      RunEnd resample writer loader observer settings t (.error f) [.configured] [] t₁
  | interrupted (trail : List Stage) (loads : List PathName) (f : Failure) (t₁ : Tree)
      (h : Halts resample writer loader observer settings t trail loads t₁ f)
      (hf : f.isInterrupt = true) :
      RunEnd resample writer loader observer settings t (.error f) trail loads t₁
  | failed (trail : List Stage) (loads : List PathName) (f : Failure) (t₁ t₂ : Tree)
      (h : Halts resample writer loader observer settings t trail loads t₁ f)
      (hf : f.isInterrupt = false)
      (htell : Observer.tell observer .failed t₁ = (.ok (), t₂)) :
      RunEnd resample writer loader observer settings t (.error f) (trail ++ [.failed]) loads t₂
  -- The observer's own failure takes the place of the one that it is told of.
  | replaced (trail : List Stage) (loads : List PathName) (f g : Failure) (t₁ t₂ : Tree)
      (h : Halts resample writer loader observer settings t trail loads t₁ f)
      (hf : f.isInterrupt = false)
      (htell : Observer.tell observer .failed t₁ = (.error g, t₂)) :
      RunEnd resample writer loader observer settings t (.error g) (trail ++ [.failed]) loads t₂
  | unfinished (image : PixelBuffer) (byteCount : Nat) (f : Failure) (t₁ t₂ : Tree)
      (h : Arrives resample writer loader observer settings t (.serialized image byteCount) t₁)
      (htell : Observer.tell observer .done t₁ = (.error f, t₂)) :
      RunEnd resample writer loader observer settings t (.error f)
        [.configured, .loaded, .resized, .normalized, .serialized, .done]
        [settings.inputPath] t₂
  | finished (image : PixelBuffer) (byteCount : Nat) (t₁ t₂ : Tree)
      (h : Arrives resample writer loader observer settings t (.serialized image byteCount) t₁)
      (htell : Observer.tell observer .done t₁ = (.ok (), t₂)) :
      RunEnd resample writer loader observer settings t (.ok (summarize settings image byteCount))
        [.configured, .loaded, .resized, .normalized, .serialized, .done]
        [settings.inputPath] t₂

theorem ends_conceding {α : Type} (f : Failure) (Q : α → Scene → Prop) :
    Step.Ends (Halted resample writer loader observer settings t f) (concede observer f) Q
      (fun g s => RunEnd resample writer loader observer settings t (.error g) s.reached s.loaded
        s.tree) := by
  unfold concede
  cases hf : f.isInterrupt with
  | true => exact Step.ends_throw fun s hs => .interrupted _ _ _ _ hs hf
  | false =>
      refine .bind (Q := fun _ => Halted resample writer loader observer settings t f)
        (fun s hs => hs) fun now => ?_
      refine .bind (Step.ends_note fun s notes hs => hs) fun _ => ?_
      refine .bind (Q := fun _ s => RunEnd resample writer loader observer settings t (.error f)
        s.reached s.loaded s.tree) ?_ fun _ => Step.ends_throw fun s hs => hs
      apply ends_advance_of_tell
      · intro s t' hs htell
        exact .failed _ _ _ _ _ hs hf htell
      · intro s t' g hs htell
        exact .replaced _ _ _ _ _ _ hs hf htell

theorem ends_opening :
    Step.Ends (fun s => s = .opening t) (advance observer .configured)
      (fun _ => At resample writer loader observer settings t .configured)
      (fun f s => RunEnd resample writer loader observer settings t (.error f) s.reached s.loaded
        s.tree) := by
  apply ends_advance_of_tell
  · rintro s t' rfl htell
    exact ⟨.start htell, rfl, rfl⟩
  · rintro s t' f rfl htell
    exact .unheard f t' htell

theorem ends_closing (image : PixelBuffer) (byteCount : Nat) :
    Step.Ends (At resample writer loader observer settings t (.serialized image byteCount))
      (advance observer .done)
      (fun _ s => RunEnd resample writer loader observer settings t
        (.ok (summarize settings image byteCount)) s.reached s.loaded s.tree)
      (fun f s => RunEnd resample writer loader observer settings t (.error f) s.reached s.loaded
        s.tree) := by
  apply ends_advance_of_tell
  · intro s t' hs htell
    simp only [hs.reached_eq, hs.loaded_eq]
    exact .finished image byteCount s.tree t' hs.arrives htell
  · intro s t' f hs htell
    simp only [hs.reached_eq, hs.loaded_eq]
    exact .unfinished image byteCount f s.tree t' hs.arrives htell

theorem runEnd_run {outcome : Except Failure TensorSummary} {s : Scene}
    (h : (run resample writer loader observer settings).play (.opening t) = (outcome, s)) :
    RunEnd resample writer loader observer settings t outcome s.reached s.loaded s.tree := by
  have hends : Step.Ends (fun s => s = .opening t) (run resample writer loader observer settings)
      (fun r s => RunEnd resample writer loader observer settings t (.ok r) s.reached s.loaded
        s.tree)
      (fun f s => RunEnd resample writer loader observer settings t (.error f) s.reached s.loaded
        s.tree) := by
    unfold run
    refine .bind ends_opening fun _ => ?_
    refine .bind (Step.ends_note fun s notes hs => ⟨hs.arrives, hs.reached_eq, hs.loaded_eq⟩)
      fun _ => ?_
    refine .bind (.tryCatch ends_course fun f => ends_conceding f _) fun r => ?_
    refine .bind (Q := fun _ s => RunEnd resample writer loader observer settings t (.ok r)
      s.reached s.loaded s.tree) ?_ fun _ => ?_
    · rintro s ⟨image, byteCount, hs, rfl⟩
      exact ends_closing image byteCount s hs
    · refine .bind (Step.ends_note fun s notes hs => hs) fun _ => ?_
      exact Step.ends_pure fun s hs => hs
  cases outcome with
  | ok r => exact hends.of_ok rfl h
  | error f => exact hends.of_error rfl h

end RasterTensor.Conversion
