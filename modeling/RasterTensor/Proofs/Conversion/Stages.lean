import RasterTensor.Conversion
import RasterTensor.Proofs.Tensor.Creation

/-!
# The stages of a conversion

What each stage of a conversion does to a scene, and everything that a conversion which succeeds
has gone through: the data from the supplied image to the bytes, and the files in between.
-/

namespace RasterTensor

open Files

/-- Every path name leads to the same image. -/
def Loader.constant (image : PixelBuffer) : Loader := fun _ t => (.ok (.array image.toArray), t)

def PixelBuffer.onePixel : PixelBuffer :=
  .ofFn 1 1 (fun _ _ c => .ofNat c) (by decide) (by decide)

/-- What it comes to when a stage is told to an observer, if there is one. -/
def Observer.tell (observer : Option Observer) (stage : Stage) (t : Tree) :
    Except Failure Unit × Tree :=
  match observer with
  | none => (.ok (), t)
  | some observe => observe stage t

/-- Whatever it is told, the observer leaves alone what a path name leads to. -/
def Observer.Spares (observer : Option Observer) (path : PathName) : Prop :=
  ∀ observe ∈ observer, ∀ stage t, (observe stage t).2.look path = t.look path

theorem Observer.Spares.look_tell {observer : Option Observer} {path : PathName}
    (h : Observer.Spares observer path) (stage : Stage) (t : Tree) :
    (Observer.tell observer stage t).2.look path = t.look path := by
  cases observer with
  | none => rfl
  | some observe => exact h observe rfl stage t

namespace Conversion

variable {resample : Resampler} {writer : Writer} {loader : Loader} {observer : Option Observer}
  {settings : Settings}
  {s s' : Scene}

theorem play_advance (observer : Option Observer) (stage : Stage) (s : Scene) :
    (advance observer stage).play s =
      ((Observer.tell observer stage s.tree).1,
        { s with
          tree := (Observer.tell observer stage s.tree).2
          reached := s.reached ++ [stage] }) := by
  unfold advance
  rw [Step.play_bind, Step.play_modify]
  cases observer with
  | none => rfl
  | some observe => exact Step.play_change _ _

theorem play_loadImage (loader : Loader) (path : PathName) (s : Scene) :
    (loadImage loader path).play s =
      ((loader path s.tree).1.bind (PixelBuffer.ofSupplied path.text),
        { s with tree := (loader path s.tree).2, loaded := s.loaded ++ [path] }) := by
  unfold loadImage
  simp only [Step.play_bind, Step.play_modify, Step.play_change]
  cases (loader path s.tree).1 with
  | error f => rfl
  | ok supplied => exact Step.play_ofExcept _ _

theorem play_resizeImage (resample : Resampler) (image : PixelBuffer) (width height : Nat)
    (s : Scene) :
    ∃ notes, (resizeImage resample image width height).play s =
      (image.resize resample width height, { s with notes }) := by
  unfold resizeImage
  dsimp only
  split
  · exact ⟨_, (Step.play_bind s _ _).trans (Step.play_ofExcept _ _)⟩
  · exact ⟨s.notes, Step.play_ofExcept s _⟩

theorem advance_eq_ok {stage : Stage} {u : Unit}
    (h : (advance observer stage).play s = (.ok u, s')) :
    ∃ t, Observer.tell observer stage s.tree = (.ok (), t) ∧
      s' = { s with tree := t, reached := s.reached ++ [stage] } := by
  rw [play_advance, Prod.mk.injEq] at h
  obtain ⟨htell, rfl⟩ := h
  exact ⟨_, Prod.ext htell rfl, rfl⟩

theorem loadImage_eq_ok {path : PathName} {image : PixelBuffer}
    (h : (loadImage loader path).play s = (.ok image, s')) :
    ∃ supplied t, loader path s.tree = (.ok supplied, t) ∧
      PixelBuffer.ofSupplied path.text supplied = .ok image ∧
        s' = { s with tree := t, loaded := s.loaded ++ [path] } := by
  rw [play_loadImage, Prod.mk.injEq] at h
  obtain ⟨himage, rfl⟩ := h
  cases hload : (loader path s.tree).1 with
  | error f => simp [hload, Except.bind] at himage
  | ok supplied =>
      rw [hload] at himage
      exact ⟨supplied, _, Prod.ext hload rfl, himage, rfl⟩

theorem resizeImage_eq_ok {image resized : PixelBuffer} {width height : Nat}
    (h : (resizeImage resample image width height).play s = (.ok resized, s')) :
    image.resize resample width height = .ok resized ∧ ∃ notes, s' = { s with notes } := by
  obtain ⟨notes, hplay⟩ := play_resizeImage resample image width height s
  rw [hplay, Prod.mk.injEq] at h
  exact ⟨h.1, notes, h.2.symm⟩

theorem play_concede_ne_ok {α : Type} (observer : Option Observer) (cause : Failure)
    (s : Scene) (a : α) (s' : Scene) : (concede observer cause).play s ≠ (.ok a, s') := by
  unfold concede
  dsimp only
  split
  · simp only [ne_eq, Step.play_bind_eq_ok, Step.play_throw]
    rintro ⟨_, _, -, _, _, -, _, _, -, h⟩
    cases h
  · rw [Step.play_throw]
    intro h
    cases h

/-- What a conversion has gone through when it produced a tensor file: the data, and the files
after each of its parts. -/
inductive Produced (resample : Resampler) (writer : Writer) (loader : Loader)
    (observer : Option Observer) (settings : Settings) (s : Scene) : TensorSummary → Scene → Prop
  | intro (supplied : Supplied) (image resized : PixelBuffer) (tensor : Tensor)
      (place : Location) (byteCount : Nat) (notes : List Note) (t₁ t₂ t₃ t₄ t₅ : Tree)
      (hfree : s.tree.contains settings.outputPath = .ok false)
      (hload : loader settings.inputPath s.tree = (.ok supplied, t₁))
      (himage : PixelBuffer.ofSupplied settings.inputPath.text supplied = .ok image)
      (hloaded : Observer.tell observer .loaded t₁ = (.ok (), t₂))
      (hresize : image.resize resample settings.width settings.height = .ok resized)
      (hresized : Observer.tell observer .resized t₂ = (.ok (), t₃))
      (hnormalize : (Profile.parameters settings.frontEnd settings.elementType).normalize
        resized settings.layout settings.elementType = .ok tensor)
      (hnormalized : Observer.tell observer .normalized t₃ = (.ok (), t₄))
      (hplace : t₄.locate settings.outputPath = .ok place)
      (hnone : t₄.get? place = none)
      (hwrite : (writer tensor.bytes).outcome = .ok byteCount)
      (hserialized : Observer.tell observer .serialized
        (t₄.put place (.file (writer tensor.bytes).received)) = (.ok (), t₅)) :
      Produced resample writer loader observer settings s
        { outputPath := settings.outputPath
          shape := settings.layout.shape resized.height resized.width
          elementType := settings.elementType
          layout := settings.layout
          byteCount
          parameters := Profile.parameters settings.frontEnd settings.elementType }
        { tree := t₅
          notes
          reached := s.reached ++ [.loaded, .resized, .normalized, .serialized]
          loaded := s.loaded ++ [settings.inputPath] }

theorem produced_of_play {r : TensorSummary}
    (h : (produce resample writer loader observer settings).play s = (.ok r, s')) :
    Produced resample writer loader observer settings s r s' := by
  unfold produce at h
  rw [Step.play_bind, Step.play_tree] at h
  dsimp only at h
  rw [Step.play_bind, Step.play_ofFile] at h
  cases hcontains : s.tree.contains settings.outputPath with
  | error e => simp [hcontains, liftFile] at h
  | ok taken =>
      cases taken with
      | true => simp [hcontains, liftFile] at h
      | false =>
          simp only [hcontains, liftFile, Bool.false_eq_true, if_false, Step.play_bind_eq_ok] at h
          obtain ⟨image, _, pload, _, _, ploaded, _, _, pnote, resized, _, presize, _, _, presized,
            tensor, _, pnormalize, _, _, pnormalized, byteCount, _, pwrite, _, _, pserialized,
            hend⟩ := h
          obtain ⟨supplied, t₁, hload, himage, rfl⟩ := loadImage_eq_ok pload
          obtain ⟨t₂, hloaded, rfl⟩ := advance_eq_ok ploaded
          cases pnote
          obtain ⟨hresize, notes, rfl⟩ := resizeImage_eq_ok presize
          obtain ⟨t₃, hresized, rfl⟩ := advance_eq_ok presized
          rw [Step.play_ofExcept, Prod.mk.injEq] at pnormalize
          obtain ⟨hnormalize, rfl⟩ := pnormalize
          obtain ⟨t₄, hnormalized, rfl⟩ := advance_eq_ok pnormalized
          obtain ⟨place, notes, hplace, hnone, hwrite, rfl⟩ := writeTensor_eq_ok pwrite
          obtain ⟨t₅, hserialized, rfl⟩ := advance_eq_ok pserialized
          cases hend
          simpa using Produced.intro supplied image resized tensor place byteCount notes t₁ t₂ t₃ t₄
            t₅ hcontains hload himage hloaded hresize hresized hnormalize hnormalized hplace hnone
            hwrite hserialized

theorem produced_of_run {r : TensorSummary}
    (h : (run resample writer loader observer settings).play s = (.ok r, s')) :
    ∃ t₁ notes s₂, Observer.tell observer .configured s.tree = (.ok (), t₁) ∧
      Produced resample writer loader observer settings
        { s with tree := t₁, notes, reached := s.reached ++ [.configured] } r s₂ ∧
      Observer.tell observer .done s₂.tree = (.ok (), s'.tree) := by
  unfold run at h
  simp only [Step.play_bind_eq_ok] at h
  obtain ⟨_, _, pconfigured, _, _, pnote, summary, s₂, pproduce, _, _, pdone, _, _, pend, hend⟩ := h
  obtain ⟨t₁, hconfigured, rfl⟩ := advance_eq_ok pconfigured
  cases pnote
  rw [Step.play_tryCatch_eq_ok fun f s₁ a s₂ => play_concede_ne_ok observer f s₁ a s₂] at pproduce
  obtain ⟨t₆, hdone, rfl⟩ := advance_eq_ok pdone
  cases pend
  cases hend
  exact ⟨t₁, _, s₂, hconfigured, produced_of_play pproduce, hdone⟩

end Conversion

end RasterTensor
