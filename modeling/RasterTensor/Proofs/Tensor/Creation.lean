import RasterTensor.Proofs.Files.Frame
import RasterTensor.Proofs.Steps
import RasterTensor.Tensor.Store

/-!
# Creating a tensor file

Writing a tensor file ends in one of three ways. The file is refused and nothing has changed, it
holds what the writer gave it, or the writer failed and the files are as they were before.
-/

namespace RasterTensor

open Files

variable {s : Scene} {path : PathName} {place : Location}

/-- The failure that a refused creation is reported as. -/
def creationFailure (path : PathName) : Files.Error → Failure
  | .refused .alreadyExists _ => .write path.text occupied
  | .refused fault shown => .write path.text (Files.Error.message (.refused fault shown))
  | .embeddedNul => .file .embeddedNul

/-- The failure that a failure of the writer is reported as. -/
def writingFailure (path : PathName) (cause : Failure) : Failure :=
  if cause.isSystem then .write path.text cause.message else cause

theorem play_createOutput_error {e : Files.Error} (h : s.tree.create path = .error e) :
    (createOutput path).play s = (.error (creationFailure path e), s) := by
  unfold createOutput
  rw [Step.play_bind, Step.play_tree]
  simp only [h]
  cases e with
  | embeddedNul => rfl
  | refused fault shown => cases fault <;> rfl

theorem play_createOutput_ok {t : Tree} (h : s.tree.create path = .ok (place, t)) :
    (createOutput path).play s = (.ok place, { s with tree := t }) := by
  unfold createOutput
  rw [Step.play_bind, Step.play_tree]
  simp only [h]
  rfl

theorem play_abandonOutput {t : Tree} (h : s.tree.unlink path = .ok t) (cause : Failure) :
    (abandonOutput path cause).play s =
      (.ok (writingFailure path cause),
        { s with
          tree := t
          notes := s.notes ++ [⟨.error, .tensorFile,
            "Write to " ++ path.text ++ " failed, removing partial output"⟩] }) := by
  unfold abandonOutput
  simp only [Step.play_bind, Step.play_note, Step.play_tree, Step.play_ofFile, h, liftFile,
    Step.play_setTree, Step.play_pure]
  rfl

/-- How writing a tensor file ends, by what the creation of the file and the writer come to. -/
inductive WriteEnd (writer : Writer) (content : Content) (path : PathName) (s : Scene) :
    Except Failure Nat × Scene → Prop
  | refused (e : Files.Error) (h : s.tree.create path = .error e) :
      WriteEnd writer content path s (.error (creationFailure path e), s)
  | written (place : Location) (size : Nat) (notes : List Note)
      (hplace : s.tree.locate path = .ok place) (hfree : s.tree.get? place = none)
      (houtcome : (writer content.bytes).outcome = .ok size) :
      WriteEnd writer content path s
        (.ok size, { s with
          tree := s.tree.put place (.file (writer content.bytes).received), notes })
  | abandoned (place : Location) (cause : Failure) (notes : List Note)
      (hplace : s.tree.locate path = .ok place) (hfree : s.tree.get? place = none)
      (houtcome : (writer content.bytes).outcome = .error cause) :
      WriteEnd writer content path s (.error (writingFailure path cause), { s with notes })

theorem writeEnd_writeTensor (writer : Writer) (content : Content) (path : PathName) (s : Scene) :
    WriteEnd writer content path s ((writeTensor writer content path).play s) := by
  unfold writeTensor
  rw [Step.play_bind]
  cases hcreate : s.tree.create path with
  | error e =>
      rw [play_createOutput_error hcreate]
      exact .refused e hcreate
  | ok created =>
      obtain ⟨place, t⟩ := created
      obtain ⟨hplace, hfree, rfl⟩ := Tree.create_eq_ok_iff.mp hcreate
      rw [play_createOutput_ok hcreate]
      simp only [Step.play_bind, Step.play_tree, Step.play_setTree, Tree.put_put]
      cases houtcome : (writer content.bytes).outcome with
      | ok size =>
          simp only [Step.play_bind, Step.play_note, Step.play_pure]
          exact .written place size _ hplace hfree houtcome
      | error cause =>
          have hunlink := Tree.unlink_put hplace hfree (writer content.bytes).received
          have habandon := play_abandonOutput
            (s := { s with tree := s.tree.put place (.file (writer content.bytes).received) })
            hunlink cause
          simp only [Step.play_bind, habandon, Step.play_throw]
          exact .abandoned place cause _ hplace hfree houtcome

theorem writeTensor_eq_ok {writer : Writer} {content : Content} {s' : Scene} {size : Nat}
    (h : (writeTensor writer content path).play s = (.ok size, s')) :
    ∃ place notes, s.tree.locate path = .ok place ∧ s.tree.get? place = none ∧
      (writer content.bytes).outcome = .ok size ∧
        s' = { s with
          tree := s.tree.put place (.file (writer content.bytes).received), notes } := by
  have hend := writeEnd_writeTensor writer content path s
  rw [h] at hend
  cases hend with
  | written place size notes hplace hfree houtcome =>
      exact ⟨place, notes, hplace, hfree, houtcome, rfl⟩

end RasterTensor
