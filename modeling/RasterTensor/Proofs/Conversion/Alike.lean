import RasterTensor.Conversion
import RasterTensor.Proofs.Lockstep

/-!
# Conversions on alike trees

Files that are not the image have no part in a conversion: from two trees that differ inside such
files it comes to the same end, with the same journal, and leaves trees that differ no more.
-/

namespace RasterTensor

open Files Step

/-- Scenes with the same history, on trees that are alike. -/
structure Scene.Alike (agreed : Location → Prop) (s s' : Scene) : Prop where
  tree : s.tree.Alike agreed s'.tree
  notes_eq : s.notes = s'.notes
  reached_eq : s.reached = s'.reached
  loaded_eq : s.loaded = s'.loaded

namespace Scene.Alike

variable {agreed : Location → Prop} {s s' : Scene}

theorem setTree (h : Alike agreed s s') {t t' : Tree} (ht : t.Alike agreed t') :
    Alike agreed { s with tree := t } { s' with tree := t' } :=
  ⟨ht, h.notes_eq, h.reached_eq, h.loaded_eq⟩

theorem note (h : Alike agreed s s') (n : Note) :
    Alike agreed { s with notes := s.notes ++ [n] } { s' with notes := s'.notes ++ [n] } :=
  ⟨h.tree, by rw [h.notes_eq], h.reached_eq, h.loaded_eq⟩

theorem reach (h : Alike agreed s s') (stage : Stage) :
    Alike agreed { s with reached := s.reached ++ [stage] }
      { s' with reached := s'.reached ++ [stage] } :=
  ⟨h.tree, h.notes_eq, by rw [h.reached_eq], h.loaded_eq⟩

theorem load (h : Alike agreed s s') (path : PathName) :
    Alike agreed { s with loaded := s.loaded ++ [path] }
      { s' with loaded := s'.loaded ++ [path] } :=
  ⟨h.tree, h.notes_eq, h.reached_eq, by rw [h.loaded_eq]⟩

end Scene.Alike

/-- Alike scenes whose trees are still those of the start. -/
structure Scene.Untouched (agreed : Location → Prop) (t t' : Tree) (s s' : Scene) : Prop where
  alike : s.Alike agreed s'
  tree_eq : s.tree = t
  tree_eq' : s'.tree = t'

variable {agreed : Location → Prop} {t t' : Tree}

/-! ## Tensor files -/

theorem lockstep_note (severity : Severity) (speaker : Speaker) (text : String) :
    Lockstep (Scene.Alike agreed) (note severity speaker text) (note severity speaker text)
      (Scene.Alike agreed) (Scene.Alike agreed) :=
  lockstep_modify fun _ _ h => h.note _

theorem lockstep_createOutput (path : PathName) :
    Lockstep (Scene.Alike agreed) (createOutput path) (createOutput path) (Scene.Alike agreed)
      (Scene.Alike agreed) := by
  refine lockstep_tree_bind fun s s' hs => ?_
  have hcreate := hs.tree.create path
  generalize s.tree.create path = x, s'.tree.create path = x' at hcreate
  cases hcreate with
  | @ok a b h =>
      obtain ⟨place, made⟩ := a
      obtain ⟨place', made'⟩ := b
      obtain ⟨rfl, h⟩ := h
      exact .ok place (hs.setTree h)
  | error e =>
      cases e with
      | embeddedNul => exact .error _ hs
      | refused fault shown => cases fault <;> exact .error _ hs

theorem lockstep_abandonOutput (path : PathName) (cause : Failure) :
    Lockstep (Scene.Alike agreed) (abandonOutput path cause) (abandonOutput path cause)
      (Scene.Alike agreed) (Scene.Alike agreed) := by
  refine .bind (lockstep_note _ _ _) fun _ => ?_
  refine lockstep_tree_bind fun s s' hs => ?_
  have hunlink := hs.tree.unlink path
  generalize s.tree.unlink path = x, s'.tree.unlink path = x' at hunlink
  cases hunlink with
  | ok h => exact .ok _ (hs.setTree h)
  | error e => exact .error _ hs

theorem lockstep_writeTensor (writer : Writer) (content : Content) (path : PathName) :
    Lockstep (Scene.Alike agreed) (writeTensor writer content path)
      (writeTensor writer content path) (Scene.Alike agreed) (Scene.Alike agreed) := by
  refine .bind (lockstep_createOutput path) fun place => ?_
  refine lockstep_setTree_bind (fun s s' hs => hs.setTree (hs.tree.put place _)) ?_
  split
  · next cause _ =>
    exact .bind (lockstep_abandonOutput path cause) fun f => lockstep_throw f fun _ _ h => h
  · exact .bind (lockstep_note _ _ _) fun _ => lockstep_pure _

/-! ## The conversion -/

namespace Scene.Untouched

variable {s s' : Scene}

theorem note (h : Untouched agreed t t' s s') (n : Note) :
    Untouched agreed t t' { s with notes := s.notes ++ [n] }
      { s' with notes := s'.notes ++ [n] } := ⟨h.alike.note n, h.tree_eq, h.tree_eq'⟩

theorem reach (h : Untouched agreed t t' s s') (stage : Stage) :
    Untouched agreed t t' { s with reached := s.reached ++ [stage] }
      { s' with reached := s'.reached ++ [stage] } := ⟨h.alike.reach stage, h.tree_eq, h.tree_eq'⟩

theorem load (h : Untouched agreed t t' s s') (path : PathName) :
    Untouched agreed t t' { s with loaded := s.loaded ++ [path] }
      { s' with loaded := s'.loaded ++ [path] } := ⟨h.alike.load path, h.tree_eq, h.tree_eq'⟩

end Scene.Untouched

namespace Conversion

variable {resample : Resampler} {loader : Loader}

theorem lockstep_advance (stage : Stage) :
    Lockstep (Scene.Alike agreed) (advance none stage) (advance none stage) (Scene.Alike agreed)
      (Scene.Alike agreed) :=
  .bind (lockstep_modify fun _ _ h => h.reach stage) fun _ => lockstep_pure _

theorem lockstep_loadImage {path : PathName} (himage : (loader path t).1 = (loader path t').1)
    (htree : (loader path t).2.Alike agreed (loader path t').2) :
    Lockstep (Scene.Untouched agreed t t') (loadImage loader path) (loadImage loader path)
      (Scene.Alike agreed) (Scene.Alike agreed) := by
  refine .bind (lockstep_modify fun _ _ h => h.load path) fun _ => ?_
  -- Nothing was written yet, so the loader is given the trees for which the images are equal.
  refine .bind (lockstep_change ?_ ?_ fun _ _ h => h) fun supplied => ?_
  · rintro s s' ⟨-, rfl, rfl⟩
    exact himage
  · rintro s s' ⟨h, rfl, rfl⟩
    exact h.setTree htree
  · exact lockstep_ofExcept _ fun _ _ h => h

theorem lockstep_resizeImage (image : PixelBuffer) (width height : Nat) :
    Lockstep (Scene.Alike agreed) (resizeImage resample image width height)
      (resizeImage resample image width height) (Scene.Alike agreed) (Scene.Alike agreed) := by
  unfold resizeImage
  dsimp only
  split
  · exact .bind (lockstep_note _ _ _) fun _ => lockstep_ofExcept _ fun _ _ h => h
  · exact lockstep_ofExcept _ fun _ _ h => h

theorem lockstep_produce (writer : Writer) {s : Settings}
    (himage : (loader s.inputPath t).1 = (loader s.inputPath t').1)
    (htree : (loader s.inputPath t).2.Alike agreed (loader s.inputPath t').2) :
    Lockstep (Scene.Untouched agreed t t') (produce resample writer loader none s)
      (produce resample writer loader none s) (Scene.Alike agreed) (Scene.Alike agreed) := by
  unfold produce
  refine lockstep_tree_bind fun scene scene' hs => ?_
  rw [hs.alike.tree.contains_eq]
  refine Lockstep.sameEnd ?_ hs
  refine .bind (lockstep_ofExcept _ fun _ _ h => h.alike) fun there => ?_
  split
  · exact lockstep_throw _ fun _ _ h => h.alike
  · refine .bind (lockstep_loadImage himage htree) fun image => ?_
    refine .bind (lockstep_advance .loaded) fun _ => ?_
    refine .bind (lockstep_note _ _ _) fun _ => ?_
    refine .bind (lockstep_resizeImage _ _ _) fun image => ?_
    refine .bind (lockstep_advance .resized) fun _ => ?_
    refine .bind (lockstep_ofExcept _ fun _ _ h => h) fun tensor => ?_
    refine .bind (lockstep_advance .normalized) fun _ => ?_
    refine .bind (lockstep_writeTensor _ _ _) fun byteCount => ?_
    exact .bind (lockstep_advance .serialized) fun _ => lockstep_pure _

theorem lockstep_concede (α : Type) (cause : Failure) :
    Lockstep (Scene.Alike agreed) (concede (α := α) none cause) (concede none cause)
      (Scene.Alike agreed) (Scene.Alike agreed) := by
  unfold concede
  split
  · refine lockstep_get_bind fun s s' hs => ?_
    rw [hs.reached_eq]
    refine Lockstep.sameEnd ?_ hs
    exact .bind (lockstep_note _ _ _) fun _ =>
      .bind (lockstep_advance _) fun _ => lockstep_throw _ fun _ _ h => h
  · exact lockstep_throw _ fun _ _ h => h

/-- From alike trees that load the same image, a conversion comes to the same end. -/
theorem lockstep_run (writer : Writer) {s : Settings}
    (himage : (loader s.inputPath t).1 = (loader s.inputPath t').1)
    (htree : (loader s.inputPath t).2.Alike agreed (loader s.inputPath t').2) :
    Lockstep (Scene.Untouched agreed t t') (run resample writer loader none s)
      (run resample writer loader none s) (Scene.Alike agreed) (Scene.Alike agreed) := by
  unfold run
  refine .bind (Q := Scene.Untouched agreed t t') ?_ fun _ => ?_
  · exact .bind (lockstep_modify fun _ _ h => h.reach .configured) fun _ => lockstep_pure _
  · refine .bind (lockstep_modify fun _ _ h => h.note _) fun _ => ?_
    refine .bind ((lockstep_produce writer himage htree).tryCatch (lockstep_concede _))
      fun summary => ?_
    refine .bind (lockstep_advance .done) fun _ => ?_
    exact .bind (lockstep_note _ _ _) fun _ => lockstep_pure _

end Conversion

end RasterTensor
