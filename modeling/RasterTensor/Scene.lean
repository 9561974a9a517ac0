import RasterTensor.Failure
import RasterTensor.Files.Tree
import RasterTensor.Journal

/-!
# The scene of a run

A run changes files, keeps a journal, passes through stages, and loads images. A step of a run
can change all of these also when it fails.
-/

namespace RasterTensor

open Files

inductive Stage where
  | configured
  | loaded
  | resized
  | normalized
  | serialized
  | done
  | failed
  deriving DecidableEq

def Stage.name : Stage → String
  | .configured => "configured"
  | .loaded => "loaded"
  | .resized => "resized"
  | .normalized => "normalized"
  | .serialized => "serialized"
  | .done => "done"
  | .failed => "failed"

structure Scene where
  tree : Tree
  notes : List Note
  /-- The stages in the order in which they were reached. -/
  reached : List Stage
  /-- The path names in the order in which images were loaded from them. -/
  loaded : List PathName

def Scene.opening (tree : Tree) : Scene := ⟨tree, [], [], []⟩

abbrev Step (α : Type) := ExceptT Failure (StateM Scene) α

namespace Step

def note (severity : Severity) (speaker : Speaker) (text : String) : Step Unit :=
  modify fun s => { s with notes := s.notes ++ [⟨severity, speaker, text⟩] }

/-- A step that fails or gives a value, and changes nothing. -/
def ofExcept {α : Type} : Except Failure α → Step α
  | .ok a => pure a
  | .error f => throw f

def ofFile {α : Type} (r : Except Files.Error α) : Step α := ofExcept (liftFile r)

def tree : Step Tree := return (← get).tree

def setTree (t : Tree) : Step Unit := modify fun s => { s with tree := t }

/-- A change of the files that can fail and leave them changed. -/
def change {α : Type} (f : Tree → Except Failure α × Tree) : Step α := do
  let (outcome, t) := f (← tree)
  setTree t
  ofExcept outcome

/-- Runs a step from a scene. -/
def play {α : Type} (step : Step α) (s : Scene) : Except Failure α × Scene := step.run.run s

variable {α β : Type} (s : Scene)

@[simp] theorem play_pure (a : α) : (pure a : Step α).play s = (.ok a, s) := rfl

@[simp] theorem play_throw (f : Failure) : (throw f : Step α).play s = (.error f, s) := rfl

theorem play_bind (x : Step α) (f : α → Step β) :
    (x >>= f).play s =
      match x.play s with
      | (.ok a, s') => (f a).play s'
      | (.error e, s') => (.error e, s') := by
  unfold play ExceptT.run StateT.run
  simp only [bind, ExceptT.bind, ExceptT.mk, StateT.bind, ExceptT.bindCont]
  rcases x s with ⟨_ | _, _⟩ <;> rfl

theorem play_tryCatch (x : Step α) (handle : Failure → Step α) :
    (tryCatch x handle).play s =
      match x.play s with
      | (.ok a, s') => (.ok a, s')
      | (.error f, s') => (handle f).play s' := by
  unfold play ExceptT.run StateT.run
  simp only [tryCatch, tryCatchThe, MonadExceptOf.tryCatch, ExceptT.tryCatch, ExceptT.mk, bind,
    StateT.bind]
  rcases x s with ⟨_ | _, _⟩ <;> rfl

@[simp] theorem play_note (severity : Severity) (speaker : Speaker) (text : String) :
    (note severity speaker text).play s =
      (.ok (), { s with notes := s.notes ++ [⟨severity, speaker, text⟩] }) := rfl

@[simp] theorem play_tree : tree.play s = (.ok s.tree, s) := rfl

@[simp] theorem play_setTree (t : Tree) : (setTree t).play s = (.ok (), { s with tree := t }) := rfl

@[simp] theorem play_ofExcept (r : Except Failure α) : (ofExcept r).play s = (r, s) := by
  cases r <;> rfl

@[simp] theorem play_change (f : Tree → Except Failure α × Tree) :
    (change f).play s = ((f s.tree).1, { s with tree := (f s.tree).2 }) := by
  simp [change, play_bind]

end Step

end RasterTensor
