import RasterTensor.Proofs.Files.Alike
import RasterTensor.Proofs.Steps

/-!
# Steps in lockstep

Two steps run from two scenes with equal outcomes, and a relation of the scenes goes over into
another. There is a rule for each way of putting steps together.
-/

namespace RasterTensor.Step

open Files

variable {α β : Type}

/-- Two ends of steps with the same outcome: the scenes are related by `Q` after a value and by `E`
after a failure. -/
inductive SameEnd (Q E : Scene → Scene → Prop) :
    Except Failure α × Scene → Except Failure α × Scene → Prop
  | ok (a : α) {s s' : Scene} (h : Q s s') : SameEnd Q E (.ok a, s) (.ok a, s')
  | error (f : Failure) {s s' : Scene} (h : E s s') : SameEnd Q E (.error f, s) (.error f, s')

/-- From scenes that are related by `P` the steps come to the same end. -/
def Lockstep (P : Scene → Scene → Prop) (x x' : Step α) (Q E : Scene → Scene → Prop) : Prop :=
  ∀ s s', P s s' → SameEnd Q E (x.play s) (x'.play s')

variable {P Q R E E' : Scene → Scene → Prop} {x x' : Step α}

theorem Lockstep.sameEnd {s s' : Scene} (h : Lockstep P x x' Q E) (hs : P s s') :
    SameEnd Q E (x.play s) (x'.play s') := h s s' hs

theorem Lockstep.bind {f f' : α → Step β} (hx : Lockstep P x x' Q E)
    (hf : ∀ a, Lockstep Q (f a) (f' a) R E) : Lockstep P (x >>= f) (x' >>= f') R E := by
  intro s s' hs
  rw [play_bind, play_bind]
  have hend := hx s s' hs
  generalize x.play s = y, x'.play s' = y' at hend
  cases hend with
  | ok a h => exact hf a _ _ h
  | error e h => exact .error e h

theorem Lockstep.tryCatch {handle handle' : Failure → Step α} (hx : Lockstep P x x' Q E)
    (hhandle : ∀ f, Lockstep E (handle f) (handle' f) Q E') :
    Lockstep P (tryCatch x handle) (tryCatch x' handle') Q E' := by
  intro s s' hs
  rw [play_tryCatch, play_tryCatch]
  have hend := hx s s' hs
  generalize x.play s = y, x'.play s' = y' at hend
  cases hend with
  | ok a h => exact .ok a h
  | error f h => exact hhandle f _ _ h

theorem lockstep_pure (a : α) : Lockstep P (pure a) (pure a) P E := fun _ _ hs => .ok a hs

theorem lockstep_throw (f : Failure) (h : ∀ s s', P s s' → E s s') :
    Lockstep P (throw f : Step α) (throw f) Q E := fun s s' hs => .error f (h s s' hs)

theorem lockstep_ofExcept (r : Except Failure α) (h : ∀ s s', P s s' → E s s') :
    Lockstep P (ofExcept r) (ofExcept r) P E := by
  cases r with
  | ok a => exact lockstep_pure a
  | error f => exact lockstep_throw f h

theorem lockstep_modify {f f' : Scene → Scene} (h : ∀ s s', P s s' → Q (f s) (f' s')) :
    Lockstep P (modify f) (modify f') Q E := fun s s' hs => .ok () (h s s' hs)

theorem lockstep_get_bind {f f' : Scene → Step α}
    (h : ∀ s s', P s s' → SameEnd Q E ((f s).play s) ((f' s').play s')) :
    Lockstep P (get >>= f) (get >>= f') Q E := by
  intro s s' hs
  exact h s s' hs

theorem lockstep_tree_bind {f f' : Tree → Step α}
    (h : ∀ s s', P s s' → SameEnd Q E ((f s.tree).play s) ((f' s'.tree).play s')) :
    Lockstep P (tree >>= f) (tree >>= f') Q E := by
  intro s s' hs
  rw [play_bind, play_bind]
  exact h s s' hs

theorem lockstep_setTree_bind {g g' : Tree → Tree}
    (h : ∀ s s', P s s' → Q { s with tree := g s.tree } { s' with tree := g' s'.tree })
    (hx : Lockstep Q x x' R E) :
    Lockstep P (tree >>= fun t => setTree (g t) >>= fun _ => x)
      (tree >>= fun t => setTree (g' t) >>= fun _ => x') R E := by
  refine lockstep_tree_bind fun s s' hs => ?_
  rw [play_bind, play_bind]
  exact hx _ _ (h s s' hs)

theorem lockstep_change {f f' : Tree → Except Failure α × Tree}
    (houtcome : ∀ s s', P s s' → (f s.tree).1 = (f' s'.tree).1)
    (hscene : ∀ s s', P s s' →
      Q { s with tree := (f s.tree).2 } { s' with tree := (f' s'.tree).2 })
    (hfailed : ∀ s s', Q s s' → E s s') : Lockstep P (change f) (change f') Q E := by
  intro s s' hs
  rw [play_change, play_change, houtcome s s' hs]
  cases (f' s'.tree).1 with
  | ok a => exact .ok a (hscene s s' hs)
  | error e => exact .error e (hfailed _ _ (hscene s s' hs))

end RasterTensor.Step
