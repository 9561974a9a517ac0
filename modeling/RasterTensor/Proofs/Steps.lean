import RasterTensor.Scene

/-!
# Reasoning about steps

A step that succeeds is peeled apart into the steps it is made of. What holds however a step ends
is a pair of predicates, one for its value and one for its failure, with a rule for each way of
putting steps together.
-/

namespace RasterTensor.Step

open Files

variable {α β : Type} {s s' : Scene}

theorem play_bind_eq_ok {x : Step α} {f : α → Step β} {b : β} :
    (x >>= f).play s = (.ok b, s') ↔
      ∃ a s₁, x.play s = (.ok a, s₁) ∧ (f a).play s₁ = (.ok b, s') := by
  rw [play_bind]
  rcases x.play s with ⟨e | a, s₁⟩
  · simp
  · constructor
    · intro h
      exact ⟨a, s₁, rfl, h⟩
    · rintro ⟨a', s', heq, h⟩
      cases heq
      exact h

theorem play_tryCatch_eq_ok {x : Step α} {handle : Failure → Step α} {a : α}
    (hhandle : ∀ f s₁ a s₂, (handle f).play s₁ ≠ (.ok a, s₂)) :
    (tryCatch x handle).play s = (.ok a, s') ↔ x.play s = (.ok a, s') := by
  rw [play_tryCatch]
  rcases x.play s with ⟨f | b, s₁⟩
  · simp [hhandle f s₁ a s']
  · simp

@[simp] theorem play_modify (f : Scene → Scene) :
    (modify f : Step Unit).play s = (.ok (), f s) := rfl

@[simp] theorem play_ofFile (r : Except Files.Error α) : (ofFile r).play s = (liftFile r, s) :=
  play_ofExcept s (liftFile r)

/-- From every scene with `P` the step gives a value with `Q`, or fails with `E`. -/
def Ends (P : Scene → Prop) (x : Step α) (Q : α → Scene → Prop)
    (E : Failure → Scene → Prop) : Prop :=
  ∀ s, P s →
    match x.play s with
    | (.ok a, s') => Q a s'
    | (.error f, s') => E f s'

variable {P : Scene → Prop} {Q : α → Scene → Prop} {R : β → Scene → Prop}
  {E E' : Failure → Scene → Prop}

theorem Ends.of_ok {x : Step α} {a : α} (h : Ends P x Q E) (hs : P s)
    (hplay : x.play s = (.ok a, s')) : Q a s' := by
  have hend := h s hs
  rwa [hplay] at hend

theorem Ends.of_error {x : Step α} {f : Failure} (h : Ends P x Q E) (hs : P s)
    (hplay : x.play s = (.error f, s')) : E f s' := by
  have hend := h s hs
  rwa [hplay] at hend

theorem Ends.bind {x : Step α} {f : α → Step β} (hx : Ends P x Q E)
    (hf : ∀ a, Ends (Q a) (f a) R E) : Ends P (x >>= f) R E := by
  intro s hs
  rw [play_bind]
  cases hplay : x.play s with
  | mk outcome s₁ =>
      cases outcome with
      | ok a => exact hf a s₁ (hx.of_ok hs hplay)
      | error e => exact hx.of_error hs hplay

theorem Ends.tryCatch {x : Step α} {handle : Failure → Step α} (hx : Ends P x Q E)
    (hhandle : ∀ f, Ends (E f) (handle f) Q E') : Ends P (tryCatch x handle) Q E' := by
  intro s hs
  rw [play_tryCatch]
  cases hplay : x.play s with
  | mk outcome s₁ =>
      cases outcome with
      | ok a => exact hx.of_ok hs hplay
      | error f => exact hhandle f s₁ (hx.of_error hs hplay)

theorem ends_pure {a : α} (h : ∀ s, P s → Q a s) : Ends P (pure a) Q E := h

theorem ends_throw {f : Failure} (h : ∀ s, P s → E f s) : Ends P (throw f : Step α) Q E := h

theorem ends_note {severity : Severity} {speaker : Speaker} {text : String}
    (h : ∀ s notes, P s → P { s with notes }) :
    Ends P (note severity speaker text) (fun _ => P) E := fun s hs => h s _ hs

end RasterTensor.Step
