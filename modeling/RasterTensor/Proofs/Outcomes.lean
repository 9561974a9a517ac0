import RasterTensor.Failure

/-!
# Outcomes

A computation that can fail succeeds exactly when each of its parts does in turn. Failures that
are taken over from values and from files add no success. What holds however a computation ends is
a pair of predicates, one for its value and one for its failure.
-/

namespace RasterTensor

open Document

variable {ε ε' α β : Type}

theorem bind_eq_ok {x : Except ε α} {f : α → Except ε β} {b : β} :
    x >>= f = .ok b ↔ ∃ a, x = .ok a ∧ f a = .ok b := by
  cases x <;> simp [bind, Except.bind]

@[simp] theorem ok_bind (a : α) (f : α → Except ε β) : (.ok a : Except ε α) >>= f = f a := rfl

theorem pure_eq_ok {a b : α} : (pure a : Except ε α) = .ok b ↔ a = b := by
  simp [pure, Except.pure]

theorem bind_throw_ne_ok (x : Except ε α) (g : α → ε) (b : β) :
    (x >>= fun a => throw (g a) : Except ε β) ≠ .ok b := by
  cases x <;> nofun

theorem eq_ok_of_toOption {x : Except ε α} {a : α} (h : x.toOption = some a) :
    x = .ok a := by
  cases x with
  | error e => cases h
  | ok b => exact congrArg _ (Option.some.inj h)

theorem map_eq_ok {x : Except ε α} {f : α → β} {b : β} :
    x.map f = .ok b ↔ ∃ a, x = .ok a ∧ f a = b := by
  cases x <;> simp [Except.map]

def failure? : Except ε α → Option ε
  | .ok _ => none
  | .error e => some e

theorem eq_error_of_failure? {x : Except ε α} {e : ε} (h : failure? x = some e) :
    x = .error e := by
  cases x with
  | ok a => cases h
  | error e' => exact congrArg _ (Option.some.inj h)

theorem eq_ok_getD_of_isOk {x : Except ε α} (h : x.isOk = true) (default : α) :
    x = .ok (x.toOption.getD default) := by
  cases x with
  | error e => cases h
  | ok a => rfl

@[simp] theorem mapError_eq_ok {x : Except ε α} {f : ε → ε'} {a : α} :
    x.mapError f = .ok a ↔ x = .ok a := by
  constructor
  · intro h
    cases x with
    | error e => cases h
    | ok b => exact congrArg _ (Except.ok.inj h)
  · rintro rfl
    rfl

@[simp] theorem liftFile_eq_ok {x : Except Files.Error α} {a : α} :
    liftFile x = .ok a ↔ x = .ok a := by
  cases x <;> simp [liftFile]

@[simp] theorem liftText_eq_ok {x : Except TextFault α} {a : α} : liftText x = .ok a ↔ x = .ok a :=
  mapError_eq_ok

@[simp] theorem liftM_text (x : Except TextFault α) :
    (liftM x : Except Failure α) = liftText x := rfl

@[simp] theorem liftText_ok (a : α) : liftText (.ok a : Except TextFault α) = .ok a := rfl

@[simp] theorem liftM_file_ok (a : α) :
    (liftM (.ok a : Except Files.Error α) : Except Failure α) = .ok a := rfl

@[simp] theorem liftM_coercion_ok (a : α) :
    (liftM (.ok a : Except CoercionError α) : Except Failure α) = .ok a := rfl

@[simp] theorem liftM_coercion_eq_ok {x : Except CoercionError α} {a : α} :
    (liftM x : Except Failure α) = .ok a ↔ x = .ok a := by
  cases x with
  | error e => exact iff_of_false (fun h => by cases h) fun h => by cases h
  | ok b => simp

/-! ## A list of computations -/

theorem exists_of_mapM_error {f : α → Except ε β} {e : ε} {l : List α}
    (h : l.mapM f = .error e) :
    ∃ front a back, l = front ++ a :: back ∧ (∀ b ∈ front, ∃ c, f b = .ok c) ∧ f a = .error e := by
  induction l with
  | nil => cases h
  | cons a l ih =>
      rw [List.mapM_cons] at h
      cases ha : f a with
      | error e' =>
          rw [ha] at h
          cases h
          exact ⟨[], a, l, rfl, List.forall_mem_nil _, ha⟩
      | ok c =>
          have htail : l.mapM f = .error e := by
            cases hl : l.mapM f with
            | error e' =>
                rw [ha, ok_bind, hl] at h
                exact h
            | ok cs =>
                rw [ha, ok_bind, hl] at h
                cases h
          obtain ⟨front, b, back, rfl, hfront, hb⟩ := ih htail
          exact ⟨a :: front, b, back, rfl, List.forall_mem_cons.mpr ⟨⟨c, ha⟩, hfront⟩, hb⟩

theorem mapM_perm {f : α → Except ε β} {l l' : List α} {bs : List β}
    (h : l.Perm l') (hbs : l.mapM f = .ok bs) : ∃ bs', l'.mapM f = .ok bs' ∧ bs.Perm bs' := by
  induction h generalizing bs with
  | nil => exact ⟨bs, hbs, .refl _⟩
  | cons a _ ih =>
      simp only [List.mapM_cons, bind_eq_ok, pure_eq_ok] at hbs ⊢
      obtain ⟨b, hb, rest, hrest, rfl⟩ := hbs
      obtain ⟨rest', hrest', hperm⟩ := ih hrest
      exact ⟨b :: rest', ⟨b, hb, rest', hrest', rfl⟩, hperm.cons b⟩
  | swap a c l =>
      simp only [List.mapM_cons, bind_eq_ok, pure_eq_ok] at hbs ⊢
      obtain ⟨d, hd, _, ⟨b, hb, rest, hrest, rfl⟩, rfl⟩ := hbs
      exact ⟨b :: d :: rest, ⟨b, hb, _, ⟨d, hd, rest, hrest, rfl⟩, rfl⟩, .swap b d rest⟩
  | trans _ _ ih ih' =>
      obtain ⟨middle, hmiddle, hperm⟩ := ih hbs
      obtain ⟨last, hlast, hperm'⟩ := ih' hmiddle
      exact ⟨last, hlast, hperm.trans hperm'⟩

/-! ## Predicates for both ends -/

/-- A computation gives a value with `Q`, or fails with `E`. -/
def Ends (Q : α → Prop) (E : ε → Prop) (x : Except ε α) : Prop :=
  match x with
  | .ok a => Q a
  | .error e => E e

namespace Ends

variable {Q Q' : α → Prop} {R : β → Prop} {E E' : ε → Prop} {x y : Except ε α}

theorem ok {a : α} (h : Q a) : Ends Q E (.ok a) := h

theorem error {e : ε} (h : E e) : Ends Q E (.error e) := h

theorem raise {Q : α → Prop} {E : Failure → Prop} {f : Failure} (h : E f)
    (hlong : E .integerTooLong) : Ends Q E (f.raise : Except Failure α) := by
  unfold Failure.raise
  split
  · exact h
  · exact hlong

theorem of_ok {a : α} (h : Ends Q E x) (hx : x = .ok a) : Q a := by
  rwa [hx] at h

theorem of_error {e : ε} (h : Ends Q E x) (hx : x = .error e) : E e := by
  rwa [hx] at h

theorem imp (hx : Ends Q E x) (hQ : ∀ a, Q a → Q' a) (hE : ∀ e, E e → E' e) : Ends Q' E' x := by
  cases x with
  | ok a => exact hQ a hx
  | error e => exact hE e hx

theorem bind {g : α → Except ε β} (hx : Ends Q E x) (hg : ∀ a, Q a → Ends R E (g a)) :
    Ends R E (x >>= g) := by
  cases x with
  | ok a => exact hg a hx
  | error e => exact hx

theorem ite {c : Prop} [Decidable c] (hx : Ends Q E x) (hy : Ends Q E y) :
    Ends Q E (if c then x else y) := by
  split
  · exact hx
  · exact hy

theorem guard {c : Prop} [Decidable c] {e : ε} {rest : Unit → Except ε α} (he : E e)
    (h : Ends Q E (rest ())) :
    Ends Q E (if c then (throw e : Except ε Unit) >>= rest else rest ()) :=
  .ite (.error he) h

theorem mapM {g : α → Except ε β} {l : List α} (hg : ∀ a ∈ l, Ends R E (g a)) :
    Ends (fun bs => ∀ b ∈ bs, R b) E (l.mapM g) := by
  induction l with
  | nil => exact ok fun b hb => nomatch hb
  | cons a rest ih =>
      rw [List.forall_mem_cons] at hg
      rw [List.mapM_cons]
      exact hg.1.bind fun b hb => (ih hg.2).bind fun bs hbs =>
        ok (List.forall_mem_cons.mpr ⟨hb, hbs⟩)

end Ends

/-- A loop of checks goes through exactly when each of them does. -/
theorem forIn_eq_ok_iff {l : List α} {check : α → Except ε (ForInStep PUnit)} {P : α → Prop}
    (h : ∀ a, Ends (fun step => P a ∧ step = .yield ⟨⟩) (fun _ => ¬ P a) (check a)) :
    (∃ u, (forIn l PUnit.unit fun a _ => check a) = .ok u) ↔ ∀ a ∈ l, P a := by
  induction l with
  | nil => exact iff_of_true ⟨_, rfl⟩ (by simp)
  | cons a rest ih =>
      have ha := h a
      rw [List.forIn_cons, List.forall_mem_cons, ← ih]
      cases hcheck : check a with
      | error e =>
          rw [hcheck] at ha
          exact iff_of_false (fun ⟨u, hu⟩ => by cases hu) fun hall => ha hall.1
      | ok step =>
          rw [hcheck] at ha
          obtain ⟨hP, rfl⟩ := ha
          rw [ok_bind]
          exact (and_iff_right hP).symm

end RasterTensor
