import RasterTensor.Json.Reader
import RasterTensor.Proofs.Json.Sorting
import RasterTensor.Proofs.Outcomes

/-!
# The limit of nesting

A reader of JSON that may go less deep gives the same answer as one that may go deeper, or breaks
off at an array or an object that is nested too deeply. The same holds of a writer. So the limit
decides on nothing else.
-/

namespace RasterTensor.Json

open Document

variable {ε α β : Type} {Deep : ε → Prop} {lone : Nat → Char}

/-- The first computation is the second one, unless it breaks off for going too deep. -/
def Approximates (Deep : ε → Prop) (x y : Except ε α) : Prop :=
  x = y ∨ ∃ e, Deep e ∧ x = .error e

namespace Approximates

variable {x y : Except ε α}

theorem refl (x : Except ε α) : Approximates Deep x x := .inl rfl

theorem bind {f g : α → Except ε β} (hx : Approximates Deep x y)
    (hf : ∀ a, Approximates Deep (f a) (g a)) : Approximates Deep (x >>= f) (y >>= g) := by
  rcases hx with rfl | ⟨e, he, rfl⟩
  · cases x with
    | error e => exact .refl _
    | ok a => exact hf a
  · exact .inr ⟨e, he, rfl⟩

theorem mapM {f g : α → Except ε β} (h : ∀ a, Approximates Deep (f a) (g a)) (l : List α) :
    Approximates Deep (l.mapM f) (l.mapM g) := by
  induction l with
  | nil => exact .refl _
  | cons a l ih =>
      rw [List.mapM_cons, List.mapM_cons]
      exact (h a).bind fun _ => ih.bind fun _ => .refl _

theorem eq_or_deep {a : α} (h : Approximates Deep x y) (hy : y = .ok a) :
    x = .ok a ∨ ∃ e, Deep e ∧ x = .error e := by
  rcases h with rfl | hdeep
  · exact .inl hy
  · exact .inr hdeep

theorem eq_of_ok {a : α} (h : Approximates Deep x y) (hx : x = .ok a) : y = .ok a := by
  rcases h with rfl | ⟨e, -, herror⟩
  · exact hx
  · rw [hx] at herror
    cases herror

end Approximates

inductive IsNested : ReadError → Prop
  | array : IsNested .nestedArray
  | object : IsNested .nestedObject

/-! ## Arrays and objects -/

variable {part part' : Cursor → Reading (α × Cursor)}

theorem approximates_readMembers (close : Char)
    (hpart : ∀ c, Approximates IsNested (part c) (part' c)) (fuel : Nat) (out : List α)
    (c : Cursor) :
    Approximates IsNested (readMembers close part fuel out c)
      (readMembers close part' fuel out c) := by
  induction fuel generalizing out c with
  | zero => exact .refl _
  | succ fuel ih =>
      rw [readMembers, readMembers]
      apply (hpart c).bind
      intro read
      apply (Approximates.refl _).bind
      intro follow
      cases follow with
      | closed after => exact .refl _
      | more after => exact ih _ after

theorem approximates_readBody (close : Char) (hpart : ∀ c, Approximates IsNested (part c) (part' c))
    (c : Cursor) : Approximates IsNested (readBody close part c) (readBody close part' c) := by
  unfold readBody
  dsimp only
  split
  · exact .refl _
  · exact approximates_readMembers close hpart _ _ _

theorem approximates_readEntry {value value' : Cursor → Reading (Value × Cursor)}
    (hvalue : ∀ c, Approximates IsNested (value c) (value' c)) (c : Cursor) :
    Approximates IsNested (readEntry lone value c) (readEntry lone value' c) := by
  unfold readEntry
  split
  · apply (Approximates.refl _).bind
    intro name
    dsimp only
    split
    · exact (hvalue _).bind fun _ => .refl _
    · exact .refl _
  · exact .refl _

/-! ## Values -/

theorem readValue_of_no_mark {c : Cursor} (harray : ∀ tail, c.rest ≠ '[' :: tail)
    (hobject : ∀ tail, c.rest ≠ '\x7b' :: tail) (depth : Nat) :
    readValue lone depth c = readValue.readScalar lone c := by
  cases depth <;>
  · rw [readValue]
    split
    · next tail hrest => exact absurd hrest (harray tail)
    · next tail hrest => exact absurd hrest (hobject tail)
    · rfl

theorem approximates_readValue {depth depth' : Nat} (hle : depth ≤ depth') (c : Cursor) :
    Approximates IsNested (readValue lone depth c) (readValue lone depth' c) := by
  -- By induction on the lower limit, which is spent one by one on opening marks.
  induction depth generalizing depth' c with
  | zero =>
      rw [readValue]
      split
      · exact .inr ⟨_, .array, rfl⟩
      · exact .inr ⟨_, .object, rfl⟩
      · next harray hobject =>
        rw [readValue_of_no_mark harray hobject]
        exact .refl _
  | succ depth ih =>
      obtain ⟨depth', rfl⟩ : ∃ n, depth' = n + 1 := ⟨depth' - 1, by omega⟩
      have hinner (c : Cursor) :
          Approximates IsNested (readValue lone depth c) (readValue lone depth' c) :=
        ih (by omega) c
      rw [readValue, readValue]
      split
      · exact (approximates_readBody ']' hinner _).bind fun _ => .refl _
      · exact (approximates_readBody '\x7d' (approximates_readEntry hinner) _).bind
          fun _ => .refl _
      · exact .refl _

/-- What can be read at one depth can be read at another, unless the limit there is lower. -/
theorem readValue_eq_or_nested {depth : Nat} {c : Cursor} {r : Value × Cursor}
    (h : readValue lone depth c = .ok r) (limit : Nat) :
    readValue lone limit c = .ok r ∨
      limit < depth ∧ ∃ e, IsNested e ∧ readValue lone limit c = .error e := by
  rcases Nat.lt_or_ge limit depth with hlt | hle
  · rcases (approximates_readValue (Nat.le_of_lt hlt) c).eq_or_deep h with heq | hnested
    · exact .inl heq
    · exact .inr ⟨hlt, hnested⟩
  · exact .inl ((approximates_readValue hle c).eq_of_ok h)

/-! ## Writing -/

theorem writeAll_eq_mapM (depth level : Nat) (items : List Value) :
    writeAll depth level items = items.mapM (write depth level) := by
  induction items with
  | nil => rfl
  | cons v items ih => rw [writeAll, List.mapM_cons, ih]

theorem writeEntries_eq_map (depth level : Nat) (entries : Entries) :
    writeEntries depth level entries = entries.map fun e => (e.1, write depth level e.2) := by
  induction entries with
  | nil => rfl
  | cons e entries ih => rw [writeEntries, List.map_cons, ih]

/-- The order of entries is that of their keys. Their texts and their depth have no part in it. -/
theorem write_mapping (depth level : Nat) (entries : Entries) :
    write (depth + 1) level (.mapping entries) = (do
      let sorted ← sortBy (fun x y => keyBelow x.1 y.1) entries
      let members ← sorted.mapM fun e => do
        let name ← keyText e.1
        return stringText name ++ ':' :: ' ' :: (← write depth (level + 1) e.2)
      return block '\x7b' '\x7d' level members) := by
  rw [write, if_neg (Nat.succ_ne_zero depth), writeEntries_eq_map]
  dsimp only
  rw [sortBy_map, Nat.add_one_sub_one]
  cases sortBy (fun x y : Value × Value => keyBelow x.1 y.1) entries with
  | error e => rfl
  | ok sorted => simp only [Except.map, ok_bind, List.mapM_map, Function.comp_def]

theorem approximates_write {depth depth' : Nat} (hle : depth ≤ depth') (level : Nat) (v : Value) :
    Approximates (· = .nested) (write depth level v) (write depth' level v) := by
  -- By induction on the lower limit, which is spent one by one on sequences and mappings.
  induction depth generalizing depth' level v with
  | zero =>
      cases v with
      | list items => exact .inr ⟨_, rfl, rfl⟩
      | tuple items => exact .inr ⟨_, rfl, rfl⟩
      | mapping entries => exact .inr ⟨_, rfl, rfl⟩
      | _ => exact .refl _
  | succ depth ih =>
      obtain ⟨depth', rfl⟩ : ∃ n, depth' = n + 1 := ⟨depth' - 1, by omega⟩
      have hinner (level : Nat) (v : Value) :
          Approximates (· = .nested) (write depth level v) (write depth' level v) :=
        ih (by omega) level v
      have hitems (items : List Value) : Approximates (· = .nested)
          (writeAll depth (level + 1) items) (writeAll depth' (level + 1) items) := by
        rw [writeAll_eq_mapM, writeAll_eq_mapM]
        exact .mapM (hinner _) items
      cases v with
      | list items => exact (hitems items).bind fun _ => .refl _
      | tuple items => exact (hitems items).bind fun _ => .refl _
      | mapping entries =>
          rw [write_mapping, write_mapping]
          apply (Approximates.refl _).bind
          intro sorted
          apply (Approximates.mapM _ sorted).bind
          · intro members
            exact .refl _
          · intro e
            exact (Approximates.refl _).bind fun _ => (hinner _ e.2).bind fun _ => .refl _
      | _ => exact .refl _

/-- What can be written at one depth can be written at another, unless the limit there is lower. -/
theorem write_eq_or_nested {depth level : Nat} {v : Value} {text : List Char}
    (h : write depth level v = .ok text) (limit : Nat) :
    write limit level v = .ok text ∨ limit < depth ∧ write limit level v = .error .nested := by
  rcases Nat.lt_or_ge limit depth with hlt | hle
  · rcases (approximates_write (Nat.le_of_lt hlt) level v).eq_or_deep h with heq | ⟨_, rfl, heq⟩
    · exact .inl heq
    · exact .inr ⟨hlt, heq⟩
  · exact .inl ((approximates_write hle level v).eq_of_ok h)

end RasterTensor.Json
