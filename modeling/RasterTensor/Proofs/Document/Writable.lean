import RasterTensor.Document.Coerce
import RasterTensor.Proofs.Binary.Rounding
import RasterTensor.Proofs.Decimal.Numerals
import RasterTensor.Proofs.Outcomes

/-!
# Values that can be written

A value has a text when no integer in it has too many digits and its members are not too deep. Its
parts then have texts too, and so has the integer that it is read as: no numeral has more digits
than may be written, and no float reaches an integer of that size.
-/

namespace RasterTensor

open Binary Document

namespace Binary

theorem Format.natAbs_truncate?_lt {f : Format} {bits : ℕ} {i : ℤ} {k : ℕ}
    (hp : 0 < f.precision) (hk : f.leastExponent + (2 ^ f.exponentBits : ℕ) ≤ k)
    (h : (f.decode bits).truncate? = some i) : i.natAbs < 2 ^ (f.precision + k) := by
  unfold Number.truncate? at h
  split at h
  · next s m e heq =>
    obtain ⟨hm, he⟩ := lt_of_decode hp heq
    cases h
    rw [Decimal.natAbs_signed, Nat.pow_add]
    split
    · have hshift : e.toNat ≤ k := by omega
      calc m <<< e.toNat = m * 2 ^ e.toNat := Nat.shiftLeft_eq ..
        _ ≤ m * 2 ^ k := Nat.mul_le_mul_left m (Nat.pow_le_pow_right (by decide) hshift)
        _ < 2 ^ f.precision * 2 ^ k := Nat.mul_lt_mul_of_pos_right hm (Nat.two_pow_pos k)
    · calc m >>> (-e).toNat ≤ m := Nat.shiftRight_le ..
        _ < 2 ^ f.precision := hm
        _ ≤ 2 ^ f.precision * 2 ^ k := Nat.le_mul_of_pos_right _ (Nat.two_pow_pos k)
  · cases h

/-- No number of 64 bits has an integer part of too many digits. -/
theorem Binary64.natAbs_truncate?_lt {x : Binary64} {i : ℤ} (h : x.number.truncate? = some i) :
    i.natAbs < Decimal.integerLimit := by
  have hexponent : Format.double.leastExponent + (2 ^ Format.double.exponentBits : ℕ) ≤
      (974 : ℕ) := by decide
  have hpow (k : ℕ) (hk : Format.double.precision + 974 ≤ k) : i.natAbs < Nat.pow 10 k :=
    calc i.natAbs < 2 ^ (Format.double.precision + 974) :=
          Format.natAbs_truncate?_lt (by decide) hexponent h
      _ ≤ 2 ^ k := Nat.pow_le_pow_right (by decide) hk
      _ ≤ 10 ^ k := Nat.pow_le_pow_left (by decide) k
  unfold Decimal.integerLimit
  exact hpow Decimal.maxIntegerDigits (by decide)

end Binary

namespace Document.Value

/-- Whether every integer in a value is short enough to be written as text. -/
def isWritable : Value → Bool
  | .int i => i.natAbs < Decimal.integerLimit
  | .list items | .tuple items | .set items => areWritable items
  | .mapping entries => entriesAreWritable entries
  | _ => true
where
  areWritable : List Value → Bool
    | [] => true
    | v :: rest => v.isWritable && areWritable rest
  entriesAreWritable : List (Value × Value) → Bool
    | [] => true
    | (k, v) :: rest => k.isWritable && v.isWritable && entriesAreWritable rest

/-- How many levels of members a value has. Those of a set count as members of a list in it. -/
def nesting : Value → Nat
  | .list items | .tuple items => nestingOfAll items
  | .set members => if members.isEmpty then 0 else nestingOfAll members + 1
  | .mapping entries => nestingOfEntries entries
  | _ => 0
where
  nestingOfAll : List Value → Nat
    | [] => 0
    | v :: rest => max (v.nesting + 1) (nestingOfAll rest)
  nestingOfEntries : List (Value × Value) → Nat
    | [] => 0
    | (k, v) :: rest => max (max k.nesting v.nesting + 1) (nestingOfEntries rest)

/-- A value has what it takes to have no text for a reason. -/
def Explains (v : Value) (depth : Nat) : TextFault → Prop
  | .integerTooLong => v.isWritable = false
  | .nested => depth < v.nesting

/-- A value has what it takes to have a text. -/
def HasText (v : Value) (depth : Nat) : Prop := v.isWritable = true ∧ v.nesting ≤ depth

theorem entriesAreWritable_eq (entries : Entries) :
    isWritable.entriesAreWritable entries =
      entries.all fun entry => entry.1.isWritable && entry.2.isWritable := by
  induction entries with
  | nil => rfl
  | cons entry rest ih => rw [isWritable.entriesAreWritable, List.all_cons, ih]

theorem isWritable_of_mem {entries : Entries} (h : (mapping entries).isWritable = true)
    {entry : Value × Value} (hentry : entry ∈ entries) :
    entry.1.isWritable = true ∧ entry.2.isWritable = true := by
  rw [isWritable, entriesAreWritable_eq] at h
  simpa using List.all_eq_true.mp h entry hentry

theorem nesting_lt_of_mem {entries : Entries} {entry : Value × Value} (hentry : entry ∈ entries) :
    entry.1.nesting < (mapping entries).nesting ∧ entry.2.nesting < (mapping entries).nesting := by
  induction entries with
  | nil => cases hentry
  | cons head rest ih =>
      change _ < max (max head.1.nesting head.2.nesting + 1) (mapping rest).nesting ∧
        _ < max (max head.1.nesting head.2.nesting + 1) (mapping rest).nesting
      rcases List.mem_cons.mp hentry with rfl | hrest
      · omega
      · have := ih hrest
        omega

theorem exists_mem_of_find? {entries : Entries} {key v : Value}
    (hfind : Entries.find? key entries = some v) : ∃ entry ∈ entries, entry.2 = v := by
  induction entries with
  | nil => cases hfind
  | cons entry rest ih =>
      rw [Entries.find?] at hfind
      split at hfind
      · exact ⟨entry, List.mem_cons_self, Option.some.inj hfind⟩
      · obtain ⟨found, hfound, hv⟩ := ih hfind
        exact ⟨found, List.mem_cons_of_mem _ hfound, hv⟩

/-- What a part cannot be written for, the mapping that holds it cannot be written for. -/
theorem Explains.of_key {entries : Entries} {entry : Value × Value} {depth : Nat} {e : TextFault}
    (h : entry.1.Explains depth e) (hentry : entry ∈ entries) :
    (mapping entries).Explains depth e := by
  cases e with
  | integerTooLong =>
      refine Bool.eq_false_iff.mpr fun hall => ?_
      exact Bool.eq_false_iff.mp h (isWritable_of_mem hall hentry).1
  | nested => exact Nat.lt_trans h (nesting_lt_of_mem hentry).1

theorem Explains.of_value {entries : Entries} {entry : Value × Value} {depth : Nat} {e : TextFault}
    (h : entry.2.Explains depth e) (hentry : entry ∈ entries) :
    (mapping entries).Explains depth e := by
  cases e with
  | integerTooLong =>
      refine Bool.eq_false_iff.mpr fun hall => ?_
      exact Bool.eq_false_iff.mp h (isWritable_of_mem hall hentry).2
  | nested => exact Nat.lt_trans h (nesting_lt_of_mem hentry).2

theorem Explains.mono {v : Value} {depth less : Nat} {e : TextFault} (h : v.Explains depth e)
    (hless : less ≤ depth) : v.Explains less e := by
  cases e with
  | integerTooLong => exact h
  | nested => exact Nat.lt_of_le_of_lt hless h

theorem HasText.not_explains {v : Value} {depth less : Nat} (h : v.HasText less)
    (hless : less ≤ depth) (e : TextFault) : ¬ v.Explains depth e := by
  intro he
  cases e with
  | integerTooLong => exact Bool.eq_false_iff.mp he h.1
  | nested => exact absurd he (Nat.not_lt.mpr (Nat.le_trans h.2 hless))

/-! ## Values with a text -/

theorem isWritable_int_iff {i : ℤ} :
    (int i).isWritable = true ↔ i.natAbs < Decimal.integerLimit := by
  simp [isWritable]

theorem integerShown_eq {i : ℤ} : integerShown i =
    if (int i).isWritable then .ok (Text.integerText i) else .error .integerTooLong := by
  rw [integerShown]
  by_cases h : i.natAbs < Decimal.integerLimit
  · rw [if_pos h, if_pos (isWritable_int_iff.mpr h)]
  · rw [if_neg h, if_neg (mt isWritable_int_iff.mp h)]

theorem ends_integerShown (i : ℤ) (depth : ℕ) :
    Ends (fun _ => (int i).HasText depth) ((int i).Explains depth) (integerShown i) := by
  rw [integerShown_eq]
  generalize hwritable : (int i).isWritable = b
  cases b with
  | true => exact ⟨hwritable, Nat.zero_le _⟩
  | false => exact hwritable

theorem shown_int (i : ℤ) (depth : ℕ) : (int i).shown depth = integerShown i := by rw [shown]

section Members

variable {k v : Value} {rest : List Value} {entries : Entries} {depth : ℕ} {e : TextFault}

theorem HasText.cons (h : v.HasText depth) (hrest : (list rest).HasText (depth + 1)) :
    (list (v :: rest)).HasText (depth + 1) := by
  refine ⟨?_, Nat.max_le.mpr ⟨Nat.succ_le_succ h.2, hrest.2⟩⟩
  change (v.isWritable && (list rest).isWritable) = true
  rw [h.1, hrest.1, Bool.and_true]

theorem HasText.cons_entry (hkey : k.HasText depth) (h : v.HasText depth)
    (hrest : (mapping entries).HasText (depth + 1)) :
    (mapping ((k, v) :: entries)).HasText (depth + 1) := by
  refine ⟨?_, Nat.max_le.mpr ⟨Nat.succ_le_succ (Nat.max_le.mpr ⟨hkey.2, h.2⟩), hrest.2⟩⟩
  change (k.isWritable && v.isWritable && (mapping entries).isWritable) = true
  rw [hkey.1, h.1, hrest.1, Bool.and_true, Bool.and_true]

theorem Explains.head (h : v.Explains depth e) (rest : List Value) :
    (list (v :: rest)).Explains (depth + 1) e := by
  cases e with
  | integerTooLong =>
      change (v.isWritable && (list rest).isWritable) = false
      rw [show v.isWritable = false from h, Bool.false_and]
  | nested => exact lt_max_of_lt_left (Nat.succ_lt_succ h)

theorem Explains.tail (h : (list rest).Explains depth e) (v : Value) :
    (list (v :: rest)).Explains depth e := by
  cases e with
  | integerTooLong =>
      change (v.isWritable && (list rest).isWritable) = false
      rw [show (list rest).isWritable = false from h, Bool.and_false]
  | nested => exact lt_max_of_lt_right h

theorem Explains.head_key (h : k.Explains depth e) (v : Value) (entries : Entries) :
    (mapping ((k, v) :: entries)).Explains (depth + 1) e := by
  cases e with
  | integerTooLong =>
      change (k.isWritable && v.isWritable && (mapping entries).isWritable) = false
      rw [show k.isWritable = false from h, Bool.false_and, Bool.false_and]
  | nested => exact lt_max_of_lt_left (Nat.succ_lt_succ (lt_max_of_lt_left h))

theorem Explains.head_value (h : v.Explains depth e) (k : Value) (entries : Entries) :
    (mapping ((k, v) :: entries)).Explains (depth + 1) e := by
  cases e with
  | integerTooLong =>
      change (k.isWritable && v.isWritable && (mapping entries).isWritable) = false
      rw [show v.isWritable = false from h, Bool.and_false, Bool.false_and]
  | nested => exact lt_max_of_lt_left (Nat.succ_lt_succ (lt_max_of_lt_right h))

theorem Explains.tail_entries (h : (mapping entries).Explains depth e) (k v : Value) :
    (mapping ((k, v) :: entries)).Explains depth e := by
  cases e with
  | integerTooLong =>
      change (k.isWritable && v.isWritable && (mapping entries).isWritable) = false
      rw [show (mapping entries).isWritable = false from h, Bool.and_false]
  | nested => exact lt_max_of_lt_right h

theorem HasText.set (h : (list (v :: rest)).HasText (depth - 1)) :
    (set (v :: rest)).HasText depth := by
  have hpos : 0 < (list (v :: rest)).nesting := lt_max_of_lt_left (Nat.succ_pos _)
  have hle : (list (v :: rest)).nesting ≤ depth - 1 := h.2
  refine ⟨h.1, ?_⟩
  change (list (v :: rest)).nesting + 1 ≤ depth
  omega

theorem Explains.set (h : (list (v :: rest)).Explains (depth - 1) e) :
    (set (v :: rest)).Explains depth e := by
  cases e with
  | integerTooLong => exact h
  | nested =>
      change depth - 1 < (list (v :: rest)).nesting at h
      change depth < (list (v :: rest)).nesting + 1
      omega

end Members

mutual

/-- A value has a text exactly when no integer in it is too long and its members are not too deep,
and where it has none that is for one of these. -/
theorem ends_shown (v : Value) (depth : ℕ) :
    Ends (fun _ => v.HasText depth) (v.Explains depth) (v.shown depth) := by
  cases v with
  | int i =>
      rw [shown_int]
      exact ends_integerShown i depth
  | list items => exact (ends_shownAll items depth).bind fun _ h => .ok h
  | tuple items => exact (ends_shownAll items depth).bind fun _ h => .ok h
  | set members =>
      cases members with
      | nil => exact .ok ⟨rfl, Nat.zero_le _⟩
      | cons v rest =>
          exact ((ends_shownAll (v :: rest) (depth - 1)).imp (fun _ => HasText.set)
            fun _ => Explains.set).bind fun _ h => .ok h
  | mapping entries => exact (ends_shownEntries entries depth).bind fun _ h => .ok h
  | _ => exact .ok ⟨rfl, Nat.zero_le _⟩

theorem ends_shownAll (items : List Value) (depth : ℕ) :
    Ends (fun _ => (list items).HasText depth) ((list items).Explains depth)
      (shown.shownAll items depth) := by
  match items, depth with
  | [], _ => exact .ok ⟨rfl, Nat.zero_le _⟩
  | v :: rest, 0 => exact .error (lt_max_of_lt_left (Nat.succ_pos _))
  | v :: rest, depth + 1 =>
      have hhead := (ends_shown v depth).imp (fun _ h => h) fun _ h => h.head rest
      have htail := (ends_shownAll rest (depth + 1)).imp (fun _ h => h) fun _ h =>
        h.tail v
      exact hhead.bind fun _ h => htail.bind fun _ hrest => .ok (h.cons hrest)

theorem ends_shownEntries (entries : Entries) (depth : ℕ) :
    Ends (fun _ => (mapping entries).HasText depth) ((mapping entries).Explains depth)
      (shown.shownEntries entries depth) := by
  match entries, depth with
  | [], _ => exact .ok ⟨rfl, Nat.zero_le _⟩
  | entry :: rest, 0 => exact .error (lt_max_of_lt_left (Nat.succ_pos _))
  | (k, v) :: rest, depth + 1 =>
      have hkey := (ends_shown k depth).imp (fun _ h => h) fun _ h =>
        h.head_key v rest
      have hvalue := (ends_shown v depth).imp (fun _ h => h) fun _ h =>
        h.head_value k rest
      have htail := (ends_shownEntries rest (depth + 1)).imp (fun _ h => h) fun _ h =>
        h.tail_entries k v
      exact hkey.bind fun _ hk => hvalue.bind fun _ hv => htail.bind fun _ hrest =>
        .ok (hk.cons_entry hv hrest)

end

theorem ends_plain (v : Value) (depth : ℕ) :
    Ends (fun _ => v.HasText depth) (v.Explains depth) (v.plain depth) := by
  cases v with
  | text s => exact .ok ⟨rfl, Nat.zero_le _⟩
  | date d => exact .ok ⟨rfl, Nat.zero_le _⟩
  | moment t => exact .ok ⟨rfl, Nat.zero_le _⟩
  | choice c => exact .ok ⟨rfl, Nat.zero_le _⟩
  | _ => exact ends_shown _ depth

theorem ofNumeral_eq_ok {shown : String} {r : Except Decimal.IntegerFault ℤ} {i : ℤ}
    (h : ofNumeral shown r = .ok i) : r = .ok i := by
  unfold ofNumeral at h
  split at h
  · exact congrArg _ (Except.ok.inj h)
  · cases h
  · cases h

theorem isWritable_int_toNat (b : Bool) : (int b.toNat).isWritable = true := by
  have hpow (k : ℕ) (hk : k ≠ 0) : b.toNat < Nat.pow 10 k :=
    Nat.lt_of_le_of_lt b.toNat_le (Nat.one_lt_pow hk (by decide))
  rw [isWritable_int_iff, Int.natAbs_natCast]
  unfold Decimal.integerLimit
  exact hpow Decimal.maxIntegerDigits (by decide)

theorem isWritable_of_toInteger {v : Value} {i : ℤ} (h : v.toInteger = .ok i)
    (hv : v.isWritable = true) : (int i).isWritable = true := by
  cases v with
  | bool b =>
      cases h
      exact isWritable_int_toNat b
  | int j =>
      cases h
      exact hv
  | float x =>
      rw [toInteger] at h
      split at h
      · next j hj =>
        cases h
        exact isWritable_int_iff.mpr (Binary64.natAbs_truncate?_lt hj)
      · cases h
  | text s =>
      exact isWritable_int_iff.mpr (Decimal.natAbs_lt_of_integer (ofNumeral_eq_ok h))
  | bytes content =>
      exact isWritable_int_iff.mpr (Decimal.natAbs_lt_of_asciiInteger (ofNumeral_eq_ok h))
  | _ => cases h

end Document.Value

end RasterTensor
