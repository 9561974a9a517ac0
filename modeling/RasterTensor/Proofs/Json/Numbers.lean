import RasterTensor.Json.Reader
import RasterTensor.Json.Writer
import RasterTensor.Proofs.Decimal.Numerals
import RasterTensor.Proofs.Text.Plain

/-!
# Numbers in JSON

The text of a number ends where a comma, a line end or the end of the text follows. Integers are
read as they were written, and so are the decimal fractions whose digits denote the number that
they were written for.
-/

namespace RasterTensor.Json

open Binary Document Text

/-- What can stand behind a value: nothing, a comma, or the end of the line. -/
inductive Delimited : List Char → Prop
  | nothing : Delimited []
  | comma (rest : List Char) : Delimited (',' :: rest)
  | lineEnd (rest : List Char) : Delimited ('\n' :: rest)

variable {rest whole fraction : List Char} {position : Nat}

namespace Delimited

theorem takeWhile_isDigit (h : Delimited rest) : rest.takeWhile Char.isDigit = [] := by
  cases h <;> rfl

theorem fractionDigits_eq (h : Delimited rest) : fractionDigits rest = [] := by
  cases h <;> rfl

theorem exponentDigits_eq (h : Delimited rest) : exponentDigits rest = [] := by
  cases h <;> rfl

end Delimited

/-! ## Digits -/

/-- The digits of an integer part: a zero alone, or digits that do not start with one. -/
structure IsWhole (ds : List Char) : Prop where
  digits : ∀ c ∈ ds, c.isDigit = true
  canonical : ds = ['0'] ∨ ∃ c tail, ds = c :: tail ∧ c ≠ '0'

theorem takeWhile_isDigit_append (hdigits : ∀ c ∈ whole, c.isDigit = true)
    (hrest : rest.takeWhile Char.isDigit = []) :
    (whole ++ rest).takeWhile Char.isDigit = whole := by
  rw [List.takeWhile_append_of_pos hdigits, hrest, List.append_nil]

theorem IsWhole.wholeDigits_append (h : IsWhole whole)
    (hrest : rest.takeWhile Char.isDigit = []) : wholeDigits (whole ++ rest) = whole := by
  have htake := takeWhile_isDigit_append h.digits hrest
  rcases h.canonical with rfl | ⟨c, tail, rfl, hc⟩
  · rfl
  · rw [wholeDigits]
    · exact htake
    · intro tail' heq
      exact hc (List.cons.inj heq).1

theorem head?_decimal {n : Nat} (hn : n ≠ 0) : ∃ c tail, decimal n = c :: tail ∧ c ≠ '0' := by
  induction n using Nat.strongRecOn with
  | ind n ih =>
      rw [decimal, Nat.toDigits_eq_if (by decide)]
      split
      · exact ⟨n.digitChar, [], rfl, fun h => hn (Nat.digitChar_eq_zero.mp h)⟩
      · next hlarge =>
        obtain ⟨c, tail, heq, hc⟩ := ih (n / 10) (Nat.div_lt_self (by omega) (by decide)) (by omega)
        exact ⟨c, tail ++ [(n % 10).digitChar], by rw [← decimal, heq]; rfl, hc⟩

theorem isWhole_decimal (n : Nat) : IsWhole (decimal n) where
  digits c hc := Decimal.isDigit_of_mem_decimal hc
  canonical := by
    by_cases hn : n = 0
    · exact .inl (by rw [hn]; rfl)
    · exact .inr (head?_decimal hn)

theorem IsWhole.ne_nil (h : IsWhole whole) : whole ≠ [] := by
  rcases h.canonical with rfl | ⟨c, tail, rfl, -⟩ <;> simp

theorem isPlain_of_isDigit {c : Char} (h : c.isDigit = true) : IsPlain c := by
  simp only [Char.isDigit, Bool.and_eq_true, decide_eq_true_eq] at h
  have hge : 48 ≤ c.toNat := UInt32.le_iff_toNat_le.mp h.1
  have hle : c.toNat ≤ 57 := UInt32.le_iff_toNat_le.mp h.2
  exact .inr (by omega)

/-- A minus sign, where there is one. -/
def signText (negative : Bool) : List Char := if negative then ['-'] else []

/-! ## Numbers -/

/-- What a text is read as whose sign and integer part are known. -/
def readAfter (position : Nat) (negative : Bool) (whole rest : List Char) :
    Reading (Value × Cursor) :=
  let fraction := fractionDigits rest
  let exponent := exponentDigits (rest.drop fraction.length)
  let size := (signText negative ++ (whole ++ fraction ++ exponent)).length
  let next : Cursor := ⟨position + size, (rest.drop fraction.length).drop exponent.length⟩
  if fraction.isEmpty && exponent.isEmpty then
    if Decimal.maxIntegerDigits < whole.length then .error (.integerTooLong whole.length)
    else .ok (.int (signed negative (Decimal.ofDigits (whole.map fun d => d.toNat - 48))), next)
  else
    match Decimal.readFraction? negative (whole ++ fraction ++ exponent) with
    | some x => .ok (.float x, next)
    | none => fail .expectingValue position

theorem length_signText (negative : Bool) : (signText negative).length = negative.toNat := by
  cases negative <;> rfl

theorem IsWhole.readNumber_eq (h : IsWhole whole) (hrest : rest.takeWhile Char.isDigit = [])
    (negative : Bool) :
    readNumber ⟨position, signText negative ++ (whole ++ rest)⟩ =
      readAfter position negative whole rest := by
  have hdigits := h.wholeDigits_append hrest
  have hempty : whole.isEmpty = false := by simpa using h.ne_nil
  unfold readNumber
  split
  next negative' body hsign =>
  have hbody : negative' = negative ∧ body = whole ++ rest := by
    cases negative with
    | true => exact ⟨(Prod.mk.inj hsign).1.symm, (Prod.mk.inj hsign).2.symm⟩
    | false =>
        -- A text without a sign starts with a digit, so it is not taken for one with a sign.
        split at hsign
        · next tail heq =>
          obtain ⟨c, digits, rfl⟩ := List.exists_cons_of_ne_nil h.ne_nil
          obtain rfl : c = '-' := (List.cons.inj heq).1
          exact absurd (h.digits '-' List.mem_cons_self) (by decide)
        · exact ⟨(Prod.mk.inj hsign).1.symm, (Prod.mk.inj hsign).2.symm⟩
  obtain ⟨rfl, rfl⟩ := hbody
  have hadvance (fraction exponent : List Char) :
      (⟨position, signText negative' ++ (whole ++ rest)⟩ : Cursor).advance
          ((whole ++ fraction ++ exponent).length + negative'.toNat) =
        ⟨position + (signText negative' ++ (whole ++ fraction ++ exponent)).length,
          (rest.drop fraction.length).drop exponent.length⟩ := by
    have hsize : (whole ++ fraction ++ exponent).length + negative'.toNat =
        (signText negative').length + (whole.length + (fraction.length + exponent.length)) := by
      simp only [List.length_append, length_signText]
      omega
    rw [Cursor.advance, hsize, List.drop_length_add_append, List.drop_length_add_append,
      ← List.drop_drop]
    simp only [List.length_append, Nat.add_assoc]
  simp only [hdigits, hempty, List.drop_left, hadvance]
  rfl

theorem readNumber_whole (negative : Bool) (hwhole : IsWhole whole)
    (hlength : whole.length ≤ Decimal.maxIntegerDigits) (hrest : Delimited rest) :
    readNumber ⟨position, signText negative ++ (whole ++ rest)⟩ =
      .ok (.int (signed negative (Decimal.ofDigits (whole.map fun d => d.toNat - 48))),
        ⟨position + (signText negative ++ whole).length, rest⟩) := by
  have hfraction := hrest.fractionDigits_eq
  have hexponent := hrest.exponentDigits_eq
  rw [hwhole.readNumber_eq hrest.takeWhile_isDigit]
  simp [readAfter, hfraction, hexponent, Nat.not_lt.mpr hlength]

theorem readNumber_fraction {x : Binary64} (negative : Bool) (hwhole : IsWhole whole)
    (hfraction : ∀ c ∈ fraction, c.isDigit = true) (hne : fraction ≠ [])
    (hx : Decimal.readFraction? negative (whole ++ '.' :: fraction) = some x)
    (hrest : Delimited rest) :
    readNumber ⟨position, signText negative ++ (whole ++ '.' :: (fraction ++ rest))⟩ =
      .ok (.float x,
        ⟨position + (signText negative ++ (whole ++ '.' :: fraction)).length, rest⟩) := by
  have hdigits : fractionDigits ('.' :: (fraction ++ rest)) = '.' :: fraction := by
    simp [fractionDigits, takeWhile_isDigit_append hfraction hrest.takeWhile_isDigit, hne]
  have hexponent := hrest.exponentDigits_eq
  rw [hwhole.readNumber_eq (by rfl)]
  simp [readAfter, hdigits, hexponent, hx]

/-! ## Integers and floats -/

theorem toList_integerText (i : Int) :
    (integerText i).toList = signText (decide (i < 0)) ++ decimal i.natAbs := by
  by_cases h : i < 0 <;> simp [integerText, signText, h]

theorem signed_natAbs (i : Int) : signed (decide (i < 0)) i.natAbs = i := by
  by_cases h : i < 0
  · simp only [signed, h, decide_true, if_true]
    omega
  · simp only [signed, h, decide_false, Bool.false_eq_true, if_false]
    omega

theorem readNumber_integerText {i : Int} (hi : i.natAbs < Decimal.integerLimit)
    (hrest : Delimited rest) :
    readNumber ⟨position, (integerText i).toList ++ rest⟩ =
      .ok (.int i, ⟨position + (integerText i).toList.length, rest⟩) := by
  unfold Decimal.integerLimit at hi
  have hlength : (decimal i.natAbs).length ≤ Decimal.maxIntegerDigits :=
    Decimal.length_decimal_le (by decide) hi
  rw [toList_integerText, List.append_assoc, readNumber_whole _ (isWhole_decimal _) hlength hrest,
    Decimal.ofDigits_decimal, signed_natAbs]

/-- A float whose text in reports is a decimal fraction without an exponent that denotes it. -/
def Legible (x : Binary64) : Prop :=
  ∃ negative whole fraction,
    (Decimal.render .report x).toList = signText negative ++ (whole ++ '.' :: fraction) ∧
    IsWhole whole ∧ (∀ c ∈ fraction, c.isDigit = true) ∧ fraction ≠ [] ∧
    Decimal.readFraction? negative (whole ++ '.' :: fraction) = some x

end RasterTensor.Json
