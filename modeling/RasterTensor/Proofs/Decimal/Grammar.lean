import Mathlib.Data.Nat.Digits.Defs
import RasterTensor.Document.Coerce
import RasterTensor.Proofs.Outcomes
import RasterTensor.Proofs.Text.Plain
import RasterTensor.Proofs.Text.Trimming

/-!
# The grammar of integer numerals

An integer numeral is a row of digits, with single underscores between some of them, a sign or none
in front, and blanks around. A text is read as an integer exactly when it is a numeral of it with no
more digits than are allowed.
-/

namespace RasterTensor.Decimal

open Binary Text

/-- What counts as a digit and what as a blank. The marks are neither, and no digit is a blank. -/
structure Alphabet where
  digit : Char → Option ℕ
  blank : Char → Bool
  digit_mark : ∀ c ∈ ['_', '+', '-'], digit c = none
  blank_mark : ∀ c ∈ ['_', '+', '-'], blank c = false
  blank_digit : ∀ c d, digit c = some d → blank c = false

/-- Digits and their values. An underscore may stand between two digits. -/
inductive IsDigitRow (digit : Char → Option ℕ) : List Char → List ℕ → Prop
  | last {c : Char} {d : ℕ} (hc : digit c = some d) : IsDigitRow digit [c] [d]
  | next {c : Char} {d : ℕ} {cs : List Char} {ds : List ℕ} (hc : digit c = some d)
      (hrest : IsDigitRow digit cs ds) : IsDigitRow digit (c :: cs) (d :: ds)
  | gap {c : Char} {d : ℕ} {cs : List Char} {ds : List ℕ} (hc : digit c = some d)
      (hrest : IsDigitRow digit cs ds) : IsDigitRow digit (c :: '_' :: cs) (d :: ds)

/-- A sign or none, and whether it is negative. -/
inductive IsSign : List Char → Bool → Prop
  | none : IsSign [] false
  | plus : IsSign ['+'] false
  | minus : IsSign ['-'] true

/-- A text, the digits in it, and the integer that it denotes. -/
inductive IsNumeral (a : Alphabet) : List Char → List ℕ → ℤ → Prop
  | intro {front sign row back : List Char} {negative : Bool} {ds : List ℕ}
      (hfront : ∀ c ∈ front, a.blank c = true) (hsign : IsSign sign negative)
      (hrow : IsDigitRow a.digit row ds) (hback : ∀ c ∈ back, a.blank c = true) :
      IsNumeral a (front ++ (sign ++ row ++ back)) ds (signed negative (Nat.ofDigits 10 ds.reverse))

theorem ofDigits_eq (ds : List ℕ) : ofDigits ds = Nat.ofDigits 10 ds.reverse := by
  rw [Nat.ofDigits_eq_foldr, List.foldr_reverse, ofDigits]
  congr 1
  funext n d
  simp [Nat.mul_comm, Nat.add_comm]

/-! ## Rows of digits -/

section rows

variable {digit : Char → Option ℕ} {after : Bool} {c : Char} {d : ℕ} {cs : List Char}
  {out ds digits : List ℕ}

theorem takeDigits_cons (hc : digit c = some d) :
    takeDigits digit after out (c :: cs) = takeDigits digit true (d :: out) cs := by
  simp [takeDigits, hc]

theorem takeDigits_underscore (hmark : digit '_' = none) (hc : digit c = some d) :
    takeDigits digit true out ('_' :: c :: cs) = takeDigits digit false out (c :: cs) := by
  rw [takeDigits, hmark]
  simp [hc]

theorem IsDigitRow.head (h : IsDigitRow digit cs ds) :
    ∃ c rest d, cs = c :: rest ∧ digit c = some d := by
  cases h with
  | last hc => exact ⟨_, _, _, rfl, hc⟩
  | next hc _ => exact ⟨_, _, _, rfl, hc⟩
  | gap hc _ => exact ⟨_, _, _, rfl, hc⟩

theorem IsDigitRow.ne_nil (h : IsDigitRow digit cs ds) : ds ≠ [] := by
  cases h <;> exact List.cons_ne_nil _ _

theorem IsDigitRow.forall_mem {p : Char → Prop} (h : IsDigitRow digit cs ds) (hmark : p '_')
    (hdigit : ∀ c d, digit c = some d → p c) : ∀ c ∈ cs, p c := by
  induction h with
  | last hc => simpa using hdigit _ _ hc
  | next hc _ ih => exact List.forall_mem_cons.mpr ⟨hdigit _ _ hc, ih⟩
  | gap hc _ ih =>
      exact List.forall_mem_cons.mpr ⟨hdigit _ _ hc, List.forall_mem_cons.mpr ⟨hmark, ih⟩⟩

theorem IsDigitRow.takeDigits (hmark : digit '_' = none) (h : IsDigitRow digit cs ds) :
    takeDigits digit after out cs = some (out.reverse ++ ds, []) := by
  induction h generalizing after out with
  | last hc =>
      rw [takeDigits_cons hc]
      simp [Decimal.takeDigits]
  | next hc hrest ih =>
      rw [takeDigits_cons hc, ih]
      simp
  | gap hc hrest ih =>
      obtain ⟨e, rest, f, rfl, he⟩ := hrest.head
      rw [takeDigits_cons hc, takeDigits_underscore hmark he, ih]
      simp

-- The recursion goes from a digit to the next one, with or without an underscore between them.
theorem exists_isDigitRow {c : Char} {d : ℕ} {after : Bool} {out : List ℕ} (rest : List Char)
    (hc : digit c = some d) (h : takeDigits digit after out (c :: rest) = some (digits, [])) :
    ∃ ds, IsDigitRow digit (c :: rest) ds ∧ digits = out.reverse ++ ds := by
  rw [takeDigits_cons hc] at h
  cases rest with
  | nil =>
      cases h
      exact ⟨[d], .last hc, by simp⟩
  | cons e tail =>
      cases he : digit e with
      | some f =>
          obtain ⟨ds, hrow, hdigits⟩ := exists_isDigitRow tail he h
          exact ⟨d :: ds, .next hc hrow, by simp [hdigits]⟩
      | none =>
          simp only [takeDigits, he] at h
          split at h
          · next hmark =>
            subst hmark
            cases tail with
            | nil => cases h
            | cons f tail =>
                dsimp only at h
                split at h
                · next hf =>
                  obtain ⟨g, hg⟩ := Option.isSome_iff_exists.mp hf
                  obtain ⟨ds, hrow, hdigits⟩ := exists_isDigitRow tail hg h
                  exact ⟨d :: ds, .gap hc hrow, by simp [hdigits]⟩
                · cases h
          · cases h

/-- Digits are taken from the whole of a text exactly when it is a row of them. -/
theorem takeDigits_eq_some_iff (hmark : digit '_' = none) (hne : digits ≠ []) :
    takeDigits digit false [] cs = some (digits, []) ↔ IsDigitRow digit cs digits := by
  constructor
  · intro h
    cases cs with
    | nil =>
        cases h
        exact absurd rfl hne
    | cons c rest =>
        cases hc : digit c with
        | some d =>
            obtain ⟨ds, hrow, hdigits⟩ := exists_isDigitRow rest hc h
            rw [List.reverse_nil, List.nil_append] at hdigits
            exact hdigits ▸ hrow
        | none =>
            simp only [takeDigits, hc] at h
            split at h <;> cases h
  · intro h
    exact h.takeDigits hmark

end rows

/-! ## Signs -/

theorem exists_isSign (cs : List Char) :
    ∃ sign, IsSign sign (takeSign cs).1 ∧ cs = sign ++ (takeSign cs).2 := by
  unfold takeSign
  split
  · exact ⟨['-'], .minus, rfl⟩
  · exact ⟨['+'], .plus, rfl⟩
  · exact ⟨[], .none, rfl⟩

theorem IsSign.mem_marks {sign : List Char} {negative : Bool} (h : IsSign sign negative) :
    ∀ c ∈ sign, c ∈ ['_', '+', '-'] := by
  cases h with
  | none => exact List.forall_mem_nil _
  | plus | minus => simp

theorem takeSign_cons {c : Char} {rest : List Char} (hminus : c ≠ '-') (hplus : c ≠ '+') :
    takeSign (c :: rest) = (false, c :: rest) := by
  unfold takeSign
  split
  · next heq => exact absurd (List.cons.inj heq).1 hminus
  · next heq => exact absurd (List.cons.inj heq).1 hplus
  · rfl

theorem IsSign.takeSign {a : Alphabet} {sign row : List Char} {negative : Bool} {ds : List ℕ}
    (h : IsSign sign negative) (hrow : IsDigitRow a.digit row ds) :
    takeSign (sign ++ row) = (negative, row) := by
  cases h with
  | plus | minus => rfl
  | none =>
      obtain ⟨c, rest, d, rfl, hc⟩ := hrow.head
      have hne (mark : Char) (hmark : mark ∈ ['_', '+', '-']) : c ≠ mark := by
        rintro rfl
        rw [a.digit_mark c hmark] at hc
        cases hc
      exact takeSign_cons (hne '-' (by decide)) (hne '+' (by decide))

/-! ## Numerals -/

section numerals

variable {a : Alphabet} {cs : List Char} {ds es : List ℕ} {i j : ℤ}

theorem isNumeral_iff :
    IsNumeral a cs ds i ↔
      takeDigits a.digit false [] (takeSign (trimBy a.blank cs)).2 = some (ds, []) ∧ ds ≠ [] ∧
        i = signed (takeSign (trimBy a.blank cs)).1 (ofDigits ds) := by
  have hmark : a.digit '_' = none := a.digit_mark _ (by decide)
  constructor
  · intro h
    cases h with
    | @intro front sign row back negative _ hfront hsign hrow hback =>
      have hvisible : ∀ c ∈ sign ++ row, a.blank c = false := by
        rw [List.forall_mem_append]
        refine ⟨fun c hc => a.blank_mark c (hsign.mem_marks c hc), ?_⟩
        exact hrow.forall_mem (a.blank_mark _ (by decide)) a.blank_digit
      rw [trimBy_append hfront hvisible hback, hsign.takeSign hrow, ofDigits_eq]
      exact ⟨hrow.takeDigits hmark, hrow.ne_nil, rfl⟩
  · rintro ⟨htake, hne, rfl⟩
    obtain ⟨sign, hsign, hbody⟩ := exists_isSign (trimBy a.blank cs)
    obtain ⟨front, back, hcs, hfront, hback⟩ := exists_trimBy a.blank cs
    have hrow := (takeDigits_eq_some_iff hmark hne).mp htake
    have hnumeral := IsNumeral.intro hfront hsign hrow hback
    rw [← hbody, ← hcs, ← ofDigits_eq] at hnumeral
    exact hnumeral

theorem IsNumeral.unique (h : IsNumeral a cs ds i) (h' : IsNumeral a cs es j) :
    ds = es ∧ i = j := by
  obtain ⟨htake, -, rfl⟩ := isNumeral_iff.mp h
  obtain ⟨htake', -, rfl⟩ := isNumeral_iff.mp h'
  rw [htake] at htake'
  cases htake'
  exact ⟨rfl, rfl⟩

/-- A text is read as an integer exactly when it is a numeral of it that is not too long. -/
theorem readInteger_eq_ok_iff :
    readInteger a.digit a.blank cs = .ok i ↔
      ∃ ds, IsNumeral a cs ds i ∧ ds.length ≤ maxIntegerDigits := by
  simp only [isNumeral_iff]
  constructor
  · intro h
    rw [readInteger] at h
    dsimp only at h
    split at h
    · cases h
    · next ds rest htake =>
      split at h
      · cases h
      · next hlength =>
        split at h
        · cases h
        · next hwhole =>
          simp only [Bool.or_eq_true, List.isEmpty_iff, Bool.not_eq_true', not_or,
            Bool.not_eq_false] at hwhole
          obtain ⟨hne, rfl⟩ := hwhole
          exact ⟨ds, ⟨htake, hne, (Except.ok.inj h).symm⟩, Nat.le_of_not_lt hlength⟩
  · rintro ⟨ds, ⟨htake, hne, rfl⟩, hlength⟩
    rw [readInteger]
    dsimp only
    rw [htake]
    dsimp only
    rw [if_neg (Nat.not_lt_of_le hlength), if_neg (by simpa using hne)]

end numerals

/-! ## The alphabets of texts and of bytes -/

theorem mem_wideBlanks_of_isNumeralBlank {c : Char} (h : isNumeralBlank c = true) :
    c.toNat ∈ [9, 10, 11, 12, 13, 32] ++ wideBlanks := by
  simp only [isNumeralBlank, isAsciiBlank, Bool.or_eq_true, Bool.and_eq_true, beq_iff_eq,
    decide_eq_true_eq, List.contains_iff_mem] at h
  rcases h with (rfl | ⟨hge, hle⟩) | hwide
  · decide
  · refine List.mem_append_left _ ?_
    have hall : ∀ n < 14, 9 ≤ n → n ∈ [9, 10, 11, 12, 13, 32] := by decide
    exact hall c.toNat (by omega) hge
  · exact List.mem_append_right _ hwide

def Alphabet.unicode : Alphabet where
  digit := digitValue?
  blank := isNumeralBlank
  digit_mark := forall_mem_of_all (by decide)
  blank_mark := forall_mem_of_all (by decide)
  blank_digit := by
    intro c d hc
    by_contra hblank
    have hmem := mem_wideBlanks_of_isNumeralBlank (by simpa using hblank)
    have hnone : ∀ n ∈ [9, 10, 11, 12, 13, 32] ++ wideBlanks, digitValue? (.ofNat n) = none :=
      forall_mem_of_all (by decide)
    rw [← Char.ofNat_toNat c, hnone _ hmem] at hc
    cases hc

def digitChars : List Char := "0123456789".toList

theorem mem_digitChars {c : Char} (h : c.isDigit = true) : c ∈ digitChars := by
  simp only [Char.isDigit, Bool.and_eq_true, decide_eq_true_eq] at h
  have hge : 48 ≤ c.toNat := UInt32.le_iff_toNat_le.mp h.1
  have hle : c.toNat ≤ 57 := UInt32.le_iff_toNat_le.mp h.2
  have hall : ∀ n < 58, 48 ≤ n → Char.ofNat n ∈ digitChars := by decide
  exact Char.ofNat_toNat c ▸ hall c.toNat (by omega) hge

def Alphabet.ascii : Alphabet where
  digit := asciiDigit?
  blank := isAsciiBlank
  digit_mark := forall_mem_of_all (by decide)
  blank_mark := forall_mem_of_all (by decide)
  blank_digit := by
    intro c d hc
    have hvisible : ∀ c ∈ digitChars, isAsciiBlank c = false := forall_mem_of_all (by decide)
    unfold asciiDigit? at hc
    split at hc
    · next hdigit => exact hvisible c (mem_digitChars hdigit)
    · cases hc

theorem integer_eq_ok_iff {cs : List Char} {i : ℤ} :
    integer cs = .ok i ↔ ∃ ds, IsNumeral .unicode cs ds i ∧ ds.length ≤ maxIntegerDigits :=
  readInteger_eq_ok_iff (a := .unicode)

theorem asciiInteger_eq_ok_iff {cs : List Char} {i : ℤ} :
    asciiInteger cs = .ok i ↔ ∃ ds, IsNumeral .ascii cs ds i ∧ ds.length ≤ maxIntegerDigits :=
  readInteger_eq_ok_iff (a := .ascii)

end RasterTensor.Decimal
