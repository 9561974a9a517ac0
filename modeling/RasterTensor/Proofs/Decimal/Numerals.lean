import Mathlib.Data.List.Induction
import RasterTensor.Decimal.Numeral

/-!
# Numerals and their integers

The decimal digits of a natural number give the number again, and an integer that is read from a
numeral has as many digits as it may have at most.
-/

namespace RasterTensor.Decimal

open Binary Text

/-! ## Digits -/

theorem ofDigits_append (ds : List Nat) (d : Nat) :
    ofDigits (ds ++ [d]) = ofDigits ds * 10 + d := by
  simp [ofDigits]

theorem ofDigits_lt {ds : List Nat} (h : ∀ d ∈ ds, d < 10) :
    ofDigits ds < Nat.pow 10 ds.length := by
  induction ds using List.reverseRecOn with
  | nil => simp [ofDigits]
  | append_singleton ds d ih =>
      have hlast : d < 10 := h d (by simp)
      have hfirst := ih fun e he => h e (by simp [he])
      have hpow : Nat.pow 10 (ds.length + 1) = Nat.pow 10 ds.length * 10 := rfl
      rw [ofDigits_append, List.length_append, List.length_singleton, hpow]
      omega

theorem ofDigits_lt_pow {ds : List Nat} {k : Nat} (h : ∀ d ∈ ds, d < 10) (hk : ds.length ≤ k) :
    ofDigits ds < Nat.pow 10 k :=
  Nat.lt_of_lt_of_le (ofDigits_lt h) (Nat.pow_le_pow_right (by decide) hk)

theorem ofDigits_decimal (n : Nat) :
    ofDigits ((decimal n).map fun d => d.toNat - 48) = n := by
  have hdigits := Nat.ofDigitChars_ten_toDigits (n := n)
  rw [Nat.ofDigitChars_eq_foldl] at hdigits
  simpa [ofDigits, decimal, List.foldl_map, Nat.mul_comm] using hdigits

theorem isDigit_of_mem_decimal {n : Nat} {c : Char} (h : c ∈ decimal n) : c.isDigit = true :=
  Nat.isDigit_of_mem_toDigits (by decide) (by decide) h

theorem length_decimal_le {n k : Nat} (hk : 0 < k) (h : n < Nat.pow 10 k) :
    (decimal n).length ≤ k :=
  (Nat.length_toDigits_le_iff (by decide) hk).mpr h

/-! ## Reading a numeral -/

theorem takeDigits_lt {digit : Char → Option Nat} (hdigit : ∀ c d, digit c = some d → d < 10)
    {after : Bool} {out : List Nat} {cs : List Char} {digits : List Nat} {rest : List Char}
    (h : takeDigits digit after out cs = some (digits, rest)) (hout : ∀ d ∈ out, d < 10) :
    ∀ d ∈ digits, d < 10 := by
  fun_induction takeDigits digit after out cs with
  | case1 after out =>
      cases h
      simpa using hout
  | case2 after out c rest d hd ih =>
      refine ih h fun e he => ?_
      rcases List.mem_cons.mp he with rfl | he
      · exact hdigit c _ hd
      · exact hout e he
  | case3 out hd next tail hnext ih => exact ih h hout
  | case4 | case5 => cases h
  | case6 after out c rest hd hc =>
      cases h
      simpa using hout

theorem natAbs_signed (negative : Bool) (n : Nat) : (signed negative n).natAbs = n := by
  cases negative <;> simp [signed]

theorem natAbs_lt_of_readInteger {digit : Char → Option Nat} {blank : Char → Bool}
    (hdigit : ∀ c d, digit c = some d → d < 10) {cs : List Char} {i : Int}
    (h : readInteger digit blank cs = .ok i) : i.natAbs < integerLimit := by
  unfold readInteger at h
  split at h
  next negative body hsign =>
  split at h
  · cases h
  · next digits rest htake =>
    split at h
    · cases h
    · next hlength =>
      split at h
      · cases h
      · cases h
        rw [natAbs_signed]
        have hdigits := takeDigits_lt hdigit htake (by simp)
        unfold integerLimit
        exact ofDigits_lt_pow hdigits (Nat.le_of_not_lt hlength)

theorem isDigit_sub_lt {c : Char} (h : c.isDigit = true) : c.toNat - 48 < 10 := by
  have hle : c.toNat ≤ 57 := by
    simp only [Char.isDigit, Bool.and_eq_true, decide_eq_true_eq] at h
    exact UInt32.le_iff_toNat_le.mp h.2
  omega

theorem digitValue?_lt {c : Char} {d : Nat} (h : digitValue? c = some d) : d < 10 := by
  unfold digitValue? at h
  dsimp only at h
  split at h
  · split at h
    · next hdigit => exact Option.some.inj h ▸ isDigit_sub_lt hdigit
    · cases h
  · obtain ⟨z, -, hz⟩ := Array.exists_of_findSome?_eq_some h
    split at hz
    · next hrange =>
      have hd := Option.some.inj hz
      omega
    · cases hz

theorem asciiDigit?_lt {c : Char} {d : Nat} (h : asciiDigit? c = some d) : d < 10 := by
  unfold asciiDigit? at h
  split at h
  · next hdigit => exact Option.some.inj h ▸ isDigit_sub_lt hdigit
  · cases h

theorem natAbs_lt_of_integer {cs : List Char} {i : Int} (h : integer cs = .ok i) :
    i.natAbs < integerLimit :=
  natAbs_lt_of_readInteger (fun _ _ => digitValue?_lt) h

theorem natAbs_lt_of_asciiInteger {cs : List Char} {i : Int} (h : asciiInteger cs = .ok i) :
    i.natAbs < integerLimit :=
  natAbs_lt_of_readInteger (fun _ _ => asciiDigit?_lt) h

end RasterTensor.Decimal
