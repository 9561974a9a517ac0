import RasterTensor.Json.Reader
import RasterTensor.Json.Writer
import RasterTensor.Proofs.Text.Plain

/-!
# Strings in JSON

Each character of a string is written as itself or as an escape, and an escape is read as the
character that it was written for. So a string is read as it was written, whatever stands behind
its closing quote.
-/

namespace RasterTensor.Json

open Text

/-! ## Hexadecimal digits -/

theorem hexadecimal_succ {width n : Nat} (h : 0 < width) :
    hexadecimal (width + 1) n = hexadecimal width (n / 16) ++ [(n % 16).digitChar] := by
  unfold hexadecimal
  by_cases hn : n < 16
  · obtain ⟨k, rfl⟩ : ∃ k, width = k + 1 := ⟨width - 1, by omega⟩
    have hzero : n / 16 = 0 := by omega
    rw [Nat.toDigits_of_lt_base hn, hzero, Nat.toDigits_zero, Nat.mod_eq_of_lt hn]
    simp [List.replicate_succ']
  · rw [Nat.toDigits_of_base_le (by decide) (by omega)]
    simp

theorem hexValue?_digitChar : ∀ d < 16, hexValue? d.digitChar = some d := by decide

theorem hexadecimal_four {n : Nat} (h : n < 0x10000) :
    ∃ a b c d, hexadecimal 4 n = [a, b, c, d] ∧ codeUnit? a b c d = some n := by
  have hfirst : hexadecimal 1 (n / 16 / 16 / 16) = [(n / 16 / 16 / 16).digitChar] := by
    rw [hexadecimal, Nat.toDigits_of_lt_base (by omega)]
    rfl
  refine ⟨(n / 16 / 16 / 16).digitChar, (n / 16 / 16 % 16).digitChar, (n / 16 % 16).digitChar,
    (n % 16).digitChar, ?_, ?_⟩
  · rw [hexadecimal_succ (by decide), hexadecimal_succ (by decide), hexadecimal_succ (by decide),
      hfirst]
    rfl
  · simp only [codeUnit?, hexValue?_digitChar _ (Nat.mod_lt _ (by decide)),
      hexValue?_digitChar (n / 16 / 16 / 16) (by omega), Option.bind_eq_bind, Option.bind_some,
      Option.pure_def, Option.some.injEq]
    omega

theorem isPlain_digitChar : ∀ d < 16, IsPlain d.digitChar := by decide

theorem isPlain_of_mem_toDigits {x : Char} (n : Nat) (h : x ∈ Nat.toDigits 16 n) : IsPlain x := by
  induction n using Nat.strongRecOn with
  | ind n ih =>
      rw [Nat.toDigits_eq_if (by decide)] at h
      split at h
      · next hn =>
        rw [List.mem_singleton] at h
        exact h ▸ isPlain_digitChar n hn
      · next hn =>
        rcases List.mem_append.mp h with h | h
        · exact ih (n / 16) (Nat.div_lt_self (by omega) (by decide)) h
        · rw [List.mem_singleton] at h
          exact h ▸ isPlain_digitChar _ (Nat.mod_lt n (by decide))

theorem isPlain_of_mem_hexadecimal {x : Char} {width n : Nat} (h : x ∈ hexadecimal width n) :
    IsPlain x := by
  rcases List.mem_append.mp h with h | h
  · exact List.eq_of_mem_replicate h ▸ isPlain_digitChar 0 (by decide)
  · exact isPlain_of_mem_toDigits n h

/-! ## Characters -/

variable {lone : Nat → Char} {start position : Nat} {out rest : List Char}

theorem isHighSurrogate_toNat (c : Char) : isHighSurrogate c.toNat = false := by
  have hvalid := c.valid
  have hval : c.toNat = c.val.toNat := rfl
  simp only [isHighSurrogate, Bool.and_eq_false_iff, decide_eq_false_iff_not]
  simp only [UInt32.isValidChar, Nat.isValidChar] at hvalid
  omega

theorem unitChar_toNat (c : Char) : unitChar lone c.toNat = c := by
  have hvalid := c.valid
  have hval : c.toNat = c.val.toNat := rfl
  have hlow : isLowSurrogate c.toNat = false := by
    simp only [isLowSurrogate, Bool.and_eq_false_iff, decide_eq_false_iff_not]
    simp only [UInt32.isValidChar, Nat.isValidChar] at hvalid
    omega
  rw [unitChar, isHighSurrogate_toNat, hlow]
  exact Char.ofNat_toNat c

theorem readString_unit {n : Nat} {next : Char} (hn : n < 0x10000) (h : isHighSurrogate n = false) :
    readString lone start position out ('\\' :: 'u' :: hexadecimal 4 n ++ next :: rest) =
      readString lone start (position + 6) (unitChar lone n :: out) (next :: rest) := by
  obtain ⟨a, b, c, d, hdigits, hunit⟩ := hexadecimal_four hn
  rw [hdigits]
  simp only [List.cons_append, List.nil_append]
  rw [readString]
  simp only [hunit, h]
  rfl

theorem lt_of_isHighSurrogate {n : Nat} (h : isHighSurrogate n = true) : n < 0x10000 := by
  simp only [isHighSurrogate, Bool.and_eq_true, decide_eq_true_eq] at h
  omega

theorem lt_of_isLowSurrogate {n : Nat} (h : isLowSurrogate n = true) : n < 0x10000 := by
  simp only [isLowSurrogate, Bool.and_eq_true, decide_eq_true_eq] at h
  omega

theorem readString_surrogates {high low : Nat} {next : Char} (hhigh : isHighSurrogate high = true)
    (hlow : isLowSurrogate low = true) :
    readString lone start position out
        ('\\' :: 'u' :: hexadecimal 4 high ++ '\\' :: 'u' :: hexadecimal 4 low ++ next :: rest) =
      readString lone start
        (position + ('\\' :: 'u' :: hexadecimal 4 high ++ '\\' :: 'u' :: hexadecimal 4 low).length)
        (joinSurrogates high low :: out) (next :: rest) := by
  -- Both escapes are read at once: the second one is looked for behind the first.
  obtain ⟨a, b, c, d, hdigits, hunit⟩ := hexadecimal_four (lt_of_isHighSurrogate hhigh)
  obtain ⟨a', b', c', d', hdigits', hunit'⟩ := hexadecimal_four (lt_of_isLowSurrogate hlow)
  rw [hdigits, hdigits']
  simp only [List.cons_append, List.nil_append]
  rw [readString]
  simp only [hunit, hhigh, if_true, escapedUnit?, hunit', hlow, List.drop_succ_cons,
    List.drop_zero]
  rfl

theorem surrogates_of_toNat {c : Char} (hc : 0x10000 ≤ c.toNat) :
    let m := c.toNat - 0x10000
    isHighSurrogate (0xD800 + m / 0x400) = true ∧ isLowSurrogate (0xDC00 + m % 0x400) = true ∧
      joinSurrogates (0xD800 + m / 0x400) (0xDC00 + m % 0x400) = c := by
  have hlimit : c.toNat < 0x110000 := by
    have hvalid := c.valid
    have hval : c.toNat = c.val.toNat := rfl
    simp only [UInt32.isValidChar, Nat.isValidChar] at hvalid
    omega
  intro m
  have hm : c.toNat = 0x10000 + m := by omega
  refine ⟨?_, ?_, ?_⟩
  · simp only [isHighSurrogate, Bool.and_eq_true, decide_eq_true_eq]
    omega
  · simp only [isLowSurrogate, Bool.and_eq_true, decide_eq_true_eq]
    omega
  · have hnumber : 0x10000 + (0xD800 + m / 0x400 - 0xD800) * 0x400 +
        (0xDC00 + m % 0x400 - 0xDC00) = c.toNat := by omega
    rw [joinSurrogates, hnumber]
    exact Char.ofNat_toNat c

theorem readString_plain {c : Char} (hquote : c ≠ '"') (hslash : c ≠ '\\') (hc : 0x20 ≤ c.toNat) :
    readString lone start position out (c :: rest) =
      readString lone start (position + 1) (c :: out) rest := by
  have hval : ¬ c.val < 0x20 := by
    rw [UInt32.lt_iff_toNat_lt]
    exact Nat.not_lt.mpr hc
  rw [readString, if_neg hval]
  all_goals
    intros
    simp_all

/-- One step of reading: the text of a character is read as that character. -/
theorem readString_escapeChar (c next : Char) :
    readString lone start position out (escapeChar c ++ next :: rest) =
      readString lone start (position + (escapeChar c).length) (c :: out) (next :: rest) := by
  unfold escapeChar
  split
  case h_8 hquote hslash _ _ _ _ _ =>
    dsimp only
    split
    · next hprintable => exact readString_plain hquote hslash hprintable.1
    · split
      · next hn =>
        obtain ⟨a, b, d, e, hdigits, -⟩ := hexadecimal_four hn
        rw [readString_unit hn (isHighSurrogate_toNat c), unitChar_toNat, hdigits]
        rfl
      · next hn =>
        obtain ⟨hhigh, hlow, hjoin⟩ := surrogates_of_toNat (Nat.le_of_not_lt hn)
        rw [readString_surrogates hhigh hlow, hjoin]
  all_goals simp [readString, escaped?]

theorem isPlain_of_mem_escapeChar {c x : Char} (h : x ∈ escapeChar c) : IsPlain x := by
  unfold escapeChar at h
  split at h
  case h_8 =>
    dsimp only at h
    split at h
    · next hprintable =>
      rw [List.mem_singleton] at h
      exact .inr (h ▸ hprintable)
    · split at h
      · simp only [List.mem_cons] at h
        rcases h with rfl | rfl | h
        · decide
        · decide
        · exact isPlain_of_mem_hexadecimal h
      · simp only [List.mem_append, List.mem_cons] at h
        rcases h with (rfl | rfl | h) | rfl | rfl | h
        · decide
        · decide
        · exact isPlain_of_mem_hexadecimal h
        · decide
        · decide
        · exact isPlain_of_mem_hexadecimal h
  all_goals exact forall_mem_of_all (by decide) x h

/-! ## Strings -/

theorem readString_flatMap (cs : List Char) :
    readString lone start position out (cs.flatMap escapeChar ++ '"' :: rest) =
      .ok (.ofList (out.reverse ++ cs), ⟨position + (cs.flatMap escapeChar).length + 1, rest⟩) := by
  -- By induction on the characters: up to the closing quote a string is read as it was written.
  induction cs generalizing position out with
  | nil => simp [readString]
  | cons c cs ih =>
      obtain ⟨next, tail, htail⟩ :=
        List.exists_cons_of_ne_nil (l := cs.flatMap escapeChar ++ '"' :: rest) (by simp)
      rw [List.flatMap_cons, List.append_assoc, htail, readString_escapeChar, ← htail, ih]
      simp [Nat.add_assoc]

theorem stringText_eq (s : String) :
    stringText s = '"' :: (s.toList.flatMap escapeChar ++ ['"']) := rfl

theorem readString_stringText (s : String) :
    readString lone start position [] (s.toList.flatMap escapeChar ++ '"' :: rest) =
      .ok (s, ⟨position + (s.toList.flatMap escapeChar).length + 1, rest⟩) := by
  rw [readString_flatMap, List.reverse_nil, List.nil_append, String.ofList_toList]

theorem isPlain_of_mem_stringText {s : String} {x : Char} (h : x ∈ stringText s) : IsPlain x := by
  rw [stringText_eq, List.mem_cons, List.mem_append, List.mem_singleton, List.mem_flatMap] at h
  rcases h with rfl | ⟨c, -, hx⟩ | rfl
  · decide
  · exact isPlain_of_mem_escapeChar hx
  · decide

end RasterTensor.Json
