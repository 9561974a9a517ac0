import Mathlib
import RasterTensor.Text.Case

/-!
# Letter case of ASCII words

The tables of letter case take few characters beyond ASCII to ASCII letters: lower case only to `k`,
and upper case only to sequences that begin with `I`, `S` or `F`. A word without these letters is
therefore the lower or upper case of ASCII texts only, and these differ from it in nothing but the
case of their letters.
-/

namespace RasterTensor.Text

/-- ASCII characters that are those of a word up to letter case. -/
def IsCaseVariant (cs word : List Char) : Prop :=
  (∀ c ∈ cs, c.toNat < 0x80) ∧ cs.map Char.toLower = word.map Char.toLower

/-! ## The tables -/

variable {letters : List Char}

/-- A character beyond ASCII, or one of a few letters. -/
def IsForeign (letters : List Char) (d : Char) : Prop := 0x80 ≤ d.toNat ∨ d ∈ letters

instance (letters : List Char) (d : Char) : Decidable (IsForeign letters d) :=
  inferInstanceAs (Decidable (_ ∨ _))

/-- The one character of a run is mapped to one of a few letters, or all of its characters are
mapped to characters beyond ASCII. -/
def CaseRun.LeadsAway (letters : List Char) (run : CaseRun) : Prop :=
  run.first = run.last ∧ .ofNat run.target ∈ letters ∨
    0x80 ≤ run.target ∧ run.target + (run.last - run.first) < 0x110000 ∧
      (run.target + (run.last - run.first) < 0xD800 ∨ 0xDFFF < run.target)

instance (letters : List Char) (run : CaseRun) : Decidable (run.LeadsAway letters) :=
  inferInstanceAs (Decidable (_ ∨ _))

theorem CaseRun.LeadsAway.isForeign {run : CaseRun} {n m : Nat} (h : run.LeadsAway letters)
    (hm : run.map? n = some m) : IsForeign letters (.ofNat m) := by
  unfold map? at hm
  split at hm
  · next hn =>
    cases hm
    rcases h with ⟨hone, hmem⟩ | ⟨hbeyond, hlast, hgap⟩
    · right
      have hzero : n - run.first = 0 := by omega
      rwa [hzero, Nat.add_zero]
    · left
      have hvalid : (run.target + (n - run.first)).isValidChar := by
        unfold Nat.isValidChar
        omega
      rw [Char.toNat_ofNat, if_pos hvalid]
      omega
  · cases hm

-- The tables are too long for `decide` to go through without the `Bool` form of the conditions.
theorem exists_isForeign_mapCase {sequences : List (Nat × String)} {runs : List CaseRun}
    (hsequences : sequences.all (fun s => s.2.toList.any fun d => IsForeign letters d) = true)
    (hruns : runs.all (fun run => run.LeadsAway letters) = true) {c : Char}
    (hc : ¬ c.toNat < 0x80) : ∃ d ∈ mapCase sequences runs c, IsForeign letters d := by
  unfold mapCase
  split
  · next s hs =>
    obtain ⟨_, _, hsplit, -⟩ := List.lookup_eq_some_iff.mp hs
    have hany := List.all_eq_true.mp hsequences (c.toNat, s) (hsplit ▸ List.mem_append_cons_self)
    simpa using hany
  · next n _ hn =>
    obtain ⟨run, hrun, hmap⟩ := List.exists_of_findSome?_eq_some hn
    have hleads := of_decide_eq_true (List.all_eq_true.mp hruns run hrun)
    exact ⟨_, List.mem_singleton_self _, hleads.isForeign hmap⟩
  · exact ⟨c, List.mem_singleton_self c, .inl (Nat.le_of_not_lt hc)⟩

theorem exists_isForeign_lowerChar {c : Char} (hc : ¬ c.toNat < 0x80) :
    ∃ d ∈ lowerChar c, IsForeign ['k'] d := by
  rw [lowerChar, if_neg hc]
  exact exists_isForeign_mapCase (by decide +kernel) (by decide +kernel) hc

theorem exists_isForeign_upperChar {c : Char} (hc : ¬ c.toNat < 0x80) :
    ∃ d ∈ upperChar c, IsForeign ['I', 'S', 'F'] d := by
  rw [upperChar, if_neg hc]
  exact exists_isForeign_mapCase (by decide +kernel) (by decide +kernel) hc

/-! ## Words -/

section words

variable {change : Char → List Char} {one : Char → Char} {cs word : List Char}

/-- Characters beyond ASCII leave something foreign behind, so a word without it is made of ASCII
characters only. -/
theorem flatMap_eq_iff (hascii : ∀ c, c.toNat < 0x80 → change c = [one c])
    (hbeyond : ∀ c, ¬ c.toNat < 0x80 → ∃ d ∈ change c, IsForeign letters d)
    (hword : ∀ d ∈ word, ¬ IsForeign letters d) :
    cs.flatMap change = word ↔ (∀ c ∈ cs, c.toNat < 0x80) ∧ cs.map one = word := by
  have hmap (hall : ∀ c ∈ cs, c.toNat < 0x80) : cs.flatMap change = cs.map one := by
    rw [List.map_eq_flatMap]
    exact List.flatMap_congr fun c hc => hascii c (hall c hc)
  constructor
  · intro h
    have hall : ∀ c ∈ cs, c.toNat < 0x80 := by
      intro c hc
      by_contra hlarge
      obtain ⟨d, hd, hforeign⟩ := hbeyond c hlarge
      exact hword d (h ▸ List.mem_flatMap.mpr ⟨c, hc, hd⟩) hforeign
    exact ⟨hall, (hmap hall).symm.trans h⟩
  · rintro ⟨hall, h⟩
    rw [hmap hall, h]

theorem lower_eq_iff (s : String) {w : String} (hlower : w.toList.map Char.toLower = w.toList)
    (hword : ∀ d ∈ w.toList, ¬ IsForeign ['k'] d) :
    lower s = w ↔ IsCaseVariant s.toList w.toList := by
  have hascii (c : Char) (hc : c.toNat < 0x80) : lowerChar c = [c.toLower] := if_pos hc
  rw [lower, ← String.toList_inj, String.toList_ofList,
    flatMap_eq_iff hascii (fun c => exists_isForeign_lowerChar) hword, IsCaseVariant, hlower]

theorem upper_eq_iff (s : String) {w : String} (hupper : w.toList.map Char.toUpper = w.toList)
    (hword : ∀ d ∈ w.toList, ¬ IsForeign ['I', 'S', 'F'] d) :
    upper s = w ↔ IsCaseVariant s.toList w.toList := by
  have hascii (c : Char) (hc : c.toNat < 0x80) : upperChar c = [c.toUpper] := if_pos hc
  rw [upper, ← String.toList_inj, String.toList_ofList,
    flatMap_eq_iff hascii (fun c => exists_isForeign_upperChar) hword, IsCaseVariant]
  refine and_congr_right fun _ => ?_
  -- The case of ASCII letters that is read off the word is made from the other one.
  constructor
  · intro h
    rw [← h, List.map_map]
    exact List.map_congr_left fun c _ => c.toLower_toUpper_eq_toLower.symm
  · intro h
    calc s.toList.map Char.toUpper
        = (s.toList.map Char.toLower).map Char.toUpper := by simp
      _ = (w.toList.map Char.toLower).map Char.toUpper := by rw [h]
      _ = w.toList.map Char.toUpper := by simp
      _ = w.toList := hupper

end words

end RasterTensor.Text
