import RasterTensor.Catalogue
import RasterTensor.Choice.Reading
import RasterTensor.Proofs.Text.LetterCase
import RasterTensor.Proofs.Text.Plain
import RasterTensor.Proofs.Text.Trimming

/-!
# Spellings of names

A member of a list is read from exactly those texts that are its name in some case of its ASCII
letters, with white space around it. No character beyond ASCII stands for a letter, although some
have such a letter as their lower or upper case.
-/

namespace RasterTensor

open Document Text

/-- A text that is a word of ASCII up to letter case, with white space on both sides of it. -/
def Spells (s word : String) : Prop :=
  ∃ front body back, s.toList = front ++ (body ++ back) ∧ (∀ c ∈ front, isBlank c = true) ∧
    (∀ c ∈ back, isBlank c = true) ∧ IsCaseVariant body word.toList

theorem toLower_of_isBlank {c : Char} (hc : isBlank c = true) : c.toLower = c := by
  apply Char.toLower_eq_of_not_isUpper
  intro hupper
  have hrange : 65 ≤ c.toNat ∧ c.toNat ≤ 90 := by
    simpa [Char.isUpper, UInt32.le_iff_toNat_le] using hupper
  have hall : ∀ n < 91, 65 ≤ n → isBlank (.ofNat n) = false := by decide
  have hvisible := hall c.toNat (by omega) hrange.1
  rw [Char.ofNat_toNat, hc] at hvisible
  cases hvisible

theorem spells_iff_strip (s : String) {word : String}
    (hword : ∀ d ∈ word.toList, isBlank d.toLower = false) :
    Spells s word ↔ IsCaseVariant (strip s).toList word.toList := by
  rw [strip, String.toList_ofList]
  constructor
  · rintro ⟨front, body, back, hs, hfront, hback, hbody⟩
    have hvisible : ∀ c ∈ body, isBlank c = false := by
      intro c hc
      by_contra hblank
      have hmem : c.toLower ∈ word.toList.map Char.toLower :=
        hbody.2 ▸ List.mem_map_of_mem hc
      obtain ⟨d, hd, heq⟩ := List.mem_map.mp hmem
      have hnot := hword d hd
      rw [heq, toLower_of_isBlank (by simpa using hblank)] at hnot
      exact hblank hnot
    rwa [hs, trimBy_append hfront hvisible hback]
  · intro hbody
    obtain ⟨front, back, hs, hfront, hback⟩ := exists_trimBy isBlank s.toList
    exact ⟨front, _, back, hs, hfront, hback, hbody⟩

/-! ## Readers of names -/

section readers

variable {α : Type} {read : Value → Except Failure α} {list : ChoiceList} {name : α → String}

/-- A reader takes the spellings of the names and refuses all other texts as settings. No text
spells two names. -/
structure ReadsSpellings (read : Value → Except Failure α) (list : ChoiceList)
    (name : α → String) : Prop where
  eq_ok_iff : ∀ s a, read (.text s) = .ok a ↔ Spells s (name a)
  eq_error : ∀ s, (∀ a, ¬ Spells s (name a)) →
    read (.text s) = .error (.unknownChoice list (quoted s)) ∧
      (Failure.unknownChoice list (quoted s)).kind? = some .settings
  unique : ∀ s a b, Spells s (name a) → Spells s (name b) → a = b

theorem readsSpellings_of_find (reach : Reach) (all : List α) (change : String → String)
    (hread : ∀ s, read (.text s) =
      readMember reach list (fun s => all.find? fun a => name a == change (strip s)) (.text s))
    (hfind : ∀ a, all.find? (fun b => name b == name a) = some a)
    (hchange : ∀ s a, change s = name a ↔ IsCaseVariant s.toList (name a).toList)
    (hname : ∀ a, ∀ d ∈ (name a).toList, isBlank d.toLower = false) :
    ReadsSpellings read list name := by
  have hfound (s : String) (a : α) :
      all.find? (fun b => name b == change (strip s)) = some a ↔ Spells s (name a) := by
    rw [spells_iff_strip s (hname a), ← hchange]
    constructor
    · intro h
      have hsame := List.find?_some h
      exact (eq_of_beq hsame).symm
    · intro h
      rw [h, hfind]
  have hok (s : String) (a : α) : read (.text s) = .ok a ↔ Spells s (name a) := by
    rw [hread, readMember_text, ← hfound]
    cases all.find? fun b => name b == change (strip s) with
    | none => simp
    | some b => simp
  refine ⟨hok, ?_, ?_⟩
  · intro s hs
    have hnone : all.find? (fun b => name b == change (strip s)) = none := by
      rw [Option.eq_none_iff_forall_ne_some]
      intro a ha
      exact hs a ((hfound s a).mp ha)
    rw [hread, readMember_text, hnone]
    exact ⟨rfl, rfl⟩
  · intro s a b ha hb
    have hsame := ((hok s a).mpr ha).symm.trans ((hok s b).mpr hb)
    exact Except.ok.inj hsame

end readers

/-- Front ends, element types and layouts are read from the spellings of their names and from no
other text. -/
theorem readsSpellings_ofValue (reach : Reach) :
    ReadsSpellings (FrontEnd.ofValue reach) .frontEnd FrontEnd.name ∧
      ReadsSpellings (ElementType.ofValue reach) .elementType ElementType.name ∧
      ReadsSpellings (Layout.ofValue reach) .layout Layout.name := by
  refine ⟨?_, ?_, ?_⟩
  · refine readsSpellings_of_find reach FrontEnd.all lower ?_ FrontEnd.ofName?_name ?_ ?_
    · intro s
      rfl
    · intro s f
      cases f <;> exact lower_eq_iff s (by decide) (forall_mem_of_all (by decide))
    · intro f
      cases f <;> exact forall_mem_of_all (by decide)
  · refine readsSpellings_of_find reach ElementType.all lower ?_ ElementType.ofName?_name ?_ ?_
    · intro s
      rfl
    · intro s t
      cases t <;> exact lower_eq_iff s (by decide) (forall_mem_of_all (by decide))
    · intro t
      cases t <;> exact forall_mem_of_all (by decide)
  · refine readsSpellings_of_find reach Layout.all upper ?_ Layout.ofName?_name ?_ ?_
    · intro s
      rfl
    · intro s l
      cases l <;> exact upper_eq_iff s (by decide) (forall_mem_of_all (by decide))
    · intro l
      cases l <;> exact forall_mem_of_all (by decide)

example (reach : Reach) : FrontEnd.ofValue reach (.text "\u2003TFlite\x1f") = .ok .tflite := rfl

-- The ligature at the front of this text has two letters of ASCII as its upper case.
example (reach : Reach) : ElementType.ofValue reach (.text "\ufb02oat") =
    .error (.unknownChoice .elementType (quoted "\ufb02oat")) := rfl

end RasterTensor
