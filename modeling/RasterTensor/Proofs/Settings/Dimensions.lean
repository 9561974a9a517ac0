import RasterTensor.Proofs.Binary.Integers
import RasterTensor.Proofs.Decimal.Grammar
import RasterTensor.Proofs.Document.Writable
import RasterTensor.Proofs.Settings.Keys
import RasterTensor.Proofs.Settings.RoundTrip

/-!
# Widths and heights

A width or a height of accepted settings is the number that was given: an integer, the value of a
float or the integer that a numeral denotes. Nothing is rounded, cut off or put in its place.
-/

namespace RasterTensor.Settings

open Binary Decimal Document

variable {reach : Reach} {name : String} {v w : Value} {n : ℕ}

/-- What is given for a width or a height, if anything is, and the number that it stands for. -/
inductive Gives : Option Value → ℕ → Prop
  | absent : Gives none 0
  | null : Gives (some .null) 0
  | int (n : ℕ) : Gives (some (.int n)) n
  | float {x : Binary64} {n : ℕ} (h : x.number.Denotes n) : Gives (some (.float x)) n
  | text {s : String} {ds : List ℕ} {n : ℕ} (h : IsNumeral .unicode s.toList ds n)
      (hlength : ds.length ≤ maxIntegerDigits) : Gives (some (.text s)) n
  | bytes {content : List UInt8} {ds : List ℕ} {n : ℕ}
      (h : IsNumeral .ascii (latinText content) ds n)
      (hlength : ds.length ≤ maxIntegerDigits) : Gives (some (.bytes content)) n

/-- Values that must not pass for a width or a height. -/
inductive IsForbidden : Value → Prop
  | bool (b : Bool) : IsForbidden (.bool b)
  | fractional {x : Binary64} {q : ℚ} (h : x.number.Denotes q) (hq : ∀ i : ℤ, q ≠ i) :
      IsForbidden (.float x)
  | notFinite {x : Binary64} (h : x.isFinite = false) : IsForbidden (.float x)
  | negativeInt {i : ℤ} (h : i < 0) : IsForbidden (.int i)
  | negativeFloat {x : Binary64} {q : ℚ} (h : x.number.Denotes q) (hq : q < 0) :
      IsForbidden (.float x)
  | negativeText {s : String} {ds : List ℕ} {i : ℤ} (h : IsNumeral .unicode s.toList ds i)
      (hi : i < 0) : IsForbidden (.text s)
  | noNumeral {s : String} (h : ∀ ds i, ¬ IsNumeral .unicode s.toList ds i) :
      IsForbidden (.text s)

theorem IsForbidden.not_gives (h : IsForbidden w) (n : ℕ) : ¬ Gives (some w) n := by
  intro hgives
  cases h with
  | bool b => cases hgives
  | fractional h hq =>
      cases hgives with
      | float hn => exact hq n (by simpa using h.unique hn)
  | notFinite h =>
      cases hgives with
      | float hn =>
          rw [Binary64.isFinite, Number.isFinite_iff.mpr ⟨_, hn⟩] at h
          cases h
  | negativeInt h =>
      cases hgives with
      | int n => omega
  | negativeFloat h hq =>
      cases hgives with
      | float hn =>
          rw [h.unique hn] at hq
          exact absurd hq (Nat.cast_nonneg n).not_gt
  | negativeText h hi =>
      cases hgives with
      | text hn =>
          obtain ⟨-, rfl⟩ := h.unique hn
          omega
  | noNumeral h =>
      cases hgives with
      | text hn => exact h _ _ hn

/-! ## Reading a size -/

theorem refuseDimension_ne_ok : refuseDimension reach name v ≠ .ok n :=
  bind_throw_ne_ok _ _ n

theorem readDimension_eq_ok (hnull : v.isNull = false) :
    readDimension reach name v = .ok n ↔ isFractional v = false ∧ v.toInteger = .ok n := by
  rw [readDimension, hnull, if_neg Bool.false_ne_true]
  cases hfractional : isFractional v with
  | true => simp [refuseDimension_ne_ok]
  | false =>
      cases hread : v.toInteger with
      | error e => simp [refuseDimension_ne_ok]
      | ok i =>
          cases i with
          | ofNat m => simp
          | negSucc m => exact iff_of_false (bind_throw_ne_ok _ _ n) nofun

theorem readDimension_float {x : Binary64} :
    readDimension reach name (.float x) = .ok n ↔ x.number.Denotes n := by
  rw [readDimension_eq_ok rfl]
  constructor
  · rintro ⟨hwhole, hread⟩
    obtain ⟨i, hi⟩ := Number.isInteger_iff.mp (by simpa [isFractional] using hwhole)
    simp only [Value.toInteger, hi.truncate?_eq.2] at hread
    cases hread
    exact hi
  · intro h
    obtain ⟨hwhole, htruncate⟩ := h.truncate?_eq
    simp [isFractional, Value.toInteger, hwhole, htruncate]

/-- A value is read as a size exactly when it gives that number. -/
theorem readDimension_eq_ok_iff : readDimension reach name v = .ok n ↔ Gives (some v) n := by
  constructor
  · intro h
    cases v with
    | null =>
        cases h
        exact .null
    | float x => exact .float (readDimension_float.mp h)
    | bool b => cases ((readDimension_eq_ok rfl).mp h).1
    | int i =>
        cases ((readDimension_eq_ok rfl).mp h).2
        exact .int n
    | text s =>
        have hread := Value.ofNumeral_eq_ok ((readDimension_eq_ok rfl).mp h).2
        obtain ⟨ds, hnumeral, hlength⟩ := integer_eq_ok_iff.mp hread
        exact .text hnumeral hlength
    | bytes content =>
        have hread := Value.ofNumeral_eq_ok ((readDimension_eq_ok rfl).mp h).2
        obtain ⟨ds, hnumeral, hlength⟩ := asciiInteger_eq_ok_iff.mp hread
        exact .bytes hnumeral hlength
    | _ => cases ((readDimension_eq_ok rfl).mp h).2
  · intro hgives
    cases hgives with
    | null => rfl
    | int => rfl
    | float h => exact readDimension_float.mpr h
    | text h hlength =>
        rw [readDimension_eq_ok rfl, Value.toInteger, integer_eq_ok_iff.mpr ⟨_, h, hlength⟩]
        exact ⟨rfl, rfl⟩
    | bytes h hlength =>
        rw [readDimension_eq_ok rfl, Value.toInteger, asciiInteger_eq_ok_iff.mpr ⟨_, h, hlength⟩]
        exact ⟨rfl, rfl⟩

/-! ## Sizes in accepted settings -/

theorem Gives.of_fieldValue? {entries : Entries}
    (h : Gives (some ((fieldValue? name entries).getD (.int 0))) n) :
    Gives (Entries.field? name entries) n := by
  cases hvalue : fieldValue? name entries with
  | some v =>
      rw [hvalue] at h
      rw [(field?_of_fieldValue? hvalue).1]
      exact h
  | none =>
      rw [hvalue] at h
      cases h
      rcases field?_of_fieldValue?_eq_none hvalue with hnone | hnull
      · exact hnone ▸ .absent
      · exact hnull ▸ .null

theorem gives_of_ofEntries {entries : Entries} {s : Settings}
    (h : ofEntries reach entries = .ok s) :
    Gives (Entries.field? "width" entries) s.width ∧
      Gives (Entries.field? "height" entries) s.height := by
  simp only [ofEntries, ofFields, bind_eq_ok, pure_eq_ok] at h
  obtain ⟨-, -, -, -, -, -, -, -, -, -, -, -, -, -, -, -, width, hwidth, height, hheight, -, -,
    rfl⟩ := h
  exact ⟨.of_fieldValue? (readDimension_eq_ok_iff.mp hwidth),
    .of_fieldValue? (readDimension_eq_ok_iff.mp hheight)⟩

/-- Accepted settings have the width and the height that were given, and every value that gives one
is taken for it. A forbidden value is refused, whatever else is given. -/
theorem dimensions_ofValue (reach : Reach) :
    (∀ v s, ofValue reach v = .ok s → ∃ entries, v = .mapping entries ∧
      Gives (Entries.field? "width" entries) s.width ∧
        Gives (Entries.field? "height" entries) s.height) ∧
      (∀ entries, ∀ name ∈ ["width", "height"], ∀ w, Entries.field? name entries = some w →
        IsForbidden w → ∃ f, ofValue reach (.mapping entries) = .error f) ∧
      ∀ name w n, readDimension reach name w = .ok n ↔ Gives (some w) n := by
  refine ⟨?_, ?_, fun _ _ _ => readDimension_eq_ok_iff⟩
  · intro v s h
    cases v with
    | mapping entries => exact ⟨entries, rfl, gives_of_ofEntries h⟩
    | _ => cases h
  · intro entries name hname w hw hforbidden
    cases hread : ofValue reach (.mapping entries) with
    | error f => exact ⟨f, rfl⟩
    | ok s =>
        obtain ⟨hwidth, hheight⟩ := gives_of_ofEntries hread
        simp only [List.mem_cons, List.not_mem_nil, or_false] at hname
        rcases hname with rfl | rfl
        · exact absurd (hw ▸ hwidth) (hforbidden.not_gives _)
        · exact absurd (hw ▸ hheight) (hforbidden.not_gives _)

theorem denotes_two_and_a_half : (⟨0x4004000000000000⟩ : Binary64).number.Denotes (5 / 2) := by
  have hnumber : (⟨0x4004000000000000⟩ : Binary64).number =
      .finite false 0x14000000000000 (-51) := by decide
  exact ⟨_, _, _, hnumber, by norm_num [signed]⟩

/-- A numeral with a sign, an underscore, a digit of another script and blanks is a width. A float
with a fraction is none. -/
theorem dimensions_ofValue_payload :
    ofValue .flat (payload "in.png" (.text "\u2003+1_0٣\n")) =
        .ok ⟨.ofText "in.png", .ofText "out/o.bin", .caffe, .float32, 103, 0, .nhwc⟩ ∧
      Gives (some (.text "\u2003+1_0٣\n")) 103 ∧
      ∃ f, ofValue .flat (payload "in.png" (.float ⟨0x4004000000000000⟩)) = .error f := by
  have hread : ofValue .flat (payload "in.png" (.text "\u2003+1_0٣\n")) =
      .ok ⟨.ofText "in.png", .ofText "out/o.bin", .caffe, .float32, 103, 0, .nhwc⟩ := by
    rfl
  obtain ⟨entries, heq, hwidth, -⟩ := (dimensions_ofValue .flat).1 _ _ hread
  cases heq
  refine ⟨hread, hwidth, ?_⟩
  refine (dimensions_ofValue .flat).2.1 _ "width" (by decide) (.float ⟨0x4004000000000000⟩) rfl ?_
  refine .fractional denotes_two_and_a_half ?_
  intro i hi
  have hdouble : (5 : ℤ) = 2 * i := by
    have hcast : (5 : ℚ) = 2 * i := by linarith
    exact_mod_cast hcast
  omega

end RasterTensor.Settings
