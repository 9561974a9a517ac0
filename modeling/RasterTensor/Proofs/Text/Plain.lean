import RasterTensor.Text.Utf8

/-!
# Plain text

A text of printable ASCII and line feeds is stored with a byte for each character, and read from
these bytes it is the same text.
-/

namespace RasterTensor

-- What holds of each character in a list is computed over the list, not over all characters.
theorem forall_mem_of_all {α : Type} {p : α → Prop} [DecidablePred p] {l : List α}
    (h : l.all (fun a => decide (p a)) = true) : ∀ a ∈ l, p a :=
  fun a ha => of_decide_eq_true (List.all_eq_true.mp h a ha)

namespace Text

/-- A line feed or a printable character of ASCII. -/
def IsPlain (c : Char) : Prop := c = '\n' ∨ 0x20 ≤ c.toNat ∧ c.toNat < 0x7F

instance (c : Char) : Decidable (IsPlain c) := inferInstanceAs (Decidable (_ ∨ _))

theorem IsPlain.toNat_lt {c : Char} (h : IsPlain c) : c.toNat < 0x80 := by
  rcases h with rfl | h
  · decide
  · omega

theorem IsPlain.ne_carriageReturn {c : Char} (h : IsPlain c) : c ≠ '\r' := by
  rintro rfl
  exact absurd h (by decide)

/-! ## Bytes of plain text -/

theorem toList_loop (bytes : ByteArray) (i : Nat) (out : List UInt8) :
    ByteArray.toList.loop bytes i out = out.reverse ++ bytes.data.toList.drop i := by
  fun_induction ByteArray.toList.loop bytes i out with
  | case1 i out h ih =>
      have hi : i < bytes.data.toList.length := by simpa using h
      have hbyte : bytes.get! i = bytes.data.toList[i] := by
        simp [ByteArray.get!, getElem!_pos bytes.data i h]
      rw [ih, List.drop_eq_getElem_cons hi, hbyte]
      simp
  | case2 i out h =>
      have hi : bytes.data.toList.length ≤ i := by simpa using h
      rw [List.drop_eq_nil_of_le hi, List.append_nil]

theorem toList_eq (bytes : ByteArray) : bytes.toList = bytes.data.toList := by
  rw [ByteArray.toList, toList_loop]
  rfl

theorem toList_toUTF8 {cs : List Char} (h : ∀ c ∈ cs, IsPlain c) :
    (String.ofList cs).toUTF8.toList = cs.map fun c => UInt8.ofNat c.toNat := by
  rw [String.toUTF8_eq_toByteArray, String.toByteArray_ofList, toList_eq, List.utf8Encode,
    List.toList_data_toByteArray]
  induction cs with
  | nil => rfl
  | cons c cs ih =>
      obtain ⟨hc, hcs⟩ := List.forall_mem_cons.mp h
      have hle : c.val.toNat ≤ 127 := Nat.le_of_lt_succ hc.toNat_lt
      rw [List.flatMap_cons, ih hcs, String.utf8EncodeChar, if_pos hle]
      rfl

theorem decodeFrom_ascii {cs : List Char} (h : ∀ c ∈ cs, IsPlain c) (position : Nat)
    (out : List Char) :
    decodeFrom position out (cs.map fun c => UInt8.ofNat c.toNat) = .ok (out.reverse ++ cs) := by
  induction cs generalizing position out with
  | nil => simp [decodeFrom]
  | cons c cs ih =>
      obtain ⟨hc, hcs⟩ := List.forall_mem_cons.mp h
      have hnumber : (UInt8.ofNat c.toNat).toNat = c.toNat := by
        rw [UInt8.toNat_ofNat']
        have := hc.toNat_lt
        omega
      have hlt : UInt8.ofNat c.toNat < 0x80 := by
        rw [UInt8.lt_iff_toNat_lt, hnumber]
        exact hc.toNat_lt
      rw [List.map_cons, decodeFrom, if_pos hlt, ih hcs, hnumber, Char.ofNat_toNat]
      simp

theorem decodeUtf8_toUTF8 {cs : List Char} (h : ∀ c ∈ cs, IsPlain c) :
    decodeUtf8 (String.ofList cs).toUTF8 = .ok cs := by
  rw [decodeUtf8, toList_toUTF8 h, decodeFrom_ascii h]
  rfl

/-! ## Line ends -/

theorem unifyLineEnds_plain {cs : List Char} (h : ∀ c ∈ cs, IsPlain c) : unifyLineEnds cs = cs := by
  induction cs with
  | nil => rfl
  | cons c cs ih =>
      obtain ⟨hc, hcs⟩ := List.forall_mem_cons.mp h
      rw [unifyLineEnds, ih hcs, if_neg hc.ne_carriageReturn]
      intro rest heq
      exact absurd heq hc.ne_carriageReturn

end Text

end RasterTensor
