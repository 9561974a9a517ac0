import RasterTensor.Files.PathName

/-!
# Path names and their texts

Reading gives path names whose parts are neither empty nor a point and hold no slash. The text of
such a path name reads back as the path name itself.
-/

namespace RasterTensor.Files

theorem splitSlashes_ne_nil (cs : List Char) : splitSlashes cs ≠ [] := by
  cases cs with
  | nil => simp [splitSlashes]
  | cons c rest =>
      rw [splitSlashes]
      split
      · simp
      · split <;> simp

theorem splitSlashes_of_notMem {cs : List Char} (h : '/' ∉ cs) : splitSlashes cs = [cs] := by
  induction cs with
  | nil => rfl
  | cons c rest ih =>
      obtain ⟨hc, hrest⟩ := List.ne_and_not_mem_of_not_mem_cons h
      rw [splitSlashes, if_neg (Ne.symm hc), ih hrest]

theorem splitSlashes_append_slash {part : Name} (h : '/' ∉ part) (rest : List Char) :
    splitSlashes (part ++ '/' :: rest) = part :: splitSlashes rest := by
  induction part with
  | nil => simp [splitSlashes]
  | cons c part ih =>
      obtain ⟨hc, hpart⟩ := List.ne_and_not_mem_of_not_mem_cons h
      rw [List.cons_append, splitSlashes, if_neg (Ne.symm hc), ih hpart]

theorem slash_notMem_of_mem_splitSlashes {cs : List Char} {part : Name}
    (h : part ∈ splitSlashes cs) : '/' ∉ part := by
  induction cs generalizing part with
  | nil =>
      have hp : part = [] := by simpa [splitSlashes] using h
      simp [hp]
  | cons c rest ih =>
      rw [splitSlashes] at h
      split at h
      · rcases List.mem_cons.mp h with rfl | hrest
        · simp
        · exact ih hrest
      · next hc =>
        obtain ⟨first, parts, hsplit⟩ := List.exists_cons_of_ne_nil (splitSlashes_ne_nil rest)
        rw [hsplit] at h ih
        rcases List.mem_cons.mp h with rfl | hparts
        · exact List.not_mem_cons_of_ne_of_not_mem (Ne.symm hc) (ih List.mem_cons_self)
        · exact ih (List.mem_cons_of_mem _ hparts)

theorem splitSlashes_joinSlashes {parts : List Name} (hne : parts ≠ [])
    (h : ∀ part ∈ parts, '/' ∉ part) : splitSlashes (joinSlashes parts) = parts := by
  induction parts with
  | nil => exact absurd rfl hne
  | cons part parts ih =>
      have hpart := h part List.mem_cons_self
      cases parts with
      | nil => exact splitSlashes_of_notMem hpart
      | cons next parts =>
          have hrest := ih (by simp) fun p hp => h p (List.mem_cons_of_mem _ hp)
          rw [joinSlashes, splitSlashes_append_slash hpart, hrest]
          simp

theorem filter_splitSlashes_replicate (n : Nat) (cs : List Char) :
    (splitSlashes (List.replicate n '/' ++ cs)).filter isKept =
      (splitSlashes cs).filter isKept := by
  induction n with
  | zero => rfl
  | succ n ih =>
      rw [List.replicate_succ, List.cons_append, splitSlashes, if_pos rfl,
        List.filter_cons_of_neg (by simp [isKept]), ih]

namespace PathName

/-- What reading guarantees of a path name. -/
structure Clean (p : PathName) : Prop where
  slashes_le : p.slashes ≤ 2
  kept : ∀ part ∈ p.parts, isKept part = true
  slash_notMem : ∀ part ∈ p.parts, '/' ∉ part

theorem clean_ofChars (cs : List Char) : (ofChars cs).Clean where
  slashes_le := by
    simp only [ofChars]
    split <;> omega
  kept part hpart := (List.mem_filter.mp hpart).2
  slash_notMem part hpart := slash_notMem_of_mem_splitSlashes (List.mem_filter.mp hpart).1

theorem clean_ofText (s : String) : (ofText s).Clean := clean_ofChars s.toList

theorem Clean.head?_joinSlashes {p : PathName} (h : p.Clean) :
    (joinSlashes p.parts).head? ≠ some '/' := by
  obtain ⟨slashes, parts⟩ := p
  cases parts with
  | nil => simp [joinSlashes]
  | cons part parts =>
      have hkept := h.kept part List.mem_cons_self
      have hslash := h.slash_notMem part List.mem_cons_self
      cases part with
      | nil => simp [isKept] at hkept
      | cons c part =>
          have hc : c ≠ '/' := fun heq => hslash (heq ▸ List.mem_cons_self)
          cases parts <;> simpa [joinSlashes] using hc

theorem takeWhile_replicate_slash (n : Nat) {cs : List Char} (h : cs.head? ≠ some '/') :
    ((List.replicate n '/' ++ cs).takeWhile (· == '/')).length = n := by
  induction n with
  | zero =>
      cases cs with
      | nil => rfl
      | cons c cs =>
          have hc : (c == '/') = false := by simpa using h
          simp [hc]
  | succ n ih => simpa [List.replicate_succ] using ih

theorem Clean.ofChars_chars {p : PathName} (h : p.Clean) : ofChars p.chars = p := by
  obtain ⟨slashes, parts⟩ := p
  have hle : slashes ≤ 2 := h.slashes_le
  rw [chars]
  split
  · next hnone =>
    obtain ⟨hslashes, hparts⟩ : slashes = 0 ∧ parts = [] := hnone
    subst hslashes hparts
    rfl
  · have hparts : (splitSlashes (joinSlashes parts)).filter isKept = parts := by
      cases parts with
      | nil => rfl
      | cons part parts =>
          rw [splitSlashes_joinSlashes (by simp) h.slash_notMem]
          exact List.filter_eq_self.mpr h.kept
    rw [ofChars, takeWhile_replicate_slash slashes h.head?_joinSlashes,
      filter_splitSlashes_replicate, hparts, if_pos hle]

theorem Clean.ofText_text {p : PathName} (h : p.Clean) : ofText p.text = p := by
  rw [ofText, text, String.toList_ofList, h.ofChars_chars]

end PathName

end RasterTensor.Files
