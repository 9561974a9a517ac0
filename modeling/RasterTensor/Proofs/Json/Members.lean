import RasterTensor.Proofs.Json.Strings
import RasterTensor.Proofs.Json.Numbers
import RasterTensor.Proofs.Outcomes

/-!
# Members of arrays and objects

An array or an object is written as a block, each member on a line of its own. Where every member
is read as it was written, so is the block, and reading ends behind its closing mark.
-/

namespace RasterTensor.Json

open Document Text

variable {α : Type} {part : Cursor → Reading (α × Cursor)} {text rest : List Char}
  {texts : List (List Char)} {a : α} {as : List α} {close : Char} {level position : Nat}

/-- A text that a part is written as and read from. It starts with a mark that neither closes a
block nor stands between members. -/
structure Reads (part : Cursor → Reading (α × Cursor)) (text : List Char) (a : α) : Prop where
  plain : ∀ c ∈ text, IsPlain c
  head : ∃ c tail, text = c :: tail ∧ isSpace c = false ∧ c ≠ ']' ∧ c ≠ '\x7d'
  read : ∀ position rest, Delimited rest →
    part ⟨position, text ++ rest⟩ = .ok (a, ⟨position + text.length, rest⟩)

def IsClosing (c : Char) : Prop := c = ']' ∨ c = '\x7d'

theorem IsClosing.isSpace_eq (h : IsClosing close) : isSpace close = false := by
  rcases h with rfl | rfl <;> decide

theorem IsClosing.ne_comma (h : IsClosing close) : close ≠ ',' := by
  rcases h with rfl | rfl <;> decide

theorem Reads.head_ne (h : Reads part text a) (hclose : IsClosing close) (rest : List Char) :
    (text ++ rest).head? ≠ some close := by
  obtain ⟨c, tail, rfl, -, hbracket, hbrace⟩ := h.head
  rcases hclose with rfl | rfl
  · simpa using hbracket
  · simpa using hbrace

/-! ## Blanks -/

theorem isSpace_of_mem_newline {c : Char} (h : c ∈ newline level) : isSpace c = true := by
  rcases List.mem_cons.mp h with rfl | h
  · decide
  · rw [List.eq_of_mem_replicate h]
    decide

theorem skipSpace_append {blanks : List Char} (hblanks : ∀ c ∈ blanks, isSpace c = true)
    (h : ∃ c tail, text = c :: tail ∧ isSpace c = false) :
    skipSpace ⟨position, blanks ++ text⟩ = ⟨position + blanks.length, text⟩ := by
  obtain ⟨c, tail, rfl, hc⟩ := h
  simp [skipSpace, Cursor.advance, List.takeWhile_append_of_pos hblanks, hc]

theorem Reads.skipSpace_eq (h : Reads part text a) {blanks : List Char}
    (hblanks : ∀ c ∈ blanks, isSpace c = true) (rest : List Char) :
    skipSpace ⟨position, blanks ++ (text ++ rest)⟩ =
      ⟨position + blanks.length, text ++ rest⟩ := by
  obtain ⟨c, tail, rfl, hc, -, -⟩ := h.head
  exact skipSpace_append hblanks ⟨c, tail ++ rest, rfl, hc⟩

/-! ## The layout of a block -/

/-- The members of a block after the first one. -/
def following (level : Nat) (texts : List (List Char)) : List Char :=
  texts.flatMap fun text => ',' :: (newline level ++ text)

theorem intercalate_cons (separator text : List Char) (texts : List (List Char)) :
    separator.intercalate (text :: texts) = text ++ texts.flatMap fun t => separator ++ t := by
  induction texts generalizing text with
  | nil => simp
  | cons next texts ih => simp [List.intercalate_cons_cons, ih]

theorem block_cons (opening close : Char) :
    block opening close level (text :: texts) =
      opening :: (newline (level + 1) ++ (text ++
        (following (level + 1) texts ++ (newline level ++ [close])))) := by
  simp [block, intercalate_cons, following, List.flatMap_map]

theorem following_cons :
    following level (text :: texts) =
      ',' :: (newline level ++ (text ++ following level texts)) := by
  simp [following]

theorem length_le_following (level : Nat) (texts : List (List Char)) :
    texts.length ≤ (following level texts).length := by
  induction texts with
  | nil => exact Nat.zero_le _
  | cons text texts ih =>
      rw [following_cons, List.length_cons, List.length_cons]
      simp only [List.length_append]
      omega

theorem delimited_following (inner outer : Nat) (texts : List (List Char)) (tail : List Char) :
    Delimited (following inner texts ++ (newline outer ++ tail)) := by
  cases texts with
  | nil => exact .lineEnd _
  | cons text texts => exact .comma _

theorem isPlain_of_mem_newline {c : Char} (h : c ∈ newline level) : IsPlain c := by
  rcases List.mem_cons.mp h with rfl | h
  · decide
  · rw [List.eq_of_mem_replicate h]
    decide

theorem isPlain_of_mem_block {opening close : Char} (hopening : IsPlain opening)
    (hclose : IsPlain close) (h : ∀ text ∈ texts, ∀ c ∈ text, IsPlain c) :
    ∀ c ∈ block opening close level texts, IsPlain c := by
  intro c hc
  have hcomma : IsPlain ',' := by decide
  cases texts with
  | nil =>
      rcases List.mem_cons.mp hc with rfl | hc
      · exact hopening
      · exact List.mem_singleton.mp hc ▸ hclose
  | cons text texts =>
      rw [block_cons] at hc
      simp only [List.mem_cons, List.mem_append, following, List.mem_flatMap,
        List.not_mem_nil, or_false] at hc
      rcases hc with rfl | hc | hc | ⟨next, hnext, rfl | hc | hc⟩ | hc | rfl
      · exact hopening
      · exact isPlain_of_mem_newline hc
      · exact h text List.mem_cons_self c hc
      · exact hcomma
      · exact isPlain_of_mem_newline hc
      · exact h next (List.mem_cons_of_mem _ hnext) c hc
      · exact isPlain_of_mem_newline hc
      · exact hclose

/-! ## Reading a block -/

theorem readFollow_more (h : Reads part text a) (hclose : IsClosing close) :
    readFollow close ⟨position, ',' :: (newline level ++ (text ++ rest))⟩ =
      .ok (.more ⟨position + 1 + (newline level).length, text ++ rest⟩) := by
  have hcomma : skipSpace ⟨position, ',' :: (newline level ++ (text ++ rest))⟩ =
      ⟨position, ',' :: (newline level ++ (text ++ rest))⟩ := rfl
  have hskip : skipSpace ⟨position + 1, newline level ++ (text ++ rest)⟩ =
      ⟨position + 1 + (newline level).length, text ++ rest⟩ :=
    h.skipSpace_eq (fun _ => isSpace_of_mem_newline) rest
  rw [readFollow, hcomma]
  simp only [if_neg hclose.ne_comma.symm, if_true, Cursor.advance, List.drop_one, List.tail_cons,
    hskip]

theorem readFollow_closed (hclose : IsClosing close) :
    readFollow close ⟨position, newline level ++ close :: rest⟩ =
      .ok (.closed ⟨position + (newline level).length + 1, rest⟩) := by
  have hskip : skipSpace ⟨position, newline level ++ close :: rest⟩ =
      ⟨position + (newline level).length, close :: rest⟩ :=
    skipSpace_append (fun _ => isSpace_of_mem_newline) ⟨close, rest, rfl, hclose.isSpace_eq⟩
  rw [readFollow, hskip]
  simp [Cursor.advance]

theorem readMembers_following (hclose : IsClosing close)
    (hmembers : List.Forall₂ (Reads part) texts as) (hfirst : Reads part text a) {fuel : Nat}
    (hfuel : texts.length < fuel) (out : List α) :
    readMembers close part fuel out
        ⟨position, text ++ (following (level + 1) texts ++ (newline level ++ close :: rest))⟩ =
      .ok (out.reverse ++ a :: as,
        ⟨position + (text ++ (following (level + 1) texts ++ (newline level ++ [close]))).length,
          rest⟩) := by
  -- By induction on the members: each is read as it was written and followed by the next one or by
  -- the closing mark.
  induction hmembers generalizing text a fuel out position with
  | nil =>
      obtain ⟨fuel, rfl⟩ : ∃ n, fuel = n + 1 := ⟨fuel - 1, by omega⟩
      have hread := hfirst.read position (newline level ++ close :: rest) (.lineEnd _)
      simp only [following, List.flatMap_nil, List.nil_append]
      rw [readMembers, hread, ok_bind]
      dsimp only
      rw [readFollow_closed hclose, ok_bind]
      simp [Nat.add_assoc]
      rfl
  | @cons next b texts as hnext hrest ih =>
      obtain ⟨fuel, rfl⟩ : ∃ n, fuel = n + 1 := ⟨fuel - 1, by omega⟩
      have hread := hfirst.read position
        (following (level + 1) (next :: texts) ++ (newline level ++ close :: rest))
        (delimited_following _ _ _ _)
      rw [List.length_cons] at hfuel
      rw [readMembers, hread, ok_bind, following_cons]
      simp only [List.cons_append, List.append_assoc]
      -- The comma leads to the next member, which is the first of those that are left.
      rw [readFollow_more hnext hclose, ok_bind]
      dsimp only
      rw [ih hnext (by omega)]
      simp [Nat.add_assoc, Nat.add_comm, Nat.add_left_comm]

theorem readBody_block (hclose : IsClosing close) (opening : Char)
    (h : List.Forall₂ (Reads part) texts as) :
    readBody close part
        (Cursor.advance ⟨position, block opening close level texts ++ rest⟩ 1) =
      .ok (as, ⟨position + (block opening close level texts).length, rest⟩) := by
  cases h with
  | nil =>
      have hskip : skipSpace ⟨position + 1, [] ++ close :: rest⟩ =
          ⟨position + 1, close :: rest⟩ :=
        skipSpace_append (by simp) ⟨close, rest, rfl, hclose.isSpace_eq⟩
      rw [readBody]
      simp only [block, Cursor.advance, List.isEmpty_nil, if_true, List.cons_append,
        List.nil_append, List.drop_one, List.tail_cons] at hskip ⊢
      rw [hskip]
      simp [Nat.add_assoc]
  | @cons a text texts as hfirst hrest =>
      have hblock := length_le_following (level + 1) texts
      have hskip (tail : List Char) :
          skipSpace ⟨position + 1, newline (level + 1) ++ (a ++ tail)⟩ =
            ⟨position + 1 + (newline (level + 1)).length, a ++ tail⟩ :=
        hfirst.skipSpace_eq (fun _ => isSpace_of_mem_newline) tail
      rw [block_cons, readBody]
      simp only [Cursor.advance, List.cons_append, List.append_assoc, List.drop_one,
        List.tail_cons, List.nil_append]
      rw [hskip, if_neg (hfirst.head_ne hclose _), readMembers_following hclose hrest hfirst]
      · simp [Nat.add_assoc, Nat.add_comm, Nat.add_left_comm]
      · -- Each member takes a character at least, so the length of the text is fuel enough.
        simp only [List.length_append]
        omega

theorem isPlain_of_reads (h : List.Forall₂ (Reads part) texts as) :
    ∀ text ∈ texts, ∀ c ∈ text, IsPlain c := by
  induction h with
  | nil => simp
  | cons hfirst _ ih => exact List.forall_mem_cons.mpr ⟨hfirst.plain, ih⟩

theorem exists_block_cons (opening close : Char) (level : Nat) (texts : List (List Char)) :
    ∃ tail, block opening close level texts = opening :: tail := by
  cases texts with
  | nil => exact ⟨[close], rfl⟩
  | cons text texts => exact ⟨_, block_cons opening close⟩

theorem reads_block {β : Type} {whole : Cursor → Reading (β × Cursor)} {opening : Char}
    (hopening : opening = '[' ∨ opening = '\x7b') (hclose : IsClosing close)
    (h : List.Forall₂ (Reads part) texts as) (f : List α → β)
    (hwhole : ∀ position tail, whole ⟨position, opening :: tail⟩ =
      (readBody close part (Cursor.advance ⟨position, opening :: tail⟩ 1)).map
        fun body => (f body.1, body.2)) :
    Reads whole (block opening close level texts) (f as) := by
  obtain ⟨tail, htail⟩ := exists_block_cons opening close level texts
  refine ⟨isPlain_of_mem_block ?_ ?_ (isPlain_of_reads h), ?_, fun position rest _ => ?_⟩
  · rcases hopening with rfl | rfl <;> decide
  · rcases hclose with rfl | rfl <;> decide
  · exact ⟨opening, tail, htail, by rcases hopening with rfl | rfl <;> decide⟩
  · have hbody : readBody close part
        (Cursor.advance ⟨position, block opening close level texts ++ rest⟩ 1) = _ :=
      readBody_block hclose opening h
    rw [htail, List.cons_append] at hbody ⊢
    rw [hwhole, hbody]
    rfl

end RasterTensor.Json
