import RasterTensor.Proofs.Document.Rearranged
import RasterTensor.Proofs.Json.Members
import RasterTensor.Proofs.Json.Nesting
import RasterTensor.Proofs.Json.Sorting

/-!
# Written JSON is read again

Values of the kinds that JSON has are written, and what is written is read as the same value,
except that the entries of each mapping come in the order of their keys.
-/

namespace RasterTensor.Json

open Binary Document Text

/-- The values that JSON carries, with arrays and objects nested at most `depth` deep: the keys of
mappings are texts, and numbers have a text that is read as the same number. -/
inductive Carried : Nat → Value → Prop
  | null (depth : Nat) : Carried depth .null
  | bool (depth : Nat) (b : Bool) : Carried depth (.bool b)
  | int (depth : Nat) (i : Int) (h : i.natAbs < Decimal.integerLimit) : Carried depth (.int i)
  | float (depth : Nat) (x : Binary64) (h : Legible x) : Carried depth (.float x)
  | text (depth : Nat) (s : String) : Carried depth (.text s)
  | list (depth : Nat) (items : List Value) (h : ∀ v ∈ items, Carried depth v) :
      Carried (depth + 1) (.list items)
  | mapping (depth : Nat) (fields : List (String × Value))
      (hnodup : (fields.map Prod.fst).Nodup) (h : ∀ f ∈ fields, Carried depth f.2) :
      Carried (depth + 1) (.mapping (fields.map fun f => (.text f.1, f.2)))

variable {lone : Nat → Char} {depth level : Nat}

/-! ## Scalars -/

theorem readValue_scalar {position : Nat} {c : Char} {tail : List Char} (hlist : c ≠ '[')
    (hmapping : c ≠ '\x7b') :
    readValue lone depth ⟨position, c :: tail⟩ =
      readValue.readScalar lone ⟨position, c :: tail⟩ := by
  apply readValue_of_no_mark
  · intro tail' heq
    exact hlist (List.cons.inj heq).1
  · intro tail' heq
    exact hmapping (List.cons.inj heq).1

theorem reads_null : Reads (readValue lone depth) "null".toList .null where
  plain := forall_mem_of_all (by decide)
  head := ⟨'n', "ull".toList, by decide, by decide, by decide, by decide⟩
  read position rest _ := (readValue_scalar (by decide) (by decide)).trans rfl

theorem reads_bool (b : Bool) :
    Reads (readValue lone depth) (if b then "true" else "false").toList (.bool b) := by
  cases b with
  | false =>
      exact
        { plain := forall_mem_of_all (by decide)
          head := ⟨'f', "alse".toList, by decide, by decide, by decide, by decide⟩
          read := fun position rest _ => (readValue_scalar (by decide) (by decide)).trans rfl }
  | true =>
      exact
        { plain := forall_mem_of_all (by decide)
          head := ⟨'t', "rue".toList, by decide, by decide, by decide, by decide⟩
          read := fun position rest _ => (readValue_scalar (by decide) (by decide)).trans rfl }

theorem reads_text (s : String) : Reads (readValue lone depth) (stringText s) (.text s) where
  plain _ := isPlain_of_mem_stringText
  head := ⟨'"', _, stringText_eq s, by decide, by decide, by decide⟩
  read position rest _ := by
    rw [stringText_eq, List.cons_append, readValue_scalar (by decide) (by decide)]
    rw [readValue.readScalar]
    simp only [List.append_assoc, List.cons_append, List.nil_append]
    rw [readString_stringText, ok_bind]
    simp [Nat.add_assoc, Nat.add_comm 1]
    rfl

theorem ne_of_isDigit {c d : Char} (hc : c.isDigit = true) (hd : d.isDigit = false) : c ≠ d := by
  rintro rfl
  rw [hc] at hd
  cases hd

theorem readConstant?_number {position : Nat} {whole tail : List Char} (negative : Bool)
    (hwhole : IsWhole whole) :
    readConstant? ⟨position, signText negative ++ (whole ++ tail)⟩ = none := by
  obtain ⟨c, digits, rfl⟩ := List.exists_cons_of_ne_nil hwhole.ne_nil
  have hc := hwhole.digits c List.mem_cons_self
  have hmarks : "ntfNI-".toList.all (fun d => !d.isDigit) = true := by decide
  have hne : ∀ d ∈ "ntfNI-".toList, d ≠ c := fun d hd =>
    (ne_of_isDigit hc (by simpa using List.all_eq_true.mp hmarks d hd)).symm
  simp only [String.reduceToList, List.forall_mem_cons] at hne
  cases negative with
  | false => simp [readConstant?, constants, signText, hne]
  | true => simp [readConstant?, constants, signText, hne]

theorem reads_number {text whole tail : List Char} {v : Value} {negative : Bool}
    (htext : text = signText negative ++ (whole ++ tail)) (hwhole : IsWhole whole)
    (htail : ∀ c ∈ tail, IsPlain c)
    (hread : ∀ position rest, Delimited rest →
      readNumber ⟨position, text ++ rest⟩ = .ok (v, ⟨position + text.length, rest⟩)) :
    Reads (readValue lone depth) text v := by
  -- The first character tells a number from everything else that a value can begin with.
  obtain ⟨c, digits, hcons⟩ := List.exists_cons_of_ne_nil hwhole.ne_nil
  have hc := hwhole.digits c (hcons ▸ List.mem_cons_self)
  have hhead : ∃ first rest, text = first :: rest ∧ (first = '-' ∨ first.isDigit = true) := by
    subst htext hcons
    cases negative with
    | false => exact ⟨c, _, rfl, .inr hc⟩
    | true => exact ⟨'-', _, rfl, .inl rfl⟩
  obtain ⟨first, rest, hfirst, hsign⟩ := hhead
  have hne (d : Char) (hd : d.isDigit = false) (hminus : d ≠ '-') : first ≠ d := by
    rcases hsign with rfl | hdigit
    · exact hminus.symm
    · exact ne_of_isDigit hdigit hd
  refine
    { plain := ?_
      head := ⟨first, rest, hfirst, ?_, hne ']' (by decide) (by decide),
        hne '\x7d' (by decide) (by decide)⟩
      read := fun position behind hbehind => ?_ }
  · intro c hc
    rw [htext, List.mem_append, List.mem_append] at hc
    rcases hc with hc | hc | hc
    · cases negative with
      | false => cases hc
      | true =>
          rw [List.mem_singleton.mp hc]
          decide
    · exact isPlain_of_isDigit (hwhole.digits c hc)
    · exact htail c hc
  · simp [isSpace, hne ' ' (by decide) (by decide), hne '\t' (by decide) (by decide),
      hne '\n' (by decide) (by decide), hne '\r' (by decide) (by decide)]
  · have hconstant : readConstant? ⟨position, text ++ behind⟩ = none := by
      rw [htext, List.append_assoc, List.append_assoc]
      exact readConstant?_number negative hwhole
    have hnumber := hread position behind hbehind
    rw [hfirst, List.cons_append] at hconstant hnumber ⊢
    rw [readValue_scalar (hne _ (by decide) (by decide)) (hne _ (by decide) (by decide)),
      readValue.readScalar]
    split
    · next heq => exact absurd (List.cons.inj heq).1 (hne _ (by decide) (by decide))
    · rw [hconstant, hnumber]

theorem reads_int {i : Int} (hi : i.natAbs < Decimal.integerLimit) :
    Reads (readValue lone depth) (integerText i).toList (.int i) := by
  have htext : (integerText i).toList =
      signText (decide (i < 0)) ++ (decimal i.natAbs ++ []) := by
    rw [toList_integerText, List.append_nil]
  exact reads_number htext (isWhole_decimal _) (by simp) fun _ _ hrest =>
    readNumber_integerText hi hrest

theorem integerChars_eq {i : Int} (hi : i.natAbs < Decimal.integerLimit) :
    integerChars i = .ok (integerText i).toList := by
  rw [integerChars, if_pos hi]

theorem reads_float {x : Binary64} (hx : Legible x) :
    Reads (readValue lone depth) (Decimal.render .report x).toList (.float x) := by
  obtain ⟨negative, whole, fraction, htext, hwhole, hfraction, hne, hread⟩ := hx
  have hplain : ∀ c ∈ '.' :: fraction, IsPlain c :=
    List.forall_mem_cons.mpr ⟨by decide, fun c hc => isPlain_of_isDigit (hfraction c hc)⟩
  refine reads_number htext hwhole hplain fun position rest hrest => ?_
  rw [htext, List.append_assoc, List.append_assoc, List.cons_append]
  exact readNumber_fraction negative hwhole hfraction hne hread hrest

/-! ## Arrays and objects -/

section Blocks

variable {text : List Char} {texts : List (List Char)} {w : Value} {items : List Value}
  {entries : Entries}

theorem reads_list (h : List.Forall₂ (Reads (readValue lone depth)) texts items) :
    Reads (readValue lone (depth + 1)) (block '[' ']' level texts) (.list items) := by
  refine reads_block (.inl rfl) (.inl rfl) h Value.list fun position tail => ?_
  rw [readValue]
  cases readBody ']' (readValue lone depth) (Cursor.advance ⟨position, '[' :: tail⟩ 1) <;> rfl

theorem reads_mapping
    (h : List.Forall₂ (Reads (readEntry lone (readValue lone depth))) texts entries) :
    Reads (readValue lone (depth + 1)) (block '\x7b' '\x7d' level texts)
      (.mapping (Entries.ofList entries)) := by
  refine reads_block (.inr rfl) (.inr rfl) h
    (fun entries => Value.mapping (Entries.ofList entries)) fun position tail => ?_
  rw [readValue]
  cases readBody '\x7d' (readEntry lone (readValue lone depth))
    (Cursor.advance ⟨position, '\x7b' :: tail⟩ 1) <;> rfl

def entryText (name : String) (text : List Char) : List Char :=
  stringText name ++ ':' :: ' ' :: text

theorem reads_entry (name : String) (h : Reads (readValue lone depth) text w) :
    Reads (readEntry lone (readValue lone depth)) (entryText name text) (.text name, w) where
  plain c hc := by
    have hmarks : IsPlain ':' ∧ IsPlain ' ' := by decide
    simp only [entryText, List.mem_append, List.mem_cons] at hc
    rcases hc with hc | rfl | rfl | hc
    · exact isPlain_of_mem_stringText hc
    · exact hmarks.1
    · exact hmarks.2
    · exact h.plain c hc
  head := ⟨'"', _, rfl, by decide, by decide, by decide⟩
  read position rest hrest := by
    have hspace : ∀ c ∈ [' '], isSpace c = true := List.all_eq_true.mp (by decide)
    have hcolon (position : Nat) (tail : List Char) :
        skipSpace ⟨position, ':' :: tail⟩ = ⟨position, ':' :: tail⟩ := rfl
    have hskip (position : Nat) : skipSpace ⟨position, ' ' :: (text ++ rest)⟩ =
        ⟨position + 1, text ++ rest⟩ := h.skipSpace_eq hspace rest
    simp only [entryText, stringText_eq, List.cons_append, List.append_assoc, List.nil_append]
    rw [readEntry]
    simp only [readString_stringText, ok_bind, hcolon, Cursor.advance, List.drop_one,
      List.tail_cons, hskip]
    rw [h.read _ _ hrest, ok_bind]
    refine congrArg (fun n => Except.ok ((Value.text name, w), Cursor.mk n rest)) ?_
    simp only [List.length_append, List.length_cons]
    omega

end Blocks

/-! ## All values -/

theorem exists_texts {items : List Value}
    (h : ∀ v ∈ items, ∃ text w, write depth level v = .ok text ∧ v.Rearranged w ∧
      Reads (readValue lone depth) text w) :
    ∃ texts ws, writeAll depth level items = .ok texts ∧ List.Forall₂ Value.Rearranged items ws ∧
      List.Forall₂ (Reads (readValue lone depth)) texts ws := by
  induction items with
  | nil => exact ⟨[], [], rfl, .nil, .nil⟩
  | cons v items ih =>
      obtain ⟨hfirst, hrest⟩ := List.forall_mem_cons.mp h
      obtain ⟨text, w, hwrite, hsame, hread⟩ := hfirst
      obtain ⟨texts, ws, hwrites, hsames, hreads⟩ := ih hrest
      refine ⟨text :: texts, w :: ws, ?_, .cons hsame hsames, .cons hread hreads⟩
      rw [writeAll, hwrite, ok_bind, hwrites, ok_bind]
      rfl

/-- A field of a mapping with the text of its value and what is read from that text. -/
structure Field where
  name : String
  text : List Char
  value : Value

theorem exists_fields {fields : List (String × Value)}
    (h : ∀ f ∈ fields, ∃ text w, write depth level f.2 = .ok text ∧ f.2.Rearranged w ∧
      Reads (readValue lone depth) text w) :
    ∃ written : List Field,
      writeEntries depth level (fields.map fun f => (.text f.1, f.2)) =
        written.map (fun f => (.text f.name, .ok f.text)) ∧
      written.map Field.name = fields.map Prod.fst ∧
      List.Forall₂ Value.Rearranged (fields.map Prod.snd) (written.map Field.value) ∧
      ∀ f ∈ written, Reads (readValue lone depth) f.text f.value := by
  induction fields with
  | nil => exact ⟨[], rfl, rfl, .nil, by simp⟩
  | cons f fields ih =>
      obtain ⟨hfirst, hrest⟩ := List.forall_mem_cons.mp h
      obtain ⟨text, w, hwrite, hsame, hread⟩ := hfirst
      obtain ⟨written, hwrites, hnames, hsames, hreads⟩ := ih hrest
      refine ⟨⟨f.1, text, w⟩ :: written, ?_, congrArg (f.1 :: ·) hnames, .cons hsame hsames,
        List.forall_mem_cons.mpr ⟨hread, hreads⟩⟩
      rw [List.map_cons, writeEntries, hwrite, hwrites]
      rfl

theorem exists_sorted (written : List Field) :
    ∃ sorted : List Field, sorted.Perm written ∧
      sortBy (fun x y => keyBelow x.1 y.1)
          (written.map fun f => (Value.text f.name, (.ok f.text : Except WriteError _))) =
        .ok (sorted.map fun f => (.text f.name, .ok f.text)) := by
  obtain ⟨sorted, hsorted, hperm⟩ :=
    perm_sortBy (fun f g : Field => textBelow f.name.toList g.name.toList) written
  refine ⟨sorted, hperm, ?_⟩
  rw [sortBy_map]
  exact congrArg (Except.map _) hsorted

theorem mapM_fields (sorted : List Field) :
    (sorted.map fun f => (Value.text f.name, (.ok f.text : Except WriteError _))).mapM
        (fun (key, part) => do
          let name ← keyText key
          return stringText name ++ ':' :: ' ' :: (← part)) =
      .ok (sorted.map fun f => entryText f.name f.text) := by
  induction sorted with
  | nil => rfl
  | cons f sorted ih =>
      rw [List.map_cons, List.mapM_cons, ih]
      rfl

theorem Carried.exists_reads {v : Value} (h : Carried depth v) (level : Nat) :
    ∃ text w, write depth level v = .ok text ∧ v.Rearranged w ∧
      Reads (readValue lone depth) text w := by
  -- By induction on the value: it is written, and what is read from the text is the same value up
  -- to the order of the entries of mappings.
  induction h generalizing level with
  | null depth => exact ⟨_, _, rfl, .refl _, reads_null⟩
  | bool depth b => exact ⟨_, _, rfl, .refl _, reads_bool b⟩
  | int depth i hi => exact ⟨_, _, integerChars_eq hi, .refl _, reads_int hi⟩
  | float depth x hx => exact ⟨_, _, rfl, .refl _, reads_float hx⟩
  | text depth s => exact ⟨_, _, rfl, .refl _, reads_text s⟩
  | list depth items _ ih =>
      obtain ⟨texts, ws, hwrites, hsames, hreads⟩ :=
        exists_texts fun v hv => ih v hv (level + 1)
      refine ⟨block '[' ']' level texts, .list ws, ?_, .list hsames, reads_list hreads⟩
      rw [write, if_neg (Nat.succ_ne_zero depth), Nat.add_one_sub_one, hwrites, ok_bind]
      rfl
  | mapping depth fields hnodup _ ih =>
      obtain ⟨written, hwrites, hnames, hsames, hreads⟩ :=
        exists_fields fun f hf => ih f hf (level + 1)
      obtain ⟨sorted, hperm, hsort⟩ := exists_sorted written
      -- No name stands twice, so no entry is written over another when they are put together.
      have hsorted : ((sorted.map fun f => (f.name, f.value)).map Prod.fst).Nodup := by
        have hpermNames := hperm.map Field.name
        rw [hnames] at hpermNames
        simpa [Function.comp_def] using hpermNames.nodup_iff.mpr hnodup
      have hmembers : List.Forall₂ (Reads (readEntry lone (readValue lone depth)))
          (sorted.map fun f => entryText f.name f.text)
          (sorted.map fun f => (Value.text f.name, f.value)) := by
        rw [List.forall₂_map_left_iff, List.forall₂_map_right_iff, List.forall₂_same]
        exact fun f hf => reads_entry f.name (hreads f (hperm.mem_iff.mp hf))
      have hofList := Entries.ofList_texts hsorted
      simp only [List.map_map, Function.comp_def] at hofList
      have hkeys : (fields.map fun f => (Value.text f.1, f.2)).map Prod.fst =
          (written.map fun f => (Value.text f.name, f.value)).map Prod.fst := by
        simpa [Function.comp_def] using (congrArg (List.map Value.text) hnames).symm
      have hvalues : List.Forall₂ Value.Rearranged
          ((fields.map fun f => (Value.text f.1, f.2)).map Prod.snd)
          ((written.map fun f => (Value.text f.name, f.value)).map Prod.snd) := by
        simpa [Function.comp_def] using hsames
      refine ⟨block '\x7b' '\x7d' level (sorted.map fun f => entryText f.name f.text),
        .mapping (sorted.map fun f => (.text f.name, f.value)), ?_,
        .mapping hkeys hvalues (hperm.map _).symm, hofList ▸ reads_mapping hmembers⟩
      rw [write, if_neg (Nat.succ_ne_zero depth), Nat.add_one_sub_one, hwrites]
      simp only [hsort, ok_bind, mapM_fields]
      rfl

theorem read_eq_of_reads {text : List Char} {w : Value} {convention : Convention}
    (h : Reads (readValue convention.lone depth) text w) :
    read convention text = .ok w ∨
      convention.depth < depth ∧ ∃ e, IsNested e ∧ read convention text = .error e := by
  obtain ⟨c, tail, htext, hspace, -⟩ := h.head
  have hmark : text.head? ≠ some '\uFEFF' := by
    rw [htext]
    intro heq
    have hplain := h.plain c (htext ▸ List.mem_cons_self)
    rw [Option.some.inj heq] at hplain
    exact absurd hplain (by decide)
  have hskip : skipSpace ⟨0, [] ++ text⟩ = ⟨0, text⟩ :=
    skipSpace_append (by simp) ⟨c, tail, htext, hspace⟩
  have hread := h.read 0 [] .nothing
  rw [List.append_nil] at hread
  rw [List.nil_append] at hskip
  rw [Json.read, if_neg hmark, hskip]
  rcases readValue_eq_or_nested hread convention.depth with hvalue | ⟨hdeep, e, he, hvalue⟩
  · left
    rw [hvalue, ok_bind]
    rfl
  · right
    refine ⟨hdeep, e, he, ?_⟩
    rw [hvalue]
    rfl

/-- A value that JSON carries is written as plain text and read from that text. Only a writer or a
reader that does not follow its arrays and objects far enough breaks off. -/
theorem Carried.exists_read_or_nested {v : Value} (h : Carried depth v) (limit : Nat)
    (convention : Convention) :
    (∃ text w, write limit 0 v = .ok text ∧ (∀ c ∈ text, IsPlain c) ∧ v.Rearranged w ∧
      (read convention text = .ok w ∨
        convention.depth < depth ∧ ∃ e, IsNested e ∧ read convention text = .error e)) ∨
      limit < depth ∧ write limit 0 v = .error .nested := by
  obtain ⟨text, w, hwrite, hsame, hreads⟩ :
      ∃ text w, write depth 0 v = .ok text ∧ v.Rearranged w ∧
        Reads (readValue convention.lone depth) text w := h.exists_reads 0
  rcases write_eq_or_nested hwrite limit with hwritten | hnested
  · exact .inl ⟨text, w, hwritten, hreads.plain, hsame, read_eq_of_reads hreads⟩
  · exact .inr hnested

end RasterTensor.Json
