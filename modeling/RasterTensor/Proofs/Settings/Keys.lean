import RasterTensor.Proofs.Document.Rearranged
import RasterTensor.Proofs.Settings

/-!
# Keys of settings

Entries make settings by way of the keys that name no setting and of the value at each name. Writing
an entry at a name leaves the unknown keys alone, and where there are none the order of the entries
does not matter.
-/

namespace RasterTensor

open Document Files

namespace Settings

variable {reach : Reach}

theorem checkKeys_congr {entries entries' : Entries}
    (h : unknownKeys entries = unknownKeys entries') :
    checkKeys reach entries = checkKeys reach entries' := by
  simp only [checkKeys, h]

theorem isKnown_text {name : String} (h : name ∈ names) : isKnown (.text name) = true :=
  List.any_eq_true.mpr ⟨name, h, Value.sameKey_text_iff.mpr rfl⟩

theorem unknownKeys_put {name : String} (h : name ∈ names) (v : Value) (entries : Entries) :
    unknownKeys (entries.put (.text name) v) = unknownKeys entries := by
  have hknown := isKnown_text h
  induction entries with
  | nil => simp [unknownKeys, Entries.put, hknown]
  | cons entry rest ih =>
      obtain ⟨key, w⟩ := entry
      rw [Entries.put]
      split
      · rfl
      · simp only [unknownKeys, List.map_cons, List.filter_cons] at ih ⊢
        rw [ih]

theorem unknownKeys_overlay {pairs : List (String × Option Value)}
    (h : ∀ pair ∈ pairs, pair.1 ∈ names) (entries : Entries) :
    unknownKeys (entries.overlay (.ofOptions pairs)) = unknownKeys entries := by
  induction pairs generalizing entries with
  | nil => rfl
  | cons pair rest ih =>
      obtain ⟨hname, hrest⟩ := List.forall_mem_cons.mp h
      obtain ⟨name, - | v⟩ := pair
      · exact ih hrest entries
      · rw [Entries.ofOptions_cons_some, Entries.overlay_cons, ih hrest, unknownKeys_put hname]

theorem unknownKeys_perm {entries entries' : Entries} (h : entries.Perm entries') :
    (unknownKeys entries).Perm (unknownKeys entries') :=
  (h.map Prod.fst).filter _

/-- Entries without unknown keys make the same settings in any order. -/
theorem ofEntries_perm {entries entries' : Entries} (hnodup : (entries.map Prod.fst).Nodup)
    (hknown : unknownKeys entries = []) (h : entries.Perm entries') :
    ofEntries reach entries = ofEntries reach entries' := by
  have hunknown : unknownKeys entries' = [] :=
    List.nil_perm.mp (hknown ▸ unknownKeys_perm h)
  have hkeys : checkKeys reach entries = checkKeys reach entries' :=
    checkKeys_congr (hknown.trans hunknown.symm)
  simp only [ofEntries, requiredValue, fieldValue?, hkeys, Entries.field?_perm hnodup h]

theorem field?_of_fieldValue? {name : String} {entries : Entries} {v : Value}
    (h : fieldValue? name entries = some v) :
    Entries.field? name entries = some v ∧ v.isNull = false := by
  obtain ⟨hfield, hnull⟩ := Option.filter_eq_some_iff.mp h
  exact ⟨hfield, by simpa using hnull⟩

theorem field?_of_fieldValue?_eq_none {name : String} {entries : Entries}
    (h : fieldValue? name entries = none) :
    Entries.field? name entries = none ∨ Entries.field? name entries = some .null := by
  unfold fieldValue? at h
  cases hfield : Entries.field? name entries with
  | none => exact .inl rfl
  | some v =>
      rw [hfield, Option.filter_some] at h
      cases v with
      | null => exact .inr rfl
      | _ => simp [Value.isNull] at h

theorem fieldValue?_put_self {name : String} {v : Value} (h : v.isNull = false)
    (entries : Entries) : fieldValue? name (entries.put (.text name) v) = some v := by
  rw [fieldValue?, Entries.field?_put_self, Option.filter_some, h]
  rfl

theorem fieldValue?_put_of_ne {name other : String} (h : name ≠ other) (v : Value)
    (entries : Entries) :
    fieldValue? name (entries.put (.text other) v) = fieldValue? name entries := by
  rw [fieldValue?, Entries.field?_put_of_ne h, fieldValue?]

theorem ofEntries_put_paths {entries : Entries} {frontEnd : Value}
    (h : fieldValue? "front_end" entries = some frontEnd) (input output : PathName) :
    ofEntries reach ((entries.put (.text "input_path") (.text input.text)).put (.text "output_path")
        (.text output.text)) = (do
      checkKeys reach entries
      let fields : Fields :=
        { inputPath := .text input.text, outputPath := .text output.text, frontEnd }
      ofFields reach { fields with
        elementType := (fieldValue? "element_type" entries).getD fields.elementType
        width := (fieldValue? "width" entries).getD fields.width
        height := (fieldValue? "height" entries).getD fields.height
        layout := (fieldValue? "layout" entries).getD fields.layout }) := by
  have hkeys : checkKeys reach ((entries.put (.text "input_path") (.text input.text)).put
      (.text "output_path") (.text output.text)) = checkKeys reach entries :=
    checkKeys_congr ((unknownKeys_put (by decide) _ _).trans (unknownKeys_put (by decide) _ _))
  have hother (name : String) (hinput : name ≠ "input_path") (houtput : name ≠ "output_path") :
      fieldValue? name ((entries.put (.text "input_path") (.text input.text)).put
        (.text "output_path") (.text output.text)) = fieldValue? name entries := by
    rw [fieldValue?_put_of_ne houtput, fieldValue?_put_of_ne hinput]
  have hinput : fieldValue? "input_path" ((entries.put (.text "input_path") (.text input.text)).put
      (.text "output_path") (.text output.text)) = some (.text input.text) := by
    rw [fieldValue?_put_of_ne (by decide), fieldValue?_put_self rfl]
  rw [ofEntries, hkeys]
  simp only [requiredValue, hinput, fieldValue?_put_self (v := .text output.text) rfl,
    hother "front_end" (by decide) (by decide), h,
    hother "element_type" (by decide) (by decide),
    hother "width" (by decide) (by decide),
    hother "height" (by decide) (by decide),
    hother "layout" (by decide) (by decide), ok_bind]

end Settings

end RasterTensor
