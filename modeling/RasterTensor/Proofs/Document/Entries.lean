import RasterTensor.Document.Value

/-!
# Entries at text keys

A text is the same key as itself only, so writing an entry at one text leaves what is found at any
other. Entries that are written over others are found instead of these.
-/

namespace RasterTensor.Document

theorem Value.sameKey_text_iff {k : Value} {s : String} :
    k.sameKey (.text s) = true ↔ k = .text s := by
  cases k <;> simp [sameKey, magnitude?]

namespace Entries

@[simp] theorem field?_put_self (name : String) (v : Value) (entries : Entries) :
    field? name (put (.text name) v entries) = some v :=
  find?_put_self (.text name) v entries (Value.sameKey_text_iff.mpr rfl)

theorem field?_put_of_ne {name other : String} (h : name ≠ other) (v : Value)
    (entries : Entries) :
    field? name (put (.text other) v entries) = field? name entries := by
  unfold field?
  induction entries with
  | nil => simp [put, find?, Value.sameKey_text_iff, h.symm]
  | cons entry rest ih =>
      obtain ⟨k, w⟩ := entry
      by_cases hother : k = .text other
      · simp [put, find?, Value.sameKey_text_iff, hother, h.symm]
      · simp [put, find?, Value.sameKey_text_iff, hother, ih]

/-- Entries at text keys that may have no value. -/
def ofOptions (pairs : List (String × Option Value)) : Entries :=
  pairs.filterMap fun (name, value) => value.map fun value => (Value.text name, value)

@[simp] theorem ofOptions_cons_some (name : String) (v : Value)
    (pairs : List (String × Option Value)) :
    ofOptions ((name, some v) :: pairs) = (.text name, v) :: ofOptions pairs := rfl

@[simp] theorem overlay_cons (entries later : Entries) (key v : Value) :
    overlay entries ((key, v) :: later) = overlay (put key v entries) later := rfl

theorem field?_overlay_ofOptions (name : String) {pairs : List (String × Option Value)}
    (hnodup : (pairs.map Prod.fst).Nodup) (entries : Entries) :
    field? name (overlay entries (ofOptions pairs)) =
      (pairs.lookup name).join.or (field? name entries) := by
  -- By induction on what is written: under a name with a value that value is found, and under any
  -- other what was found before.
  induction pairs generalizing entries with
  | nil => rfl
  | cons pair rest ih =>
      obtain ⟨other, value⟩ := pair
      rw [List.map_cons, List.nodup_cons] at hnodup
      obtain ⟨hother, hrest⟩ := hnodup
      by_cases heq : name = other
      · subst heq
        have habsent : rest.lookup name = none :=
          List.lookup_eq_none_iff.mpr fun pair hpair => by
            have hkey : pair.1 ∈ rest.map Prod.fst := List.mem_map_of_mem hpair
            simpa using fun heq : name = pair.1 => hother (heq ▸ hkey)
        cases value with
        | none =>
            change field? name (overlay entries (ofOptions rest)) = _
            simp [ih hrest, habsent]
        | some v => simp [ih hrest, habsent]
      · have hne : (name == other) = false := by simpa using heq
        cases value with
        | none =>
            change field? name (overlay entries (ofOptions rest)) = _
            simp [ih hrest, List.lookup_cons, hne]
        | some v => simp [ih hrest, List.lookup_cons, hne, field?_put_of_ne heq]

end Entries

end RasterTensor.Document
