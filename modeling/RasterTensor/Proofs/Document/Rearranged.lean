import Mathlib.Data.List.Forall2
import RasterTensor.Proofs.Document.Entries

/-!
# Rearranged mappings

What is found at a text key does not depend on the order of the entries, as long as no key stands
twice. Two values are the same up to that order when the entries of each mapping in the one are,
rearranged, those of the mapping in the other.
-/

namespace RasterTensor.Document

namespace Entries

variable {entries entries' : Entries} {name : String} {v : Value}

theorem mem_of_field? (h : field? name entries = some v) : (Value.text name, v) ∈ entries := by
  unfold field? at h
  induction entries with
  | nil => cases h
  | cons entry rest ih =>
      obtain ⟨k, w⟩ := entry
      rw [find?] at h
      split at h
      · next hk =>
        cases h
        rw [Value.sameKey_text_iff.mp hk]
        exact List.mem_cons_self
      · exact List.mem_cons_of_mem _ (ih h)

theorem field?_eq_some_iff (hnodup : (entries.map Prod.fst).Nodup) :
    field? name entries = some v ↔ (Value.text name, v) ∈ entries := by
  refine ⟨mem_of_field?, fun h => ?_⟩
  unfold field?
  induction entries with
  | nil => cases h
  | cons entry rest ih =>
      obtain ⟨k, w⟩ := entry
      rw [List.map_cons, List.nodup_cons] at hnodup
      obtain ⟨hk, hrest⟩ := hnodup
      rw [find?]
      rcases List.mem_cons.mp h with heq | hmem
      · cases heq
        rw [if_pos (Value.sameKey_text_iff.mpr rfl)]
      · have hne : ¬ k.sameKey (.text name) = true := fun hsame =>
          hk (Value.sameKey_text_iff.mp hsame ▸ List.mem_map.mpr ⟨_, hmem, rfl⟩)
        rw [if_neg hne]
        exact ih hrest hmem

theorem field?_perm (hnodup : (entries.map Prod.fst).Nodup) (hperm : entries.Perm entries')
    (name : String) : field? name entries = field? name entries' := by
  have hnodup' := (hperm.map Prod.fst).nodup_iff.mp hnodup
  refine Option.ext fun v => ?_
  rw [field?_eq_some_iff hnodup, field?_eq_some_iff hnodup', hperm.mem_iff]

theorem put_of_notMem {name : String} (h : Value.text name ∉ entries.map Prod.fst) (v : Value) :
    put (.text name) v entries = entries ++ [(.text name, v)] := by
  induction entries with
  | nil => rfl
  | cons entry rest ih =>
      obtain ⟨k, w⟩ := entry
      rw [List.map_cons, List.mem_cons, not_or] at h
      have hne : ¬ k.sameKey (.text name) = true := fun hsame =>
        h.1 (Value.sameKey_text_iff.mp hsame).symm
      rw [put, if_neg hne, ih h.2, List.cons_append]

theorem ofList_texts {fields : List (String × Value)} (hnodup : (fields.map Prod.fst).Nodup) :
    ofList (fields.map fun f => (Value.text f.1, f.2)) =
      fields.map fun f => (Value.text f.1, f.2) := by
  suffices hfold : ∀ start : List (String × Value), (start ++ fields |>.map Prod.fst).Nodup →
      (fields.map fun f => (Value.text f.1, f.2)).foldl (fun entries e => put e.1 e.2 entries)
          (start.map fun f => (Value.text f.1, f.2)) =
        (start ++ fields).map fun f => (Value.text f.1, f.2) from hfold [] hnodup
  clear hnodup
  -- The induction needs the entries that are already there to be any with other names.
  induction fields with
  | nil => simp
  | cons f fields ih =>
      intro start hstart
      have hnew : Value.text f.1 ∉ (start.map fun f => (Value.text f.1, f.2)).map Prod.fst := by
        rw [List.map_append, List.map_cons, List.nodup_append] at hstart
        simp only [List.map_map, List.mem_map, Function.comp_apply, Value.text.injEq]
        rintro ⟨g, hg, heq⟩
        exact hstart.2.2 g.1 (List.mem_map_of_mem hg) f.1 List.mem_cons_self heq
      have hnext := ih (start ++ [f]) (by simpa using hstart)
      rw [List.map_cons, List.foldl_cons]
      dsimp only
      rw [put_of_notMem hnew]
      simpa using hnext

end Entries

namespace Value

/-- The same value up to the order of the entries of mappings. -/
inductive Rearranged : Value → Value → Prop
  | refl (v : Value) : Rearranged v v
  | list {items items' : List Value} (h : List.Forall₂ Rearranged items items') :
      Rearranged (.list items) (.list items')
  | mapping {entries middle entries' : List (Value × Value)}
      (hkeys : entries.map Prod.fst = middle.map Prod.fst)
      (hvalues : List.Forall₂ Rearranged (entries.map Prod.snd) (middle.map Prod.snd))
      (hperm : middle.Perm entries') : Rearranged (.mapping entries) (.mapping entries')

/-- There is no other arrangement of the value. -/
def Fixed (v : Value) : Prop := ∀ w, Rearranged v w → w = v

theorem fixed_text (s : String) : Fixed (.text s) := by
  intro w h
  cases h
  rfl

theorem fixed_int (i : Int) : Fixed (.int i) := by
  intro w h
  cases h
  rfl

theorem eq_of_forall_fixed {vs ws : List Value} (h : List.Forall₂ Rearranged vs ws)
    (hfixed : ∀ v ∈ vs, v.Fixed) : ws = vs := by
  induction h with
  | nil => rfl
  | cons hvw _ ih =>
      obtain ⟨hfirst, hrest⟩ := List.forall_mem_cons.mp hfixed
      rw [hfirst _ hvw, ih hrest]

theorem fixed_list {items : List Value} (hfixed : ∀ v ∈ items, v.Fixed) :
    Fixed (.list items) := by
  intro w h
  cases h with
  | refl => rfl
  | list h => rw [eq_of_forall_fixed h hfixed]

namespace Rearranged

variable {entries middle entries' : Entries} {v w : Value} {name : String}

theorem exists_mapping (h : Rearranged (.mapping entries) w) :
    ∃ middle entries' : Entries, w = .mapping entries' ∧
      entries.map Prod.fst = middle.map Prod.fst ∧
      List.Forall₂ Rearranged (entries.map Prod.snd) (middle.map Prod.snd) ∧
      middle.Perm entries' := by
  cases h with
  | refl =>
      exact ⟨entries, entries, rfl, rfl, List.forall₂_same.mpr fun v _ => .refl v, .refl _⟩
  | @mapping _ middle entries' hkeys hvalues hperm =>
      exact ⟨middle, entries', rfl, hkeys, hvalues, hperm⟩

theorem exists_mem (hkeys : entries.map Prod.fst = middle.map Prod.fst)
    (hvalues : List.Forall₂ Rearranged (entries.map Prod.snd) (middle.map Prod.snd))
    {key : Value} (h : (key, v) ∈ entries) : ∃ w, (key, w) ∈ middle ∧ Rearranged v w := by
  induction entries generalizing middle with
  | nil => cases h
  | cons entry entries ih =>
      match middle, hkeys, hvalues with
      | (k, w) :: middle, hkeys, .cons hvw hvalues =>
        obtain ⟨hk, hkeys⟩ := List.cons.inj hkeys
        rcases List.mem_cons.mp h with rfl | h
        · exact ⟨w, by rw [show key = k from hk]; exact List.mem_cons_self, hvw⟩
        · obtain ⟨u, hu, hrel⟩ := ih hkeys hvalues h
          exact ⟨u, List.mem_cons_of_mem _ hu, hrel⟩

theorem exists_field? (h : Rearranged (.mapping entries) (.mapping entries'))
    (hnodup : (entries.map Prod.fst).Nodup) (hfield : Entries.field? name entries = some v) :
    ∃ w, Entries.field? name entries' = some w ∧ Rearranged v w := by
  obtain ⟨middle, _, heq, hkeys, hvalues, hperm⟩ := h.exists_mapping
  cases heq
  obtain ⟨w, hw, hrel⟩ := exists_mem hkeys hvalues (Entries.mem_of_field? hfield)
  have hnodup' : (entries'.map Prod.fst).Nodup :=
    (hperm.map Prod.fst).nodup_iff.mp (hkeys ▸ hnodup)
  exact ⟨w, (Entries.field?_eq_some_iff hnodup').mpr (hperm.mem_iff.mp hw), hrel⟩

theorem field?_of_fixed (h : Rearranged (.mapping entries) (.mapping entries'))
    (hnodup : (entries.map Prod.fst).Nodup) (hfield : Entries.field? name entries = some v)
    (hfixed : v.Fixed) : Entries.field? name entries' = some v := by
  obtain ⟨w, hw, hrel⟩ := h.exists_field? hnodup hfield
  rw [hw, hfixed w hrel]

theorem perm_of_fixed (h : Rearranged (.mapping entries) w)
    (hfixed : ∀ v ∈ entries.map Prod.snd, v.Fixed) :
    ∃ entries', w = .mapping entries' ∧ entries.Perm entries' := by
  obtain ⟨middle, entries', rfl, hkeys, hrel, hperm⟩ := h.exists_mapping
  have hvalues := eq_of_forall_fixed hrel hfixed
  have heq : entries = middle :=
    (List.zip_of_prod hkeys hvalues.symm).trans (List.zip_of_prod rfl rfl).symm
  exact ⟨entries', rfl, heq ▸ hperm⟩

end Rearranged

end Value

end RasterTensor.Document
