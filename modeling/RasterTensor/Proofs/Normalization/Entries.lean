import RasterTensor.Catalogue
import RasterTensor.Normalization.Parameters
import RasterTensor.Proofs.Outcomes

/-!
# Accepted parameters

Parameters are put together from three scales and three offsets. They are accepted exactly when no
scale is zero and the ends of the range are in order.
-/

namespace RasterTensor

open Binary Document

namespace PerChannel

variable {α : Type} {x : PerChannel α} {xs : List α} {P : α → Prop}

theorem ofList?_eq_some_iff : ofList? xs = some x ↔ x.toList = xs := by
  constructor
  · intro h
    unfold ofList? at h
    split at h
    · cases h
      rfl
    · cases h
  · rintro rfl
    exact ofList?_toList x

theorem exists_toList_eq (h : xs.length = 3) : ∃ x : PerChannel α, x.toList = xs := by
  match xs, h with
  | [r, g, b], _ => exact ⟨⟨r, g, b⟩, rfl⟩

theorem forall_mem_toList : (∀ a ∈ x.toList, P a) ↔ ∀ c, P (x.get c) := by
  simp [toList, Fin.forall_fin_succ, get]

end PerChannel

namespace Parameters

variable {scales offsets : List Binary64} {swap : Bool} {low high : Int} {p : Parameters}

/-- Parameters with these scales, none of them zero, and these offsets. -/
structure ConsistsOf (p : Parameters) (scales offsets : List Binary64) : Prop where
  scale_eq : p.scale.toList = scales
  offset_eq : p.offset.toList = offsets
  nonzero : ∀ c, (p.scale.get c).isZero = false

theorem checkEntries_eq_ok_iff :
    checkEntries scales offsets = .ok () ↔
      scales.length = 3 ∧ offsets.length = 3 ∧ ∀ s ∈ scales, s.isZero = false := by
  unfold checkEntries
  by_cases hcount : scales.length = 3 ∧ offsets.length = 3
  · simp [hcount]
  · have hother : scales.length ≠ 3 ∨ offsets.length ≠ 3 := by omega
    rw [if_pos hother, ← and_assoc]
    simp [hcount]

theorem assemble_eq_ok_iff :
    assemble scales offsets swap low high = .ok p ↔
      p.scale.toList = scales ∧ p.offset.toList = offsets ∧ p.swap = swap ∧ p.low = low ∧
        p.high = high ∧ low ≤ high := by
  constructor
  · intro h
    unfold assemble at h
    split at h
    · cases h
    · next hrange =>
      split at h
      · next scale offset hscale hoffset =>
        cases h
        exact ⟨PerChannel.ofList?_eq_some_iff.mp hscale, PerChannel.ofList?_eq_some_iff.mp hoffset,
          rfl, rfl, rfl, by omega⟩
      · cases h
  · rintro ⟨rfl, rfl, rfl, rfl, rfl, hrange⟩
    unfold assemble
    rw [if_neg (by omega), PerChannel.ofList?_toList, PerChannel.ofList?_toList]

/-- Parameters from their parts, which are checked first. -/
def ofLists (scales offsets : List Binary64) (swap : Bool) (low high : Int) :
    Except Failure Parameters := do
  checkEntries scales offsets
  assemble scales offsets swap low high

theorem ofLists_eq_ok_iff :
    ofLists scales offsets swap low high = .ok p ↔
      p.ConsistsOf scales offsets ∧ p.swap = swap ∧ p.low = low ∧ p.high = high ∧ low ≤ high := by
  rw [ofLists, bind_eq_ok]
  constructor
  · rintro ⟨⟨⟩, hcheck, hassemble⟩
    obtain ⟨hscale, hoffset, hrest⟩ := assemble_eq_ok_iff.mp hassemble
    obtain ⟨-, -, hzero⟩ := checkEntries_eq_ok_iff.mp hcheck
    rw [← hscale] at hzero
    exact ⟨⟨hscale, hoffset, PerChannel.forall_mem_toList.mp hzero⟩, hrest⟩
  · rintro ⟨⟨rfl, rfl, hzero⟩, hrest⟩
    exact ⟨(), checkEntries_eq_ok_iff.mpr ⟨rfl, rfl, PerChannel.forall_mem_toList.mpr hzero⟩,
      assemble_eq_ok_iff.mpr ⟨rfl, rfl, hrest⟩⟩

theorem exists_assemble (hscales : scales.length = 3) (hoffsets : offsets.length = 3)
    (swap : Bool) (hrange : low ≤ high) :
    ∃ p, assemble scales offsets swap low high = .ok p := by
  obtain ⟨scale, hscale⟩ := PerChannel.exists_toList_eq hscales
  obtain ⟨offset, hoffset⟩ := PerChannel.exists_toList_eq hoffsets
  exact ⟨⟨scale, offset, swap, low, high⟩,
    assemble_eq_ok_iff.mpr ⟨hscale, hoffset, rfl, rfl, rfl, hrange⟩⟩

theorem ends_ofLists (scales offsets : List Binary64) (swap : Bool) (hrange : low ≤ high) :
    Ends (fun _ => True) (fun f => f.kind? = some .settings)
      (ofLists scales offsets swap low high) := by
  unfold ofLists checkEntries
  split
  · exact .error rfl
  · next hcount =>
    obtain ⟨hscales, hoffsets⟩ : scales.length = 3 ∧ offsets.length = 3 := by omega
    split
    · exact .error rfl
    · obtain ⟨p, hp⟩ := exists_assemble hscales hoffsets swap hrange
      rw [ok_bind, hp]
      exact .ok trivial

/-! ## Fields -/

theorem readFloats_of_members {v : Value} {xs : List Binary64}
    (h : v.members = .ok (xs.map .float)) : readFloats v = .ok xs := by
  have hread : (xs.map Value.float).mapM Value.toFloat = .ok (xs.map id) := by
    rw [List.mapM_map]
    exact List.mapM_pure
  rw [List.map_id] at hread
  rw [readFloats, h, ok_bind, hread]

/-- The parameters are what the fields are read as, and they pass every check. -/
structure ReadFrom (p : Parameters) (fields : Fields) : Prop where
  scale : readFloats fields.scale = .ok p.scale.toList
  offset : readFloats fields.offset = .ok p.offset.toList
  nonzero : ∀ c, (p.scale.get c).isZero = false
  swap : fields.swap.isTrue = p.swap
  low : ∃ v, fields.range.member 0 = .ok v ∧ v.toInteger = .ok p.low
  high : ∃ v, fields.range.member 1 = .ok v ∧ v.toInteger = .ok p.high
  ordered : p.low ≤ p.high

theorem ofFields_eq_ok_iff {fields : Fields} : ofFields fields = .ok p ↔ p.ReadFrom fields := by
  simp only [ofFields, bind_eq_ok, liftM_coercion_eq_ok]
  constructor
  · rintro ⟨scales, hscales, offsets, hoffsets, ⟨⟩, hcheck, first, hfirst, low, hlow, second,
      hsecond, high, hhigh, hassemble⟩
    obtain ⟨hparts, hswap, rfl, rfl, hordered⟩ :=
      ofLists_eq_ok_iff.mp (bind_eq_ok.mpr ⟨(), hcheck, hassemble⟩)
    obtain ⟨rfl, rfl, hnonzero⟩ := hparts
    exact ⟨hscales, hoffsets, hnonzero, hswap.symm, ⟨first, hfirst, hlow⟩,
      ⟨second, hsecond, hhigh⟩, hordered⟩
  · rintro ⟨hscales, hoffsets, hnonzero, hswap, ⟨first, hfirst, hlow⟩, ⟨second, hsecond, hhigh⟩,
      hordered⟩
    have hlists := ofLists_eq_ok_iff.mpr
      ⟨⟨rfl, rfl, hnonzero⟩, hswap.symm, rfl, rfl, hordered⟩
    obtain ⟨⟨⟩, hcheck, hassemble⟩ := bind_eq_ok.mp hlists
    exact ⟨_, hscales, _, hoffsets, (), hcheck, first, hfirst, _, hlow, second, hsecond, _, hhigh,
      hassemble⟩

theorem isZero_scale_of_ofFields {fields : Fields} (h : ofFields fields = .ok p) (c : Fin 3) :
    (p.scale.get c).isZero = false :=
  (ofFields_eq_ok_iff.mp h).nonzero c

end Parameters

end RasterTensor
