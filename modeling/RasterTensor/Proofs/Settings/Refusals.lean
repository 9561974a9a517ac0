import RasterTensor.Catalogue
import RasterTensor.Proofs.Document.Writable
import RasterTensor.Proofs.Settings.Keys
import RasterTensor.Proofs.Settings.RoundTrip

/-!
# Refused settings

Whatever value settings are read from, they are accepted or refused as settings. There is one way
out besides these two: a value without a text, where the text of a path, a name or a key is wanted
or where a message has to show the value. What is raised then is the failure to make that text.
-/

namespace RasterTensor

open Document

/-- How many levels of members are followed everywhere. -/
def Document.Reach.least (reach : Reach) : ℕ := min reach.key (min reach.plain reach.shown)

/-! ## Refusals of a value -/

/-- A failure that refuses a value: one of settings, or the failure to make a text, for which the
value has what it takes. -/
inductive Refuses (depth : ℕ) (v : Value) : Failure → Prop
  | settings {f : Failure} (h : f.kind? = some .settings) : Refuses depth v f
  | noText {e : TextFault} (h : v.Explains depth e) : Refuses depth v (.ofTextFault e)

/-- A reading that fails by refusing the value at most. -/
def FailsFor {α : Type} (depth : ℕ) (v : Value) (x : Except Failure α) : Prop :=
  Ends (fun _ => True) (Refuses depth v) x

namespace FailsFor

variable {α β : Type} {depth limit : ℕ} {v w : Value} {x : Except Failure α} {f : Failure}

theorem ok (a : α) : FailsFor depth v (.ok a) := trivial

theorem settings (h : f.kind? = some .settings) : FailsFor depth v (.error f : Except Failure α) :=
  Refuses.settings h

theorem bind {g : α → Except Failure β} (hx : FailsFor depth v x)
    (hg : ∀ a, FailsFor depth v (g a)) : FailsFor depth v (x >>= g) :=
  Ends.bind hx fun a _ => hg a

theorem of_part (h : FailsFor depth w x)
    (hpart : ∀ e, w.Explains depth e → v.Explains depth e) : FailsFor depth v x := by
  refine Ends.imp h (fun _ h => h) fun f hf => ?_
  cases hf with
  | settings hkind => exact .settings hkind
  | noText he => exact .noText (hpart _ he)

theorem text {Q : α → Prop} {shown : Except TextFault α} (h : Ends Q (v.Explains limit) shown)
    (hlimit : depth ≤ limit) : FailsFor depth v (liftText shown) := by
  cases shown with
  | ok a => exact trivial
  | error e => exact Refuses.noText (Value.Explains.mono h hlimit)

end FailsFor

variable {reach : Reach}

theorem Document.Reach.least_le (reach : Reach) :
    reach.least ≤ reach.key ∧ reach.least ≤ reach.plain ∧ reach.least ≤ reach.shown := by
  unfold least
  omega

/-! ## Each field -/

theorem failsFor_readMember {α : Type} (list : ChoiceList) (find : String → Option α) (v : Value) :
    FailsFor reach.least v (readMember reach list find v) := by
  have hplain := Value.ends_plain v reach.plain
  have hshown : FailsFor reach.least v (liftText (v.shown reach.shown)) :=
    .text (Value.ends_shown v _) reach.least_le.2.2
  refine .bind ?_ fun name => ?_
  · rw [nameText?]
    cases htext : v.plain reach.plain with
    | ok s => exact .ok _
    | error e =>
        cases e with
        | integerTooLong => exact .ok _
        | nested => exact Refuses.noText ((hplain.of_error htext).mono reach.least_le.2.1)
  · split
    · exact .ok _
    · exact hshown.bind fun _ => .settings rfl

theorem FrontEnd.failsFor_ofValue (v : Value) : FailsFor reach.least v (ofValue reach v) := by
  unfold ofValue
  split
  · exact .ok _
  · exact failsFor_readMember _ _ _

theorem ElementType.failsFor_ofValue (v : Value) : FailsFor reach.least v (ofValue reach v) := by
  unfold ofValue
  split
  · exact .ok _
  · exact failsFor_readMember _ _ _

theorem Layout.failsFor_ofValue (v : Value) : FailsFor reach.least v (ofValue reach v) := by
  unfold ofValue
  split
  · exact .ok _
  · exact failsFor_readMember _ _ _

namespace Settings

theorem failsFor_readPath (name : String) (v : Value) :
    FailsFor reach.least v (readPath reach name v) := by
  have hplain : FailsFor reach.least v (liftText (v.plain reach.plain)) :=
    .text (Value.ends_plain v _) reach.least_le.2.1
  unfold readPath
  split
  · exact .settings rfl
  · refine hplain.bind fun text => ?_
    split
    · exact .settings rfl
    · exact .ok _

theorem failsFor_refuseDimension (name : String) (v : Value) :
    FailsFor reach.least v (refuseDimension reach name v) := by
  have hshown : FailsFor reach.least v (liftText (v.shown reach.shown)) :=
    .text (Value.ends_shown v _) reach.least_le.2.2
  exact hshown.bind fun _ => .settings rfl

theorem explains_of_toInteger {v : Value} {i : ℤ} {depth : ℕ} (h : v.toInteger = .ok i)
    (e : TextFault) (he : (Value.int i).Explains depth e) : v.Explains depth e := by
  cases e with
  | integerTooLong =>
      refine Bool.eq_false_iff.mpr fun hv => ?_
      exact Bool.eq_false_iff.mp he (Value.isWritable_of_toInteger h hv)
  | nested => exact absurd he (Nat.not_lt_zero depth)

theorem failsFor_readDimension (name : String) (v : Value) :
    FailsFor reach.least v (readDimension reach name v) := by
  unfold readDimension
  split
  · exact .ok _
  · split
    · exact failsFor_refuseDimension _ _
    · split
      · exact failsFor_refuseDimension _ _
      · exact .ok _
      · next i _ hi =>
        have hshown : FailsFor reach.least (.int i) (liftText (integerShown i)) :=
          .text (Value.ends_integerShown i _) (Nat.le_refl _)
        exact (hshown.of_part (explains_of_toInteger hi)).bind fun _ => .settings rfl

def Fields.values (fields : Fields) : List Value :=
  [fields.inputPath, fields.outputPath, fields.frontEnd, fields.elementType, fields.width,
    fields.height, fields.layout]

theorem failsFor_ofFields {v : Value} {fields : Fields}
    (hparts : ∀ w ∈ fields.values, ∀ e, w.Explains reach.least e → v.Explains reach.least e) :
    FailsFor reach.least v (ofFields reach fields) := by
  simp only [Fields.values, List.forall_mem_cons] at hparts
  obtain ⟨hinput, houtput, hfrontEnd, helementType, hwidth, hheight, hlayout, -⟩ := hparts
  unfold ofFields
  refine .bind (.of_part (failsFor_readPath _ _) hinput) fun _ => ?_
  refine .bind (.of_part (failsFor_readPath _ _) houtput) fun _ => ?_
  refine .bind (.of_part (FrontEnd.failsFor_ofValue _) hfrontEnd) fun _ => ?_
  refine .bind (.of_part (ElementType.failsFor_ofValue _) helementType) fun _ => ?_
  refine .bind (.of_part (failsFor_readDimension _ _) hwidth) fun _ => ?_
  refine .bind (.of_part (failsFor_readDimension _ _) hheight) fun _ => ?_
  exact .bind (.of_part (Layout.failsFor_ofValue _) hlayout) fun _ => .ok _

/-! ## The whole mapping -/

variable {entries : Entries} {name : String} {v : Value} {depth : ℕ} {e : TextFault}

theorem failsFor_checkKeys (entries : Entries) :
    FailsFor reach.least (.mapping entries) (checkKeys reach entries) := by
  have htexts : FailsFor reach.least (.mapping entries)
      (liftText ((unknownKeys entries).mapM fun key => key.plain reach.key)) := by
    refine .text (Q := fun texts => ∀ text ∈ texts, True) (Ends.mapM fun key hkey => ?_)
      reach.least_le.1
    obtain ⟨entry, hentry, rfl⟩ := List.mem_map.mp (List.mem_filter.mp hkey).1
    exact (Value.ends_plain entry.1 reach.key).imp (fun _ _ => trivial) fun _ h => h.of_key hentry
  refine htexts.bind fun texts => ?_
  split
  · exact .settings rfl
  · exact .ok _

theorem explains_of_fieldValue? (h : fieldValue? name entries = some v) (e : TextFault)
    (he : v.Explains depth e) : (Value.mapping entries).Explains depth e := by
  obtain ⟨entry, hentry, rfl⟩ := Value.exists_mem_of_find? (Option.filter_eq_some_iff.mp h).1
  exact he.of_value hentry

theorem explains_fieldValue?_getD {default : Value} (hdefault : default.HasText 0) (e : TextFault)
    (he : ((fieldValue? name entries).getD default).Explains depth e) :
    (Value.mapping entries).Explains depth e := by
  cases hfield : fieldValue? name entries with
  | none =>
      rw [hfield] at he
      exact absurd he (hdefault.not_explains (Nat.zero_le _) e)
  | some v =>
      rw [hfield] at he
      exact explains_of_fieldValue? hfield e he

theorem failsFor_requiredValue_bind {α : Type} {g : Value → Except Failure α}
    (hg : ∀ v, fieldValue? name entries = some v → FailsFor depth (.mapping entries) (g v)) :
    FailsFor depth (.mapping entries) (requiredValue name entries >>= g) := by
  unfold requiredValue
  split
  · next v hv => exact hg v hv
  · exact .settings rfl

theorem failsFor_ofEntries (entries : Entries) :
    FailsFor reach.least (.mapping entries) (ofEntries reach entries) := by
  have hzero : (Value.int 0).HasText 0 := ⟨Value.isWritable_int_toNat false, Nat.le_refl 0⟩
  unfold ofEntries
  refine .bind (failsFor_checkKeys entries) fun _ => ?_
  refine failsFor_requiredValue_bind fun input hinput => ?_
  refine failsFor_requiredValue_bind fun output houtput => ?_
  refine failsFor_requiredValue_bind fun frontEnd hfrontEnd => ?_
  -- Each field is a part of the mapping or a default, and the defaults all have a text.
  refine failsFor_ofFields ?_
  simp only [Fields.values, List.forall_mem_cons]
  exact ⟨explains_of_fieldValue? hinput, explains_of_fieldValue? houtput,
    explains_of_fieldValue? hfrontEnd, explains_fieldValue?_getD ⟨rfl, Nat.le_refl 0⟩,
    explains_fieldValue?_getD hzero, explains_fieldValue?_getD hzero,
    explains_fieldValue?_getD ⟨rfl, Nat.le_refl 0⟩, List.forall_mem_nil _⟩

theorem failsFor_ofValue (v : Value) : FailsFor reach.least v (ofValue reach v) := by
  cases v with
  | mapping entries => exact failsFor_ofEntries entries
  | _ => exact .settings rfl

/-- A value is read as settings or refused as settings. Only one that holds an integer with too many
digits, or members deeper than they are followed, can fail in the way of a text that is not made. -/
theorem ofValue_outcome (reach : Reach) (v : Value) :
    (∃ s, ofValue reach v = .ok s) ∨
      (∃ f, ofValue reach v = .error f ∧ f.kind? = some .settings) ∨
      (ofValue reach v = .error .integerTooLong ∧ v.isWritable = false) ∨
      ofValue reach v = .error .nestedText ∧ reach.least < v.nesting := by
  cases hread : ofValue reach v with
  | ok s => exact .inl ⟨s, rfl⟩
  | error f =>
      cases (failsFor_ofValue v).of_error hread with
      | settings hkind => exact .inr (.inl ⟨f, rfl, hkind⟩)
      | @noText e he =>
          cases e with
          | integerTooLong => exact .inr (.inr (.inl ⟨rfl, he⟩))
          | nested => exact .inr (.inr (.inr ⟨rfl, he⟩))

theorem readDimension_eq_tooLong {i : ℤ} (hneg : i < 0)
    (hlong : (Value.int i).isWritable = false) :
    readDimension reach name (.int i) = .error .integerTooLong := by
  obtain ⟨n, rfl⟩ := Int.eq_negSucc_of_lt_zero hneg
  change (liftText (integerShown (.negSucc n)) >>= fun shown =>
    throw (.negativeDimension name shown) : Except Failure ℕ) = _
  rw [Value.integerShown_eq, hlong]
  rfl

theorem ofValue_payload_int (i : ℤ) :
    ofValue reach (payload "in.png" (.int i)) = do
      let width ← readDimension reach "width" (.int i)
      return ⟨.ofText "in.png", .ofText "out/o.bin", .caffe, .float32, width, 0, .nhwc⟩ := by
  have hfields : ofValue reach (payload "in.png" (.int i)) =
      ofFields reach
        { inputPath := .text "in.png", outputPath := .text "out//./o.bin"
          frontEnd := .text " Caffe", width := .int i } := rfl
  have hinput : readPath reach "input_path" (.text "in.png") = .ok (.ofText "in.png") := rfl
  have houtput : readPath reach "output_path" (.text "out//./o.bin") = .ok (.ofText "out/o.bin") :=
    rfl
  have hfrontEnd : FrontEnd.ofValue reach (.text " Caffe") = .ok .caffe := rfl
  rw [hfields, ofFields, hinput, houtput, hfrontEnd]
  cases readDimension reach "width" (.int i) <;> rfl

theorem isWritable_neg_integerLimit :
    (Value.int (-(Decimal.integerLimit : ℤ))).isWritable = false := by
  rw [← Bool.not_eq_true, Value.isWritable_int_iff, Int.natAbs_neg, Int.natAbs_natCast]
  exact Nat.lt_irrefl _

/-- A negative width with too many digits is not refused as settings, however far members are
followed. -/
theorem not_forall_ofValue_refused_as_settings :
    ¬ ∃ reach, ∀ v, (∃ s, ofValue reach v = .ok s) ∨
      ∃ f, ofValue reach v = .error f ∧ f.kind? = some .settings := by
  rintro ⟨reach, hall⟩
  have hneg : -(Decimal.integerLimit : ℤ) < 0 := by
    have hpos : 0 < Decimal.integerLimit :=
      Value.isWritable_int_iff.mp (Value.isWritable_int_toNat false)
    omega
  have hread : ofValue reach (payload "in.png" (.int (-(Decimal.integerLimit : ℤ)))) =
      .error .integerTooLong := by
    rw [ofValue_payload_int, readDimension_eq_tooLong hneg isWritable_neg_integerLimit]
    rfl
  rcases hall (payload "in.png" (.int (-(Decimal.integerLimit : ℤ)))) with
    ⟨s, hs⟩ | ⟨f, hf, hkind⟩
  · rw [hread] at hs
    cases hs
  · rw [hread] at hf
    cases hf
    cases hkind

end Settings

end RasterTensor
