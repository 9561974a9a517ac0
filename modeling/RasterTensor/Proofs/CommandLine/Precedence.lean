import RasterTensor.Proofs.CommandLine.Effective
import RasterTensor.Proofs.Settings.Keys

/-!
# Flags before the settings file

Each setting of a command has one value: that of its flag, else that of the settings file unless it
is null there, else none. The settings follow from these seven values, from the files that the two
path names lead to, and from whether the settings file has keys that name no setting.
-/

namespace RasterTensor

open Document Files

/-! ## The value of each setting -/

namespace CommandLine

/-- The value of each setting, where there is one. -/
structure Effective where
  inputPath : Option Value
  outputPath : Option Value
  frontEnd : Option Value
  elementType : Option Value
  width : Option Value
  height : Option Value
  layout : Option Value

/-- The settings that the values make, once the path names were looked at. Element type, width,
height and layout have defaults; the other values have to be there. -/
def Effective.settings (e : Effective) (host : Host) (t : Tree) (known : Except Failure Unit) :
    Except Complaint Settings := do
  let input ← CommandLine.inputPath host.pathReach t e.inputPath
  let output ← CommandLine.outputPath host.pathReach t e.outputPath
  match e.frontEnd with
  | none => throw .noFrontEnd
  | some frontEnd =>
    known
    let fields : Settings.Fields :=
      { inputPath := .text input.text, outputPath := .text output.text, frontEnd }
    Settings.ofFields host.reach { fields with
      elementType := e.elementType.getD fields.elementType
      width := e.width.getD fields.width
      height := e.height.getD fields.height
      layout := e.layout.getD fields.layout }

namespace Invocation

def base (v : Invocation) (readers : SettingsFile.Readers Entries) (t : Tree) :
    Except Failure Entries :=
  match v.config with
  | none => .ok []
  | some path => SettingsFile.load readers t (.ofText path)

/-- The values of the flags over those of the settings file. -/
def effective (v : Invocation) (base : Entries) : Effective where
  inputPath := (v.input.map .text).or (Settings.fieldValue? "input_path" base)
  outputPath := (v.output.map .text).or (Settings.fieldValue? "output_path" base)
  frontEnd := (v.frontEnd.map .text).or (Settings.fieldValue? "front_end" base)
  elementType := (v.elementType.map .text).or (Settings.fieldValue? "element_type" base)
  width := (v.width.map .int).or (Settings.fieldValue? "width" base)
  height := (v.height.map .int).or (Settings.fieldValue? "height" base)
  layout := (v.layout.map .text).or (Settings.fieldValue? "layout" base)

/-- What the flags give, by the name of the setting. -/
def given (v : Invocation) : List (String × Option Value) :=
  [("input_path", v.input.map .text), ("output_path", v.output.map .text),
    ("front_end", v.frontEnd.map .text), ("element_type", v.elementType.map .text),
    ("width", v.width.map .int), ("height", v.height.map .int), ("layout", v.layout.map .text)]

theorem overrides_eq (v : Invocation) : v.overrides = .ofOptions v.given := rfl

theorem names_given (v : Invocation) : v.given.map Prod.fst = Settings.names := rfl

theorem fieldValue?_options {v : Invocation} {name : String} {value : Option Value}
    (hgiven : v.given.lookup name = some value)
    (hvalue : (value.filter fun w => !w.isNull) = value) (base : Entries) :
    Settings.fieldValue? name (Entries.overlay base v.overrides) =
      value.or (Settings.fieldValue? name base) := by
  have hnodup : (v.given.map Prod.fst).Nodup := by
    rw [names_given]
    decide
  have hfield := Entries.field?_overlay_ofOptions name hnodup base
  rw [hgiven, Option.join_some] at hfield
  rw [overrides_eq, Settings.fieldValue?, hfield]
  cases value with
  | none => rfl
  | some w => exact hvalue

theorem filter_map_text (x : Option String) :
    ((x.map Value.text).filter fun w => !w.isNull) = x.map .text := by
  cases x <;> rfl

theorem filter_map_int (x : Option Int) :
    ((x.map Value.int).filter fun w => !w.isNull) = x.map .int := by
  cases x <;> rfl

/-- The entries with the flags written over them have exactly the effective values. -/
theorem fieldValues_options (v : Invocation) (base : Entries) :
    let options := Entries.overlay base v.overrides
    Settings.fieldValue? "input_path" options = (v.effective base).inputPath ∧
      Settings.fieldValue? "output_path" options = (v.effective base).outputPath ∧
      Settings.fieldValue? "front_end" options = (v.effective base).frontEnd ∧
      Settings.fieldValue? "element_type" options = (v.effective base).elementType ∧
      Settings.fieldValue? "width" options = (v.effective base).width ∧
      Settings.fieldValue? "height" options = (v.effective base).height ∧
      Settings.fieldValue? "layout" options = (v.effective base).layout := by
  refine ⟨?_, ?_, ?_, ?_, ?_, ?_, ?_⟩
  · exact fieldValue?_options rfl (filter_map_text _) base
  · exact fieldValue?_options rfl (filter_map_text _) base
  · exact fieldValue?_options rfl (filter_map_text _) base
  · exact fieldValue?_options rfl (filter_map_text _) base
  · exact fieldValue?_options rfl (filter_map_int _) base
  · exact fieldValue?_options rfl (filter_map_int _) base
  · exact fieldValue?_options rfl (filter_map_text _) base

theorem unknownKeys_options (v : Invocation) (base : Entries) :
    Settings.unknownKeys (Entries.overlay base v.overrides) = Settings.unknownKeys base := by
  refine Settings.unknownKeys_overlay (fun pair hpair => ?_) base
  rw [← v.names_given]
  exact List.mem_map_of_mem hpair

end Invocation

theorem givenPath_field? (depth : Nat) (absent : Complaint) (name : String) (entries : Entries) :
    givenPath depth absent (entries.field? name) =
      givenPath depth absent (Settings.fieldValue? name entries) := by
  unfold Settings.fieldValue?
  rcases entries.field? name with - | v
  · rfl
  · cases v <;> rfl

theorem inputPath_field? (depth : Nat) (t : Tree) (name : String) (entries : Entries) :
    inputPath depth t (entries.field? name) =
      inputPath depth t (Settings.fieldValue? name entries) := by
  rw [inputPath, inputPath, givenPath_field?]

theorem outputPath_field? (depth : Nat) (t : Tree) (name : String) (entries : Entries) :
    outputPath depth t (entries.field? name) =
      outputPath depth t (Settings.fieldValue? name entries) := by
  rw [outputPath, outputPath, givenPath_field?]

theorem liftM_failure_ok {α : Type} (a : α) :
    (liftM (.ok a : Except Failure α) : Except Complaint α) = .ok a := rfl

theorem liftM_bind_failure {α β : Type} (x : Except Failure α) (f : α → Except Failure β) :
    (liftM (x >>= f) : Except Complaint β) =
      (liftM x : Except Complaint α) >>= fun a => liftM (f a) := by
  cases x <;> rfl

theorem Invocation.settings_eq {v : Invocation} {host : Host} {t : Tree} {base : Entries}
    (h : v.base host.readers t = .ok base) :
    v.settings host t =
      (v.effective base).settings host t (Settings.checkKeys host.reach base) := by
  have hoptions : v.options host.readers t = .ok (Entries.overlay base v.overrides) := by
    unfold Invocation.base at h
    unfold options
    cases hconfig : v.config with
    | none =>
        simp only [hconfig] at h
        cases h
        rfl
    | some path =>
        simp only [hconfig] at h
        simp only [h, ok_bind]
        rfl
  have hkeys : Settings.checkKeys host.reach (Entries.overlay base v.overrides) =
      Settings.checkKeys host.reach base :=
    Settings.checkKeys_congr (unknownKeys_options v base)
  obtain ⟨hinput, houtput, hfrontEnd, helementType, hwidth, hheight, hlayout⟩ :=
    fieldValues_options v base
  -- From here on only the values at the seven names and the unknown keys matter.
  generalize Entries.overlay base v.overrides = options at *
  rw [Invocation.settings, Effective.settings, hoptions, liftM_failure_ok, ok_bind]
  simp only [inputPath_field?, outputPath_field?, hinput, houtput]
  refine bind_congr fun input => bind_congr fun output => ?_
  cases hvalue : (v.effective base).frontEnd with
  | none =>
      rw [hvalue] at hfrontEnd
      rcases Settings.field?_of_fieldValue?_eq_none hfrontEnd with hfield | hfield
      · rw [hfield]
      · rw [hfield]
  | some frontEnd =>
      rw [hvalue] at hfrontEnd
      obtain ⟨hfield, hnull⟩ := Settings.field?_of_fieldValue? hfrontEnd
      rw [hfield]
      split
      · next heq => cases heq
      · next heq =>
        cases heq
        cases hnull
      · next heq =>
        rw [Settings.ofEntries_put_paths hfrontEnd, liftM_bind_failure, hkeys, helementType, hwidth,
          hheight, hlayout]

end CommandLine

end RasterTensor
