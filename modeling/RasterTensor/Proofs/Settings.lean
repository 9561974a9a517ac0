import RasterTensor.Proofs.Document.Entries
import RasterTensor.Proofs.Files.PathText
import RasterTensor.Proofs.Outcomes
import RasterTensor.Settings.Basic

/-!
# Accepted settings

Settings are accepted from one value for each of them, whichever way the values were given. Their
path names are read from the texts of these values.
-/

namespace RasterTensor.Settings

open Document Files

variable {reach : Reach} {s : Settings}

/-- The settings are read from values. -/
def Accepted (reach : Reach) (s : Settings) : Prop := ∃ fields, ofFields reach fields = .ok s

theorem readPath_eq_ok {name : String} {v : Value} {p : PathName}
    (h : readPath reach name v = .ok p) :
    ∃ text, v.plain reach.plain = .ok text ∧ p = .ofText text := by
  simp only [readPath] at h
  split at h
  · cases h
  · obtain ⟨text, htext, h⟩ := bind_eq_ok.mp h
    split at h
    · cases h
    · exact ⟨text, liftText_eq_ok.mp htext, (Except.ok.inj h).symm⟩

theorem paths_of_ofFields {fields : Fields} (h : ofFields reach fields = .ok s) :
    (∃ text, fields.inputPath.plain reach.plain = .ok text ∧ s.inputPath = .ofText text) ∧
      ∃ text, fields.outputPath.plain reach.plain = .ok text ∧ s.outputPath = .ofText text := by
  simp only [ofFields, bind_eq_ok, pure_eq_ok] at h
  obtain ⟨input, hinput, output, houtput, -, -, -, -, -, -, -, -, -, -, rfl⟩ := h
  exact ⟨readPath_eq_ok hinput, readPath_eq_ok houtput⟩

theorem Accepted.clean (h : s.Accepted reach) : s.inputPath.Clean ∧ s.outputPath.Clean := by
  obtain ⟨fields, h⟩ := h
  obtain ⟨⟨input, -, hinput⟩, output, -, houtput⟩ := paths_of_ofFields h
  rw [hinput, houtput]
  exact ⟨PathName.clean_ofText _, PathName.clean_ofText _⟩

theorem field?_of_requiredValue {name : String} {entries : Entries} {v : Value}
    (h : requiredValue name entries = .ok v) : Entries.field? name entries = some v := by
  unfold requiredValue fieldValue? at h
  split at h
  · next w hfield =>
    cases h
    exact (Option.filter_eq_some_iff.mp hfield).1
  · cases h

theorem ofEntries_eq_ok {entries : Entries} (h : ofEntries reach entries = .ok s) :
    ∃ fields, ofFields reach fields = .ok s ∧
      Entries.field? "input_path" entries = some fields.inputPath ∧
      Entries.field? "output_path" entries = some fields.outputPath := by
  simp only [ofEntries, bind_eq_ok] at h
  obtain ⟨-, -, input, hinput, output, houtput, frontEnd, -, hfields⟩ := h
  exact ⟨_, hfields, field?_of_requiredValue hinput, field?_of_requiredValue houtput⟩

end RasterTensor.Settings
