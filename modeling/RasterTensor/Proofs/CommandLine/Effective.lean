import RasterTensor.CommandLine.Run
import RasterTensor.Proofs.Files.Frame
import RasterTensor.Proofs.Settings

/-!
# The settings a command runs with

The path names of a command are looked at before its image is converted. The settings keep these
path names: the input leads to a file, and the output to nothing.
-/

namespace RasterTensor.CommandLine

open Document Files

variable {depth : Nat} {t : Tree} {v : Option Value} {p : PathName} {α : Type}

@[simp] theorem liftM_failure_eq_ok {x : Except Failure α} {a : α} :
    (liftM x : Except Complaint α) = .ok a ↔ x = .ok a := mapError_eq_ok

theorem clean_of_givenPath {absent : Complaint} (h : givenPath depth absent v = .ok p) :
    p.Clean := by
  unfold givenPath at h
  split at h
  · cases h
  · cases h
  · obtain ⟨text, -, h⟩ := bind_eq_ok.mp h
    split at h
    · cases h
    · exact Except.ok.inj h ▸ PathName.clean_ofText _

theorem inputPath_eq_ok (h : inputPath depth t v = .ok p) :
    p.Clean ∧ ∃ content, t.look p = .ok (some (.file content)) := by
  simp only [inputPath, bind_eq_ok, liftM_failure_eq_ok, liftFile_eq_ok] at h
  obtain ⟨path, hgiven, there, hcontains, h⟩ := h
  obtain ⟨e, hlook, rfl⟩ := Tree.contains_eq_ok_iff.mp hcontains
  split at h
  · cases h
  · next hthere =>
    simp only [bind_eq_ok, liftM_failure_eq_ok, liftFile_eq_ok] at h
    obtain ⟨isDir, hdirectory, h⟩ := h
    obtain ⟨e', hlook', hiff⟩ := Tree.isDirectory_eq_ok_iff.mp hdirectory
    cases Except.ok.inj (hlook.symm.trans hlook')
    split at h
    · cases h
    · next hnot =>
      cases pure_eq_ok.mp h
      refine ⟨clean_of_givenPath hgiven, ?_⟩
      rcases e with - | - | content
      · simp at hthere
      · exact absurd (hiff.mpr rfl) hnot
      · exact ⟨content, hlook⟩

theorem outputPath_eq_ok (h : outputPath depth t v = .ok p) :
    p.Clean ∧ t.look p = .ok none := by
  simp only [outputPath, bind_eq_ok, liftM_failure_eq_ok, liftFile_eq_ok] at h
  obtain ⟨path, hgiven, isDir, -, h⟩ := h
  split at h
  · cases h
  · simp only [bind_eq_ok, liftM_failure_eq_ok, liftFile_eq_ok] at h
    obtain ⟨there, hcontains, h⟩ := h
    obtain ⟨e, hlook, rfl⟩ := Tree.contains_eq_ok_iff.mp hcontains
    split at h
    · cases h
    · next hthere =>
      simp only [bind_eq_ok, liftM_failure_eq_ok, liftFile_eq_ok] at h
      obtain ⟨parentThere, -, h⟩ := h
      split at h
      · cases h
      · cases pure_eq_ok.mp h
        have hnone : e = none := by simpa using hthere
        exact ⟨clean_of_givenPath hgiven, hnone ▸ hlook⟩

theorem Invocation.settings_eq_ok {invocation : Invocation} {host : Host} {s : Settings}
    (h : invocation.settings host t = .ok s) :
    s.Accepted host.reach ∧ (∃ content, t.look s.inputPath = .ok (some (.file content))) ∧
      t.look s.outputPath = .ok none := by
  simp only [settings, bind_eq_ok, liftM_failure_eq_ok] at h
  obtain ⟨options, hoptions, input, hinput, output, houtput, h⟩ := h
  obtain ⟨hcleanInput, hthere⟩ := inputPath_eq_ok hinput
  obtain ⟨hcleanOutput, hfree⟩ := outputPath_eq_ok houtput
  split at h
  · cases h
  · cases h
  · rw [liftM_failure_eq_ok] at h
    obtain ⟨fields, hfields, hinputField, houtputField⟩ := Settings.ofEntries_eq_ok h
    rw [Entries.field?_put_of_ne (by decide), Entries.field?_put_self] at hinputField
    rw [Entries.field?_put_self] at houtputField
    obtain ⟨⟨_, hinputText, hinputPath⟩, _, houtputText, houtputPath⟩ :=
      Settings.paths_of_ofFields hfields
    rw [← Option.some.inj hinputField] at hinputText
    rw [← Option.some.inj houtputField] at houtputText
    cases hinputText
    cases houtputText
    rw [hinputPath, houtputPath, hcleanInput.ofText_text, hcleanOutput.ofText_text]
    exact ⟨⟨fields, hfields⟩, hthere, hfree⟩

end RasterTensor.CommandLine
