import RasterTensor.Proofs.Json.RoundTrip
import RasterTensor.Proofs.Report
import RasterTensor.Settings.File

/-!
# Saved reports are settings files

A report is saved as JSON, and at a path with the suffix of that format it can be loaded again like
any settings file. What is loaded is the report, up to the order of the entries in its mappings.
-/

namespace RasterTensor

open Document Files Text

namespace SettingsFile

variable {convention : Json.Convention} {yaml : Option (Reader Entries)} {t : Tree}
  {path : PathName} {text : List Char} {entries : Entries}

theorem readText_of_plain (hplain : ∀ c ∈ text, IsPlain c)
    (h : t.read path = .ok (String.ofList text).toUTF8) : readText t path = .ok text := by
  simp only [readText, h, liftM_file_ok, ok_bind, decodeUtf8_toUTF8 hplain,
    unifyLineEnds_plain hplain]
  rfl

theorem load_of_read (hsuffix : FileFormat.ofSuffix? (String.ofList path.suffix) = some .json)
    (htext : readText t path = .ok text)
    (hread : Json.read convention text = .ok (.mapping entries)) :
    load ⟨jsonReader convention, yaml⟩ t path = .ok entries := by
  simp only [load, hsuffix, htext, ok_bind, Readers.of?, jsonReader, hread]
  rfl

theorem load_of_nested {e : Json.ReadError}
    (hsuffix : FileFormat.ofSuffix? (String.ofList path.suffix) = some .json)
    (htext : readText t path = .ok text) (he : Json.IsNested e)
    (hread : Json.read convention text = .error e) :
    ∃ part, load ⟨jsonReader convention, yaml⟩ t path = .error (.nestedJson part) := by
  simp only [load, hsuffix, htext, ok_bind, Readers.of?, jsonReader, hread]
  cases he with
  | array => exact ⟨_, rfl⟩
  | object => exact ⟨_, rfl⟩

end SettingsFile

namespace Report

variable {depth limit : Nat} {path : PathName} {t : Tree} {payload : Entries}

theorem save_of_nested {sink : Sink} (hwritable : t.Writable path)
    (htext : Json.write limit 0 (.mapping payload) = .error .nested) :
    ∃ t', save limit sink path (.mapping payload) t = (.error (.report .nested), t') := by
  obtain ⟨made, place, hmade, -⟩ := hwritable
  refine ⟨made, ?_⟩
  simp only [save, hmade, htext]

/-- Where a file can be written, a mapping that JSON carries is saved, unless it is nested more
deeply than a writer follows. It is loaded again, up to the order of entries, if it is not nested
more deeply than a reader follows. -/
theorem load_save (limit : Nat) (convention : Json.Convention)
    (yaml : Option (SettingsFile.Reader Entries))
    (hsuffix : FileFormat.ofSuffix? (String.ofList path.suffix) = some .json)
    (hwritable : t.Writable path) (hcarried : Json.Carried depth (.mapping payload)) :
    (∃ t', save limit .plain path (.mapping payload) t = (.ok (), t') ∧
      ((∃ entries,
          SettingsFile.load ⟨SettingsFile.jsonReader convention, yaml⟩ t' path = .ok entries ∧
          (Value.mapping payload).Rearranged (.mapping entries)) ∨
        convention.depth < depth ∧ ∃ part,
          SettingsFile.load ⟨SettingsFile.jsonReader convention, yaml⟩ t' path =
            .error (.nestedJson part))) ∨
    limit < depth ∧
      ∃ t', save limit .plain path (.mapping payload) t = (.error (.report .nested), t') := by
  rcases hcarried.exists_read_or_nested limit convention with
    ⟨text, w, hwrite, hplain, hsame, hread⟩ | ⟨hdeep, hnested⟩
  · obtain ⟨t', hsave⟩ := save_plain_of_writable hwritable hwrite
    obtain ⟨saved, hsaved, hfile⟩ := read_of_save_of_samePlace hsave (samePlace_of_save hsave)
    cases hwrite.symm.trans hsaved
    have htext := SettingsFile.readText_of_plain hplain hfile
    refine .inl ⟨t', hsave, ?_⟩
    rcases hread with hread | ⟨hdeep, e, he, hread⟩
    · left
      obtain ⟨-, entries, rfl, -⟩ := hsame.exists_mapping
      exact ⟨entries, SettingsFile.load_of_read hsuffix htext hread, hsame⟩
    · right
      exact ⟨hdeep, SettingsFile.load_of_nested hsuffix htext he hread⟩
  · exact .inr ⟨hdeep, save_of_nested hwritable hnested⟩

def tangled : List (String × Value) :=
  [("z", .list [.null, .bool true, .mapping [], .int (-12)]),
    ("", .mapping [(.text "\"\\", .text "\r\n\x7fé𝄞")])]

theorem carried_tangled : Json.Carried 3 (.mapping (tangled.map fun f => (.text f.1, f.2))) := by
  have hempty : Json.Carried 1 (.mapping []) := .mapping 0 [] (by simp) (by simp)
  have hitems : Json.Carried 2 (.list [.null, .bool true, .mapping [], .int (-12)]) := by
    refine .list 1 _ ?_
    simp only [List.forall_mem_cons]
    exact ⟨.null 1, .bool 1 true, hempty, .int 1 _ (by decide +kernel), by simp⟩
  have hinner : Json.Carried 2 (.mapping [(.text "\"\\", .text "\r\n\x7fé𝄞")]) :=
    .mapping 1 [("\"\\", .text "\r\n\x7fé𝄞")] (by simp) (by simp [Json.Carried.text])
  refine .mapping 2 tangled (by decide) ?_
  rw [tangled]
  simp only [List.forall_mem_cons]
  exact ⟨hitems, hinner, by simp⟩

def threeLevels : Json.Convention := ⟨3, fun _ => '?'⟩

theorem load_save_tangled :
    ∃ t', save 3 .plain (.ofText "d/r.json") (.mapping (tangled.map fun f => (.text f.1, f.2)))
        bare = (.ok (), t') ∧
      ∃ entries, SettingsFile.load ⟨SettingsFile.jsonReader threeLevels, none⟩ t'
          (.ofText "d/r.json") = .ok entries ∧
        (Value.mapping (tangled.map fun f => (.text f.1, f.2))).Rearranged (.mapping entries) := by
  have hempty : (save 1 .plain (.ofText "d/r.json") (.mapping []) bare).1.isOk = true := by
    decide +kernel
  have hwritable : bare.Writable (.ofText "d/r.json") :=
    (exists_save_iff.mp ⟨_, Prod.ext (eq_ok_getD_of_isOk hempty ()) rfl⟩).1
  obtain ⟨t', hsave, hload | ⟨hdeep, -⟩⟩ | ⟨hdeep, -⟩ :=
    load_save 3 threeLevels none (by decide +kernel) hwritable carried_tangled
  · exact ⟨t', hsave, hload⟩
  · exact absurd hdeep (by decide)
  · exact absurd hdeep (by decide)

end Report

end RasterTensor
