import RasterTensor.Proofs.CommandLine.Effective
import RasterTensor.Proofs.CommandLine.Ends
import RasterTensor.Proofs.Conversion.Atomicity
import RasterTensor.Proofs.Conversion.ReadBack
import RasterTensor.Proofs.Report

/-!
# The files a command leaves

The image is converted into a file that was not there before, and nothing else of the files
changes until then. What is written afterwards is the report, and it goes to any place that its
path leads to: also to that of the tensor file or of the image. Nothing is taken back when the
command fails after the conversion.
-/

namespace RasterTensor.CommandLine

open Document Files

variable {host : Host} {arguments : List String} {t t' : Tree} {v : Invocation} {s : Settings}
  {scene : Scene} {r : TensorSummary} {p : PathName}

/-- The report that is asked for goes to the place of a path name. -/
def Invocation.ReportsTo (v : Invocation) (t : Tree) (p : PathName) : Prop :=
  ∃ path ∈ v.reportPath?, t.SamePlace path p

/-- A path name leads to the file of the report, which holds as much of it as was written. -/
def Invocation.HoldsReport (v : Invocation) (host : Host) (s : Settings) (r : TensorSummary)
    (t : Tree) (p : PathName) : Prop :=
  v.ReportsTo t p ∧ ∃ text stored,
    Json.write host.reportDepth 0 (.mapping (Report.build host.origin r (some s))) = .ok text ∧
    t.read p = .ok ((String.ofList text).toUTF8.extract 0 stored)

/-! ## The conversion -/

theorem eq_of_changedByOthers {decoder : Raster.Decoder}
    (h : Conversion.ChangedByOthers (.reading decoder) none t t') : t' = t := by
  induction h with
  | refl => rfl
  | tail _ hstep ih =>
      cases hstep with
      | load path => exact ih
      | tell observe h => cases h

/-- A conversion that fails changes no file: nobody is told of its stages, and only who is told
could make it fail later than that. -/
theorem Converts.tree_of_error {f : Failure}
    (h : Converts host arguments t v s (.error f, scene)) : scene.tree = t := by
  have hend := Conversion.runEnd_run h.run
  rcases hend.pending_or_failedAfter with ⟨-, hothers⟩ | ⟨-, hfailed⟩
  · exact eq_of_changedByOthers hothers
  · cases hfailed with
    | serialized hwrote htell | done hwrote htell hdone => simp [Observer.tell] at *

theorem Converts.exists_put (h : Converts host arguments t v s (.ok r, scene)) :
    ∃ place bytes, t.locate s.outputPath = .ok place ∧ t.get? place = none ∧
      scene.tree = t.put place (.file bytes) ∧ bytes.size = r.byteCount := by
  obtain ⟨_, _, _, tensor, -, -, -, -, hlook, rfl⟩ :=
    Conversion.look_output_of_run (fun _ h => by cases h) h.run
  obtain ⟨after, hwrote, hothers⟩ := Conversion.created_of_run h.run
  cases hwrote with
  | @intro image written place size before harrives hplace hnone houtcome =>
      cases eq_of_changedByOthers (harrives.changedByOthers (Nat.le_refl 3))
      have htree := eq_of_changedByOthers hothers
      have hfree : t.get? place ≠ some .directory := by simp [hnone]
      rw [htree, Tree.look_put hplace hfree] at hlook
      simp only [Except.ok.injEq, Option.some.injEq, Entry.file.injEq] at hlook
      exact ⟨place, tensor.bytes, hplace, hnone, hlook ▸ htree, rfl⟩

theorem Converts.grows (h : Converts host arguments t v s (.ok r, scene)) :
    t.Grows scene.tree := by
  obtain ⟨place, bytes, -, hnone, htree, -⟩ := h.exists_put
  exact htree ▸ Tree.grows_put hnone _

theorem Converts.read_output (h : Converts host arguments t v s (.ok r, scene)) :
    ∃ bytes, scene.tree.read s.outputPath = .ok bytes ∧ bytes.size = r.byteCount := by
  obtain ⟨place, bytes, hplace, hnone, htree, hsize⟩ := h.exists_put
  have hfree : t.get? place ≠ some .directory := by simp [hnone]
  exact ⟨bytes, htree ▸ Tree.read_of_look (Tree.look_put hplace hfree _), hsize⟩

theorem Converts.read_input (h : Converts host arguments t v s (.ok r, scene)) :
    ∃ content, t.read s.inputPath = .ok content ∧
      scene.tree.read s.inputPath = .ok content := by
  obtain ⟨-, ⟨content, hlook⟩, -⟩ := Invocation.settings_eq_ok h.settings
  exact ⟨content, Tree.read_of_look hlook, h.grows.read_eq (Tree.read_of_look hlook)⟩

/-! ## Success -/

theorem Reported.read_eq {content : ByteArray} (h : Reported host v s r t t')
    (hother : ¬ v.ReportsTo t' p) (hread : t.read p = .ok content) : t'.read p = .ok content := by
  rcases h with ⟨-, rfl⟩ | ⟨path, hpath, hsave⟩
  · exact hread
  · exact Report.read_of_save hsave (fun hsame => hother ⟨path, hpath, hsame⟩) hread

theorem Reported.read_of_reportsTo (h : Reported host v s r t t') (hp : v.ReportsTo t' p) :
    ∃ text, Json.write host.reportDepth 0 (.mapping (Report.build host.origin r (some s))) =
        .ok text ∧ t'.read p = .ok (String.ofList text).toUTF8 := by
  obtain ⟨asked, hasked, hsame⟩ := hp
  rcases h with ⟨hnone, -⟩ | ⟨path, hpath, hsave⟩
  · cases hnone.symm.trans hasked
  · cases hpath.symm.trans hasked
    exact Report.read_of_save_of_samePlace hsave hsame

/-- A command that succeeds has converted the image. The tensor file is then complete and the
image unchanged, except where the report went to one of them: there is the report instead. -/
theorem files_of_successful_run
    (h : (run host arguments t).1.status = .finished 0) :
    ∃ v s r scene tensorBytes imageBytes,
      Converts host arguments t v s (.ok r, scene) ∧
      (run host arguments t).1.out = successLine r ∧
      scene.tree.read s.outputPath = .ok tensorBytes ∧ tensorBytes.size = r.byteCount ∧
      t.read s.inputPath = .ok imageBytes ∧
      (¬ v.ReportsTo (run host arguments t).2 s.outputPath →
        (run host arguments t).2.read s.outputPath = .ok tensorBytes) ∧
      (¬ v.ReportsTo (run host arguments t).2 s.inputPath →
        (run host arguments t).2.read s.inputPath = .ok imageBytes) ∧
      ∀ p, v.ReportsTo (run host arguments t).2 p →
        ∃ text, Json.write host.reportDepth 0
            (.mapping (Report.build host.origin r (some s))) = .ok text ∧
          (run host arguments t).2.read p = .ok (String.ofList text).toUTF8 := by
  obtain ⟨v, s, r, scene, hconverts, hout, hreported⟩ :=
    (runEnd_run host arguments t).of_finished h
  obtain ⟨tensorBytes, houtput, hsize⟩ := hconverts.read_output
  obtain ⟨imageBytes, hbefore, hinput⟩ := hconverts.read_input
  exact ⟨v, s, r, scene, tensorBytes, imageBytes, hconverts, congrArg Outcome.out hout, houtput,
    hsize, hbefore, fun hother => hreported.read_eq hother houtput,
    fun hother => hreported.read_eq hother hinput, fun p => hreported.read_of_reportsTo⟩

/-- One file, with an image of one pixel. -/
def oneImage : Tree :=
  ⟨[([['i']], .file "P3 1 1 255 1 2 3\n".toUTF8)], []⟩

/-- Asks for the conversion of that image, with a report. -/
def withReport (report : String) : List String :=
  ["-i", "i", "-f", "caffe", "-z", "qasymm8", "-o", "o", "--save-report", report]

/-- Every byte is written and every line printed. -/
def plainHost : Host where
  origin := ⟨⟨⟨2020, 1, 1⟩, 0, 0, 0, 0, some 0⟩, none⟩
  readers := ⟨SettingsFile.jsonReader ⟨20, fun _ => '?'⟩, some (SettingsFile.yamlReader 20)⟩
  pathReach := 20
  reach := ⟨20, 20, 20⟩
  decoder := .standard
  resample := .bilinear
  device := fun _ => .acceptAll
  reportDepth := 20
  sink := .plain
  console := fun _ => none

def headAt (t : Tree) (path : String) : Option UInt8 :=
  (t.read (.ofText path)).toOption.bind fun content => content.data.toList.head?

theorem files_of_run_withReport :
    ∃ v s r scene, Converts plainHost (withReport "r") oneImage v s (.ok r, scene) ∧
      (run plainHost (withReport "r") oneImage).1.out = successLine r := by
  have hstatus : (run plainHost (withReport "r") oneImage).1.status = .finished 0 := by
    decide +kernel
  obtain ⟨v, s, r, scene, _, _, hconverts, hout, -⟩ := files_of_successful_run hstatus
  exact ⟨v, s, r, scene, hconverts, hout⟩

/-- The line on success tells of three bytes, of which the first is that of the image's first
sample, where there is a report, and the report can replace the image in the same way. -/
theorem report_replaces_files :
    (run plainHost (withReport "o") oneImage).1 =
      ⟨.finished 0, "wrote o shape=[1, 1, 1, 3] dtype=uint8 bytes=3\n", ""⟩ ∧
    headAt (run plainHost (withReport "r") oneImage).2 "o" = some 1 ∧
    headAt (run plainHost (withReport "o") oneImage).2 "o" = some 123 ∧
    (run plainHost (withReport "i") oneImage).1.status = .finished 0 ∧
    headAt oneImage "i" = some 80 ∧
    headAt (run plainHost (withReport "i") oneImage).2 "i" = some 123 := by
  decide +kernel

/-! ## Failure -/

/-- Only the report is written after the conversion. -/
theorem FailsLate.read_or_holdsReport {content : ByteArray} (h : FailsLate host v s r t t')
    (hread : t.read p = .ok content) :
    t'.read p = .ok content ∨ v.HoldsReport host s r t' p := by
  have hsaved {outcome : Except Failure Unit} (h : Reports host v s r t outcome t') :
      t'.read p = .ok content ∨ v.HoldsReport host s r t' p := by
    obtain ⟨path, hpath, hsave⟩ := h
    rcases Report.read_or_part_of_save hsave hread with hkept | ⟨hsame, hpart⟩
    · exact .inl hkept
    · exact .inr ⟨⟨path, hpath, hsame⟩, hpart⟩
  cases h with
  | unreported hsave => exact hsaved hsave
  | unprinted hreported hprint =>
      rcases hreported with ⟨-, rfl⟩ | hsave
      · exact .inl hread
      · exact hsaved hsave

/-- A command that does not succeed leaves the files as they were, unless it fails after the image
was converted: the report could not be saved, or the line about the tensor not be printed. Then
nothing was at the output path before, and the complete tensor file stays there. Every file keeps
its content, the tensor file among them, except for one that the report's path leads to: that file
may hold the report instead, or the first part of it. -/
theorem files_of_failed_run
    (h : (run host arguments t).1.status ≠ .finished 0) :
    (run host arguments t).2 = t ∨
      ∃ v s r scene place bytes,
        Converts host arguments t v s (.ok r, scene) ∧
        FailsLate host v s r scene.tree (run host arguments t).2 ∧
        t.locate s.outputPath = .ok place ∧ t.get? place = none ∧
        scene.tree = t.put place (.file bytes) ∧ bytes.size = r.byteCount ∧
        ((run host arguments t).2.read s.outputPath = .ok bytes ∨
          v.HoldsReport host s r (run host arguments t).2 s.outputPath) ∧
        ∀ p content, t.read p = .ok content →
          (run host arguments t).2.read p = .ok content ∨
            v.HoldsReport host s r (run host arguments t).2 p := by
  rcases (runEnd_run host arguments t).of_not_finished h with
    hsame | ⟨v, s, f, scene, hconverts, htree⟩ | ⟨v, s, r, scene, hconverts, hlate⟩
  · exact .inl hsame
  · exact .inl (htree.trans hconverts.tree_of_error)
  · obtain ⟨place, bytes, hplace, hnone, htree, hsize⟩ := hconverts.exists_put
    have hfree : t.get? place ≠ some .directory := by simp [hnone]
    have houtput : scene.tree.read s.outputPath = .ok bytes :=
      htree ▸ Tree.read_of_look (Tree.look_put hplace hfree _)
    exact .inr ⟨v, s, r, scene, place, bytes, hconverts, hlate, hplace, hnone, htree, hsize,
      hlate.read_or_holdsReport houtput,
      fun p content hread => hlate.read_or_holdsReport (hconverts.grows.read_eq hread)⟩

theorem files_of_run_reportToDirectory :
    ∃ v s r scene, Converts plainHost (withReport ".") oneImage v s (.ok r, scene) ∧
      FailsLate plainHost v s r scene.tree (run plainHost (withReport ".") oneImage).2 := by
  have hstatus : (run plainHost (withReport ".") oneImage).1.status ≠ .finished 0 := by
    decide +kernel
  have hnew : headAt (run plainHost (withReport ".") oneImage).2 "o" ≠ headAt oneImage "o" := by
    decide +kernel
  rcases files_of_failed_run hstatus with hsame | ⟨v, s, r, scene, _, _, hconverts, hlate, -⟩
  · exact absurd (congrArg (headAt · "o") hsame) hnew
  · exact ⟨v, s, r, scene, hconverts, hlate⟩

def muteHost : Host :=
  { plainHost with
    console := fun _ =>
      some ("", .foreign ⟨"UnicodeEncodeError", "surrogates not allowed", .ordinary⟩) }

/-- A report that cannot be saved fails the command, and so does a line that cannot be printed. The
tensor file stays both times. -/
theorem output_of_run_unsavedReport :
    headAt oneImage "o" = none ∧
    (run plainHost (withReport ".") oneImage).1.status = .finished 1 ∧
    headAt (run plainHost (withReport ".") oneImage).2 "o" = some 1 ∧
    (run muteHost (withReport "") oneImage).1.status = .finished 1 ∧
    headAt (run muteHost (withReport "") oneImage).2 "o" = some 1 := by
  decide +kernel

end RasterTensor.CommandLine
