import RasterTensor.Proofs.CommandLine.Outputs
import RasterTensor.Proofs.Raster.Size
import RasterTensor.Proofs.Report.Reload
import RasterTensor.Proofs.Report.Sidecar

/-!
# The report of a command

A command that is asked for a report and succeeds leaves a text in JSON at the place of the report.
Unless that is also the place of the tensor file, the text suffices to read the tensor, and the
settings it holds are those of the command.
-/

namespace RasterTensor.CommandLine

open Document Files SettingsFile Text

variable {host : Host} {arguments : List String} {t final : Tree} {v : Invocation} {s : Settings}
  {scene : Scene} {r : TensorSummary}

/-! ## The settings of a command -/

/-- The paths of a command are read a second time, so their own texts are not blank, and the
settings can be read from their entries. -/
theorem Invocation.ofEntries_toEntries (h : v.settings host t = .ok s) (reach : Reach) :
    Settings.ofEntries reach s.toEntries = .ok s := by
  simp only [settings, bind_eq_ok, liftM_failure_eq_ok] at h
  obtain ⟨options, -, input, hinput, output, houtput, h⟩ := h
  obtain ⟨hcleanInput, -⟩ := inputPath_eq_ok hinput
  obtain ⟨hcleanOutput, -⟩ := outputPath_eq_ok houtput
  split at h
  · cases h
  · cases h
  · rw [liftM_failure_eq_ok] at h
    obtain ⟨fields, hfields, hinputField, houtputField⟩ := Settings.ofEntries_eq_ok h
    rw [Entries.field?_put_of_ne (by decide), Entries.field?_put_self] at hinputField
    rw [Entries.field?_put_self] at houtputField
    simp only [Settings.ofFields, bind_eq_ok, pure_eq_ok] at hfields
    obtain ⟨input', hinput', output', houtput', -, -, -, -, -, -, -, -, -, -, rfl⟩ := hfields
    rw [← Option.some.inj hinputField] at hinput'
    rw [← Option.some.inj houtputField] at houtput'
    obtain ⟨rfl, hvisibleInput⟩ := Settings.eq_of_readPath_text hcleanInput hinput'
    obtain ⟨rfl, hvisibleOutput⟩ := Settings.eq_of_readPath_text hcleanOutput houtput'
    rw [Settings.ofEntries_toEntries reach hcleanInput hcleanOutput, hvisibleInput,
      hvisibleOutput]
    rfl

/-! ## The summary of a command -/

theorem le_of_resolve {requested source size : Nat}
    (h : size = Resize.resolve requested source) : requested ≤ size := by
  rw [h, Resize.resolve]
  split
  · next hzero => omega
  · exact Nat.le_refl _

/-- The tensor file of a command holds what the profile makes of an image, and the report on it can
be written. -/
structure Reportable (s : Settings) (r : TensorSummary) (t : Tree) : Prop where
  outputPath_eq : r.outputPath = s.outputPath
  holds : ∃ image, r.Holds t (Profile.parameters s.frontEnd s.elementType) image
  legible : r.Legible
  width_lt : s.width < Decimal.integerLimit
  height_lt : s.height < Decimal.integerLimit

section Resampled

variable (hdecoder : host.decoder.Storable) (hobeys : host.resample.Obeys)
  (hstorable : host.resample.Storable)

include hdecoder hobeys hstorable

/-- In every tree where the tensor file is as the command has left it. -/
theorem Converts.reportable (h : Converts host arguments t v s (.ok r, scene))
    (hkept : ∀ bytes, scene.tree.read s.outputPath = .ok bytes →
      final.read s.outputPath = .ok bytes) : Reportable s r final := by
  obtain ⟨haccepted, -, -⟩ := Invocation.settings_eq_ok h.settings
  obtain ⟨supplied, image, resized, tensor, hload, himage, hresize, hnormalize, hlook, rfl⟩ :=
    Conversion.look_output_of_run (fun _ h => by cases h) h.run
  obtain ⟨a, rfl, hstored⟩ := PixelBuffer.count_of_ofSupplied himage
  obtain ⟨hheight, hwidth⟩ := hobeys.size_resize hresize
  have hcount := hstorable.count_resize
    (hstored ▸ Loader.storable_reading hdecoder _ _ a hload) hresize
  have hholds := Conversion.holds_summaryOf haccepted.clean.2 hcount hnormalize
    (hkept _ (Tree.read_of_look hlook))
  have hlegible := Report.legible_of_holds hholds hcount (Profile.legible_parameters _ _)
  have hshape := Report.shape_of_holds hholds
  -- A width or height that was asked for is one of the lengths in the shape.
  refine ⟨rfl, ⟨resized, hholds⟩, hlegible, ?_, ?_⟩
  · refine Nat.lt_of_le_of_lt (le_of_resolve hwidth) (hlegible.shape _ ?_)
    rw [hshape]
    cases hlayout : s.layout <;> simp [Conversion.summaryOf, hlayout, Layout.shape]
  · refine Nat.lt_of_le_of_lt (le_of_resolve hheight) (hlegible.shape _ ?_)
    rw [hshape]
    cases hlayout : s.layout <;> simp [Conversion.summaryOf, hlayout, Layout.shape]

end Resampled

theorem Reportable.exists_read {origin : Report.Origin} {text : List Char} {limit : Nat}
    (h : Reportable s r t)
    (hwrite : Json.write limit 0 (.mapping (Report.build origin r (some s))) = .ok text)
    (convention : Json.Convention) (hdepth : 4 ≤ convention.depth) :
    (∀ c ∈ text, IsPlain c) ∧ ∃ w, Json.read convention text = .ok w ∧
      (Value.mapping (Report.build origin r (some s))).Rearranged w := by
  have hcarried : Json.Carried 4 (.mapping (Report.build origin r (some s))) :=
    Report.carried_build h.legible h.width_lt h.height_lt 0
  rcases hcarried.exists_read_or_nested limit convention with
    ⟨text', w, hwrite', hplain, hsame, hread⟩ | ⟨-, hnested⟩
  · cases hwrite.symm.trans hwrite'
    rcases hread with hread | ⟨hdeep, -⟩
    · exact ⟨hplain, w, hread, hsame⟩
    · exact absurd hdeep (Nat.not_lt.mpr hdepth)
  · cases hwrite.symm.trans hnested

/-! ## The report -/

theorem reportPath?_eq {path : String} (h : v.report = some path) (hne : path ≠ "") :
    v.reportPath? = some (.ofText path) := by
  simp [Invocation.reportPath?, h]

/-- A command that succeeds with a report leaves a text from which its settings can be read, and
which suffices to read the tensor file, unless the report has taken the place of that file. The
report is nested four levels deep, and any reader that follows these reads it. -/
theorem report_of_run {path : String} (hdecoder : host.decoder.Storable)
    (hobeys : host.resample.Obeys) (hstorable : host.resample.Storable)
    (hstatus : (run host arguments t).1.status = .finished 0)
    (hrequest : Request.ofArguments arguments = .ok (.convert v))
    (hsettings : v.settings host t = .ok s) (hreport : v.report = some path)
    (hpath : path ≠ "")
    (hother : ¬ (run host arguments t).2.SamePlace (.ofText path) s.outputPath) :
    ∃ text, SettingsFile.readText (run host arguments t).2 (.ofText path) = .ok text ∧
      ∀ convention : Json.Convention, 4 ≤ convention.depth → ∃ report,
        Json.read convention text = .ok (.mapping report) ∧
        Report.Describes (run host arguments t).2 s report := by
  obtain ⟨v₁, s₁, r, scene, hconverts, -, hreported⟩ :=
    (runEnd_run host arguments t).of_finished hstatus
  obtain ⟨rfl, rfl⟩ := hconverts.unique hrequest hsettings
  have hasked := reportPath?_eq hreport hpath
  rcases hreported with ⟨hnone, -⟩ | ⟨path₁, hsome, hsave⟩
  · cases hnone.symm.trans hasked
  cases hsome.symm.trans hasked
  -- The report went elsewhere, so the tensor file is still the one that was converted.
  have hreportable : Reportable s₁ r (run host arguments t).2 :=
    hconverts.reportable hdecoder hobeys hstorable
      fun _ hread => Report.read_of_save hsave hother hread
  obtain ⟨text, hwrite, hfile⟩ :=
    Report.read_of_save_of_samePlace hsave (Report.samePlace_of_save hsave)
  obtain ⟨image, hholds⟩ := hreportable.holds
  have hclean : r.outputPath.Clean := by
    rw [hreportable.outputPath_eq]
    exact (Invocation.settings_eq_ok hsettings).1.clean.2
  have hplain := (hreportable.exists_read hwrite ⟨4, fun _ => ' '⟩ (Nat.le_refl 4)).1
  refine ⟨text, readText_of_plain hplain hfile, fun convention hdepth => ?_⟩
  obtain ⟨-, w, hread, hsame⟩ := hreportable.exists_read hwrite convention hdepth
  obtain ⟨report, rfl, hdescribes⟩ := Report.describes_of_rearranged hsame
    (Invocation.ofEntries_toEntries hsettings) hclean hholds
  exact ⟨report, hread, hdescribes⟩

/-- The conversion of an image of one pixel, with a report. -/
def reporting (report : String) : Invocation where
  input := some "i"
  output := some "o"
  frontEnd := some "caffe"
  elementType := some "qasymm8"
  report := some report

def onePixelSettings : Settings :=
  ⟨.ofText "i", .ofText "o", .caffe, .quantized8, 0, 0, .nhwc⟩

theorem not_samePlace_of_locate {p q : PathName} (place place' : Location)
    (hp : (t.locate p).toOption = some place) (hq : (t.locate q).toOption = some place')
    (hne : place ≠ place') : ¬ t.SamePlace p q := by
  rintro ⟨common, hp', hq'⟩
  rw [hp'] at hp
  rw [hq'] at hq
  exact hne (Option.some.inj (hp.symm.trans hq))

theorem report_of_run_onePixel :
    ∃ text, SettingsFile.readText (run plainHost (withReport "d/r.json") oneImage).2
        (.ofText "d/r.json") = .ok text ∧
      ∃ report, Json.read ⟨4, fun _ => '?'⟩ text = .ok (.mapping report) ∧
        Report.Describes (run plainHost (withReport "d/r.json") oneImage).2 onePixelSettings
          report := by
  have hrequest : Request.ofArguments (withReport "d/r.json") =
      .ok (.convert (reporting "d/r.json")) := eq_ok_of_toOption (by decide +kernel)
  have hsettings : (reporting "d/r.json").settings plainHost oneImage = .ok onePixelSettings :=
    eq_ok_of_toOption (by decide +kernel)
  have hother : ¬ (run plainHost (withReport "d/r.json") oneImage).2.SamePlace
      (.ofText "d/r.json") (.ofText "o") :=
    not_samePlace_of_locate [['d'], "r.json".toList] [['o']] (by decide +kernel)
      (by decide +kernel) (by decide)
  have hstatus : (run plainHost (withReport "d/r.json") oneImage).1.status = .finished 0 := by
    decide +kernel
  obtain ⟨text, htext, hreads⟩ := report_of_run Raster.Decoder.storable_standard
    Resampler.bilinear_obeys Resampler.bilinear_storable hstatus hrequest hsettings rfl
    (by decide) hother
  exact ⟨text, htext, hreads ⟨4, fun _ => '?'⟩ (Nat.le_refl 4)⟩

/-- With an empty path for the report a command succeeds and writes none. -/
theorem not_forall_report_of_run :
    ¬ ∀ host arguments t v s path,
      host.decoder.Storable → host.resample.Obeys → host.resample.Storable →
      (run host arguments t).1.status = .finished 0 →
      Request.ofArguments arguments = .ok (.convert v) → v.settings host t = .ok s →
      v.report = some path →
      ¬ (run host arguments t).2.SamePlace (.ofText path) s.outputPath →
      ∃ text, SettingsFile.readText (run host arguments t).2 (.ofText path) = .ok text ∧
        ∀ convention : Json.Convention, 4 ≤ convention.depth → ∃ report,
          Json.read convention text = .ok (.mapping report) ∧
          Report.Describes (run host arguments t).2 s report := by
  intro hall
  have hrequest : Request.ofArguments (withReport "") = .ok (.convert (reporting "")) :=
    eq_ok_of_toOption (by decide +kernel)
  have hsettings : (reporting "").settings plainHost oneImage = .ok onePixelSettings :=
    eq_ok_of_toOption (by decide +kernel)
  have hother : ¬ (run plainHost (withReport "") oneImage).2.SamePlace (.ofText "")
      (.ofText "o") :=
    not_samePlace_of_locate [] [['o']] (by decide +kernel) (by decide +kernel) (by decide)
  have hnone : (SettingsFile.readText (run plainHost (withReport "") oneImage).2
      (.ofText "")).isOk = false := by
    decide +kernel
  obtain ⟨text, htext, -⟩ :=
    hall plainHost (withReport "") oneImage _ _ "" Raster.Decoder.storable_standard
      Resampler.bilinear_obeys Resampler.bilinear_storable (by decide +kernel) hrequest hsettings
      rfl hother
  rw [htext] at hnone
  cases hnone

end RasterTensor.CommandLine
