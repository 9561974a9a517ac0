import RasterTensor.Proofs.CommandLine.Outputs
import RasterTensor.Proofs.CommandLine.Precedence
import RasterTensor.Proofs.Conversion.Alike

/-!
# Settings split between flags and a file

It makes no difference which of the settings are given by flags and which by the settings file, nor
what the file says of those that flags are given for. As long as the settings are read alike, a
command prints the same, ends with the same status and leaves the same tensor file.
-/

namespace RasterTensor

open Document Files

variable {agreed : Location → Prop} {t t' : Tree}

/-! ## Reports -/

namespace Report

theorem alike_save (h : t.Alike agreed t') (depth : Nat) (sink : Sink) (path : PathName)
    (report : Value) :
    (save depth sink path report t).1 = (save depth sink path report t').1 ∧
      (save depth sink path report t).2.Alike agreed (save depth sink path report t').2 := by
  have hensure := h.ensurePath path.parent
  unfold save
  generalize t.ensurePath path.parent = x, t'.ensurePath path.parent = x' at hensure
  obtain ⟨outcome, t₁⟩ := x
  obtain ⟨outcome', t₁'⟩ := x'
  obtain ⟨rfl, h₁⟩ := hensure
  cases outcome with
  | error e => exact ⟨rfl, h₁⟩
  | ok u =>
      dsimp only
      cases Json.write depth 0 report with
      | error e => exact ⟨rfl, h₁⟩
      | ok text =>
          dsimp only
          rcases (sink (String.ofList text).toUTF8).result (String.ofList text).toUTF8 with
            ⟨outcome, - | stored⟩
          · exact ⟨rfl, h₁⟩
          · have hwrite := h₁.write path stored
            dsimp only
            generalize t₁.write path stored = y, t₁'.write path stored = y' at hwrite
            cases hwrite with
            | ok hwrite => exact ⟨rfl, hwrite⟩
            | error e => exact ⟨rfl, h₁⟩

end Report

/-! ## Settings that are read alike -/

namespace CommandLine

/-- The values of two commands are read as the same settings, or refused in the same way. -/
structure Effective.ReadsAs (host : Host) (e e' : Effective) : Prop where
  inputPath : givenPath host.pathReach .noInput e.inputPath =
    givenPath host.pathReach .noInput e'.inputPath
  outputPath : givenPath host.pathReach .noOutput e.outputPath =
    givenPath host.pathReach .noOutput e'.outputPath
  frontEnd : e.frontEnd.map (FrontEnd.ofValue host.reach) =
    e'.frontEnd.map (FrontEnd.ofValue host.reach)
  elementType :
    ElementType.ofValue host.reach (e.elementType.getD (.choice (.elementType .float32))) =
      ElementType.ofValue host.reach (e'.elementType.getD (.choice (.elementType .float32)))
  width : Settings.readDimension host.reach "width" (e.width.getD (.int 0)) =
    Settings.readDimension host.reach "width" (e'.width.getD (.int 0))
  height : Settings.readDimension host.reach "height" (e.height.getD (.int 0)) =
    Settings.readDimension host.reach "height" (e'.height.getD (.int 0))
  layout : Layout.ofValue host.reach (e.layout.getD (.choice (.layout .nhwc))) =
    Layout.ofValue host.reach (e'.layout.getD (.choice (.layout .nhwc)))

theorem inputPath_congr (h : t.Alike agreed t') {depth : Nat} {v v' : Option Value}
    (hv : givenPath depth .noInput v = givenPath depth .noInput v') :
    inputPath depth t v = inputPath depth t' v' := by
  simp only [inputPath, hv, h.contains_eq, h.isDirectory_eq]

theorem outputPath_congr (h : t.Alike agreed t') {depth : Nat} {v v' : Option Value}
    (hv : givenPath depth .noOutput v = givenPath depth .noOutput v') :
    outputPath depth t v = outputPath depth t' v' := by
  simp only [outputPath, hv, h.contains_eq, h.isDirectory_eq]

theorem Effective.ReadsAs.settings_eq {host : Host} {e e' : Effective} (h : e.ReadsAs host e')
    (htree : t.Alike agreed t') (known : Except Failure Unit) :
    e.settings host t known = e'.settings host t' known := by
  unfold Effective.settings
  rw [inputPath_congr htree h.inputPath, outputPath_congr htree h.outputPath]
  refine bind_congr fun input => bind_congr fun output => ?_
  have hfrontEnd := h.frontEnd
  cases hleft : e.frontEnd with
  | none =>
      rw [hleft, Option.map_none, eq_comm, Option.map_eq_none_iff] at hfrontEnd
      rw [hfrontEnd]
  | some frontEnd =>
      rw [hleft, Option.map_some, eq_comm, Option.map_eq_some_iff] at hfrontEnd
      obtain ⟨frontEnd', hright, hsame⟩ := hfrontEnd
      rw [hright]
      dsimp only
      simp only [Settings.ofFields, hsame, h.elementType, h.width, h.height, h.layout]

/-! ## Commands in lockstep -/

theorem lockstep_saveReport {v v' : Invocation} (h : v.report = v'.report) (host : Host)
    (r : TensorSummary) (s : Settings) :
    Step.Lockstep (Scene.Alike agreed) (v.saveReport host r s) (v'.saveReport host r s)
      (Scene.Alike agreed) (Scene.Alike agreed) := by
  unfold Invocation.saveReport
  rw [h]
  split
  · exact Step.lockstep_pure _
  · exact Step.lockstep_pure _
  · next path _ =>
    refine Step.lockstep_change (fun s s' hs => ?_) (fun s s' hs => ?_) fun _ _ h => h
    · exact (Report.alike_save hs.tree _ _ _ _).1
    · exact hs.setTree (Report.alike_save hs.tree _ _ _ _).2

theorem reading_alike (h : t.Alike agreed t') {path : PathName}
    (hread : t.readSpelling path.text = t'.readSpelling path.text) (decoder : Raster.Decoder) :
    (Loader.reading decoder path t).1 = (Loader.reading decoder path t').1 ∧
      (Loader.reading decoder path t).2.Alike agreed (Loader.reading decoder path t').2 := by
  refine ⟨?_, h⟩
  simp only [Loader.reading, Raster.loadWith, hread]

/-! ## The place of the tensor file -/

section OutputPlace

variable {host : Host} {arguments : List String} {v : Invocation} {s : Settings}

theorem Converts.locate_output {r : TensorSummary} {scene : Scene} {final : Tree}
    (h : Converts host arguments t v s (.ok r, scene))
    (hkeeps : scene.tree.KeepsDirectories final) :
    ∃ place, final.locate s.outputPath = .ok place ∧ t.get? place = none := by
  obtain ⟨place, bytes, hplace, hnone, -⟩ := h.exists_put
  exact ⟨place, (h.grows.keepsDirectories.trans hkeeps).locate_eq hplace, hnone⟩

theorem Reports.keepsDirectories {r : TensorSummary} {outcome : Except Failure Unit}
    (h : Reports host v s r t outcome t') : t.KeepsDirectories t' := by
  obtain ⟨path, -, hsave⟩ := h
  exact Report.keepsDirectories_of_save hsave

theorem Reported.keepsDirectories {r : TensorSummary} (h : Reported host v s r t t') :
    t.KeepsDirectories t' := by
  rcases h with ⟨-, rfl⟩ | hsave
  · exact (Tree.Grows.refl _).keepsDirectories
  · exact hsave.keepsDirectories

theorem FailsLate.keepsDirectories {r : TensorSummary} (h : FailsLate host v s r t t') :
    t.KeepsDirectories t' := by
  cases h with
  | unreported hsave => exact hsave.keepsDirectories
  | unprinted hreported hprint => exact hreported.keepsDirectories

/-- A command that has settings either leaves all files as they were, or its output path leads to a
place where there was nothing. -/
theorem output_place_of_run (host : Host)
    (hrequest : Request.ofArguments arguments = .ok (.convert v))
    (hsettings : v.settings host t = .ok s) :
    (run host arguments t).2 = t ∨
      ∃ place, (run host arguments t).2.locate s.outputPath = .ok place ∧
        t.get? place = none := by
  have hend := runEnd_run host arguments t
  by_cases hstatus : (run host arguments t).1.status = .finished 0
  · obtain ⟨_, _, r, scene, hconverts, -, hreported⟩ := hend.of_finished hstatus
    obtain ⟨rfl, rfl⟩ := hconverts.unique hrequest hsettings
    exact .inr (hconverts.locate_output hreported.keepsDirectories)
  · rcases hend.of_not_finished hstatus with
      hsame | ⟨_, _, f, scene, hconverts, htree⟩ | ⟨_, _, r, scene, hconverts, hlate⟩
    · exact .inl hsame
    · exact .inl (htree.trans hconverts.tree_of_error)
    · obtain ⟨rfl, rfl⟩ := hconverts.unique hrequest hsettings
      exact .inr (hconverts.locate_output hlate.keepsDirectories)

end OutputPlace

/-! ## Two commands -/

/-- Two commands that give the same values to the settings, each by flags and a settings file of its
own, and are the same in all else. -/
structure SameCommand (host : Host) (arguments arguments' : List String) (t t' : Tree)
    (v v' : Invocation) (base base' : Entries) : Prop where
  request : Request.ofArguments arguments = .ok (.convert v)
  request' : Request.ofArguments arguments' = .ok (.convert v')
  loaded : v.base host.readers t = .ok base
  loaded' : v'.base host.readers t' = .ok base'
  known : Settings.checkKeys host.reach base = Settings.checkKeys host.reach base'
  values : (v.effective base).ReadsAs host (v'.effective base')
  report : v.report = v'.report
  verbose : v.verbose = v'.verbose
  shape : t.SameShape t'
  image : ∀ s, v.settings host t = .ok s →
    t.readSpelling s.inputPath.text = t'.readSpelling s.inputPath.text

namespace SameCommand

variable {host : Host} {arguments arguments' : List String} {v v' : Invocation}
  {base base' : Entries}

theorem settings_eq (h : SameCommand host arguments arguments' t t' v v' base base') :
    v.settings host t = v'.settings host t' := by
  rw [Invocation.settings_eq h.loaded, Invocation.settings_eq h.loaded', h.known]
  exact h.values.settings_eq h.shape.alike _

theorem sameEnd_perform (h : SameCommand host arguments arguments' t t' v v' base base')
    {s : Settings} (hsettings : v.settings host t = .ok s) :
    Step.SameEnd (Scene.Alike fun place => t.get? place = t'.get? place)
      (Scene.Alike fun place => t.get? place = t'.get? place)
      ((v.perform host s).play (.opening t)) ((v'.perform host s).play (.opening t')) := by
  obtain ⟨himage, htree⟩ := reading_alike h.shape.alike (h.image s hsettings) host.decoder
  have hstart : (Scene.opening t).Untouched (fun place => t.get? place = t'.get? place) t t'
      (.opening t') := ⟨⟨h.shape.alike, rfl, rfl, rfl⟩, rfl, rfl⟩
  refine Step.Lockstep.sameEnd ?_ hstart
  refine .bind (Conversion.lockstep_run (.chunked host.device) himage htree) fun r => ?_
  exact .bind (lockstep_saveReport h.report host r s) fun _ => Step.lockstep_pure r

theorem run_eq (h : SameCommand host arguments arguments' t t' v v' base base') :
    (run host arguments t).1 = (run host arguments' t').1 ∧
      (run host arguments t).2.Alike (fun place => t.get? place = t'.get? place)
        (run host arguments' t').2 := by
  simp only [run, h.request, h.request', Request.run, ← h.settings_eq]
  cases hsettings : v.settings host t with
  | error c => exact ⟨rfl, h.shape.alike⟩
  | ok s =>
      have hend := h.sameEnd_perform hsettings
      dsimp only
      generalize (v.perform host s).play (.opening t) = x,
        (v'.perform host s).play (.opening t') = x' at hend
      cases hend with
      | ok r hscene | error f hscene =>
          refine ⟨?_, hscene.tree⟩
          simp only [Invocation.printed, h.verbose, hscene.notes_eq]

theorem read_output_eq (h : SameCommand host arguments arguments' t t' v v' base base')
    {s : Settings} (hsettings : v.settings host t = .ok s) :
    (run host arguments t).2.read s.outputPath =
      (run host arguments' t').2.read s.outputPath := by
  obtain ⟨-, halike⟩ := h.run_eq
  -- Either nothing was written, or what was written is all there is at the place.
  rcases output_place_of_run host h.request hsettings with
    hsame | ⟨place, hplace, hnone⟩
  · obtain ⟨-, -, hlook⟩ := Invocation.settings_eq_ok hsettings
    rw [hsame] at halike ⊢
    exact halike.read_eq_of_look_none hlook
  · have hkind := h.shape.sameKind place
    rw [hnone] at hkind
    generalize hentry : t'.get? place = e' at hkind
    cases hkind
    exact halike.read_eq hplace (hnone.trans hentry.symm)

end SameCommand

/-- A flag comes before the settings file, and the file before the default. Two commands that give
the settings the same values in this way print the same and leave the same tensor file. -/
theorem flags_before_settingsFile (host : Host) :
    (∀ (v : Invocation) (t : Tree) (base : Entries), v.base host.readers t = .ok base →
      v.settings host t = (v.effective base).settings host t (Settings.checkKeys host.reach base)) ∧
    ∀ arguments arguments' t t' v v' base base',
      SameCommand host arguments arguments' t t' v v' base base' →
        (run host arguments t).1 = (run host arguments' t').1 ∧
        ∀ s, v.settings host t = .ok s →
          (run host arguments t).2.read s.outputPath =
            (run host arguments' t').2.read s.outputPath := by
  refine ⟨fun v t base hbase => Invocation.settings_eq hbase, ?_⟩
  intro arguments arguments' t t' v v' base base' h
  exact ⟨(h.run_eq).1, fun s hsettings => h.read_output_eq hsettings⟩

def besideImage (settings : String) : Tree :=
  ⟨[([['i']], .file "P3 1 1 255 1 2 3\n".toUTF8),
    (["c.json".toList], .file settings.toUTF8)], []⟩

theorem sameShape_besideImage (settings settings' : String) :
    (besideImage settings).SameShape (besideImage settings') where
  home_eq := rfl
  sameKind place := by
    simp only [Tree.get?, besideImage, List.lookup_cons, List.lookup_nil]
    split
    · exact .directory
    · split
      · exact .file _ _
      · split
        · exact .file _ _
        · exact .nothing

theorem eq_some_text_of_any {x : Option Value} {s : String}
    (h : (x.any fun v => v.sameKey (.text s)) = true) : x = some (.text s) := by
  obtain ⟨v, rfl, hv⟩ := (Option.any_eq_true _ _).mp h
  rw [Value.sameKey_text_iff.mp hv]

/-- The front end in the file, the element type as a flag. -/
def frontEndInFile : Tree := besideImage "\x7b\"front_end\": \"caffe\", \"element_type\": 7\x7d"

/-- The element type in the file, the front end and the default width as flags. -/
def elementTypeInFile : Tree :=
  besideImage "\x7b\"front_end\": [], \"element_type\": \"qasymm8\", \"width\": \"\"\x7d"

def elementTypeByFlag : Invocation where
  config := some "c.json"
  input := some "i"
  output := some "o"
  elementType := some "qasymm8"

def frontEndByFlag : Invocation where
  config := some "c.json"
  input := some "./i"
  output := some "o"
  frontEnd := some "caffe"
  width := some 0

theorem paths_of_elementTypeByFlag :
    ∃ s, elementTypeByFlag.settings plainHost frontEndInFile = .ok s ∧ s.inputPath = .ofText "i" ∧
      s.outputPath = .ofText "o" := by
  have hpaths : (elementTypeByFlag.settings plainHost frontEndInFile).toOption.map
      (fun s => (s.inputPath, s.outputPath)) = some (.ofText "i", .ofText "o") := by
    decide +kernel
  obtain ⟨s, hs, heq⟩ := Option.map_eq_some_iff.mp hpaths
  obtain ⟨hinput, houtput⟩ := Prod.mk.inj heq
  exact ⟨s, eq_ok_of_toOption hs, hinput, houtput⟩

theorem sameCommand_split :
    ∃ base base', SameCommand plainHost
      ["--config", "c.json", "-i", "i", "-o", "o", "-z", "qasymm8"]
      ["--config", "c.json", "-i", "./i", "-o", "o", "-f", "caffe", "--new-width", "0"]
      frontEndInFile elementTypeInFile elementTypeByFlag frontEndByFlag base base' := by
  let base := ((elementTypeByFlag.base plainHost.readers frontEndInFile).toOption).getD []
  let base' := ((frontEndByFlag.base plainHost.readers elementTypeInFile).toOption).getD []
  have hfrontEnd : Settings.fieldValue? "front_end" base = some (.text "caffe") :=
    eq_some_text_of_any (by decide +kernel)
  have helementType : Settings.fieldValue? "element_type" base' = some (.text "qasymm8") :=
    eq_some_text_of_any (by decide +kernel)
  have habsent : Settings.fieldValue? "width" base = none ∧
      Settings.fieldValue? "height" base = none ∧ Settings.fieldValue? "height" base' = none ∧
      Settings.fieldValue? "layout" base = none ∧ Settings.fieldValue? "layout" base' = none := by
    simp only [← Option.isNone_iff_eq_none]
    decide +kernel
  obtain ⟨hwidth, hheight, hheight', hlayout, hlayout'⟩ := habsent
  have hknown {entries : Entries} (h : (Settings.checkKeys plainHost.reach entries).isOk = true) :
      Settings.checkKeys plainHost.reach entries = .ok () := eq_ok_getD_of_isOk h ()
  refine ⟨base, base', ?_⟩
  constructor
  case request => exact eq_ok_of_toOption (by decide +kernel)
  case request' => exact eq_ok_of_toOption (by decide +kernel)
  case loaded => exact eq_ok_getD_of_isOk (by decide +kernel) []
  case loaded' => exact eq_ok_getD_of_isOk (by decide +kernel) []
  case known => exact (hknown (by decide +kernel)).trans (hknown (by decide +kernel)).symm
  case values =>
    constructor
    case inputPath => rfl
    case outputPath => rfl
    case frontEnd => simp [Invocation.effective, elementTypeByFlag, frontEndByFlag, hfrontEnd]
    case elementType => simp [Invocation.effective, elementTypeByFlag, frontEndByFlag, helementType]
    case width => simp [Invocation.effective, elementTypeByFlag, frontEndByFlag, hwidth]
    case height =>
      simp [Invocation.effective, elementTypeByFlag, frontEndByFlag, hheight, hheight']
    case layout => simp [Invocation.effective, elementTypeByFlag, frontEndByFlag, hlayout, hlayout']
  case report => rfl
  case verbose => rfl
  case shape => exact sameShape_besideImage _ _
  case image =>
    intro s hsettings
    obtain ⟨s', hsettings', hinput, -⟩ := paths_of_elementTypeByFlag
    cases hsettings.symm.trans hsettings'
    rw [hinput]
    have hread (settings : String) :
        (besideImage settings).readSpelling "i" = .ok "P3 1 1 255 1 2 3\n".toUTF8 := rfl
    exact (hread _).trans (hread _).symm

theorem flags_before_settingsFile_split :
    (run plainHost ["--config", "c.json", "-i", "i", "-o", "o", "-z", "qasymm8"]
        frontEndInFile).1 =
      (run plainHost
        ["--config", "c.json", "-i", "./i", "-o", "o", "-f", "caffe", "--new-width", "0"]
        elementTypeInFile).1 ∧
    (run plainHost ["--config", "c.json", "-i", "i", "-o", "o", "-z", "qasymm8"]
        frontEndInFile).2.read (.ofText "o") =
      (run plainHost
        ["--config", "c.json", "-i", "./i", "-o", "o", "-f", "caffe", "--new-width", "0"]
        elementTypeInFile).2.read (.ofText "o") := by
  obtain ⟨base, base', hsame⟩ := sameCommand_split
  obtain ⟨s, hsettings, -, houtput⟩ := paths_of_elementTypeByFlag
  obtain ⟨heq, hread⟩ := (flags_before_settingsFile plainHost).2 _ _ _ _ _ _ _ _ hsame
  exact ⟨heq, houtput ▸ hread s hsettings⟩

end CommandLine

end RasterTensor
