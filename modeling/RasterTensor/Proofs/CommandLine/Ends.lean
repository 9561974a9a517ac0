import RasterTensor.CommandLine.Run
import RasterTensor.Proofs.Steps

/-!
# How a command ends

A command ends before it has settings, with a conversion that fails, with a report that cannot be
saved, or with everything done. Each of these ends comes with what has led to it.
-/

namespace RasterTensor.CommandLine

open Document Files

variable {host : Host} {arguments : List String} {t : Tree}

namespace Invocation

/-- The path name of the report, if one is asked for. -/
def reportPath? (v : Invocation) : Option PathName :=
  match v.report with
  | none | some "" => none
  | some path => some (.ofText path)

theorem play_saveReport_of_none {v : Invocation} {r : TensorSummary} {s : Settings} {scene : Scene}
    (h : v.reportPath? = none) : (v.saveReport host r s).play scene = (.ok (), scene) := by
  unfold reportPath? at h
  unfold saveReport
  cases hreport : v.report with
  | none => rfl
  | some text =>
      by_cases hempty : text = ""
      · subst hempty
        rfl
      · simp [hreport] at h

theorem play_saveReport_of_some {v : Invocation} {r : TensorSummary} {s : Settings} {scene : Scene}
    {path : PathName} (h : v.reportPath? = some path) :
    (v.saveReport host r s).play scene =
      ((Report.save host.reportDepth host.sink path
          (.mapping (Report.build host.origin r (some s))) scene.tree).1,
        { scene with
          tree := (Report.save host.reportDepth host.sink path
            (.mapping (Report.build host.origin r (some s))) scene.tree).2 }) := by
  unfold reportPath? at h
  unfold saveReport
  cases hreport : v.report with
  | none => simp [hreport] at h
  | some text =>
      by_cases hempty : text = ""
      · simp [hreport, hempty] at h
      · simp only [hreport, Option.some.injEq] at h
        subst h
        simp only
        exact Step.play_change _ _

end Invocation

/-- The arguments ask for a conversion, and it comes to an outcome. -/
structure Converts (host : Host) (arguments : List String) (t : Tree) (v : Invocation)
    (s : Settings) (outcome : Except Failure TensorSummary × Scene) : Prop where
  request : Request.ofArguments arguments = .ok (.convert v)
  settings : v.settings host t = .ok s
  run : (Conversion.run host.resample (.chunked host.device) (.reading host.decoder) none s).play
    (.opening t) = outcome

theorem Converts.unique {v v' : Invocation} {s s' : Settings}
    {outcome : Except Failure TensorSummary × Scene}
    (h : Converts host arguments t v s outcome)
    (hrequest : Request.ofArguments arguments = .ok (.convert v'))
    (hsettings : v'.settings host t = .ok s') : v = v' ∧ s = s' := by
  cases h.request.symm.trans hrequest
  exact ⟨rfl, Except.ok.inj (h.settings.symm.trans hsettings)⟩

/-- The report on a conversion is saved on the files that it leaves. -/
abbrev Reports (host : Host) (v : Invocation) (s : Settings) (r : TensorSummary) (t : Tree)
    (outcome : Except Failure Unit) (t' : Tree) : Prop :=
  ∃ path, v.reportPath? = some path ∧
    Report.save host.reportDepth host.sink path (.mapping (Report.build host.origin r (some s))) t =
      (outcome, t')

/-- The report is saved, if one is asked for. -/
abbrev Reported (host : Host) (v : Invocation) (s : Settings) (r : TensorSummary) (t t' : Tree) :
    Prop :=
  v.reportPath? = none ∧ t' = t ∨ Reports host v s r t (.ok ()) t'

/-- A command fails when its image is converted: the report cannot be saved, or the line about the
tensor cannot be printed. -/
inductive FailsLate (host : Host) (v : Invocation) (s : Settings) (r : TensorSummary) (t : Tree) :
    Tree → Prop
  | unreported {f : Failure} {t' : Tree} (hsave : Reports host v s r t (.error f) t') :
      FailsLate host v s r t t'
  | unprinted {out : String} {f : Failure} {t' : Tree} (hreported : Reported host v s r t t')
      (hprint : host.console (successLine r) = some (out, f)) : FailsLate host v s r t t'

/-- How a command ends, and which files there are then. -/
inductive RunEnd (host : Host) (arguments : List String) (t : Tree) : Outcome × Tree → Prop
  | misused (e : UsageError) (h : Request.ofArguments arguments = .error e) :
      RunEnd host arguments t
        (⟨.dismissed 2, "", usage ++ commandName ++ ": error: " ++ e.message ++ "\n"⟩, t)
  | helped (h : Request.ofArguments arguments = .ok .help) :
      RunEnd host arguments t (⟨.dismissed 0, CommandLine.help, ""⟩, t)
  | unsettled (v : Invocation) (c : Complaint)
      (h : Request.ofArguments arguments = .ok (.convert v))
      (hsettings : v.settings host t = .error c) :
      RunEnd host arguments t (.ofComplaint "" "" c, t)
  | unconverted (v : Invocation) (s : Settings) (f : Failure) (scene : Scene)
      (h : Converts host arguments t v s (.error f, scene)) :
      RunEnd host arguments t (.ofComplaint "" (v.printed scene.notes) (.failure f), scene.tree)
  | unreported (v : Invocation) (s : Settings) (r : TensorSummary) (scene : Scene) (f : Failure)
      (t' : Tree) (h : Converts host arguments t v s (.ok r, scene))
      (hsave : Reports host v s r scene.tree (.error f) t') :
      RunEnd host arguments t (.ofComplaint "" (v.printed scene.notes) (.failure f), t')
  | unasked (v : Invocation) (s : Settings) (r : TensorSummary) (scene : Scene)
      (h : Converts host arguments t v s (.ok r, scene)) (hpath : v.reportPath? = none) :
      RunEnd host arguments t (.ofResult host (v.printed scene.notes) (.ok r), scene.tree)
  | reported (v : Invocation) (s : Settings) (r : TensorSummary) (scene : Scene) (t' : Tree)
      (h : Converts host arguments t v s (.ok r, scene))
      (hsave : Reports host v s r scene.tree (.ok ()) t') :
      RunEnd host arguments t (.ofResult host (v.printed scene.notes) (.ok r), t')

theorem runEnd_run (host : Host) (arguments : List String) (t : Tree) :
    RunEnd host arguments t (run host arguments t) := by
  unfold run
  cases h : Request.ofArguments arguments with
  | error e => exact .misused e h
  | ok request =>
      cases request with
      | help => exact .helped h
      | convert v =>
          simp only [Request.run]
          cases hsettings : v.settings host t with
          | error c => exact .unsettled v c h hsettings
          | ok s =>
              simp only [Invocation.perform, Step.play_bind]
              rcases hrun : (Conversion.run host.resample (.chunked host.device)
                (.reading host.decoder) none s).play (.opening t) with ⟨outcome, scene⟩
              have hconverts : Converts host arguments t v s (outcome, scene) :=
                ⟨h, hsettings, hrun⟩
              cases outcome with
              | error f => exact .unconverted v s f scene hconverts
              | ok r =>
                  cases hpath : v.reportPath? with
                  | none =>
                      simp only [Invocation.play_saveReport_of_none hpath, Step.play_pure]
                      exact .unasked v s r scene hconverts hpath
                  | some path =>
                      simp only [Invocation.play_saveReport_of_some hpath]
                      rcases hsave : Report.save host.reportDepth host.sink path
                        (.mapping (Report.build host.origin r (some s))) scene.tree with
                        ⟨saved, t'⟩
                      cases saved with
                      | error f =>
                          exact .unreported v s r scene f t' hconverts ⟨path, hpath, hsave⟩
                      | ok u => exact .reported v s r scene t' hconverts ⟨path, hpath, hsave⟩

/-! ## Success and failure -/

theorem Outcome.status_ofComplaint (out notes : String) (c : Complaint) :
    (ofComplaint out notes c).status = if c.isInterrupt then .interrupted else .finished 1 := by
  unfold ofComplaint
  split <;> rfl

theorem Outcome.ofComplaint_not_finished {out notes : String} {c : Complaint} :
    (ofComplaint out notes c).status ≠ .finished 0 := by
  rw [status_ofComplaint]
  split <;> simp

/-- A result is told in full, or printing it breaks off and that is a failure. -/
theorem Outcome.ofResult_ok (host : Host) (notes : String) (r : TensorSummary) :
    (host.console (successLine r) = none ∧
      ofResult host notes (.ok r) = ⟨.finished 0, successLine r, notes⟩) ∨
    ∃ out f, host.console (successLine r) = some (out, f) ∧
      ofResult host notes (.ok r) = ofComplaint out notes (.failure f) := by
  cases hprint : host.console (successLine r) with
  | none => exact .inl ⟨rfl, by simp only [ofResult, hprint]⟩
  | some broken => exact .inr ⟨broken.1, broken.2, rfl, by simp only [ofResult, hprint]⟩

/-- A command that succeeds has converted the image, saved the report that is asked for, and printed
the line about it. -/
theorem RunEnd.of_finished {ended : Outcome × Tree} (h : RunEnd host arguments t ended)
    (hstatus : ended.1.status = .finished 0) :
    ∃ v s r scene, Converts host arguments t v s (.ok r, scene) ∧
      ended.1 = ⟨.finished 0, successLine r, v.printed scene.notes⟩ ∧
      Reported host v s r scene.tree ended.2 := by
  have hprinted {v : Invocation} {r : TensorSummary} {scene : Scene}
      (hstatus : (Outcome.ofResult host (v.printed scene.notes) (.ok r)).status = .finished 0) :
      Outcome.ofResult host (v.printed scene.notes) (.ok r) =
        ⟨.finished 0, successLine r, v.printed scene.notes⟩ := by
    rcases Outcome.ofResult_ok host (v.printed scene.notes) r with ⟨-, heq⟩ | ⟨out, f, -, heq⟩
    · exact heq
    · exact absurd (heq ▸ hstatus) Outcome.ofComplaint_not_finished
  cases h with
  | misused | helped => cases hstatus
  | unsettled | unconverted | unreported => exact absurd hstatus Outcome.ofComplaint_not_finished
  | unasked v s r scene hconverts hpath =>
      exact ⟨v, s, r, scene, hconverts, hprinted hstatus, .inl ⟨hpath, rfl⟩⟩
  | reported v s r scene t' hconverts hsave =>
      exact ⟨v, s, r, scene, hconverts, hprinted hstatus, .inr hsave⟩

/-- Any other command has no settings, or its conversion fails, or it fails after that. -/
theorem RunEnd.of_not_finished {ended : Outcome × Tree} (h : RunEnd host arguments t ended)
    (hstatus : ended.1.status ≠ .finished 0) :
    ended.2 = t ∨
      (∃ v s f scene, Converts host arguments t v s (.error f, scene) ∧ ended.2 = scene.tree) ∨
      ∃ v s r scene, Converts host arguments t v s (.ok r, scene) ∧
        FailsLate host v s r scene.tree ended.2 := by
  have hunprinted {v : Invocation} {s : Settings} {r : TensorSummary} {scene : Scene} {t' : Tree}
      (hreported : Reported host v s r scene.tree t')
      (hstatus : (Outcome.ofResult host (v.printed scene.notes) (.ok r)).status ≠ .finished 0) :
      FailsLate host v s r scene.tree t' := by
    rcases Outcome.ofResult_ok host (v.printed scene.notes) r with ⟨-, heq⟩ | ⟨_, _, hprint, -⟩
    · exact absurd (congrArg Outcome.status heq) hstatus
    · exact .unprinted hreported hprint
  cases h with
  | misused | helped | unsettled => exact .inl rfl
  | unconverted v s f scene hconverts => exact .inr (.inl ⟨v, s, f, scene, hconverts, rfl⟩)
  | unreported v s r scene f t' hconverts hsave =>
      exact .inr (.inr ⟨v, s, r, scene, hconverts, .unreported hsave⟩)
  | unasked v s r scene hconverts hpath =>
      exact .inr (.inr ⟨v, s, r, scene, hconverts, hunprinted (.inl ⟨hpath, rfl⟩) hstatus⟩)
  | reported v s r scene t' hconverts hsave =>
      exact .inr (.inr ⟨v, s, r, scene, hconverts, hunprinted (.inr hsave) hstatus⟩)

end RasterTensor.CommandLine
