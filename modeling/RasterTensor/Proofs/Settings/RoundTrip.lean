import RasterTensor.Proofs.Settings

/-!
# Settings as entries

The entries of settings are read as the same settings again, unless one of the paths is a single
name of white space. Such a path is accepted from a text with more to it, such as a point and a
slash in front, and is refused when its own text is read.
-/

namespace RasterTensor

open Document Files Text

theorem FrontEnd.lower_strip_name (f : FrontEnd) : lower (strip f.name) = f.name := by
  cases f <;> decide

theorem ElementType.lower_strip_name (t : ElementType) : lower (strip t.name) = t.name := by
  cases t <;> decide

theorem Layout.upper_strip_name (l : Layout) : upper (strip l.name) = l.name := by
  cases l <;> decide

@[simp] theorem FrontEnd.ofValue_name (reach : Reach) (f : FrontEnd) :
    ofValue reach (.text f.name) = .ok f := by
  simp [ofValue, readMember_text, f.lower_strip_name]

@[simp] theorem ElementType.ofValue_name (reach : Reach) (t : ElementType) :
    ofValue reach (.text t.name) = .ok t := by
  simp [ofValue, readMember_text, t.lower_strip_name]

@[simp] theorem Layout.ofValue_name (reach : Reach) (l : Layout) :
    ofValue reach (.text l.name) = .ok l := by
  simp [ofValue, readMember_text, l.upper_strip_name]

/-! ## Path names without visible text -/

namespace Files.PathName

/-- A relative path name of one part, which is white space. -/
def IsBlank (p : PathName) : Prop := ∃ part, p = ⟨0, [part]⟩ ∧ ∀ c ∈ part, isBlank c = true

theorem all_isBlank_joinSlashes {parts : List Name}
    (h : (joinSlashes parts).all isBlank = true) (hne : parts ≠ []) :
    ∃ part, parts = [part] ∧ ∀ c ∈ part, isBlank c = true := by
  have hslash : isBlank '/' = false := by decide
  match parts, hne with
  | [part], _ => exact ⟨part, rfl, List.all_eq_true.mp h⟩
  | part :: next :: rest, _ => simp [joinSlashes, hslash] at h

/-- A slash or a point is no white space, so only a single name can be. -/
theorem isBlankText_text_iff (p : PathName) : isBlankText p.text = true ↔ p.IsBlank := by
  have hslash : isBlank '/' = false := by decide
  have hpoint : isBlank '.' = false := by decide
  obtain ⟨slashes, parts⟩ := p
  constructor
  · intro h
    rw [isBlankText, text, String.toList_ofList, chars] at h
    split at h
    · simp [hpoint] at h
    · next hsome =>
      cases slashes with
      | succ n => simp [List.replicate_succ, hslash] at h
      | zero =>
          obtain ⟨part, rfl, hpart⟩ :=
            all_isBlank_joinSlashes (by simpa using h) (by simpa using hsome)
          exact ⟨part, rfl, hpart⟩
  · rintro ⟨part, heq, hpart⟩
    cases heq
    simpa [isBlankText, text, chars, joinSlashes] using hpart

end Files.PathName

/-! ## Reading the entries -/

namespace Settings

variable {reach : Reach} {s : Settings} {name : String}

theorem readPath_text (name : String) {p : PathName} (hp : p.Clean) :
    readPath reach name (.text p.text) =
      if isBlankText p.text then .error (.emptyPath name) else .ok p := by
  have htext : (Value.text p.text).plain reach.plain = .ok p.text := rfl
  simp only [readPath, Value.isNull, htext, Bool.false_eq_true, if_false, liftM_text, liftText_ok,
    ok_bind, hp.ofText_text]
  split <;> rfl

theorem eq_of_readPath_text {p q : PathName} (hp : p.Clean)
    (h : readPath reach name (.text p.text) = .ok q) : q = p ∧ isBlankText p.text = false := by
  rw [readPath_text name hp] at h
  split at h
  · cases h
  · next hblank => exact ⟨(Except.ok.inj h).symm, by simpa using hblank⟩

theorem readDimension_int (name : String) (n : Nat) :
    readDimension reach name (.int n) = .ok n := rfl

theorem ofEntries_toEntries (reach : Reach) (hinput : s.inputPath.Clean)
    (houtput : s.outputPath.Clean) :
    ofEntries reach s.toEntries =
      if isBlankText s.inputPath.text then .error (.emptyPath "input_path")
      else if isBlankText s.outputPath.text then .error (.emptyPath "output_path")
      else .ok s := by
  have hfields : ofEntries reach s.toEntries =
      ofFields reach
        { inputPath := .text s.inputPath.text
          outputPath := .text s.outputPath.text
          frontEnd := .text s.frontEnd.name
          elementType := .text s.elementType.name
          width := .int s.width
          height := .int s.height
          layout := .text s.layout.name } := rfl
  rw [hfields, ofFields]
  simp only [readPath_text _ hinput, readPath_text _ houtput, FrontEnd.ofValue_name,
    ElementType.ofValue_name, Layout.ofValue_name, readDimension_int, ok_bind]
  split
  · rfl
  · split <;> rfl

theorem accepted_of_ofValue {v : Value} (h : ofValue reach v = .ok s) : s.Accepted reach := by
  cases v with
  | mapping entries =>
      obtain ⟨fields, hfields, -⟩ := ofEntries_eq_ok h
      exact ⟨fields, hfields⟩
  | _ => cases h

/-- The entries of accepted settings are read as these settings again, except that a blank path is
refused. -/
theorem ofValue_toEntries {v : Value} (h : ofValue reach v = .ok s) :
    (¬ s.inputPath.IsBlank → ¬ s.outputPath.IsBlank →
        ofValue reach (.mapping s.toEntries) = .ok s) ∧
      (s.inputPath.IsBlank →
        ofValue reach (.mapping s.toEntries) = .error (.emptyPath "input_path")) ∧
      (¬ s.inputPath.IsBlank → s.outputPath.IsBlank →
        ofValue reach (.mapping s.toEntries) = .error (.emptyPath "output_path")) := by
  obtain ⟨hinput, houtput⟩ := (accepted_of_ofValue h).clean
  have hentries := ofEntries_toEntries reach hinput houtput
  simp only [← PathName.isBlankText_text_iff]
  refine ⟨fun hin hout => ?_, fun hin => ?_, fun hin hout => ?_⟩
  · rw [ofValue, hentries, if_neg hin, if_neg hout]
  · rw [ofValue, hentries, if_pos hin]
  · rw [ofValue, hentries, if_neg hin, if_pos hout]

/-- Settings for an image at a path and with a width of any kind. -/
def payload (input : String) (width : Value) : Value :=
  .mapping [(.text "input_path", .text input), (.text "width", width),
    (.text "front_end", .text " Caffe"), (.text "output_path", .text "out//./o.bin")]

theorem ofValue_toEntries_payload :
    ofValue .flat (payload "./in.png" (.text "+3")) =
        .ok ⟨.ofText "in.png", .ofText "out/o.bin", .caffe, .float32, 3, 0, .nhwc⟩ ∧
      ofValue .flat (.mapping
          (toEntries ⟨.ofText "in.png", .ofText "out/o.bin", .caffe, .float32, 3, 0, .nhwc⟩)) =
        .ok ⟨.ofText "in.png", .ofText "out/o.bin", .caffe, .float32, 3, 0, .nhwc⟩ := by
  have hread : ofValue .flat (payload "./in.png" (.text "+3")) =
      .ok ⟨.ofText "in.png", .ofText "out/o.bin", .caffe, .float32, 3, 0, .nhwc⟩ := by
    rfl
  refine ⟨hread, (ofValue_toEntries hread).1 ?_ ?_⟩
  · rw [← PathName.isBlankText_text_iff]
    decide
  · rw [← PathName.isBlankText_text_iff]
    decide

/-- A blank name behind a point and a slash is accepted, and refused when it is read again. -/
theorem not_forall_ofValue_toEntries :
    ¬ ∃ reach, ∀ v s, ofValue reach v = .ok s → ofValue reach (.mapping s.toEntries) = .ok s := by
  rintro ⟨reach, hall⟩
  have hread : ofValue reach (payload "./ " .null) =
      .ok ⟨.ofText "./ ", .ofText "out/o.bin", .caffe, .float32, 0, 0, .nhwc⟩ := by
    rfl
  have hagain := hall _ _ hread
  have hrefused : ofValue reach (.mapping
      (toEntries ⟨.ofText "./ ", .ofText "out/o.bin", .caffe, .float32, 0, 0, .nhwc⟩)) =
      .error (.emptyPath "input_path") := by
    rfl
  rw [hrefused] at hagain
  cases hagain

end Settings

end RasterTensor
