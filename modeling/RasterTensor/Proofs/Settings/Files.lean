import RasterTensor.Catalogue
import RasterTensor.Proofs.Outcomes
import RasterTensor.Settings.File

/-!
# How reading a settings file ends

A settings file gives entries, is refused as settings, or fails in the way of its text's encoding or
of the reader of its format. Which of these it is depends on the content alone.
-/

namespace RasterTensor.SettingsFile

open Document Files Text

variable {α : Type} [EmptyCollection α] {readers : Readers α} {reader : Reader α}
  {format : FileFormat} {t : Tree} {path : PathName} {content : ByteArray} {text : List Char}
  {found : Found α} {fault : ReaderFault}

/-- What is relied on of a reader: a failure of its own is no refusal of the library. -/
def Reader.FailsForeign (reader : Reader α) : Prop :=
  ∀ text cause, reader text = .error (.raised cause) → cause.kind? = none

theorem failsForeign_jsonReader (convention : Json.Convention) :
    (jsonReader convention).FailsForeign := by
  intro text cause h
  unfold jsonReader at h
  split at h
  · cases h
  · next e _ =>
    cases e with
    | malformed fault position => cases h
    | _ => cases h; rfl

theorem failsForeign_yamlReader (depth : Nat) : (yamlReader depth).FailsForeign := by
  intro text cause h
  unfold yamlReader at h
  split at h
  · cases h
  · next e _ =>
    cases e with
    | malformed => cases h
    | _ => cases h; rfl

/-- The readers of both formats rely on nothing else. -/
theorem failsForeign_of? {convention : Json.Convention} {depth : Nat} {reader : Reader Entries}
    (h : Readers.of? ⟨jsonReader convention, some (yamlReader depth)⟩ format = some reader) :
    reader.FailsForeign := by
  cases format with
  | json =>
      cases h
      exact failsForeign_jsonReader convention
  | yaml =>
      cases h
      exact failsForeign_yamlReader depth

/-! ## The steps of reading -/

section Steps

variable (hread : t.read path = .ok content)
  (hformat : FileFormat.ofSuffix? (String.ofList path.suffix) = some format)
  (hreader : readers.of? format = some reader)

include hread in
theorem readText_eq : readText t path =
    match decodeUtf8 content with
    | .ok text => .ok (unifyLineEnds text)
    | .error e => .error (.undecodable e) := by
  rw [readText, hread, liftM_file_ok, ok_bind]
  cases decodeUtf8 content <;> rfl

include hread hformat

theorem load_of_undecodable {e : Utf8Error} (h : decodeUtf8 content = .error e) :
    load readers t path = .error (.undecodable e) := by
  simp only [load, hformat, readText_eq hread, h]
  rfl

include hreader

theorem load_of_fault (h : decodeUtf8 content = .ok text)
    (hfault : reader (unifyLineEnds text) = .error fault) :
    load readers t path = .error (fault.failure format path.text) := by
  simp only [load, hformat, readText_eq hread, h, ok_bind, hreader, hfault]
  rfl

theorem load_of_found (h : decodeUtf8 content = .ok text)
    (hfound : reader (unifyLineEnds text) = .ok found) :
    load readers t path =
      match found with
      | .nothing => .ok ∅
      | .mapping entries => .ok entries
      | .other kind => .error (.settingsKind path.text kind) := by
  simp only [load, hformat, readText_eq hread, h, ok_bind, hreader, hfound]
  cases found <;> rfl

/-- A settings file gives entries exactly when its bytes are text in which the reader finds a
mapping or nothing. It is refused as settings exactly when the reader says that the text is not of
its format, or finds something else there. Every other failure is that of the encoding, or that of
the reader, which is passed on as it is. -/
theorem outcome_of_content (hforeign : reader.FailsForeign) :
    (∀ entries, load readers t path = .ok entries ↔
      ∃ text, decodeUtf8 content = .ok text ∧
        (reader (unifyLineEnds text) = .ok .nothing ∧ entries = ∅ ∨
          reader (unifyLineEnds text) = .ok (.mapping entries))) ∧
    ((∃ f, load readers t path = .error f ∧ f.kind? = some .settings) ↔
      ∃ text, decodeUtf8 content = .ok text ∧
        ((∃ words, reader (unifyLineEnds text) = .error (.malformed words)) ∨
          ∃ kind, reader (unifyLineEnds text) = .ok (.other kind))) ∧
    ∀ f, load readers t path = .error f ∧ f.kind? ≠ some .settings ↔
      (∃ e, decodeUtf8 content = .error e ∧ f = .undecodable e) ∨
        ∃ text, decodeUtf8 content = .ok text ∧
          reader (unifyLineEnds text) = .error (.raised f) := by
  cases hdecode : decodeUtf8 content with
  | error e =>
      rw [load_of_undecodable hread hformat hdecode]
      simp [Failure.kind?, eq_comm]
  | ok text =>
      cases hresult : reader (unifyLineEnds text) with
      | error fault =>
          rw [load_of_fault hread hformat hreader hdecode hresult]
          cases fault with
          | malformed words => simp [ReaderFault.failure, Failure.kind?, hresult]
          | raised cause =>
              have hkind := hforeign _ _ hresult
              simp [ReaderFault.failure, hkind, hresult]
      | ok found =>
          rw [load_of_found hread hformat hreader hdecode hresult]
          cases found with
          | nothing => simp [hresult, eq_comm]
          | mapping entries => simp [hresult]
          | other kind => simp [hresult, Failure.kind?]

end Steps

def shallowReaders : Readers Entries := ⟨jsonReader ⟨8, fun _ => '?'⟩, some (yamlReader 8)⟩

/-- A document with a date in a month that does not exist. -/
def thirteenthMonth : Tree :=
  ⟨[([['c', '.', 'y', 'm', 'l']], .file ⟨"since: 2020-13-01\n".toUTF8.data⟩)], []⟩

theorem outcome_of_content_thirteenthMonth :
    ∃ f text, load shallowReaders thirteenthMonth (.ofText "c.yml") = .error f ∧
      decodeUtf8 ⟨"since: 2020-13-01\n".toUTF8.data⟩ = .ok text ∧
        yamlReader 8 (unifyLineEnds text) = .error (.raised f) := by
  have hkind : (failure? (load shallowReaders thirteenthMonth (.ofText "c.yml"))).map
      Failure.kind? = some none := by
    decide +kernel
  obtain ⟨f, hf, hnone⟩ := Option.map_eq_some_iff.mp hkind
  have hload := eq_error_of_failure? hf
  have hother : f.kind? ≠ some .settings := by simp [hnone]
  have hread : thirteenthMonth.read (.ofText "c.yml") =
      .ok ⟨"since: 2020-13-01\n".toUTF8.data⟩ := rfl
  have hformat : FileFormat.ofSuffix? (String.ofList (PathName.ofText "c.yml").suffix) =
      some .yaml := by
    decide +kernel
  have hreader : shallowReaders.of? .yaml = some (yamlReader 8) := rfl
  obtain ⟨-, -, houtcome⟩ :=
    outcome_of_content hread hformat hreader (failsForeign_of? hreader)
  rcases (houtcome f).mp ⟨hload, hother⟩ with ⟨e, hdecode, -⟩ | ⟨text, hdecode, hraised⟩
  · have hok : (decodeUtf8 ⟨"since: 2020-13-01\n".toUTF8.data⟩).isOk = true := by decide +kernel
    rw [hdecode] at hok
    cases hok
  · exact ⟨f, text, hload, hdecode, hraised⟩

/-- A file with a byte that begins no character is not refused as settings, whatever the readers
are. -/
theorem not_forall_load_refused :
    ¬ ∃ readers : Readers Entries, ∀ t path content format, t.read path = .ok content →
      FileFormat.ofSuffix? (String.ofList path.suffix) = some format →
        (∃ entries, load readers t path = .ok entries) ∨
          ∃ f, load readers t path = .error f ∧ f.kind? = some .settings := by
  rintro ⟨readers, hall⟩
  let t : Tree := ⟨[([['c', '.', 'j', 's', 'o', 'n']], .file ⟨#[0xFF]⟩)], []⟩
  have hread : t.read (.ofText "c.json") = .ok ⟨#[0xFF]⟩ := rfl
  have hformat : FileFormat.ofSuffix? (String.ofList (PathName.ofText "c.json").suffix) =
      some .json := by
    decide +kernel
  have hfails : (decodeUtf8 ⟨#[0xFF]⟩).isOk = false := by decide +kernel
  cases hdecode : decodeUtf8 ⟨#[0xFF]⟩ with
  | ok text =>
      rw [hdecode] at hfails
      cases hfails
  | error e =>
      have hload : load readers t (.ofText "c.json") = .error (.undecodable e) :=
        load_of_undecodable hread hformat hdecode
      rcases hall t (.ofText "c.json") ⟨#[0xFF]⟩ .json hread hformat with
        ⟨entries, hentries⟩ | ⟨f, hf, hkind⟩
      · cases hload.symm.trans hentries
      · cases hload.symm.trans hf
        cases hkind

end RasterTensor.SettingsFile
