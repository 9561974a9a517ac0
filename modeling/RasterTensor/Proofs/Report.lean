import RasterTensor.Proofs.Files.Directories
import RasterTensor.Report

/-!
# Saving a report

Saving makes directories first and changes no entry there is. Only then is a file opened, and that
is the whole of what a report can destroy: the file at the very place that its path leads to. What
is left there when the writing breaks off is a first part of the text.
-/

namespace RasterTensor.Report

open Document Files

variable {depth : Nat} {sink : Sink} {path p : PathName} {report : Value} {t t' made : Tree}
  {outcome : Except Failure Unit}

/-- The file at a path name was emptied, and holds a first part of the text of a report. -/
inductive CutShort (depth : Nat) (sink : Sink) (path : PathName) (report : Value) (made : Tree) :
    Failure → Tree → Prop
  | intro {text : List Char} {stored : Nat} {cause : Failure} {place : Location}
      (htext : Json.write depth 0 report = .ok text)
      (hsink : sink (String.ofList text).toUTF8 = .cutShort stored cause)
      (hplace : made.locate path = .ok place) (hfree : made.get? place ≠ some .directory) :
      CutShort depth sink path report made cause
        (made.put place (.file ((String.ofList text).toUTF8.extract 0 stored)))

/-- How saving can end: the outcome, and the files. -/
inductive SaveEnd (depth : Nat) (sink : Sink) (path : PathName) (report : Value) (t : Tree) :
    Except Failure Unit → Tree → Prop
  | unmade {e : Files.Error} {made : Tree}
      (hmade : t.ensurePath path.parent = (.error e, made)) :
      SaveEnd depth sink path report t (.error (.file e)) made
  | unspelled {e : Json.WriteError} {made : Tree}
      (hmade : t.ensurePath path.parent = (.ok (), made))
      (htext : Json.write depth 0 report = .error e) :
      SaveEnd depth sink path report t (.error (.report e)) made
  | refused {text : List Char} {cause : Failure} {made : Tree}
      (hmade : t.ensurePath path.parent = (.ok (), made))
      (htext : Json.write depth 0 report = .ok text)
      (hsink : sink (String.ofList text).toUTF8 = .refused cause) :
      SaveEnd depth sink path report t (.error cause) made
  | blocked {text : List Char} {e : Files.Error} {stored : ByteArray} {made : Tree}
      (hmade : t.ensurePath path.parent = (.ok (), made))
      (htext : Json.write depth 0 report = .ok text)
      (hwrite : made.write path stored = .error e) :
      SaveEnd depth sink path report t (.error (.file e)) made
  | cutShort {cause : Failure} {made t' : Tree} (hmade : t.ensurePath path.parent = (.ok (), made))
      (h : CutShort depth sink path report made cause t') :
      SaveEnd depth sink path report t (.error cause) t'
  | saved {text : List Char} {place : Location} {made : Tree}
      (hmade : t.ensurePath path.parent = (.ok (), made))
      (htext : Json.write depth 0 report = .ok text)
      (hsink : sink (String.ofList text).toUTF8 = .complete)
      (hplace : made.locate path = .ok place) (hfree : made.get? place ≠ some .directory) :
      SaveEnd depth sink path report t (.ok ()) (made.put place (.file (String.ofList text).toUTF8))

theorem saveEnd_save (h : save depth sink path report t = (outcome, t')) :
    SaveEnd depth sink path report t outcome t' := by
  unfold save at h
  split at h
  · next e made hmade =>
    cases h
    exact .unmade hmade
  next made hmade =>
  split at h
  · next e htext =>
    cases h
    exact .unspelled hmade htext
  next text htext =>
  dsimp only at h
  cases hsink : sink (String.ofList text).toUTF8 with
  | refused cause =>
      simp only [hsink, Reception.result] at h
      cases h
      exact .refused hmade htext hsink
  | complete =>
      simp only [hsink, Reception.result] at h
      split at h
      · next e hwrite =>
        cases h
        exact .blocked hmade htext hwrite
      · next written hwrite =>
        cases h
        obtain ⟨place, hplace, hfree, rfl⟩ := Tree.write_eq_ok_iff.mp hwrite
        exact .saved hmade htext hsink hplace hfree
  | cutShort stored cause =>
      simp only [hsink, Reception.result] at h
      split at h
      · next e hwrite =>
        cases h
        exact .blocked hmade htext hwrite
      · next written hwrite =>
        cases h
        obtain ⟨place, hplace, hfree, rfl⟩ := Tree.write_eq_ok_iff.mp hwrite
        exact .cutShort hmade ⟨htext, hsink, hplace, hfree⟩

/-! ## What saving leaves -/

/-- At most the file at a path name is new or has another content. -/
inductive Rewrites (path : PathName) (made : Tree) : Tree → Prop
  | kept : Rewrites path made made
  | file {place : Location} {content : ByteArray} (hplace : made.locate path = .ok place)
      (hfree : made.get? place ≠ some .directory) :
      Rewrites path made (made.put place (.file content))

theorem Rewrites.keepsDirectories (h : Rewrites path made t') : made.KeepsDirectories t' := by
  cases h with
  | kept => exact (Tree.Grows.refl _).keepsDirectories
  | file hplace hfree => exact Tree.keepsDirectories_put hfree _

theorem Rewrites.read_eq {content : ByteArray} (h : Rewrites path made t')
    (hother : ¬ t'.SamePlace path p) (hread : made.read p = .ok content) :
    t'.read p = .ok content := by
  cases h with
  | kept => exact hread
  | @file place stored hplace hfree =>
      obtain ⟨other, hp, hentry⟩ := Tree.read_eq_ok_iff.mp hread
      have hkeeps := Tree.keepsDirectories_put hfree (.file stored)
      have hne : other ≠ place := by
        rintro rfl
        exact hother ⟨other, hkeeps.locate_eq hplace, hkeeps.locate_eq hp⟩
      refine Tree.read_eq_ok_iff.mpr ⟨other, hkeeps.locate_eq hp, ?_⟩
      rw [Tree.get?_put hfree, if_neg hne, hentry]

theorem exists_made_of_save (h : save depth sink path report t = (outcome, t')) :
    ∃ made, t.MakesWay path.parent made ∧ Rewrites path made t' := by
  have hway {r : Except Files.Error Unit} {made : Tree}
      (hmade : t.ensurePath path.parent = (r, made)) : t.MakesWay path.parent made := by
    have hmakes := Tree.makesWay_ensurePath t path.parent
    rwa [hmade] at hmakes
  cases saveEnd_save h with
  | unmade hmade | unspelled hmade | refused hmade | blocked hmade => exact ⟨_, hway hmade, .kept⟩
  | cutShort hmade hcut =>
      cases hcut with
      | intro htext hsink hplace hfree => exact ⟨_, hway hmade, .file hplace hfree⟩
  | saved hmade htext hsink hplace hfree => exact ⟨_, hway hmade, .file hplace hfree⟩

/-- Every file at another place keeps its content, whatever the saving comes to. -/
theorem read_of_save {content : ByteArray} (h : save depth sink path report t = (outcome, t'))
    (hother : ¬ t'.SamePlace path p) (hread : t.read p = .ok content) :
    t'.read p = .ok content := by
  obtain ⟨made, hway, hrewrites⟩ := exists_made_of_save h
  exact hrewrites.read_eq hother (hway.toGrows.read_eq hread)

theorem keepsDirectories_of_save (h : save depth sink path report t = (outcome, t')) :
    t.KeepsDirectories t' := by
  obtain ⟨made, hway, hrewrites⟩ := exists_made_of_save h
  exact hway.toGrows.keepsDirectories.trans hrewrites.keepsDirectories

/-! ## Reports that are saved -/

theorem read_put_of_samePlace {place : Location} {content : ByteArray}
    (hplace : made.locate path = .ok place) (hfree : made.get? place ≠ some .directory)
    (hsame : (made.put place (.file content)).SamePlace path p) :
    (made.put place (.file content)).read p = .ok content := by
  obtain ⟨other, hpath, hp⟩ := hsame
  have hkeeps := Tree.keepsDirectories_put hfree (.file content)
  have hother : other = place := Except.ok.inj (hpath.symm.trans (hkeeps.locate_eq hplace))
  refine Tree.read_eq_ok_iff.mpr ⟨other, hp, ?_⟩
  rw [Tree.get?_put hfree, if_pos hother]

/-- The report is what is found at its place, by whichever name that is reached. -/
theorem read_of_save_of_samePlace (h : save depth sink path report t = (.ok (), t'))
    (hsame : t'.SamePlace path p) :
    ∃ text, Json.write depth 0 report = .ok text ∧ t'.read p = .ok (String.ofList text).toUTF8 := by
  cases saveEnd_save h with
  | @saved text place made hmade htext hsink hplace hfree =>
      exact ⟨text, htext, read_put_of_samePlace hplace hfree hsame⟩

theorem samePlace_of_save (h : save depth sink path report t = (.ok (), t')) :
    t'.SamePlace path path := by
  cases saveEnd_save h with
  | @saved text place made hmade htext hsink hplace hfree =>
      have hkeeps := Tree.keepsDirectories_put hfree (.file (String.ofList text).toUTF8)
      exact ⟨place, hkeeps.locate_eq hplace, hkeeps.locate_eq hplace⟩

/-- Every file keeps its content, or holds as much of the report as was written. -/
theorem read_or_part_of_save {content : ByteArray}
    (h : save depth sink path report t = (outcome, t')) (hread : t.read p = .ok content) :
    t'.read p = .ok content ∨ t'.SamePlace path p ∧
      ∃ text stored, Json.write depth 0 report = .ok text ∧
        t'.read p = .ok ((String.ofList text).toUTF8.extract 0 stored) := by
  by_cases hsame : t'.SamePlace path p
  · have hkept {r : Except Files.Error Unit} (hmade : t.ensurePath path.parent = (r, t')) :
        t'.read p = .ok content := by
      have hway := Tree.makesWay_ensurePath t path.parent
      rw [hmade] at hway
      exact hway.toGrows.read_eq hread
    cases saveEnd_save h with
    | unmade hmade | unspelled hmade | refused hmade | blocked hmade => exact .inl (hkept hmade)
    | cutShort hmade hcut =>
        cases hcut with
        | @intro text stored cause place htext hsink hplace hfree =>
            exact .inr ⟨hsame, text, stored, htext, read_put_of_samePlace hplace hfree hsame⟩
    | @saved text place made hmade htext hsink hplace hfree =>
        refine .inr ⟨hsame, text, (String.ofList text).toUTF8.size, htext, ?_⟩
        rw [ByteArray.extract_zero_size]
        exact read_put_of_samePlace hplace hfree hsame
  · exact .inl (read_of_save h hsame hread)

theorem save_plain_of_writable {text : List Char} (hwritable : t.Writable path)
    (htext : Json.write depth 0 report = .ok text) :
    ∃ t', save depth .plain path report t = (.ok (), t') := by
  obtain ⟨made, place, hmade, hplace, hfree⟩ := hwritable
  have hwrite : made.write path (String.ofList text).toUTF8 =
      .ok (made.put place (.file (String.ofList text).toUTF8)) :=
    Tree.write_eq_ok_iff.mpr ⟨place, hplace, hfree, rfl⟩
  refine ⟨made.put place (.file (String.ofList text).toUTF8), ?_⟩
  simp only [save, hmade, htext, Sink.plain, Reception.result, hwrite]

/-- A report is saved just when it has a text and its path can be written, where no writing
fails. -/
theorem exists_save_iff :
    (∃ t', save depth .plain path report t = (.ok (), t')) ↔
      t.Writable path ∧ ∃ text, Json.write depth 0 report = .ok text := by
  constructor
  · rintro ⟨t', h⟩
    cases saveEnd_save h with
    | @saved text place made hmade htext hsink hplace hfree =>
        exact ⟨⟨made, place, hmade, hplace, hfree⟩, text, htext⟩
  · rintro ⟨hwritable, text, htext⟩
    exact save_plain_of_writable hwritable htext

/-! ## Reports that cannot be saved -/

/-- A report that cannot be saved leaves directories that were missing on the way to it: all of
them, unless it was one of these that could not be made; and none where its directory was there
before. Beyond these it changes nothing, except where the writing broke off after the file was
opened. Then that file is new or has lost what it held, and holds a first part of the report's
text. -/
theorem tree_of_failed_save {f : Failure} (h : save depth sink path report t = (.error f, t')) :
    ∃ made, t.MakesWay path.parent made ∧
      (made.isDirectory path.parent = .ok true ∨
        ∃ e, (t.ensurePath path.parent).1 = .error e ∧ f = .file e) ∧
      (t.isDirectory path.parent = .ok true → made = t) ∧
      (t' = made ∨ CutShort depth sink path report made f t') := by
  have hway {r : Except Files.Error Unit} {made : Tree}
      (hmade : t.ensurePath path.parent = (r, made)) : t.MakesWay path.parent made ∧
        (t.isDirectory path.parent = .ok true → made = t) := by
    have hmakes := Tree.makesWay_ensurePath t path.parent
    rw [hmade] at hmakes
    refine ⟨hmakes, fun hdirectory => ?_⟩
    rw [Tree.ensurePath_of_isDirectory hdirectory] at hmade
    exact (Prod.mk.inj hmade).2.symm
  cases saveEnd_save h with
  | @unmade e _ hmade =>
      obtain ⟨hmakes, hthere⟩ := hway hmade
      exact ⟨_, hmakes, .inr ⟨e, by rw [hmade], rfl⟩, hthere, .inl rfl⟩
  | unspelled hmade | refused hmade | blocked hmade =>
      obtain ⟨hmakes, hthere⟩ := hway hmade
      exact ⟨_, hmakes, .inl (Tree.isDirectory_of_ensurePath hmade), hthere, .inl rfl⟩
  | cutShort hmade hcut =>
      obtain ⟨hmakes, hthere⟩ := hway hmade
      exact ⟨_, hmakes, .inl (Tree.isDirectory_of_ensurePath hmade), hthere, .inr hcut⟩

/-- Of two bytes that a report was, the first two of another one are left on a full disk. -/
example : ((save 0 (fun _ => .cutShort 2 (.foreign ⟨"OSError", "disk full", .system⟩))
    (.ofText "r.json") .null ⟨[([['r', '.', 'j', 's', 'o', 'n']], .file ⟨#[123, 125]⟩)], []⟩).2.read
      (.ofText "r.json")).toOption = some ⟨#[110, 117]⟩ := by
  decide +kernel

def bare : Tree := ⟨[], []⟩

def tupleKey : Value := .mapping [(.tuple [.int 1], .int 1)]

theorem exists_save_tupleKey :
    ∃ f t', save 2 .plain (.ofText "d/r.json") tupleKey bare = (.error f, t') ∧
      (t'.get? [['d']]).isSome = true := by
  have hfails : (save 2 .plain (.ofText "d/r.json") tupleKey bare).1.isOk = false := by
    decide +kernel
  have hplace : ((save 2 .plain (.ofText "d/r.json") tupleKey bare).2.get? [['d']]).isSome =
      true := by
    decide +kernel
  generalize save 2 .plain (.ofText "d/r.json") tupleKey bare = saved at hfails hplace
  match saved with
  | (.error f, t') => exact ⟨f, t', rfl, hplace⟩
  | (.ok (), t') => cases hfails

theorem tree_of_failed_save_tupleKey :
    ∃ f t', save 2 .plain (.ofText "d/r.json") tupleKey bare = (.error f, t') ∧
      bare.MakesWay (.ofText "d") t' ∧ t'.get? [['d']] = some .directory := by
  have hparent : (PathName.ofText "d/r.json").parent = .ofText "d" := by decide
  obtain ⟨f, t', hsave, hplace⟩ := exists_save_tupleKey
  obtain ⟨made, hmade, -, -, rfl | hcut⟩ := tree_of_failed_save hsave
  · obtain ⟨e, he⟩ := Option.isSome_iff_exists.mp hplace
    obtain ⟨rfl, -⟩ := hmade.made _ e rfl he
    exact ⟨f, t', hsave, hparent ▸ hmade, he⟩
  · cases hcut with
    | intro htext hsink hplace hfree => cases hsink

/-- A report that cannot be saved can leave a directory. -/
theorem not_forall_get?_of_failed_save :
    ¬ ∀ depth sink path report t f t', save depth sink path report t = (.error f, t') →
      ∀ place, t'.get? place = t.get? place := by
  intro hall
  obtain ⟨f, t', hsave, hplace⟩ := exists_save_tupleKey
  rw [hall _ _ _ _ _ f t' hsave] at hplace
  cases hplace

end RasterTensor.Report
