import RasterTensor.Files.Tree
import RasterTensor.Proofs.Outcomes

/-!
# What file operations keep

A path name is followed through directories only, so it leads to the same place for as long as
these stay. Writing a file keeps all directories, making directories keeps every entry, and a file
that is removed right after its creation leaves the tree as it was.
-/

namespace RasterTensor.Files.Tree

variable {t t' t'' : Tree} {place other : Location} {p : PathName}

theorem directory_nil (t : Tree) : t.get? [] = some .directory := rfl

theorem ne_nil_of_get? (h : t.get? place ≠ some .directory) : place ≠ [] :=
  fun hnil => h (hnil ▸ directory_nil t)

theorem get?_put (h : t.get? place ≠ some .directory) (e : Entry) :
    (t.put place e).get? other = if other = place then some e else t.get? other := by
  split
  · next heq => rw [heq, get?_put_self t place e (ne_nil_of_get? h)]
  · next hne => exact get?_put_of_ne t e hne

@[simp] theorem put_put (t : Tree) (place : Location) (e e' : Entry) :
    (t.put place e).put place e' = t.put place e' := by
  simp [put]

theorem filter_eq_self_of_get? (h : t.get? place = none) :
    (t.entries.filter fun x => x.1 != place) = t.entries := by
  have hne : place ≠ [] := ne_nil_of_get? (t := t) (by simp [h])
  have hlookup : t.entries.lookup place = none := by simpa [get?, hne] using h
  apply List.filter_eq_self.mpr
  intro x hx
  have hkey : place ≠ x.1 := by simpa using List.lookup_eq_none_iff.mp hlookup x hx
  simpa using hkey.symm

theorem erase_put (h : t.get? place = none) (e : Entry) : (t.put place e).erase place = t := by
  have hsame := filter_eq_self_of_get? h
  simp [erase, put, hsame]

/-! ## Following path names -/

/-- The directories of one tree are directories of the other, and path names start from the same
one. -/
structure KeepsDirectories (t t' : Tree) : Prop where
  home_eq : t'.home = t.home
  directory : ∀ place, t.get? place = some .directory → t'.get? place = some .directory

theorem KeepsDirectories.trans (h : KeepsDirectories t t') (h' : KeepsDirectories t' t'') :
    KeepsDirectories t t'' where
  home_eq := h'.home_eq.trans h.home_eq
  directory place hd := h'.directory place (h.directory place hd)

theorem keepsDirectories_put (h : t.get? place ≠ some .directory) (e : Entry) :
    KeepsDirectories t (t.put place e) where
  home_eq := rfl
  directory other hd := by
    have hne : other ≠ place := fun heq => h (heq ▸ hd)
    rw [get?_put_of_ne t e hne, hd]

theorem KeepsDirectories.walk_eq (h : KeepsDirectories t t') {parts : List Name}
    (hw : t.walk place parts = .ok other) : t'.walk place parts = .ok other := by
  induction parts generalizing place with
  | nil => exact hw
  | cons part rest ih =>
      unfold walk at hw ⊢
      split at hw
      · cases hw
      · cases hw
      · next hd =>
        rw [h.directory place hd]
        split at hw
        · cases hw
        · next hsize =>
          simp only [if_neg hsize]
          exact ih hw

theorem locate_eq_ok_iff :
    t.locate p = .ok place ↔
      p.chars.contains '\x00' = false ∧ ¬ pathBytesLimit ≤ textBytes p.chars ∧
        t.walk (if p.slashes != 0 then [] else t.home) p.parts = .ok place := by
  unfold locate follow
  cases hnul : p.chars.contains '\x00' with
  | true => simp
  | false =>
      by_cases hsize : pathBytesLimit ≤ textBytes p.chars
      · simp [hsize]
      · simp [hsize]

theorem KeepsDirectories.locate_eq (h : KeepsDirectories t t') (hp : t.locate p = .ok place) :
    t'.locate p = .ok place := by
  rw [locate_eq_ok_iff] at hp ⊢
  obtain ⟨hnul, hsize, hwalk⟩ := hp
  rw [h.home_eq]
  exact ⟨hnul, hsize, h.walk_eq hwalk⟩

/-- Two path names lead to one place. -/
def SamePlace (t : Tree) (p q : PathName) : Prop :=
  ∃ place, t.locate p = .ok place ∧ t.locate q = .ok place

/-! ## Single operations -/

theorem look_of_locate (h : t.locate p = .ok place) : t.look p = .ok (t.get? place) := by
  simp [look, h]

theorem look_eq_some_iff {e : Entry} :
    t.look p = .ok (some e) ↔ ∃ place, t.locate p = .ok place ∧ t.get? place = some e := by
  constructor
  · intro h
    unfold look at h
    split at h
    · next place hp => exact ⟨place, hp, by simpa using h⟩
    · cases h
    · cases h
  · rintro ⟨place, hp, he⟩
    rw [look_of_locate hp, he]

theorem contains_eq_ok_iff {b : Bool} :
    t.contains p = .ok b ↔ ∃ e, t.look p = .ok e ∧ e.isSome = b := by
  simp only [contains, bind_eq_ok, pure_eq_ok]

theorem isDirectory_eq_ok_iff {b : Bool} :
    t.isDirectory p = .ok b ↔ ∃ e, t.look p = .ok e ∧ (b = true ↔ e = some .directory) := by
  simp only [isDirectory, bind_eq_ok]
  refine exists_congr fun e => and_congr_right fun _ => ?_
  rcases e with - | - | content <;> simp [pure_eq_ok, @eq_comm Bool]

theorem read_eq_ok_iff {content : ByteArray} :
    t.read p = .ok content ↔ ∃ place, t.locate p = .ok place ∧
      t.get? place = some (.file content) := by
  simp only [read, bind_eq_ok]
  refine exists_congr fun place => and_congr_right fun _ => ?_
  unfold contentAt
  cases t.get? place with
  | none => simp
  | some e => cases e <;> simp

theorem read_of_look {content : ByteArray} (h : t.look p = .ok (some (.file content))) :
    t.read p = .ok content :=
  read_eq_ok_iff.mpr (look_eq_some_iff.mp h)

theorem look_put (hp : t.locate p = .ok place) (hfree : t.get? place ≠ some .directory)
    (e : Entry) : (t.put place e).look p = .ok (some e) := by
  rw [look_of_locate ((keepsDirectories_put hfree e).locate_eq hp), get?_put hfree, if_pos rfl]

theorem create_eq_ok_iff :
    t.create p = .ok (place, t') ↔
      t.locate p = .ok place ∧ t.get? place = none ∧ t' = t.put place (.file .empty) := by
  simp only [create, bind_eq_ok]
  constructor
  · rintro ⟨q, hq, h⟩
    split at h
    · cases h
    · next hnone =>
      cases h
      exact ⟨hq, hnone, rfl⟩
  · rintro ⟨hp, hnone, rfl⟩
    exact ⟨place, hp, by rw [hnone]; rfl⟩

theorem write_eq_ok_iff {content : ByteArray} :
    t.write p content = .ok t' ↔ ∃ place, t.locate p = .ok place ∧
      t.get? place ≠ some .directory ∧ t' = t.put place (.file content) := by
  simp only [write, bind_eq_ok]
  refine exists_congr fun place => and_congr_right fun _ => ?_
  split
  · next hdirectory => exact iff_of_false (fun h => by cases h) fun h => h.1 hdirectory
  · next hfree =>
    rw [pure_eq_ok]
    exact ⟨fun h => ⟨hfree, h.symm⟩, fun h => h.2.symm⟩

theorem unlink_put (hp : t.locate p = .ok place) (hnone : t.get? place = none)
    (content : ByteArray) : (t.put place (.file content)).unlink p = .ok t := by
  have hfree : t.get? place ≠ some .directory := by simp [hnone]
  have hp' := (keepsDirectories_put hfree (.file content)).locate_eq hp
  simp [unlink, hp', get?_put hfree, erase_put hnone, pure, Except.pure]

/-! ## Entries that are added -/

/-- The entries of one tree are entries of the other, and path names start from the same place. -/
structure Grows (t t' : Tree) : Prop where
  home_eq : t'.home = t.home
  entry : ∀ place e, t.get? place = some e → t'.get? place = some e

theorem Grows.refl (t : Tree) : Grows t t := ⟨rfl, fun _ _ h => h⟩

theorem Grows.trans (h : Grows t t') (h' : Grows t' t'') : Grows t t'' where
  home_eq := h'.home_eq.trans h.home_eq
  entry place e he := h'.entry place e (h.entry place e he)

theorem Grows.keepsDirectories (h : Grows t t') : KeepsDirectories t t' where
  home_eq := h.home_eq
  directory place hd := h.entry place .directory hd

theorem grows_put (h : t.get? place = none) (e : Entry) : Grows t (t.put place e) where
  home_eq := rfl
  entry other e' he := by
    have hne : other ≠ place := by
      rintro rfl
      simp [h] at he
    rw [get?_put_of_ne t e hne, he]

theorem Grows.read_eq (h : Grows t t') {content : ByteArray} (hread : t.read p = .ok content) :
    t'.read p = .ok content := by
  obtain ⟨place, hp, he⟩ := read_eq_ok_iff.mp hread
  exact read_eq_ok_iff.mpr ⟨place, h.keepsDirectories.locate_eq hp, h.entry place _ he⟩

theorem makeDirectory_eq_ok_iff :
    t.makeDirectory p = .ok t' ↔
      ∃ place, t.locate p = .ok place ∧ t.get? place = none ∧ t' = t.put place .directory := by
  simp only [makeDirectory, bind_eq_ok]
  refine exists_congr fun place => and_congr_right fun _ => ?_
  split
  · next hsome => exact iff_of_false (fun h => by cases h) fun h => by simp [hsome] at h
  · next hnone =>
    rw [pure_eq_ok]
    exact ⟨fun h => ⟨hnone, h.symm⟩, fun h => h.2.symm⟩

end RasterTensor.Files.Tree
