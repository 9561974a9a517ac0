import Mathlib.Logic.Relation
import RasterTensor.Proofs.Files.Frame

/-!
# Directories on the way

Making all directories of a path name is a run of steps, each of which makes one directory where
there was nothing. A run that breaks off leaves what it has made so far, and nothing but directories
that the first parts of the path name lead to.
-/

namespace RasterTensor.Files

/-- The path name that the first parts of a path name make. -/
def PathName.first (p : PathName) (count : Nat) : PathName := ⟨p.slashes, p.parts.take count⟩

theorem PathName.first_length (p : PathName) : p.first p.parts.length = p := by
  rw [first, List.take_length]

namespace Tree

variable {t t₁ t₂ t' : Tree} {p q : PathName}

/-! ## One directory -/

def MakesOne (p : PathName) (t t' : Tree) : Prop :=
  ∃ count, t.makeDirectory (p.first count) = .ok t'

theorem ensureDirectory_eq_ok (h : t.ensureDirectory p = .ok t') :
    t.makeDirectory p = .ok t' ∨ t.isDirectory p = .ok true ∧ t' = t := by
  unfold ensureDirectory at h
  cases hmade : t.makeDirectory p with
  | ok made =>
      rw [hmade] at h
      exact .inl h
  | error e =>
      simp only [hmade] at h
      split at h
      · cases h
      · next hdirectory => exact .inr ⟨hdirectory, (Except.ok.inj h).symm⟩
      · cases h

theorem isDirectory_of_ensureDirectory (h : t.ensureDirectory p = .ok t') :
    t'.isDirectory p = .ok true := by
  rcases ensureDirectory_eq_ok h with hmade | ⟨hdirectory, rfl⟩
  · obtain ⟨place, hplace, hnone, rfl⟩ := makeDirectory_eq_ok_iff.mp hmade
    apply isDirectory_eq_ok_iff.mpr
    exact ⟨_, look_put hplace (by simp [hnone]) .directory, by simp⟩
  · exact hdirectory

theorem ensureDirectory_of_isDirectory (h : t.isDirectory p = .ok true) :
    t.ensureDirectory p = .ok t := by
  obtain ⟨found, hlook, hfound⟩ := isDirectory_eq_ok_iff.mp h
  rw [hfound.mp rfl] at hlook
  obtain ⟨place, hplace, hentry⟩ := look_eq_some_iff.mp hlook
  have hmade : t.makeDirectory p = .error (.refused .alreadyExists p.text) := by
    rw [makeDirectory, hplace, ok_bind, hentry]
    rfl
  rw [ensureDirectory, hmade, h]

/-! ## All directories -/

theorem run_ensureDirectory {count : Nat} (h : t.ensureDirectory (p.first count) = .ok t') :
    Relation.ReflTransGen (MakesOne p) t t' := by
  rcases ensureDirectory_eq_ok h with hmade | ⟨-, rfl⟩
  · exact .single ⟨count, hmade⟩
  · exact .refl

theorem run_ensureFirst (p : PathName) (count : Nat) (t : Tree) :
    Relation.ReflTransGen (MakesOne p) t (ensureFirst p.slashes p.parts count t).2 := by
  -- By induction on the number of parts, whichever attempt fails.
  induction count generalizing t with
  | zero =>
      rw [ensureFirst]
      cases hmade : t.ensureDirectory ⟨p.slashes, p.parts.take 0⟩ with
      | ok made => simpa only [hmade] using run_ensureDirectory hmade
      | error e => simpa only [hmade] using .refl
  | succ n ih =>
      rw [ensureFirst]
      cases hmade : t.ensureDirectory ⟨p.slashes, p.parts.take (n + 1)⟩ with
      | ok made => simpa only [hmade] using run_ensureDirectory hmade
      | error e =>
          have hbelow := ih t
          simp only
          split
          · next m path hsucc =>
            cases hsucc
            split
            · next t₁ hmadeBelow =>
              rw [hmadeBelow] at hbelow
              split
              · next t₂ hlast => exact hbelow.trans (run_ensureDirectory hlast)
              · exact hbelow
            · exact hbelow
          · exact .refl

theorem isDirectory_of_ensureFirst {count : Nat}
    (h : ensureFirst p.slashes p.parts count t = (.ok (), t')) :
    t'.isDirectory (p.first count) = .ok true := by
  unfold ensureFirst at h
  dsimp only at h
  split at h
  · next made hmade =>
    cases h
    exact isDirectory_of_ensureDirectory hmade
  · split at h
    · split at h
      · split at h
        · next last hlast =>
          cases h
          exact isDirectory_of_ensureDirectory hlast
        · cases h
      · next hfailed => exact absurd h (hfailed t')
    · cases h

/-- Directories are made on the way to a path name, and that is all. -/
structure MakesWay (p : PathName) (t t' : Tree) : Prop extends Grows t t' where
  made : ∀ place e, t.get? place = none → t'.get? place = some e →
    e = .directory ∧ ∃ count, t'.locate (p.first count) = .ok place

theorem MakesWay.refl (p : PathName) (t : Tree) : MakesWay p t t where
  toGrows := .refl t
  made place e hnone he := by
    rw [hnone] at he
    cases he

theorem MakesWay.step (h : MakesWay p t t₁) (hstep : MakesOne p t₁ t₂) : MakesWay p t t₂ := by
  obtain ⟨count, hmade⟩ := hstep
  obtain ⟨place, hplace, hfree, rfl⟩ := makeDirectory_eq_ok_iff.mp hmade
  have hkept := (grows_put hfree .directory).keepsDirectories
  refine ⟨h.toGrows.trans (grows_put hfree .directory), fun other e hnone he => ?_⟩
  rw [get?_put (by simp [hfree])] at he
  split at he
  · next heq =>
    subst heq
    exact ⟨(Option.some.inj he).symm, count, hkept.locate_eq hplace⟩
  · obtain ⟨hdirectory, first, hfirst⟩ := h.made other e hnone he
    exact ⟨hdirectory, first, hkept.locate_eq hfirst⟩

theorem MakesWay.of_run (h : Relation.ReflTransGen (MakesOne p) t t') : MakesWay p t t' := by
  induction h with
  | refl => exact .refl p t
  | tail _ hstep ih => exact ih.step hstep

theorem makesWay_ensurePath (t : Tree) (p : PathName) : MakesWay p t (t.ensurePath p).2 :=
  .of_run (run_ensureFirst p p.parts.length t)

theorem isDirectory_of_ensurePath (h : t.ensurePath p = (.ok (), t')) :
    t'.isDirectory p = .ok true := by
  have hlast := isDirectory_of_ensureFirst h
  rwa [PathName.first_length] at hlast

theorem ensurePath_of_isDirectory (h : t.isDirectory p = .ok true) :
    t.ensurePath p = (.ok (), t) := by
  rw [← p.first_length] at h
  have hmade := ensureDirectory_of_isDirectory h
  rw [PathName.first] at hmade
  rw [ensurePath]
  unfold ensureFirst
  dsimp only
  rw [hmade]

/-- A file can be written at a path name: once the directories on the way are made, it leads to a
place where there is no directory. -/
def Writable (t : Tree) (p : PathName) : Prop :=
  ∃ made place, t.ensurePath p.parent = (.ok (), made) ∧ made.locate p = .ok place ∧
    made.get? place ≠ some .directory

end Tree

end RasterTensor.Files
