import RasterTensor.Proofs.Files.Frame

/-!
# Trees that differ inside files

Two trees can have the same places, with the same directories among them, and still differ in what
some files hold. Path names lead to the same places in both, so no operation short of reading such
a file tells them apart, and any operation leaves two trees of this kind again.
-/

namespace RasterTensor.Files

/-- Two computations that fail in the same way or give related values. -/
inductive SameOutcome {ε α β : Type} (R : α → β → Prop) : Except ε α → Except ε β → Prop
  | ok {a : α} {b : β} (h : R a b) : SameOutcome R (.ok a) (.ok b)
  | error (e : ε) : SameOutcome R (.error e) (.error e)

namespace Tree

/-- What is found at a place of one tree and of the other, up to what a file holds. -/
inductive SameKind : Option Entry → Option Entry → Prop
  | nothing : SameKind none none
  | directory : SameKind (some .directory) (some .directory)
  | file (content content' : ByteArray) : SameKind (some (.file content)) (some (.file content'))

theorem SameKind.refl (e : Option Entry) : SameKind e e := by
  rcases e with - | - | content
  · exact .nothing
  · exact .directory
  · exact .file content content

/-- The trees have the same entries, except that files outside the places of `agreed` can hold
different contents. -/
structure Alike (agreed : Location → Prop) (t t' : Tree) : Prop where
  home_eq : t'.home = t.home
  sameKind : ∀ place, SameKind (t.get? place) (t'.get? place)
  get?_eq : ∀ place, agreed place → t.get? place = t'.get? place

/-- The trees differ inside files only. -/
structure SameShape (t t' : Tree) : Prop where
  home_eq : t'.home = t.home
  sameKind : ∀ place, SameKind (t.get? place) (t'.get? place)

theorem SameShape.alike {t t' : Tree} (h : SameShape t t') :
    Alike (fun place => t.get? place = t'.get? place) t t' :=
  ⟨h.home_eq, h.sameKind, fun _ => id⟩

namespace Alike

variable {agreed : Location → Prop} {t t' : Tree} {place : Location} {p : PathName}

/-! ## Following path names -/

theorem walk_eq (h : Alike agreed t t') (place : Location) (parts : List Name) :
    t.walk place parts = t'.walk place parts := by
  induction parts generalizing place with
  | nil => rfl
  | cons part rest ih =>
      have hkind := h.sameKind place
      rw [walk, walk]
      generalize t.get? place = e, t'.get? place = e' at hkind
      cases hkind with
      | nothing => rfl
      | directory => simp only [ih]
      | file => rfl

theorem follow_eq (h : Alike agreed t t') (spelling : List Char) (rooted : Bool)
    (parts : List Name) : t.follow spelling rooted parts = t'.follow spelling rooted parts := by
  rw [follow, follow, h.home_eq, h.walk_eq]

theorem locate_eq (h : Alike agreed t t') (p : PathName) : t.locate p = t'.locate p :=
  h.follow_eq _ _ _

theorem look (h : Alike agreed t t') (p : PathName) :
    SameOutcome SameKind (t.look p) (t'.look p) := by
  rw [Tree.look, Tree.look, h.locate_eq]
  split
  · exact .ok (h.sameKind _)
  · exact .error _
  · exact .ok .nothing

theorem contains_eq (h : Alike agreed t t') (p : PathName) : t.contains p = t'.contains p := by
  have hlook := h.look p
  rw [contains, contains]
  generalize t.look p = x, t'.look p = x' at hlook
  cases hlook with
  | error e => rfl
  | ok hkind => cases hkind <;> rfl

theorem isDirectory_eq (h : Alike agreed t t') (p : PathName) :
    t.isDirectory p = t'.isDirectory p := by
  have hlook := h.look p
  rw [isDirectory, isDirectory]
  generalize t.look p = x, t'.look p = x' at hlook
  cases hlook with
  | error e => rfl
  | ok hkind => cases hkind <;> rfl

theorem read_eq (h : Alike agreed t t') (hp : t.locate p = .ok place) (hplace : agreed place) :
    t.read p = t'.read p := by
  rw [read, read, ← h.locate_eq, hp, ok_bind, ok_bind, contentAt, contentAt,
    h.get?_eq place hplace]

theorem read_eq_of_look_none (h : Alike agreed t t') (hlook : t.look p = .ok none) :
    t.read p = t'.read p := by
  rw [read, read, ← h.locate_eq]
  cases hp : t.locate p with
  | error e => rfl
  | ok place =>
      have hnone : t.get? place = none := Except.ok.inj ((look_of_locate hp).symm.trans hlook)
      have hkind := h.sameKind place
      rw [hnone] at hkind
      generalize hentry : t'.get? place = e' at hkind
      cases hkind
      rw [ok_bind, ok_bind, contentAt, contentAt, hnone, hentry]

/-! ## Changes -/

theorem get?_put_congr (e : Entry) (other : Location) (R : Option Entry → Option Entry → Prop)
    (hrefl : ∀ e, R e e) (h : R (t.get? other) (t'.get? other)) :
    R ((t.put place e).get? other) ((t'.put place e).get? other) := by
  by_cases heq : other = place
  · subst heq
    by_cases hnil : other = []
    · rw [hnil, directory_nil, directory_nil]
      exact hrefl _
    · rw [get?_put_self _ _ _ hnil, get?_put_self _ _ _ hnil]
      exact hrefl _
  · rwa [get?_put_of_ne t e heq, get?_put_of_ne t' e heq]

theorem put (h : Alike agreed t t') (place : Location) (e : Entry) :
    Alike agreed (t.put place e) (t'.put place e) where
  home_eq := h.home_eq
  sameKind other := get?_put_congr e other SameKind .refl (h.sameKind other)
  get?_eq other hother := get?_put_congr e other (· = ·) .refl (h.get?_eq other hother)

theorem get?_erase_self (t : Tree) (h : place ≠ []) : (t.erase place).get? place = none := by
  rw [get?, if_neg h, erase, List.lookup_eq_none_iff]
  intro x hx
  have hne : x.1 ≠ place := by simpa using (List.mem_filter.mp hx).2
  simpa using hne.symm

theorem get?_erase_congr (other : Location) (R : Option Entry → Option Entry → Prop)
    (hrefl : ∀ e, R e e) (h : R (t.get? other) (t'.get? other)) :
    R ((t.erase place).get? other) ((t'.erase place).get? other) := by
  by_cases heq : other = place
  · subst heq
    by_cases hnil : other = []
    · rw [hnil, directory_nil, directory_nil]
      exact hrefl _
    · rw [get?_erase_self t hnil, get?_erase_self t' hnil]
      exact hrefl _
  · rwa [get?_erase_of_ne t heq, get?_erase_of_ne t' heq]

theorem erase (h : Alike agreed t t') (place : Location) :
    Alike agreed (t.erase place) (t'.erase place) where
  home_eq := h.home_eq
  sameKind other := get?_erase_congr other SameKind .refl (h.sameKind other)
  get?_eq other hother := get?_erase_congr other (· = ·) .refl (h.get?_eq other hother)

theorem create (h : Alike agreed t t') (p : PathName) :
    SameOutcome (fun x x' => x.1 = x'.1 ∧ Alike agreed x.2 x'.2) (t.create p) (t'.create p) := by
  rw [Tree.create, Tree.create, h.locate_eq]
  cases t'.locate p with
  | error e => exact .error e
  | ok place =>
      have hkind := h.sameKind place
      simp only [ok_bind]
      generalize t.get? place = e, t'.get? place = e' at hkind
      cases hkind with
      | nothing => exact .ok ⟨rfl, h.put place _⟩
      | directory => exact .error _
      | file => exact .error _

theorem write (h : Alike agreed t t') (p : PathName) (content : ByteArray) :
    SameOutcome (Alike agreed) (t.write p content) (t'.write p content) := by
  rw [Tree.write, Tree.write, h.locate_eq]
  cases t'.locate p with
  | error e => exact .error e
  | ok place =>
      have hkind := h.sameKind place
      simp only [ok_bind]
      generalize t.get? place = e, t'.get? place = e' at hkind
      cases hkind with
      | nothing => exact .ok (h.put place _)
      | directory => exact .error _
      | file => exact .ok (h.put place _)

theorem unlink (h : Alike agreed t t') (p : PathName) :
    SameOutcome (Alike agreed) (t.unlink p) (t'.unlink p) := by
  rw [Tree.unlink, Tree.unlink, h.locate_eq]
  split
  · exact .ok h
  · exact .error _
  · next place _ =>
    have hkind := h.sameKind place
    generalize t.get? place = e, t'.get? place = e' at hkind
    cases hkind with
    | nothing => exact .ok h
    | directory => exact .error _
    | file => exact .ok (h.erase place)

theorem makeDirectory (h : Alike agreed t t') (p : PathName) :
    SameOutcome (Alike agreed) (t.makeDirectory p) (t'.makeDirectory p) := by
  rw [Tree.makeDirectory, Tree.makeDirectory, h.locate_eq]
  cases t'.locate p with
  | error e => exact .error e
  | ok place =>
      have hkind := h.sameKind place
      simp only [ok_bind]
      generalize t.get? place = e, t'.get? place = e' at hkind
      cases hkind with
      | nothing => exact .ok (h.put place _)
      | directory => exact .error _
      | file => exact .error _

theorem ensureDirectory (h : Alike agreed t t') (p : PathName) :
    SameOutcome (Alike agreed) (t.ensureDirectory p) (t'.ensureDirectory p) := by
  have hmade := h.makeDirectory p
  rw [Tree.ensureDirectory, Tree.ensureDirectory, h.isDirectory_eq]
  generalize t.makeDirectory p = x, t'.makeDirectory p = x' at hmade
  cases hmade with
  | ok hmade => exact .ok hmade
  | error e =>
      dsimp only
      split
      · exact .error _
      · exact .ok h
      · exact .error _

theorem ensureFirst (h : Alike agreed t t') (slashes : Nat) (parts : List Name) (count : Nat) :
    (Tree.ensureFirst slashes parts count t).1 = (Tree.ensureFirst slashes parts count t').1 ∧
      Alike agreed (Tree.ensureFirst slashes parts count t).2
        (Tree.ensureFirst slashes parts count t').2 := by
  -- By induction on the number of parts, as the directories are made.
  induction count generalizing t t' with
  | zero =>
      have hmade := h.ensureDirectory ⟨slashes, parts.take 0⟩
      rw [Tree.ensureFirst, Tree.ensureFirst]
      generalize t.ensureDirectory _ = x, t'.ensureDirectory _ = x' at hmade
      cases hmade with
      | ok hmade => exact ⟨rfl, hmade⟩
      | error e => exact ⟨rfl, h⟩
  | succ n ih =>
      have hmade := h.ensureDirectory ⟨slashes, parts.take (n + 1)⟩
      have hbelow := ih h
      rw [Tree.ensureFirst, Tree.ensureFirst]
      generalize t.ensureDirectory _ = x, t'.ensureDirectory _ = x' at hmade
      cases hmade with
      | ok hmade => exact ⟨rfl, hmade⟩
      | error e =>
          dsimp only
          split
          · next m path hsucc =>
            cases hsucc
            generalize Tree.ensureFirst slashes parts n t = y,
              Tree.ensureFirst slashes parts n t' = y' at hbelow
            obtain ⟨outcome, t₁⟩ := y
            obtain ⟨outcome', t₁'⟩ := y'
            obtain ⟨rfl, hbelow⟩ := hbelow
            cases outcome with
            | error e' => exact ⟨rfl, hbelow⟩
            | ok u =>
                have hlast := hbelow.ensureDirectory ⟨slashes, parts.take (n + 1)⟩
                dsimp only at hlast ⊢
                generalize t₁.ensureDirectory _ = z, t₁'.ensureDirectory _ = z' at hlast
                cases hlast with
                | ok hlast => exact ⟨rfl, hlast⟩
                | error e' => exact ⟨rfl, hbelow⟩
          · exact ⟨rfl, h⟩

theorem ensurePath (h : Alike agreed t t') (p : PathName) :
    (t.ensurePath p).1 = (t'.ensurePath p).1 ∧
      Alike agreed (t.ensurePath p).2 (t'.ensurePath p).2 :=
  h.ensureFirst _ _ _

end Alike

end Tree

end RasterTensor.Files
