import RasterTensor.Files.Fault
import RasterTensor.Files.PathName

/-!
# File trees

The directories and files below a root, with the directory that relative path names start from.
A path name is followed part by part, so every directory on the way has to exist, also one that
a later `..` leaves again. An operation gives the tree after it, or the reason why the tree is
as before.
-/

namespace RasterTensor.Files

/-- Where an entry is: the names from the root down to it. -/
abbrev Location := List Name

inductive Entry where
  | directory
  | file (content : ByteArray)

structure Tree where
  entries : List (Location × Entry)
  /-- The directory that relative path names start from. -/
  home : Location

def maxNameBytes : Nat := 255

/-- The least length in bytes of a path name that is too long as a whole. -/
def pathBytesLimit : Nat := 4096

def textBytes (cs : List Char) : Nat := cs.foldl (fun n c => n + c.utf8Size) 0

/-- The location that a part leads to. The root is its own parent. -/
def Location.step (place : Location) (part : Name) : Location :=
  if part = ['.'] then place
  else if part = ['.', '.'] then place.dropLast
  else place ++ [part]

namespace Tree

/-- The entry at a location. There is always a directory at the root. -/
def get? (t : Tree) (place : Location) : Option Entry :=
  if place = [] then some .directory else t.entries.lookup place

def put (t : Tree) (place : Location) (e : Entry) : Tree :=
  { t with entries := (place, e) :: t.entries.filter fun x => x.1 != place }

def erase (t : Tree) (place : Location) : Tree :=
  { t with entries := t.entries.filter fun x => x.1 != place }

def walk (t : Tree) : Location → List Name → Except Fault Location
  | place, [] => .ok place
  | place, part :: rest =>
    match t.get? place with
    | none => .error .notFound
    | some (.file _) => .error .notDirectory
    | some .directory =>
      if maxNameBytes < textBytes part then .error .nameTooLong
      else t.walk (place.step part) rest

/-- Follows a spelled path from the root or from home. -/
def follow (t : Tree) (spelling : List Char) (rooted : Bool) (parts : List Name) :
    Except Error Location :=
  if spelling.contains '\x00' then .error .embeddedNul
  else
    let found :=
      if pathBytesLimit ≤ textBytes spelling then .error Fault.nameTooLong
      else t.walk (if rooted then [] else t.home) parts
    found.mapError fun fault => .refused fault (.ofList spelling)

def locate (t : Tree) (p : PathName) : Except Error Location :=
  t.follow p.chars (p.slashes != 0) p.parts

/-- The location of a path as it is spelled: slashes at its end ask for a directory. -/
def locateSpelling (t : Tree) (s : String) : Except Error Location :=
  let cs := s.toList
  let parts := (splitSlashes cs).filter (· != [])
  let parts := if cs.getLast? = some '/' then parts ++ [['.']] else parts
  if cs = [] then .error (.refused .notFound s) else t.follow cs (cs.head? == some '/') parts

def contentAt (t : Tree) (spelling : String) (place : Location) : Except Error ByteArray :=
  match t.get? place with
  | some (.file content) => .ok content
  | some .directory => .error (.refused .isDirectory spelling)
  | none => .error (.refused .notFound spelling)

def read (t : Tree) (p : PathName) : Except Error ByteArray := do
  t.contentAt p.text (← t.locate p)

def readSpelling (t : Tree) (s : String) : Except Error ByteArray := do
  t.contentAt s (← t.locateSpelling s)

/-- What a path name leads to, if anything. A part that is too long is still refused. -/
def look (t : Tree) (p : PathName) : Except Error (Option Entry) :=
  match t.locate p with
  | .ok place => .ok (t.get? place)
  | .error (.refused .nameTooLong s) => .error (.refused .nameTooLong s)
  | .error _ => .ok none

def contains (t : Tree) (p : PathName) : Except Error Bool := do
  return (← t.look p).isSome

def isDirectory (t : Tree) (p : PathName) : Except Error Bool := do
  match ← t.look p with
  | some .directory => return true
  | _ => return false

/-- Creates an empty file where there was nothing, and gives its location. -/
def create (t : Tree) (p : PathName) : Except Error (Location × Tree) := do
  let place ← t.locate p
  match t.get? place with
  | some _ => throw (.refused .alreadyExists p.text)
  | none => return (place, t.put place (.file .empty))

def write (t : Tree) (p : PathName) (content : ByteArray) : Except Error Tree := do
  let place ← t.locate p
  match t.get? place with
  | some .directory => throw (.refused .isDirectory p.text)
  | _ => return t.put place (.file content)

def unlink (t : Tree) (p : PathName) : Except Error Tree := do
  match t.locate p with
  | .error (.refused .notFound _) => return t
  | .error e => throw e
  | .ok place =>
    match t.get? place with
    | none => return t
    | some .directory => throw (.refused .isDirectory p.text)
    | some (.file _) => return t.erase place

def makeDirectory (t : Tree) (p : PathName) : Except Error Tree := do
  let place ← t.locate p
  match t.get? place with
  | some _ => throw (.refused .alreadyExists p.text)
  | none => return t.put place .directory

def ensureDirectory (t : Tree) (p : PathName) : Except Error Tree :=
  match t.makeDirectory p with
  | .ok t' => .ok t'
  | .error e =>
    match e, t.isDirectory p with
    | .refused .notFound _, _ => .error e
    | .refused _ _, .ok true => .ok t
    | _, _ => .error e

/-- Makes the directory with the first `count` parts of a path name, and all that it takes to
get there. What was made before a failure stays. -/
def ensureFirst (slashes : Nat) (parts : List Name) : Nat → Tree → Except Error Unit × Tree
  | count, t =>
    let p : PathName := ⟨slashes, parts.take count⟩
    match t.ensureDirectory p with
    | .ok t' => (.ok (), t')
    | .error e =>
      match count, e with
      | n + 1, .refused .notFound _ =>
        match ensureFirst slashes parts n t with
        | (.ok (), t') =>
          match t'.ensureDirectory p with
          | .ok t'' => (.ok (), t'')
          | .error e' => (.error e', t')
        | failed => failed
      | _, _ => (.error e, t)

/-- Makes a directory and all that it takes to get there. -/
def ensurePath (t : Tree) (p : PathName) : Except Error Unit × Tree :=
  ensureFirst p.slashes p.parts p.parts.length t

@[simp] theorem get?_put_self (t : Tree) (place : Location) (e : Entry) (h : place ≠ []) :
    (t.put place e).get? place = some e := by
  simp [get?, put, h]

theorem lookup_filter_ne {xs : List (Location × Entry)} {place other : Location}
    (h : other ≠ place) :
    (xs.filter fun x => x.1 != place).lookup other = xs.lookup other := by
  induction xs with
  | nil => rfl
  | cons x xs ih =>
    obtain ⟨k, e⟩ := x
    by_cases hk : k = place
    · subst hk
      have : (other == k) = false := by simpa using h
      simp [List.lookup_cons, this, ih]
    · simp [hk, List.lookup_cons, ih]

theorem get?_put_of_ne (t : Tree) {place other : Location} (e : Entry) (h : other ≠ place) :
    (t.put place e).get? other = t.get? other := by
  have : (other == place) = false := by simpa using h
  simp [get?, put, List.lookup_cons, this, lookup_filter_ne h]

theorem get?_erase_of_ne (t : Tree) {place other : Location} (h : other ≠ place) :
    (t.erase place).get? other = t.get? other := by
  simp [get?, erase, lookup_filter_ne h]

end Tree

end RasterTensor.Files
