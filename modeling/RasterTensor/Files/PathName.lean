/-!
# Path names

A path name is a number of leading slashes and the names between the slashes that follow.
Reading one drops the parts `.` and everything that repeated and trailing slashes would leave
empty; `..` stays, as what it denotes depends on the directories there are. Two leading slashes
are kept apart from one, and more than two count as one.
-/

namespace RasterTensor.Files

/-- A part of a path name: neither empty nor `.`, and without slashes. -/
abbrev Name := List Char

structure PathName where
  slashes : Nat
  parts : List Name
  deriving DecidableEq, Inhabited

def splitSlashes : List Char → List Name
  | [] => [[]]
  | c :: rest =>
    if c = '/' then [] :: splitSlashes rest
    else
      match splitSlashes rest with
      | [] => [[c]]
      | part :: parts => (c :: part) :: parts

def joinSlashes : List Name → List Char
  | [] => []
  | [part] => part
  | part :: parts => part ++ '/' :: joinSlashes parts

def isKept (part : Name) : Bool := part != [] && part != ['.']

namespace PathName

def ofChars (cs : List Char) : PathName :=
  let leading := (cs.takeWhile (· == '/')).length
  ⟨if leading ≤ 2 then leading else 1, (splitSlashes cs).filter isKept⟩

def ofText (s : String) : PathName := ofChars s.toList

def chars (p : PathName) : List Char :=
  if p.slashes = 0 ∧ p.parts = [] then ['.']
  else List.replicate p.slashes '/' ++ joinSlashes p.parts

def text (p : PathName) : String := .ofList p.chars

def parent (p : PathName) : PathName := ⟨p.slashes, p.parts.dropLast⟩

def name (p : PathName) : Name := p.parts.getLast?.getD []

/-- The last part from its last point on, unless the point comes first or last. -/
def suffix (p : PathName) : List Char :=
  let fromPoint := (p.name.reverse.takeWhile (· != '.')).reverse
  if fromPoint = [] ∨ p.name.length ≤ fromPoint.length + 1 then [] else '.' :: fromPoint

end PathName

end RasterTensor.Files
