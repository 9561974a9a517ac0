import RasterTensor.Failure
import RasterTensor.Text.Blank
import RasterTensor.Text.Case

/-!
# Reading a member of a list

A member can be given as itself or by its name, in any letter case and with white space around
it. Every other value is shown in the refusal.
-/

namespace RasterTensor

open Document Text

def FrontEnd.ofName? (s : String) : Option FrontEnd := FrontEnd.all.find? fun f => f.name == s

def ElementType.ofName? (s : String) : Option ElementType :=
  ElementType.all.find? fun t => t.name == s

def Layout.ofName? (s : String) : Option Layout := Layout.all.find? fun l => l.name == s

@[simp] theorem FrontEnd.ofName?_name (f : FrontEnd) : FrontEnd.ofName? f.name = some f := by
  cases f <;> rfl

@[simp] theorem ElementType.ofName?_name (t : ElementType) :
    ElementType.ofName? t.name = some t := by
  cases t <;> rfl

@[simp] theorem Layout.ofName?_name (l : Layout) : Layout.ofName? l.name = some l := by
  cases l <;> rfl

/-- The text that is looked for among the names. An integer with too many digits is none of them. -/
def nameText? (reach : Reach) (raw : Value) : Except Failure (Option String) :=
  match raw.plain reach.plain with
  | .ok s => .ok (some s)
  | .error .integerTooLong => .ok none
  | .error .nested => .error .nestedText

/-- The member that was found for the text of a value, or the refusal of the value. -/
def readMember {α : Type} (reach : Reach) (list : ChoiceList) (find : String → Option α)
    (raw : Value) : Except Failure α := do
  match (← nameText? reach raw).bind find with
  | some member => return member
  | none => throw (.unknownChoice list (← raw.shown reach.shown))

theorem readMember_text {α : Type} (reach : Reach) (list : ChoiceList) (find : String → Option α)
    (s : String) :
    readMember reach list find (.text s) =
      match find s with
      | some member => .ok member
      | none => .error (.unknownChoice list (quoted s)) := by
  have hname : nameText? reach (.text s) = .ok (some s) := rfl
  rw [readMember, hname]
  cases h : find s with
  | none => simp only [bind, Except.bind, Option.bind, h]; rfl
  | some member => simp only [bind, Except.bind, Option.bind, h]; rfl

def FrontEnd.ofValue (reach : Reach) : Value → Except Failure FrontEnd
  | .choice (.frontEnd f) => .ok f
  | raw => readMember reach .frontEnd (fun s => FrontEnd.ofName? (lower (strip s))) raw

def ElementType.ofValue (reach : Reach) : Value → Except Failure ElementType
  | .choice (.elementType t) => .ok t
  | raw => readMember reach .elementType (fun s => ElementType.ofName? (lower (strip s))) raw

def Layout.ofValue (reach : Reach) : Value → Except Failure Layout
  | .choice (.layout l) => .ok l
  | raw => readMember reach .layout (fun s => Layout.ofName? (upper (strip s))) raw

end RasterTensor
