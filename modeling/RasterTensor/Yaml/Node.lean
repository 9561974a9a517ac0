import RasterTensor.Yaml.Token

/-!
# Nodes

The tokens of a document stand for a node: a scalar, a sequence or a mapping, each with a tag. A
plain scalar without a tag gets one from its text. An alias stands for the node of an anchor. A node
that holds an alias of itself stands for no finite value and is left out; it has a fault of its own.
-/

namespace RasterTensor.Yaml

def standardTag (name : String) : String := "tag:yaml.org,2002:" ++ name

inductive Node where
  | scalar (tag text : String)
  | sequence (tag : String) (items : List Node)
  | mapping (tag : String) (pairs : List (Node × Node))
  deriving Inhabited

def Node.tag : Node → String
  | .scalar tag _ | .sequence tag _ | .mapping tag _ => tag

mutual

def Node.height : Node → Nat
  | .scalar _ _ => 1
  | .sequence _ items => heightOfItems items + 1
  | .mapping _ pairs => heightOfPairs pairs + 1

def heightOfItems : List Node → Nat
  | [] => 0
  | item :: rest => max item.height (heightOfItems rest)

def heightOfPairs : List (Node × Node) → Nat
  | [] => 0
  | (key, value) :: rest => max (max key.height value.height) (heightOfPairs rest)

end

/-- What is left of the tokens, and what was defined so far. -/
structure Composer where
  tokens : List Token
  /-- The anchors, with their nodes where these are complete. -/
  anchors : List (String × Option Node)
  /-- The handles of tags with what they stand for. -/
  handles : List (String × String)

namespace Composer

abbrev Compose (α : Type) := StateT Composer (Except Error) α

def fail {α : Type} : Compose α := throw .malformed

def peek : Compose Token := return (← get).tokens.headD .streamEnd

def skip : Compose Unit := modify fun s => { s with tokens := s.tokens.drop 1 }

/-- Takes a token if it is the next one; whether it was. -/
def take (t : Token) : Compose Bool := do
  if (← peek) = t then
    skip
    return true
  else return false

def isOneOf (ts : List Token) : Compose Bool := return ts.contains (← peek)

/-- An anchor and a tag, in either order. -/
def properties : (fuel : Nat) → (anchor : Option String) →
    (tag : Option (Option String × String)) →
    Compose (Option String × Option (Option String × String))
  | 0, anchor, tag => return (anchor, tag)
  | n + 1, anchor, tag => do
    match ← peek, anchor, tag with
    | .anchor name, none, _ =>
      skip
      properties n (some name) tag
    | .tag handle suffix, _, none =>
      skip
      properties n anchor (some (handle, suffix))
    | _, _, _ => return (anchor, tag)

/-- The tag that a handle and a suffix spell. -/
def spelledTag : Option String × String → Compose String
  | (none, suffix) => return suffix
  | (some handle, suffix) => do
    match (← get).handles.lookup handle with
    | some start => return start ++ suffix
    | none => fail

def tagOr (default : String) : Option String → String
  | some tag => if tag = "!" then default else tag
  | none => default

/-- An empty scalar where a node was left out. -/
def emptyNode (implicit : String → String) : Node := .scalar (implicit "") ""

/-- Repeats while members follow. -/
def collect {α : Type} (member : Compose (Option α)) : (fuel : Nat) → (out : List α) →
    Compose (List α)
  | 0, _ => fail
  | n + 1, out => do
    match ← member with
    | some a => collect member n (a :: out)
    | none => return out.reverse

/-- A node unless one of some tokens is next; then it was left out. -/
def nodeUnless (ends : List Token) (implicit : String → String) (node : Compose Node) :
    Compose Node := do
  if ← isOneOf ends then return emptyNode implicit else node

/-- The entries of a block sequence, up to the end of the block. -/
def blockEntry (implicit : String → String) (node : Compose Node) : Compose (Option Node) := do
  if ← take .blockEntry then
    return some (← nodeUnless [.blockEntry, .blockEnd] implicit node)
  else if ← take .blockEnd then return none
  else fail

/-- The entries of a sequence that stands at the indentation of its key. -/
def looseEntry (implicit : String → String) (node : Compose Node) : Compose (Option Node) := do
  if ← take .blockEntry then
    return some (← nodeUnless [.blockEntry, .key, .value, .blockEnd] implicit node)
  else return none

/-- The entries of a block mapping, up to the end of the block. -/
def blockPair (implicit : String → String) (node : Compose Node) :
    Compose (Option (Node × Node)) := do
  let ends : List Token := [.key, .value, .blockEnd]
  if ← take .blockEnd then return none
  let key ← if ← take .key then nodeUnless ends implicit node else fail
  let value ←
    if ← take .value then nodeUnless ends implicit node else pure (emptyNode implicit)
  return some (key, value)

/-- A key with its value inside a flow collection, from behind the mark of the key on. -/
def flowPair (close : Token) (implicit : String → String) (node : Compose Node) :
    Compose (Node × Node) := do
  let key ← nodeUnless [.value, .flowEntry, close] implicit node
  let value ←
    if ← take .value then nodeUnless [.flowEntry, close] implicit node
    else pure (emptyNode implicit)
  return (key, value)

/-- The members of a flow collection, with commas between them and up to its end. -/
def flowMember {α : Type} (close : Token) (member : Compose α) (started : Bool) :
    Compose (Option α) := do
  if ← take close then return none
  if started then
    if !(← take .flowEntry) then fail
    if ← take close then return none
  return some (← member)

def flowMembers {α : Type} (close : Token) (member : Compose α) : Compose (List α) := do
  match ← flowMember close member false with
  | none => return []
  | some a =>
    let n := (← get).tokens.length + 1
    return a :: (← collect (flowMember close member true) n [])

/-- An entry of a flow sequence; a single pair makes a mapping. -/
def flowItem (implicit : String → String) (node : Compose Node) : Compose Node := do
  if ← take .key then
    return .mapping (standardTag "map") [← flowPair .flowSequenceEnd implicit node]
  else node

/-- An entry of a flow mapping; a node without a colon is a key without a value. -/
def flowEntry (implicit : String → String) (node : Compose Node) : Compose (Node × Node) := do
  if ← take .key then flowPair .flowMappingEnd implicit node
  else return (← node, emptyNode implicit)

/-- What a node is behind its anchor and its tag. It can be left out when there is one of these,
which `marked` tells. -/
def content (implicit : String → String) (inner innerLoose : Compose Node) (loose marked : Bool)
    (tag : Option String) : Compose Node := do
  let fuel := (← get).tokens.length + 1
  let sequence (items : List Node) : Node := .sequence (tagOr (standardTag "seq") tag) items
  let mapping (pairs : List (Node × Node)) : Node :=
    .mapping (tagOr (standardTag "map") tag) pairs
  let leftOut : Compose Node :=
    if marked then return .scalar (tagOr (implicit "") tag) "" else fail
  match ← peek with
  | .scalar text plain =>
    skip
    let default := if plain || tag == some "!" then implicit text else standardTag "str"
    return .scalar (tagOr default tag) text
  | .flowSequenceStart =>
    skip
    return sequence (← flowMembers .flowSequenceEnd (flowItem implicit inner))
  | .flowMappingStart =>
    skip
    return mapping (← flowMembers .flowMappingEnd (flowEntry implicit inner))
  | .blockSequenceStart =>
    skip
    return sequence (← collect (blockEntry implicit inner) fuel [])
  | .blockMappingStart =>
    skip
    return mapping (← collect (blockPair implicit innerLoose) fuel [])
  | .blockEntry =>
    if loose then return sequence (← collect (looseEntry implicit inner) fuel []) else leftOut
  | _ => leftOut

/-- A node. `loose` allows a sequence at the indentation of its key. -/
def node (implicit : String → String) : (depth : Nat) → (loose : Bool) → Compose Node
  | 0, _ => throw .nested
  | depth + 1, loose => do
    match ← peek with
    | .alias name =>
      skip
      match (← get).anchors.lookup name with
      | some (some target) => return target
      | some none => throw .endless
      | none => fail
    | _ =>
      let (anchor, spelled) ← properties 2 none none
      let tag ← spelled.mapM spelledTag
      let rest := content implicit (node implicit depth false) (node implicit depth true) loose
        (anchor.isSome || tag.isSome) tag
      match anchor with
      | none => rest
      | some name =>
        if ((← get).anchors.lookup name).isSome then fail
        modify fun s => { s with anchors := (name, none) :: s.anchors }
        let result ← rest
        modify fun s => { s with anchors := (name, some result) :: s.anchors }
        return result

def directives : (fuel : Nat) → (versioned : Bool) → (handles : List (String × String)) →
    Compose (List (String × String))
  | 0, _, handles => return handles
  | n + 1, versioned, handles => do
    match ← peek with
    | .directive (.version major) =>
      skip
      if versioned || major != 1 then fail
      directives n true handles
    | .directive (.tag handle start) =>
      skip
      if (handles.lookup handle).isSome then fail
      directives n versioned ((handle, start) :: handles)
    | .directive .other =>
      skip
      directives n versioned handles
    | _ => return handles

def standardHandles : List (String × String) := [("!", "!"), ("!!", standardTag "")]

def skipDocumentEnds : (fuel : Nat) → Compose Unit
  | 0 => pure ()
  | n + 1 => do if ← take .documentEnd then skipDocumentEnds n

/-- The node of a document behind its mark. It can be left out when there is a mark. -/
def rootNode (depth : Nat) (implicit : String → String) (marked : Bool) : Compose Node := do
  let isEmpty := match ← peek with
    | .directive _ | .documentStart | .documentEnd | .streamEnd => marked
    | _ => false
  if isEmpty then return emptyNode implicit else node implicit depth false

/-- The node of the only document, if there is one. -/
def document (depth : Nat) (implicit : String → String) : Compose (Option Node) := do
  let fuel := (← get).tokens.length + 1
  let isExplicit := match ← peek with
    | .directive _ | .documentStart => true
    | _ => false
  if (← peek) = .streamEnd then return none
  if isExplicit then
    let handles ← directives fuel false []
    modify fun s => { s with handles := handles ++ standardHandles }
    if !(← take .documentStart) then fail
  let root ← rootNode depth implicit isExplicit
  skipDocumentEnds fuel
  if (← peek) ≠ .streamEnd then fail
  return some root

end Composer

/-- The node of a row of tokens. `implicit` gives the tag of a plain scalar, and `depth` bounds the
nesting of collections. -/
def Node.ofTokens (depth : Nat) (implicit : String → String) (tokens : List Token) :
    Except Error (Option Node) := do
  let (root, _) ← (Composer.document depth implicit).run ⟨tokens, [], Composer.standardHandles⟩
  return root

end RasterTensor.Yaml
