import RasterTensor.Failure

/-!
# Writing a byte string in chunks

A file accepts any part of what it is offered. What is left is offered again, a chunk at most at
a time, until everything was accepted, nothing was, or the file fails.
-/

namespace RasterTensor

inductive Response where
  /-- It accepts this many bytes at most. -/
  | accept (limit : Nat)
  | acceptAll
  /-- It gives no count. -/
  | nothing
  | fail (cause : Failure)

/-- A file under writing, by its response to each offer. -/
abbrev Device := Nat → Response

/-- A device that answers from a list and accepts everything after that. -/
def Device.ofList (responses : List Response) : Device := fun call =>
  responses.getD call .acceptAll

/-- What came of writing: what was offered each time, what the file has received, and the number
of bytes written or the failure. -/
structure Emission where
  offered : List ByteArray
  received : ByteArray
  outcome : Except Failure Nat

abbrev Writer := ByteArray → Emission

def chunkBytes : Nat := 1 <<< 20

/-- The bytes of an offer that a response accepts. -/
def Response.accepted : Response → Nat → Except Failure Nat
  | .accept limit, size => .ok (min limit size)
  | .acceptAll, size => .ok size
  | .nothing, _ => .ok 0
  | .fail cause, _ => .error cause

def offerFrom (device : Device) (data : ByteArray) (call written : Nat) (received : ByteArray) :
    Emission :=
  if _h : written < data.size then
    let size := min chunkBytes (data.size - written)
    let offer := data.extract written (written + size)
    match (device call).accepted size with
    | .error cause => ⟨[offer], received, .error cause⟩
    | .ok 0 => ⟨[offer], received, .error .shortWrite⟩
    | .ok (n + 1) =>
      let rest := offerFrom device data (call + 1) (written + (n + 1))
        (received ++ offer.extract 0 (n + 1))
      ⟨offer :: rest.offered, rest.received, rest.outcome⟩
  else ⟨[], received, .ok written⟩
termination_by data.size - written

def Writer.chunked (device : Device) : Writer := fun data => offerFrom device data 0 0 .empty

def Writer.plain : Writer := .chunked fun _ => .acceptAll

def Writer.failing (size : Nat) (cause : Failure) : Writer := fun data =>
  ⟨[], data.extract 0 size, .error cause⟩

end RasterTensor
