import RasterTensor.Proofs.Binary.Value
import RasterTensor.Proofs.Normalization.Entries

/-!
# Parameters from arguments

Arguments of many kinds are read as parameters. The entries of parameters that were accepted are
arguments of which nothing is left to convert or to refuse, so they are read as the same parameters.
-/

namespace RasterTensor.Parameters

open Binary Document

variable {arguments : Entries} {fields : Fields} {p : Parameters}

/-- The fields that arguments give. -/
def Fields.given (arguments : Entries) : Fields :=
  let fields : Fields := {}
  { scale := (arguments.field? "scale").getD fields.scale
    offset := (arguments.field? "offset").getD fields.offset
    swap := (arguments.field? "swap_channels").getD fields.swap
    range := (arguments.field? "input_range").getD fields.range }

theorem ofArguments_eq_ok_iff :
    ofArguments arguments = .ok p ↔
      (∀ e ∈ arguments, ∃ name ∈ names, e.1 = .text name) ∧ p.ReadFrom (.given arguments) := by
  rw [ofArguments, bind_eq_ok, ← ofFields_eq_ok_iff, exists_and_right]
  apply and_congr _ Iff.rfl
  apply forIn_eq_ok_iff
  rintro ⟨key, v⟩
  cases key with
  | text name =>
      by_cases hname : name ∈ names
      · simp [hname, Ends, pure, Except.pure]
      · simp [hname, Ends, bind, Except.bind, throw, throwThe, MonadExceptOf.throw]
  | _ =>
      apply Ends.error
      rintro ⟨name, -, hkey⟩
      cases hkey

theorem ReadFrom.given_toEntries (h : p.ReadFrom fields) : p.ReadFrom (.given p.toEntries) where
  scale := readFloats_of_members rfl
  offset := readFloats_of_members rfl
  nonzero := h.nonzero
  swap := rfl
  low := ⟨.int p.low, rfl, rfl⟩
  high := ⟨.int p.high, rfl, rfl⟩
  ordered := h.ordered

/-- Accepted arguments are read as three scales, none of them zero, three offsets and a range in
order. The parameters can be made again from their entries, and come out with the same bits. -/
theorem ofArguments_toEntries (h : ofArguments arguments = .ok p) :
    p.ReadFrom (.given arguments) ∧ (∀ c, ¬ (p.scale.get c).number.Denotes 0) ∧
      p.low ≤ p.high ∧ ofArguments p.toEntries = .ok p := by
  obtain ⟨-, hread⟩ := ofArguments_eq_ok_iff.mp h
  refine ⟨hread, ?_, hread.ordered, ?_⟩
  · intro c hzero
    have hnonzero := hread.nonzero c
    rw [Binary64.isZero, Number.isZero_iff.mpr hzero] at hnonzero
    cases hnonzero
  · apply ofArguments_eq_ok_iff.mpr
    constructor
    · simp [toEntries, names]
    · exact hread.given_toEntries

def mixedArguments : Entries :=
  [(.text "scale", .text "123"),
    (.text "offset", .list [.bool true, .text " -0.5", .int 3]),
    (.text "input_range", .tuple [.text "7_0", .float ⟨0x406ffccccccccccd⟩]),
    (.text "swap_channels", .int 7)]

def mixedParameters : Parameters where
  scale := ⟨.ofInt 1, .ofInt 2, .ofInt 3⟩
  offset := ⟨.ofInt 1, ⟨0xbfe0000000000000⟩, .ofInt 3⟩
  swap := true
  low := 70
  high := 255

theorem ofArguments_toEntries_mixed :
    ofArguments mixedArguments = .ok mixedParameters ∧
      ofArguments mixedParameters.toEntries = .ok mixedParameters := by
  have haccepted : ofArguments mixedArguments = .ok mixedParameters :=
    eq_ok_of_toOption (by decide +kernel)
  obtain ⟨-, -, -, hagain⟩ := ofArguments_toEntries haccepted
  exact ⟨haccepted, hagain⟩

end RasterTensor.Parameters
