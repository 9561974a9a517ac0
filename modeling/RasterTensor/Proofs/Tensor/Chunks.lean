import RasterTensor.Proofs.Tensor.Offers

/-!
# Writers that can be trusted

Writing in chunks succeeds only when the file has received all of the data, and it does succeed on
a device that takes something of every offer.
-/

namespace RasterTensor

theorem Writer.chunked_eq_ok {device : Device} {data : ByteArray} {n : Nat}
    (h : (Writer.chunked device data).outcome = .ok n) :
    (Writer.chunked device data).received = data ∧ n = data.size := by
  obtain ⟨total, hreceived, hdelivery⟩ := delivery_chunked device data
  obtain ⟨rfl, rfl⟩ := (hdelivery.outcome_eq_ok_iff n).mp h
  exact ⟨hreceived.trans ByteArray.extract_zero_size, rfl⟩

/-- A response that takes something of an offer. -/
def Response.IsProgress : Response → Prop
  | .accept limit => 0 < limit
  | .acceptAll => True
  | .nothing | .fail _ => False

theorem Response.IsProgress.stop?_eq_none {response : Response} (h : response.IsProgress) :
    response.stop? = none := by
  cases response with
  | accept limit =>
      cases limit with
      | zero => exact absurd h (Nat.lt_irrefl 0)
      | succ limit => rfl
  | acceptAll => rfl
  | nothing => cases h
  | fail cause => cases h

/-- A device that never fails and never stalls. -/
def Device.Accepting (device : Device) : Prop := ∀ call, (device call).IsProgress

theorem Device.accepting_ofList {responses : List Response}
    (h : ∀ response ∈ responses, response.IsProgress) : (ofList responses).Accepting := by
  intro call
  rw [ofList, List.getD_eq_getElem?_getD]
  cases hresponse : responses[call]? with
  | none => trivial
  | some response => exact h response (List.mem_of_getElem? hresponse)

theorem Writer.outcome_chunked {device : Device} (hdevice : device.Accepting) (data : ByteArray) :
    (Writer.chunked device data).outcome = .ok data.size := by
  obtain ⟨total, -, hdelivery⟩ := delivery_chunked device data
  cases houtcome : (Writer.chunked device data).outcome with
  | ok n => rw [((hdelivery.outcome_eq_ok_iff n).mp houtcome).2]
  | error cause =>
      obtain ⟨i, -, hstop⟩ := (hdelivery.outcome_eq_error_iff cause).mp houtcome
      rw [(hdevice _).stop?_eq_none] at hstop
      cases hstop

/-- A writer that does not report success before the file has received everything. -/
def Writer.Faithful (writer : Writer) : Prop :=
  ∀ data n, (writer data).outcome = .ok n → (writer data).received = data ∧ n = data.size

theorem Writer.faithful_chunked (device : Device) : (Writer.chunked device).Faithful :=
  fun _ _ h => chunked_eq_ok h

theorem Writer.faithful_failing (size : Nat) (cause : Failure) :
    (Writer.failing size cause).Faithful :=
  fun _ _ h => nomatch h

end RasterTensor
