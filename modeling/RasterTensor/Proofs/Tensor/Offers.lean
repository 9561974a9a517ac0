import Mathlib.Algebra.Ring.Nat
import RasterTensor.Tensor.Writer

/-!
# What a file is offered

Every offer is what comes next in the data, and what a device has taken of the offers is always
the beginning of the data. The first offer of which it takes nothing, or at which it fails, is the
last one; without one, everything is received.
-/

namespace RasterTensor

/-- The failure that ends writing at a response, if it takes nothing of what is offered. -/
def Response.stop? : Response → Option Failure
  | .accept 0 | .nothing => some .shortWrite
  | .fail cause => some cause
  | .accept (_ + 1) | .acceptAll => none

/-- What comes next in the data, a chunk at most. -/
def nextOffer (data : ByteArray) (written : Nat) : ByteArray :=
  data.extract written (written + min chunkBytes (data.size - written))

namespace Device

variable (device : Device)

/-- What a device takes of an offer. -/
def taken (call : Nat) (offer : ByteArray) : ByteArray :=
  match (device call).accepted offer.size with
  | .ok n => offer.extract 0 n
  | .error _ => .empty

/-- What a device takes of several offers, from a call on. -/
def receive : (call : Nat) → List ByteArray → ByteArray
  | _, [] => .empty
  | call, offer :: rest => device.taken call offer ++ receive (call + 1) rest

/-- The device with another response at one call. -/
def respondAt (answered : Nat) (response : Response) : Device := fun call =>
  if call = answered then response else device call

theorem respondAt_self (call : Nat) (response : Response) :
    device.respondAt call response call = response := if_pos rfl

theorem respondAt_of_lt {call later : Nat} (response : Response) (h : call < later) :
    device.respondAt call response later = device later := if_neg (Nat.ne_of_gt h)

end Device

/-- The way of data to a device, from a call and a number of written bytes on: what is offered, how
many bytes are written in the end, and the outcome. -/
inductive Delivery (device : Device) (data : ByteArray) :
    (call written : Nat) → List ByteArray → Nat → Except Failure Nat → Prop
  | complete (call : Nat) : Delivery device data call data.size [] data.size (.ok data.size)
  | stopped (call written : Nat) (cause : Failure) (hlt : written < data.size)
      (hstop : (device call).stop? = some cause) :
      Delivery device data call written [nextOffer data written] written (.error cause)
  | advanced (call written n : Nat) (offered : List ByteArray) (total : Nat)
      (outcome : Except Failure Nat) (hlt : written < data.size)
      (haccepted : (device call).accepted (nextOffer data written).size = .ok (n + 1))
      (rest : Delivery device data (call + 1) (written + (n + 1)) offered total outcome) :
      Delivery device data call written (nextOffer data written :: offered) total outcome

/-! ## One offer -/

namespace Response

variable {response : Response} {size n : Nat} {cause : Failure}

theorem accepted_le (h : response.accepted size = .ok n) : n ≤ size := by
  cases response with
  | accept limit => exact Except.ok.inj h ▸ Nat.min_le_right limit size
  | acceptAll => exact Nat.le_of_eq (Except.ok.inj h).symm
  | nothing => exact Except.ok.inj h ▸ Nat.zero_le size
  | fail cause => cases h

theorem stop?_of_error (h : response.accepted size = .error cause) :
    response.stop? = some cause := by
  cases response with
  | fail f => exact congrArg some (Except.error.inj h)
  | accept limit => cases h
  | acceptAll => cases h
  | nothing => cases h

theorem stop?_of_accepted_zero (hsize : 0 < size) (h : response.accepted size = .ok 0) :
    response.stop? = some .shortWrite := by
  cases response with
  | accept limit =>
      have hmin : min limit size = 0 := Except.ok.inj h
      obtain rfl : limit = 0 := by omega
      rfl
  | acceptAll =>
      obtain rfl : size = 0 := Except.ok.inj h
      cases hsize
  | nothing => rfl
  | fail f => cases h

theorem stop?_of_accepted_succ (h : response.accepted size = .ok (n + 1)) :
    response.stop? = none := by
  cases response with
  | accept limit =>
      cases limit with
      | zero =>
          have hmin : min 0 size = n + 1 := Except.ok.inj h
          omega
      | succ limit => rfl
  | acceptAll => rfl
  | nothing => cases h
  | fail f => cases h

theorem accepted_of_stop? (h : response.stop? = some cause) (size : Nat) :
    response.accepted size = .error cause ∨
      response.accepted size = .ok 0 ∧ cause = .shortWrite := by
  cases response with
  | accept limit =>
      cases limit with
      | zero => exact .inr ⟨congrArg Except.ok (Nat.zero_min size), (Option.some.inj h).symm⟩
      | succ limit => cases h
  | acceptAll => cases h
  | nothing => exact .inr ⟨rfl, (Option.some.inj h).symm⟩
  | fail f => exact .inl (congrArg _ (Option.some.inj h))

theorem exists_accepted_of_stop?_eq_none (hsize : 0 < size) (h : response.stop? = none) :
    ∃ n, response.accepted size = .ok (n + 1) := by
  cases haccepted : response.accepted size with
  | error cause =>
      rw [stop?_of_error haccepted] at h
      cases h
  | ok n =>
      cases n with
      | zero =>
          rw [stop?_of_accepted_zero hsize haccepted] at h
          cases h
      | succ n => exact ⟨n, rfl⟩

end Response

section Offer

variable {device : Device} {data : ByteArray} {call written n : Nat}

theorem size_nextOffer (data : ByteArray) (written : Nat) :
    (nextOffer data written).size = min chunkBytes (data.size - written) := by
  rw [nextOffer, ByteArray.size_extract]
  omega

theorem size_nextOffer_pos (h : written < data.size) : 0 < (nextOffer data written).size := by
  rw [size_nextOffer]
  exact Nat.lt_min.mpr ⟨by decide, Nat.sub_pos_of_lt h⟩

theorem Device.taken_of_stop? {cause : Failure} (h : (device call).stop? = some cause)
    (offer : ByteArray) : device.taken call offer = .empty := by
  unfold taken
  obtain herror | ⟨hzero, -⟩ := Response.accepted_of_stop? h offer.size
  · rw [herror]
  · rw [hzero]
    exact ByteArray.extract_same

theorem Device.taken_nextOffer
    (h : (device call).accepted (nextOffer data written).size = .ok n) :
    device.taken call (nextOffer data written) = data.extract written (written + n) ∧
      n ≤ data.size - written := by
  have hle := Response.accepted_le h
  rw [size_nextOffer] at hle
  refine ⟨?_, Nat.le_trans hle (Nat.min_le_right _ _)⟩
  simp only [taken, h]
  rw [nextOffer, ByteArray.extract_extract, Nat.add_zero, Nat.min_eq_left (by omega)]

end Offer

/-! ## All offers -/

variable {device device' : Device} {data : ByteArray} {call written total : Nat}
  {offered : List ByteArray} {outcome : Except Failure Nat}

theorem delivery_offerFrom (device : Device) (data : ByteArray) (call written : Nat)
    (received : ByteArray) (hwritten : written ≤ data.size)
    (hreceived : received = data.extract 0 written) :
    ∃ total, (offerFrom device data call written received).received = data.extract 0 total ∧
      Delivery device data call written (offerFrom device data call written received).offered total
        (offerFrom device data call written received).outcome := by
  -- By induction on what is left of the data.
  fun_induction offerFrom device data call written received with
  | case1 call written received hlt size offer cause haccepted =>
      exact ⟨written, hreceived, .stopped _ _ _ hlt (Response.stop?_of_error haccepted)⟩
  | case2 call written received hlt size offer haccepted =>
      have hsize : 0 < size := by
        have hpos := size_nextOffer_pos hlt
        rwa [size_nextOffer] at hpos
      exact ⟨written, hreceived,
        .stopped _ _ _ hlt (Response.stop?_of_accepted_zero hsize haccepted)⟩
  | case3 call written received hlt size offer n haccepted rest ih =>
      have htakes : (device call).accepted (nextOffer data written).size = .ok (n + 1) := by
        rwa [size_nextOffer]
      obtain ⟨htaken, hle⟩ := Device.taken_nextOffer htakes
      have hoffer : offer.extract 0 (n + 1) = data.extract written (written + (n + 1)) := by
        rw [← htaken, Device.taken, htakes]
        rfl
      have hnext : received ++ offer.extract 0 (n + 1) = data.extract 0 (written + (n + 1)) := by
        rw [hreceived, hoffer, ByteArray.extract_append_extract, Nat.zero_min,
          Nat.max_eq_right (by omega)]
      obtain ⟨total, htotal, hrest⟩ := ih (by omega) hnext
      exact ⟨total, htotal, .advanced _ _ _ _ _ _ hlt htakes hrest⟩
  | case4 call written received hge =>
      obtain rfl : written = data.size := by omega
      exact ⟨data.size, hreceived, .complete call⟩

namespace Delivery

theorem length_add_le (h : Delivery device data call written offered total outcome) :
    offered.length + written ≤ data.size := by
  induction h with
  | complete call => simp
  | stopped call written cause hlt hstop =>
      rw [List.length_singleton]
      omega
  | advanced call written n offered total outcome hlt haccepted rest ih =>
      rw [List.length_cons]
      omega

/-- Before each call the device has received the data up to somewhere, and from there on it is
offered the next part. -/
theorem receive_take (h : Delivery device data call written offered total outcome) (i : Nat) :
    ∃ n, written ≤ n ∧ n ≤ data.size ∧
      device.receive call (offered.take i) = data.extract written n ∧
      (offered.length ≤ i → n = total) ∧
      ∀ hi : i < offered.length, n < data.size ∧ offered[i] = nextOffer data n := by
  -- `n` is where the next offer begins: it moves by what each call takes and stays at the last one.
  induction h generalizing i with
  | complete call =>
      refine ⟨data.size, Nat.le_refl _, Nat.le_refl _, ?_, fun _ => rfl, fun hi => nomatch hi⟩
      rw [List.take_nil, ByteArray.extract_same]
      rfl
  | stopped call written cause hlt hstop =>
      cases i with
      | zero =>
          refine ⟨written, Nat.le_refl _, Nat.le_of_lt hlt, ByteArray.extract_same.symm, ?_, ?_⟩
          · intro _
            rfl
          · intro _
            exact ⟨hlt, rfl⟩
      | succ i =>
          refine ⟨written, Nat.le_refl _, Nat.le_of_lt hlt, ?_, fun _ => rfl, ?_⟩
          · rw [List.take_succ_cons, List.take_nil, Device.receive, Device.taken_of_stop? hstop,
              ByteArray.extract_same]
            rfl
          · intro hi
            cases Nat.lt_of_succ_lt_succ hi
  | advanced call written n offered total outcome hlt haccepted rest ih =>
      cases i with
      | zero =>
          refine ⟨written, Nat.le_refl _, Nat.le_of_lt hlt, ByteArray.extract_same.symm, ?_, ?_⟩
          · intro hlength
            cases hlength
          · intro _
            exact ⟨hlt, rfl⟩
      | succ i =>
          obtain ⟨m, hle, hsize, hreceive, hend, hnext⟩ := ih i
          obtain ⟨htaken, -⟩ := Device.taken_nextOffer haccepted
          refine ⟨m, by omega, hsize, ?_, ?_, ?_⟩
          · rw [List.take_succ_cons, Device.receive, htaken, hreceive,
              ByteArray.extract_append_extract, Nat.min_eq_left (by omega), Nat.max_eq_right hle]
          · intro hlength
            exact hend (Nat.le_of_succ_le_succ hlength)
          · intro hi
            exact hnext (Nat.lt_of_succ_lt_succ hi)

theorem outcome_eq_ok_iff (h : Delivery device data call written offered total outcome) (n : Nat) :
    outcome = .ok n ↔ total = data.size ∧ n = data.size := by
  induction h with
  | complete call => simp [eq_comm]
  | stopped call written cause hlt hstop =>
      constructor
      · intro heq
        cases heq
      · rintro ⟨rfl, -⟩
        exact absurd hlt (Nat.lt_irrefl _)
  | advanced call written n offered total outcome hlt haccepted rest ih => exact ih

/-- Only the last call can be one that takes nothing. -/
theorem stop?_eq_none (h : Delivery device data call written offered total outcome) {i : Nat}
    (hi : i + 1 < offered.length) : (device (call + i)).stop? = none := by
  induction h generalizing i with
  | complete call => cases hi
  | stopped call written cause hlt hstop => cases Nat.lt_of_succ_lt_succ hi
  | advanced call written n offered total outcome hlt haccepted rest ih =>
      cases i with
      | zero => exact Response.stop?_of_accepted_succ haccepted
      | succ i =>
          rw [Nat.add_left_comm, Nat.add_comm]
          exact ih (Nat.lt_of_succ_lt_succ hi)

theorem outcome_eq_error_iff (h : Delivery device data call written offered total outcome)
    (cause : Failure) :
    outcome = .error cause ↔
      ∃ i, i + 1 = offered.length ∧ (device (call + i)).stop? = some cause := by
  induction h with
  | complete call => simp
  | stopped call written f hlt hstop =>
      constructor
      · intro heq
        cases heq
        exact ⟨0, rfl, hstop⟩
      · rintro ⟨i, hi, hcause⟩
        obtain rfl : i = 0 := Nat.succ.inj hi
        exact congrArg _ (Option.some.inj (hstop.symm.trans hcause))
  | advanced call written n offered total outcome hlt haccepted rest ih =>
      rw [ih]
      constructor
      · rintro ⟨i, hi, hcause⟩
        refine ⟨i + 1, congrArg _ hi, ?_⟩
        rwa [Nat.add_left_comm, Nat.add_comm]
      · rintro ⟨i, hi, hcause⟩
        cases i with
        | zero =>
            rw [Nat.add_zero, Response.stop?_of_accepted_succ haccepted] at hcause
            cases hcause
        | succ i =>
            refine ⟨i, Nat.succ.inj hi, ?_⟩
            rwa [Nat.add_assoc, Nat.add_comm 1]

/-! ## Files that answer by what they are offered -/

theorem congr (h : Delivery device data call written offered total outcome)
    (hagree : ∀ later, call ≤ later → device' later = device later) :
    Delivery device' data call written offered total outcome := by
  induction h with
  | complete call => exact .complete call
  | stopped call written cause hlt hstop =>
      rw [← hagree call (Nat.le_refl _)] at hstop
      exact .stopped _ _ _ hlt hstop
  | advanced call written n offered total outcome hlt haccepted rest ih =>
      rw [← hagree call (Nat.le_refl _)] at haccepted
      refine .advanced _ _ _ _ _ _ hlt haccepted (ih fun later hlater => ?_)
      exact hagree later (Nat.le_of_succ_le hlater)

theorem offered_offerFrom (h : Delivery device data call written offered total outcome)
    (received : ByteArray) : (offerFrom device data call written received).offered = offered := by
  induction h generalizing received with
  | complete call => rw [offerFrom, dif_neg (Nat.lt_irrefl _)]
  | stopped call written cause hlt hstop =>
      have haccepted :=
        Response.accepted_of_stop? hstop (min chunkBytes (data.size - written))
      rw [offerFrom, dif_pos hlt]
      obtain herror | ⟨hzero, -⟩ := haccepted
      · simp only [herror]
        rfl
      · simp only [hzero]
        rfl
  | advanced call written n offered total outcome hlt haccepted rest ih =>
      rw [size_nextOffer] at haccepted
      rw [offerFrom, dif_pos hlt]
      simp only [haccepted, ih]
      rfl

theorem exists_answering (file : List ByteArray → Response) (data : ByteArray)
    (before : List ByteArray) (call written : Nat) (hwritten : written ≤ data.size) :
    ∃ device offered total outcome, Delivery device data call written offered total outcome ∧
      ∀ i, i < offered.length →
        device (call + i) = file (before ++ offered.take (i + 1)) := by
  -- By induction on what is left of the data. The device of what follows is extended by the answer
  -- to the first offer.
  induction hleft : data.size - written using Nat.strongRecOn
    generalizing before call written with
  | ind left ih =>
  obtain rfl | hlt := Nat.eq_or_lt_of_le hwritten
  · exact ⟨fun _ => .acceptAll, [], _, _, .complete call, fun i hi => nomatch hi⟩
  · have hsize := size_nextOffer_pos hlt
    cases hstop : (file (before ++ [nextOffer data written])).stop? with
    | some cause =>
        refine ⟨fun _ => file (before ++ [nextOffer data written]), _, _, _,
          .stopped call written cause hlt hstop, fun i hi => ?_⟩
        obtain rfl : i = 0 := Nat.lt_one_iff.mp hi
        rfl
    | none =>
        obtain ⟨n, haccepted⟩ := Response.exists_accepted_of_stop?_eq_none hsize hstop
        have hle := Response.accepted_le haccepted
        rw [size_nextOffer] at hle
        obtain ⟨device, offered, total, outcome, hrest, hanswers⟩ :=
          ih (data.size - (written + (n + 1))) (by omega) (before ++ [nextOffer data written])
            (call + 1) (written + (n + 1)) (by omega) rfl
        refine ⟨device.respondAt call (file (before ++ [nextOffer data written])), _, _, _,
          .advanced call written n offered total outcome hlt ?_ ?_, ?_⟩
        · rwa [Device.respondAt_self]
        · exact hrest.congr fun later hlater => device.respondAt_of_lt _ hlater
        · intro i hi
          cases i with
          | zero => exact device.respondAt_self call _
          | succ i =>
              have hanswer := hanswers i (Nat.lt_of_succ_lt_succ hi)
              rw [List.append_assoc, Nat.add_assoc, Nat.add_comm 1] at hanswer
              rw [Device.respondAt_of_lt _ _ (Nat.lt_add_of_pos_right i.succ_pos),
                List.take_succ_cons]
              exact hanswer

end Delivery

theorem delivery_chunked (device : Device) (data : ByteArray) :
    ∃ total, (Writer.chunked device data).received = data.extract 0 total ∧
      Delivery device data 0 0 (Writer.chunked device data).offered total
        (Writer.chunked device data).outcome :=
  delivery_offerFrom device data 0 0 .empty (Nat.zero_le _) ByteArray.extract_same.symm

/-- Data of any size are written to any device without losing or repeating a byte. No call is made
in vain: there are at most as many as bytes. Before each one the device has received the beginning
of the data, and it is offered what comes next. Writing ends well exactly when everything was
received. A call that takes nothing is the last one, and its failure is the outcome: that of the
device or, when it took no bytes or gave no count, that of a short write. A file that answers by
what it is offered is one of the devices. -/
theorem Writer.chunked_delivers (device : Device) (data : ByteArray) :
    let run := Writer.chunked device data
    let received (calls : Nat) : ByteArray := device.receive 0 (run.offered.take calls)
    run.offered.length ≤ data.size ∧
    run.received = received run.offered.length ∧
    (∀ calls, ∃ n, n ≤ data.size ∧ received calls = data.extract 0 n) ∧
    (∀ i (hi : i < run.offered.length), (received i).size < data.size ∧
      run.offered[i] = data.extract (received i).size
        ((received i).size + min (2 ^ 20) (data.size - (received i).size))) ∧
    (∀ n, run.outcome = .ok n ↔ run.received = data ∧ n = data.size) ∧
    (∀ i, i + 1 < run.offered.length → (device i).stop? = none) ∧
    (∀ cause, run.outcome = .error cause ↔
      ∃ i, i + 1 = run.offered.length ∧ (device i).stop? = some cause) ∧
    Failure.shortWrite.message = "short write" ∧ Failure.shortWrite.isSystem = true ∧
    ∀ file : List ByteArray → Response, ∃ answering : Device,
      ∀ i, i < (Writer.chunked answering data).offered.length →
        answering i = file ((Writer.chunked answering data).offered.take (i + 1)) := by
  intro run received
  -- All parts but the last are read off one delivery. The last one makes a device of the answers.
  obtain ⟨total, htotal, hdelivery⟩ := delivery_chunked device data
  have hsize {n : Nat} (hn : n ≤ data.size) : (data.extract 0 n).size = n := by
    rw [ByteArray.size_extract, Nat.min_eq_left hn, Nat.sub_zero]
  refine ⟨hdelivery.length_add_le, ?_, ?_, ?_, ?_, ?_, ?_, rfl, rfl, ?_⟩
  · obtain ⟨n, -, -, hreceive, hend, -⟩ := hdelivery.receive_take run.offered.length
    exact htotal.trans (hend (Nat.le_refl _) ▸ hreceive.symm)
  · intro calls
    obtain ⟨n, -, hn, hreceive, -, -⟩ := hdelivery.receive_take calls
    exact ⟨n, hn, hreceive⟩
  · intro i hi
    obtain ⟨n, -, hn, hreceive, -, hnext⟩ := hdelivery.receive_take i
    have hreceived : (received i).size = n := (congrArg ByteArray.size hreceive).trans (hsize hn)
    rw [hreceived]
    exact hnext hi
  · intro n
    have hle : total ≤ data.size := by
      obtain ⟨m, -, hm, -, hend, -⟩ := hdelivery.receive_take run.offered.length
      exact hend (Nat.le_refl _) ▸ hm
    have hall : run.received = data ↔ total = data.size := by
      constructor
      · intro heq
        rw [← hsize hle, ← htotal]
        exact congrArg ByteArray.size heq
      · rintro rfl
        exact htotal.trans ByteArray.extract_zero_size
    rw [hall]
    exact hdelivery.outcome_eq_ok_iff n
  · intro i hi
    have hnone := hdelivery.stop?_eq_none hi
    rwa [Nat.zero_add] at hnone
  · intro cause
    have hiff := hdelivery.outcome_eq_error_iff cause
    simp only [Nat.zero_add] at hiff
    exact hiff
  · intro file
    obtain ⟨answering, offered, total, outcome, hanswering, hanswers⟩ :=
      Delivery.exists_answering file data [] 0 0 (Nat.zero_le _)
    have hoffered := hanswering.offered_offerFrom .empty
    refine ⟨answering, fun i hi => ?_⟩
    have hanswer := hanswers i (hoffered ▸ hi)
    rw [Nat.zero_add, List.nil_append] at hanswer
    rw [hanswer]
    exact congrArg (fun offers => file (offers.take (i + 1))) hoffered.symm

end RasterTensor
