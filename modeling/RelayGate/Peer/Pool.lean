import RelayGate.Peer.Identity

/-!
# The direction slots of a Gateway

Between two Gateways there is at most one transport for each direction of
dialling.  The pool keeps one slot per ordered pair, with the candidate that is
connecting or the transport that is ready.
-/

namespace RelayGate

open Library

/-- An ordered pair of Gateways. -/
structure PeerSlotKey where
  dialer : GatewayId
  acceptor : GatewayId
deriving DecidableEq, Repr

namespace PeerSlotKey

/-- The order in which the pool iterates over its slots. -/
def Before (first second : PeerSlotKey) : Prop :=
  first.dialer.uuid < second.dialer.uuid ∨
    first.dialer.uuid = second.dialer.uuid ∧
      first.acceptor.uuid ≤ second.acceptor.uuid

instance (first second : PeerSlotKey) : Decidable (Before first second) :=
  inferInstanceAs (Decidable (_ ∨ _))

end PeerSlotKey

inductive PeerSlotState
  | idle
  | connecting (transportId : PeerTransportId)
  | ready (transportId : PeerTransportId)
deriving DecidableEq, Repr

def PeerSlotState.transportId : PeerSlotState → Option PeerTransportId
  | .idle => none
  | .connecting transportId => some transportId
  | .ready transportId => some transportId

structure PeerPool where
  slots : Table PeerSlotKey PeerSlotState
deriving DecidableEq

namespace PeerPool

variable {pool after : PeerPool} {dialer acceptor : GatewayId}
  {transportId : PeerTransportId}

instance : EmptyCollection PeerPool :=
  ⟨⟨∅⟩⟩

/-- The slot of a pair; a pair without an entry is idle. -/
def slot (pool : PeerPool) (dialer acceptor : GatewayId) : PeerSlotState :=
  (pool.slots.get ⟨dialer, acceptor⟩).getD .idle

/-- Claim an idle slot for a candidate. -/
def connect (pool : PeerPool) (dialer acceptor : GatewayId)
    (transportId : PeerTransportId) : Except PeerError PeerPool :=
  if pool.slot dialer acceptor ≠ .idle then
    .error (.alreadyExists "same-direction PeerTransport candidate already exists")
  else
    .ok ⟨pool.slots.insert ⟨dialer, acceptor⟩ (.connecting transportId)⟩

/-- The first ready transport between the Gateway and another one, in either
direction. -/
def readyTransport (pool : PeerPool) (remote : GatewayId) :
    Option PeerTransportId :=
  (pool.slots.toList.insertionSort fun first second =>
      PeerSlotKey.Before first.1 second.1).findSome? fun entry =>
    if entry.1.dialer = remote ∨ entry.1.acceptor = remote then
      match entry.2 with
      | .ready transportId => some transportId
      | .idle => none
      | .connecting _ => none
    else
      none

/-- The candidate of a slot has become ready. -/
def ready (pool : PeerPool) (dialer acceptor : GatewayId)
    (transportId : PeerTransportId) : Except PeerError PeerPool :=
  match pool.slots.get ⟨dialer, acceptor⟩ with
  | none => .error (.failedPrecondition "PeerTransport candidate does not exist")
  | some state =>
      if state = .connecting transportId then
        .ok ⟨pool.slots.insert ⟨dialer, acceptor⟩ (.ready transportId)⟩
      else
        .error (.failedPrecondition
          "PeerTransport candidate identity does not match current slot")

/-- Free every slot a transport holds. -/
def removeTransport (pool : PeerPool) (transportId : PeerTransportId) :
    PeerPool :=
  ⟨pool.slots.retain fun _ state => state.transportId ≠ some transportId⟩

/-! ## What the operations do to the slots -/

/-- A claim succeeds on an idle slot only, and takes it. -/
theorem connect_eq_ok_iff :
    pool.connect dialer acceptor transportId = .ok after ↔
      pool.slot dialer acceptor = .idle ∧
        after = ⟨pool.slots.insert ⟨dialer, acceptor⟩ (.connecting transportId)⟩ := by
  unfold connect
  split
  · rename_i taken
    simp [taken]
  · rename_i free
    simp only [ne_eq, not_not] at free
    simp [free, eq_comm]

theorem slot_insert (pool : PeerPool) (key : PeerSlotKey) (state : PeerSlotState)
    (dialer acceptor : GatewayId) :
    (⟨pool.slots.insert key state⟩ : PeerPool).slot dialer acceptor =
      if key = ⟨dialer, acceptor⟩ then state else pool.slot dialer acceptor := by
  unfold slot
  simp only [Table.get_insert]
  split
  · rename_i same
    simp [same]
  · rename_i different
    rw [if_neg (Ne.symm different)]

/-- A candidate becomes ready when it holds the slot, and keeps it. -/
theorem ready_eq_ok_iff :
    pool.ready dialer acceptor transportId = .ok after ↔
      pool.slot dialer acceptor = .connecting transportId ∧
        after = ⟨pool.slots.insert ⟨dialer, acceptor⟩ (.ready transportId)⟩ := by
  unfold ready slot
  cases pool.slots.get ⟨dialer, acceptor⟩ with
  | none => simp
  | some state =>
    by_cases own : state = .connecting transportId
    · simp [own, eq_comm]
    · simp [own]

theorem slot_removeTransport (pool : PeerPool) (transportId : PeerTransportId)
    (dialer acceptor : GatewayId) :
    (pool.removeTransport transportId).slot dialer acceptor =
      if (pool.slot dialer acceptor).transportId = some transportId then .idle
      else pool.slot dialer acceptor := by
  unfold slot removeTransport
  simp only [Table.get_retain]
  cases pool.slots.get ⟨dialer, acceptor⟩ with
  | none => simp [PeerSlotState.transportId]
  | some state =>
    by_cases own : state.transportId = some transportId
    · simp [Option.filter, own]
    · simp [Option.filter, own]

/-- Without a ready transport, no slot of the Gateway is ready. -/
theorem slot_ne_ready {remote : GatewayId}
    (absent : pool.readyTransport remote = none) (dialer : GatewayId)
    (transportId : PeerTransportId) : pool.slot dialer remote ≠ .ready transportId := by
  intro held
  unfold slot at held
  cases found : pool.slots.get ⟨dialer, remote⟩ with
  | none =>
    rw [found] at held
    cases held
  | some state =>
    rw [found] at held
    have ready : state = .ready transportId := held
    have listed := Table.mem_toList.mpr found
    have passed := List.findSome?_eq_none_iff.mp absent (⟨dialer, remote⟩, state)
      ((List.mem_insertionSort _).mpr listed)
    simp [ready] at passed

end PeerPool

end RelayGate
