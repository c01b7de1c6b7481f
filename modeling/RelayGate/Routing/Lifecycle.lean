import RelayGate.RouteTable.Model

/-!
# Registration lifecycle

The desired state and the synchronization metadata a Gateway keeps for one
session-shard registration, and every transition of it.  A ticket names one
lease operation; an answer changes the registration only through the ticket it
was issued for.
-/

namespace RelayGate.Routing

open Library
open RouteTable

/-- The number of values of a `u64`. -/
def u64Limit : Nat := 2 ^ 64

/-- `u64::checked_add(1)`. -/
def checkedSucc (value : Nat) : Option Nat :=
  if value + 1 < u64Limit then some (value + 1) else none

/-! ## Operations and tickets -/

/-- One lease operation on the shard. -/
inductive RegistrationAction
  | register (key : RegistrationKey)
  | update (key : RegistrationKey) (leaseId : LeaseId)
      (revision : RegistrationRevision) (snapshot : BindingSnapshot)
  | keepAlive (key : RegistrationKey) (leaseId : LeaseId)
  | deregister (key : RegistrationKey) (leaseId : LeaseId)

namespace RegistrationAction

/-- The lease an operation is bound to. -/
def leaseId : RegistrationAction → Option LeaseId
  | .register _ => none
  | .update _ leaseId _ _ => some leaseId
  | .keepAlive _ leaseId => some leaseId
  | .deregister _ leaseId => some leaseId

def key : RegistrationAction → RegistrationKey
  | .register key => key
  | .update key _ _ _ => key
  | .keepAlive key _ => key
  | .deregister key _ => key

def isRegister : RegistrationAction → Bool
  | .register _ => true
  | _ => false

def isKeepAlive : RegistrationAction → Bool
  | .keepAlive _ _ => true
  | _ => false

def isDeregister : RegistrationAction → Bool
  | .deregister _ _ => true
  | _ => false

/-- The source's equality of operations; snapshots are equal as maps. -/
def Same : RegistrationAction → RegistrationAction → Prop
  | .register key, .register other => key = other
  | .update key leaseId revision snapshot,
      .update other otherLease otherRevision otherSnapshot =>
      key = other ∧ leaseId = otherLease ∧ revision = otherRevision ∧
        Table.SameEntries snapshot.entries otherSnapshot.entries
  | .keepAlive key leaseId, .keepAlive other otherLease =>
      key = other ∧ leaseId = otherLease
  | .deregister key leaseId, .deregister other otherLease =>
      key = other ∧ leaseId = otherLease
  | _, _ => False

instance : DecidableRel Same
  | .register _, .register _ => inferInstanceAs (Decidable (_ = _))
  | .update _ _ _ _, .update _ _ _ _ => inferInstanceAs (Decidable (_ ∧ _))
  | .keepAlive _ _, .keepAlive _ _ => inferInstanceAs (Decidable (_ ∧ _))
  | .deregister _ _, .deregister _ _ => inferInstanceAs (Decidable (_ ∧ _))
  | .register _, .update _ _ _ _ => isFalse id
  | .register _, .keepAlive _ _ => isFalse id
  | .register _, .deregister _ _ => isFalse id
  | .update _ _ _ _, .register _ => isFalse id
  | .update _ _ _ _, .keepAlive _ _ => isFalse id
  | .update _ _ _ _, .deregister _ _ => isFalse id
  | .keepAlive _ _, .register _ => isFalse id
  | .keepAlive _ _, .update _ _ _ _ => isFalse id
  | .keepAlive _ _, .deregister _ _ => isFalse id
  | .deregister _ _, .register _ => isFalse id
  | .deregister _ _, .update _ _ _ _ => isFalse id
  | .deregister _ _, .keepAlive _ _ => isFalse id

end RegistrationAction

/-- One issued operation, with the desired version it was issued for. -/
structure OperationTicket where
  attemptId : Nat
  desiredVersion : Nat
  action : RegistrationAction

/-- The source's equality of tickets. -/
def OperationTicket.Same (ticket other : OperationTicket) : Prop :=
  ticket.attemptId = other.attemptId ∧
    ticket.desiredVersion = other.desiredVersion ∧
      ticket.action.Same other.action

instance : DecidableRel OperationTicket.Same :=
  fun _ _ => inferInstanceAs (Decidable (_ ∧ _))

/-! ## The state of one registration -/

structure LeaseState where
  id : LeaseId
  revision : Option RegistrationRevision
  keepAliveAt : Instant
  expiresAt : Instant
deriving DecidableEq

inductive RegistrationPhase
  | registering
  | leased
  | synced
  | unsynced
  | deregistering
  | removed
  | terminal
deriving DecidableEq, Repr

/-- Current desired state and synchronization metadata for one session-shard
registration. -/
structure RegistrationState where
  key : RegistrationKey
  desiredVersion : Nat
  snapshot : Option BindingSnapshot
  lease : Option LeaseState
  syncedVersion : Option Nat
  pending : Option OperationTicket
  nextAttemptId : Nat
  terminal : Bool
  preconditionProbeActive : Bool
  validateLease : Bool
  retryAt : Instant
  retryBackoff : Duration
  retryInitial : Duration
  retryMax : Duration

/-- The source's equality of optional snapshots. -/
def SameSnapshot : Option BindingSnapshot → Option BindingSnapshot → Prop
  | none, none => True
  | some snapshot, some other =>
      Table.SameEntries snapshot.entries other.entries
  | none, some _ => False
  | some _, none => False

instance : DecidableRel SameSnapshot
  | none, none => isTrue trivial
  | some _, some _ => inferInstanceAs (Decidable (Table.SameEntries _ _))
  | none, some _ => isFalse id
  | some _, none => isFalse id

/-- The fallback when an instant cannot be represented: 60 seconds. -/
def deadlineFallback : Duration := 60 * 1000000000

def leaseExpiry (now : Instant) (expiresIn : Duration) : Instant :=
  (checkedAdd now expiresIn).getD (now + deadlineFallback)

def nextKeepAlive (now : Instant) (expiresIn : Duration) : Instant :=
  let interval := expiresIn / 2
  let interval := if interval = 0 then 1 else interval
  (checkedAdd now interval).getD (now + deadlineFallback)

/-- Doubling saturates at a value no configured maximum exceeds. -/
def nextBackoff (current maximum : Duration) : Duration :=
  min (2 * current) maximum

namespace RegistrationState

def new (key : RegistrationKey) (desiredVersion : Nat)
    (snapshot : Option BindingSnapshot) (now : Instant)
    (retryInitial retryMax : Duration) : RegistrationState where
  key := key
  desiredVersion := desiredVersion
  snapshot := snapshot
  lease := none
  syncedVersion := none
  pending := none
  nextAttemptId := 1
  terminal := false
  preconditionProbeActive := false
  validateLease := false
  retryAt := now
  retryBackoff := retryInitial
  retryInitial := retryInitial
  retryMax := retryMax

def isDesired (state : RegistrationState) : Bool :=
  state.snapshot.isSome

def isRemovable (state : RegistrationState) : Bool :=
  state.snapshot.isNone && state.lease.isNone && state.pending.isNone

def phase (state : RegistrationState) : RegistrationPhase :=
  if state.terminal then
    .terminal
  else if state.snapshot.isNone then
    if state.isRemovable then .removed else .deregistering
  else
    match state.lease with
    | none => .registering
    | some lease =>
        if state.validateLease = false ∧
            state.syncedVersion = some state.desiredVersion then
          .synced
        else if lease.revision.isNone then
          .leased
        else
          .unsynced

def isSynced (state : RegistrationState) : Bool :=
  state.phase = .synced

def currentLeaseId (state : RegistrationState) : Option LeaseId :=
  state.lease.map LeaseState.id

def resetRetry (state : RegistrationState) (now : Instant) :
    RegistrationState :=
  { state with retryAt := now, retryBackoff := state.retryInitial }

/-- The earliest instant at which `begin_next` may offer something new. -/
def nextDeadline (state : RegistrationState) (now : Instant) :
    Option Instant :=
  if state.pending.isSome || state.terminal then
    none
  else if now < state.retryAt then
    some state.retryAt
  else if state.isSynced then
    state.lease.map LeaseState.keepAliveAt
  else
    none

/-- Whether the shard has already expired the lease. -/
def leaseExpired (state : RegistrationState) (now : Instant) : Bool :=
  state.lease.all fun lease => lease.expiresAt ≤ now

/-! ## Publication -/

def publish (state : RegistrationState) (desiredVersion : Nat)
    (snapshot : Option BindingSnapshot) (now : Instant) : RegistrationState :=
  if desiredVersion ≤ state.desiredVersion then
    state
  else
    let unchanged := decide (SameSnapshot state.snapshot snapshot)
    let wasSynced := state.isSynced
    let published :=
      { state with
        desiredVersion := desiredVersion
        snapshot := snapshot
        syncedVersion :=
          if unchanged && wasSynced then some desiredVersion else none }
    -- a terminal registration cannot complete Deregister
    let published :=
      if published.terminal && published.snapshot.isNone then
        { published with lease := none, pending := none, validateLease := false }
      else
        published
    if unchanged then published else published.resetRetry now

/-! ## Choosing the next operation -/

/-- The revision of the next update under a lease. -/
def nextRevision (lease : LeaseState) : Except String RegistrationRevision :=
  match lease.revision with
  | none => .ok RegistrationRevision.first
  | some revision =>
      match checkedSucc revision.number with
      | none => .error "registration revision exhausted"
      | some number =>
          if positive : 0 < number then
            .ok ⟨number, positive⟩
          else
            .error "registration revision is invalid"

/-- The operation that is due, if any. -/
def nextAction (state : RegistrationState) (now : Instant) :
    Except String (Option RegistrationAction) :=
  match state.snapshot, state.lease with
  | none, none => .ok none
  | none, some lease => .ok (some (.deregister state.key lease.id))
  | some _, none => .ok (some (.register state.key))
  | some snapshot, some lease =>
      if state.validateLease then
        .ok (some (.keepAlive state.key lease.id))
      else if state.syncedVersion ≠ some state.desiredVersion then
        match nextRevision lease with
        | .error message => .error message
        | .ok revision =>
            .ok (some (.update state.key lease.id revision snapshot))
      else if lease.keepAliveAt ≤ now then
        .ok (some (.keepAlive state.key lease.id))
      else
        .ok none

def beginNext (state : RegistrationState) (now : Instant) :
    Except String (Option OperationTicket × RegistrationState) :=
  if state.pending.isSome || state.terminal || decide (now < state.retryAt) then
    .ok (none, state)
  else
    match state.nextAction now with
    | .error message => .error message
    | .ok none => .ok (none, state)
    | .ok (some action) =>
        match checkedSucc state.nextAttemptId with
        | none =>
            .error "registration operation attempt identifier exhausted"
        | some nextAttemptId =>
            let ticket : OperationTicket :=
              ⟨state.nextAttemptId, state.desiredVersion, action⟩
            .ok (some ticket,
              { state with
                nextAttemptId := nextAttemptId
                pending := some ticket })

/-! ## Answers -/

/-- Take the pending ticket; the answer is for the current lease exactly when
the flag is set. -/
def takePending (state : RegistrationState) (ticket : OperationTicket) :
    Bool × RegistrationState :=
  match state.pending with
  | none => (false, state)
  | some pending =>
      if pending.Same ticket then
        (decide (state.currentLeaseId = ticket.action.leaseId),
          { state with pending := none })
      else
        (false, state)

/-- Take the pending ticket; the flag also needs the current desired version. -/
def takeCurrent (state : RegistrationState) (ticket : OperationTicket) :
    Bool × RegistrationState :=
  let (taken, state) := state.takePending ticket
  (taken && decide (state.desiredVersion = ticket.desiredVersion), state)

def registerSucceeded (state : RegistrationState) (ticket : OperationTicket)
    (ack : RegistrationAck) (now : Instant) : RegistrationState :=
  let (current, state) := state.takeCurrent ticket
  if current && ticket.action.isRegister then
    resetRetry
      { state with
        lease := some
          { id := ack.leaseId
            revision := ack.acceptedRevision
            keepAliveAt := nextKeepAlive now ack.expiresIn
            expiresAt := leaseExpiry now ack.expiresIn }
        syncedVersion := none
        validateLease := false }
      now
  else
    state

/-- The shard accepted this revision even if the desired state moved on. -/
def updateSucceeded (state : RegistrationState) (ticket : OperationTicket)
    (ack : RegistrationAck) (now : Instant) : RegistrationState :=
  match ticket.action with
  | .update _ leaseId revision _ =>
      let (taken, state) := state.takePending ticket
      if taken && decide (ack.leaseId = leaseId) then
        match state.lease with
        | none => state
        | some lease =>
            if lease.id ≠ leaseId then
              state
            else
              resetRetry
                { state with
                  lease := some
                    { lease with
                      revision := some revision
                      keepAliveAt := nextKeepAlive now ack.expiresIn
                      expiresAt := leaseExpiry now ack.expiresIn }
                  syncedVersion :=
                    if state.desiredVersion = ticket.desiredVersion then
                      some ticket.desiredVersion
                    else
                      state.syncedVersion
                  preconditionProbeActive := false
                  validateLease := false }
                now
      else
        state
  | _ => state

def keepAliveSucceeded (state : RegistrationState) (ticket : OperationTicket)
    (ack : RegistrationAck) (now : Instant) : RegistrationState :=
  match ticket.action with
  | .keepAlive _ leaseId =>
      let (current, state) := state.takeCurrent ticket
      if current && decide (ack.leaseId = leaseId) then
        match state.lease with
        | none => state
        | some lease =>
            if lease.id ≠ leaseId then
              state
            else
              resetRetry
                { state with
                  lease := some
                    { lease with
                      keepAliveAt := nextKeepAlive now ack.expiresIn
                      expiresAt := leaseExpiry now ack.expiresIn }
                  preconditionProbeActive := false
                  validateLease := false }
                now
      else
        state
  | _ => state

def terminalFailure (state : RegistrationState) (ticket : OperationTicket) :
    RegistrationState :=
  let (current, state) := state.takeCurrent ticket
  if current then
    { state with syncedVersion := none, terminal := true }
  else
    state

/-- The first lease-bound FAILED_PRECONDITION starts one idempotent REGISTER
probe; a failed probe, or another lease-bound failure before a successful lease
operation, makes the registration terminal. -/
def preconditionFailed (state : RegistrationState) (ticket : OperationTicket)
    (now : Instant) : RegistrationState :=
  match ticket.action.leaseId with
  | none => state.terminalFailure ticket
  | some expected =>
      let (current, state) := state.takeCurrent ticket
      if current then
        if state.preconditionProbeActive then
          { state with syncedVersion := none, terminal := true }
        else if state.currentLeaseId = some expected then
          resetRetry
            { state with
              preconditionProbeActive := true
              lease := none
              syncedVersion := none
              validateLease := false }
            now
        else
          state
      else
        state

def transientFailure (state : RegistrationState) (ticket : OperationTicket)
    (now : Instant) : RegistrationState :=
  let (current, state) := state.takeCurrent ticket
  if current then
    { state with
      syncedVersion := none
      retryAt := now + state.retryBackoff
      retryBackoff := nextBackoff state.retryBackoff state.retryMax }
  else
    state

def connectionLost (state : RegistrationState) (now : Instant) :
    RegistrationState :=
  resetRetry
    { state with validateLease := state.validateLease || state.lease.isSome }
    now

def markTerminal (state : RegistrationState) : RegistrationState :=
  let marked :=
    { state with pending := none, syncedVersion := none, terminal := true }
  if marked.snapshot.isNone then
    { marked with lease := none, validateLease := false }
  else
    marked

def finishDeregister (state : RegistrationState) (ticket : OperationTicket) :
    RegistrationState :=
  let (current, state) := state.takeCurrent ticket
  if current && ticket.action.isDeregister then
    { state with lease := none, syncedVersion := none, validateLease := false }
  else
    state

end RegistrationState

end RelayGate.Routing
