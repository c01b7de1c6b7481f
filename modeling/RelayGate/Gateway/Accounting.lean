import RelayGate.Gateway.Ownership
import RelayGate.Gateway.Session

/-!
# Accounting of the Gateway state

The invariant that ties the counters and indexes of a `GatewayState` to its
Pipe and attempt tables, and its preservation by the helpers through which the
transitions edit those tables.  The sessions that may appear as endpoints are a
parameter, so that the cleanup of a session can be followed while the session
is already gone.
-/

namespace RelayGate.Gateway

open Library

/-! ## What the counters count -/

def PipeEntry.isOffered (pipe : PipeEntry) : Bool :=
  pipe.phase = .offered

def PipeEntry.isOpen (pipe : PipeEntry) : Bool :=
  pipe.phase = .open

def PipeEntry.isOriginated (pipe : PipeEntry) : Bool :=
  pipe.isOpen && pipe.originated

namespace GatewayState

/-- The number of Pipes that satisfy a test, by a full scan. -/
def scan (state : GatewayState) (test : PipeEntry → Bool) : Nat :=
  state.pipes.countWhere fun _ pipe => test pipe

/-- A Pipe or a remote attempt holds the identity. -/
def InUse (state : GatewayState) (pipeId : PipeId) : Prop :=
  (∃ pipe, state.pipes.get pipeId = some pipe) ∨
    ∃ openIdentity attempt,
      state.remoteOpenAttempts.get openIdentity = some attempt ∧
        attempt.pipeId = pipeId

/-- A remote attempt has reserved the stream. -/
def Awaits (state : GatewayState) (openIdentity : OpenIdentity)
    (key : PeerStreamKey) : Prop :=
  ∃ attempt bindingId,
    state.remoteOpenAttempts.get openIdentity = some attempt ∧
      attempt.phase = .awaitingPeer key bindingId

/-- The stream belongs to no Pipe and to no awaiting attempt. -/
def StreamFree (state : GatewayState) (key : PeerStreamKey) : Prop :=
  state.peerPipes.get key = none ∧
    ∀ openIdentity, ¬ state.Awaits openIdentity key

end GatewayState

/-- A Pipe entry is well formed: a remote end and an open identity go together,
and an identity names the Pipe it is for. -/
structure PipeEntry.WellFormed (pipe : PipeEntry) (pipeId : PipeId) : Prop where
  identified : pipe.openIdentity.isSome = pipe.peerKey.isSome
  named : ∀ openIdentity, pipe.openIdentity = some openIdentity →
    pipeId = openIdentity.pipeId
  oneRemote : pipe.dialer.peerKey = none ∨ pipe.acceptor.peerKey = none

/-- Each counter is exact for the scan it replaces. -/
structure Counted (state : GatewayState) : Prop where
  pending : state.pendingOfferCount.Exact (state.scan PipeEntry.isOffered)
  live : state.livePipeCount.Exact (state.scan PipeEntry.isOpen)
  originated :
    state.originatedPipeCount.Exact (state.scan PipeEntry.isOriginated)

/-- The counters and indexes agree with the tables. -/
structure Accounted (present : SessionId → Prop) (state : GatewayState) :
    Prop where
  counted : Counted state
  peerPipes : ∀ key pipeId, state.peerPipes.get key = some pipeId ↔
    ∃ pipe, state.pipes.get pipeId = some pipe ∧ pipe.peerKey = some key
  activeOpens : ∀ openIdentity key,
    state.activePeerOpens.get openIdentity = some key ↔
      (∃ pipeId pipe, state.pipes.get pipeId = some pipe ∧
        pipe.openIdentity = some openIdentity ∧ pipe.peerKey = some key) ∨
      state.Awaits openIdentity key
  wellFormed : ∀ pipeId pipe, state.pipes.get pipeId = some pipe →
    pipe.WellFormed pipeId
  endpoints : ∀ pipeId pipe sessionId, state.pipes.get pipeId = some pipe →
    pipe.dialer = .sdk sessionId ∨ pipe.acceptor = .sdk sessionId →
      present sessionId
  attempts : ∀ openIdentity attempt,
    state.remoteOpenAttempts.get openIdentity = some attempt →
      attempt.pipeId = openIdentity.pipeId ∧
        state.gatewayId = some openIdentity.entryGateway ∧
        present attempt.pipeId.originSessionId ∧
        state.pipes.get attempt.pipeId = none
  reserved : ∀ openIdentity key, state.Awaits openIdentity key →
    state.peerPipes.get key = none ∧
      ∀ other, state.Awaits other key → other = openIdentity
  owners : state.registry.Owned present
  notOverwritten : state.overwritten = false

/-! ## Lookups after an edit -/

namespace GatewayState

variable {pipeId : PipeId} {pipe : PipeEntry} {state : GatewayState}

theorem removePipe_of_some (stored : state.pipes.get pipeId = some pipe) :
    state.removePipe pipeId =
      (some pipe,
        discountPipe { state with pipes := state.pipes.remove pipeId } pipe) := by
  simp only [removePipe, stored]

theorem removePipe_of_none (absent : state.pipes.get pipeId = none) :
    state.removePipe pipeId = (none, state) := by
  simp only [removePipe, absent]

theorem promoteOffer_of_offered (stored : state.pipes.get pipeId = some pipe)
    (phase : pipe.phase = .offered) :
    state.promoteOffer pipeId =
      (some { pipe with phase := .open },
        { state with
          pipes := state.pipes.insert pipeId { pipe with phase := .open }
          pendingOfferCount := state.pendingOfferCount.sub 1
          livePipeCount := state.livePipeCount.add 1
          originatedPipeCount :=
            if pipe.originated then state.originatedPipeCount.add 1
            else state.originatedPipeCount }) := by
  simp only [promoteOffer, stored, phase, ne_eq, not_true_eq_false, if_false]
  rfl

section

variable (state : GatewayState)

theorem get_peerPipes_discountPipe (pipe : PipeEntry) (key : PeerStreamKey) :
    (state.discountPipe pipe).peerPipes.get key =
      if pipe.peerKey = some key then none else state.peerPipes.get key := by
  cases indexed : pipe.peerKey with
  | none => simp [discountPipe, indexed]
  | some current =>
    by_cases same : key = current
    · simp [discountPipe, indexed, same]
    · simp [discountPipe, indexed, Table.get_remove, same, Ne.symm same]

theorem get_activePeerOpens_discountPipe (pipe : PipeEntry) (openIdentity : OpenIdentity) :
    (state.discountPipe pipe).activePeerOpens.get openIdentity =
      if pipe.openIdentity = some openIdentity then none
      else state.activePeerOpens.get openIdentity := by
  cases active : pipe.openIdentity with
  | none => simp [discountPipe, active]
  | some current =>
    by_cases same : openIdentity = current
    · simp [discountPipe, active, same]
    · simp [discountPipe, active, Table.get_remove, same, Ne.symm same]

theorem get_peerPipes_indexPeerPipe (pipeId : PipeId) (pipe : PipeEntry) (key : PeerStreamKey) :
    (state.indexPeerPipe pipeId pipe).peerPipes.get key =
      if pipe.peerKey = some key then some pipeId
      else state.peerPipes.get key := by
  cases indexed : pipe.peerKey with
  | none => simp [indexPeerPipe, indexed]
  | some current =>
    by_cases same : key = current
    · simp [indexPeerPipe, indexed, same]
    · simp [indexPeerPipe, indexed, Table.get_insert, same, Ne.symm same]

theorem get_activePeerOpens_indexPeerPipe (wellFormed : pipe.WellFormed pipeId)
    (openIdentity : OpenIdentity) :
    (state.indexPeerPipe pipeId pipe).activePeerOpens.get openIdentity =
      if pipe.openIdentity = some openIdentity then pipe.peerKey
      else state.activePeerOpens.get openIdentity := by
  have identified := wellFormed.identified
  cases active : pipe.openIdentity with
  | none =>
    cases indexed : pipe.peerKey with
    | none => simp [indexPeerPipe, indexed]
    | some => simp [active, indexed] at identified
  | some current =>
    cases indexed : pipe.peerKey with
    | none => simp [active, indexed] at identified
    | some =>
      by_cases same : openIdentity = current
      · simp [indexPeerPipe, indexed, active, same]
      · simp [indexPeerPipe, indexed, active, Table.get_insert, same, Ne.symm same]

end

/-- Indexing a Pipe on a free stream under a free identity meets no entry. -/
theorem overwritten_indexPeerPipe (pipeId : PipeId)
    (streamFree : ∀ key, pipe.peerKey = some key → state.peerPipes.get key = none)
    (identityFree : ∀ openIdentity, pipe.openIdentity = some openIdentity →
      state.activePeerOpens.get openIdentity = none) :
    (state.indexPeerPipe pipeId pipe).overwritten = state.overwritten := by
  cases indexed : pipe.peerKey with
  | none => simp [indexPeerPipe, indexed]
  | some key =>
    cases active : pipe.openIdentity with
    | none => simp [indexPeerPipe, indexed, active, streamFree key indexed]
    | some openIdentity =>
      simp [indexPeerPipe, indexed, active, streamFree key indexed,
        identityFree openIdentity active]

section Unindexed

variable (state : GatewayState) (pipeId : PipeId) (pipe : PipeEntry)

@[simp]
theorem pipes_indexPeerPipe : (state.indexPeerPipe pipeId pipe).pipes = state.pipes := by
  unfold indexPeerPipe
  split <;> rfl

@[simp]
theorem remoteOpenAttempts_indexPeerPipe :
    (state.indexPeerPipe pipeId pipe).remoteOpenAttempts = state.remoteOpenAttempts := by
  unfold indexPeerPipe
  split <;> rfl

@[simp]
theorem registry_indexPeerPipe : (state.indexPeerPipe pipeId pipe).registry = state.registry := by
  unfold indexPeerPipe
  split <;> rfl

@[simp]
theorem gatewayId_indexPeerPipe :
    (state.indexPeerPipe pipeId pipe).gatewayId = state.gatewayId := by
  unfold indexPeerPipe
  split <;> rfl

@[simp]
theorem sessions_indexPeerPipe : (state.indexPeerPipe pipeId pipe).sessions = state.sessions := by
  unfold indexPeerPipe
  split <;> rfl

@[simp]
theorem pendingOfferCount_indexPeerPipe :
    (state.indexPeerPipe pipeId pipe).pendingOfferCount = state.pendingOfferCount := by
  unfold indexPeerPipe
  split <;> rfl

@[simp]
theorem livePipeCount_indexPeerPipe :
    (state.indexPeerPipe pipeId pipe).livePipeCount = state.livePipeCount := by
  unfold indexPeerPipe
  split <;> rfl

@[simp]
theorem originatedPipeCount_indexPeerPipe :
    (state.indexPeerPipe pipeId pipe).originatedPipeCount = state.originatedPipeCount := by
  unfold indexPeerPipe
  split <;> rfl

end Unindexed

end GatewayState

/-! ## Counters -/

namespace GatewayState

variable (state : GatewayState) (pipe : PipeEntry)

theorem pendingOfferCount_discountPipe :
    (state.discountPipe pipe).pendingOfferCount =
      if pipe.isOffered then state.pendingOfferCount.sub 1
      else state.pendingOfferCount := by
  cases phase : pipe.phase <;> simp [discountPipe, PipeEntry.isOffered, phase]

theorem livePipeCount_discountPipe :
    (state.discountPipe pipe).livePipeCount =
      if pipe.isOpen then state.livePipeCount.sub 1
      else state.livePipeCount := by
  cases phase : pipe.phase <;> simp [discountPipe, PipeEntry.isOpen, phase]

theorem originatedPipeCount_discountPipe :
    (state.discountPipe pipe).originatedPipeCount =
      if pipe.isOriginated then state.originatedPipeCount.sub 1
      else state.originatedPipeCount := by
  simp [discountPipe, PipeEntry.isOriginated, PipeEntry.isOpen]

end GatewayState

namespace Counted

variable {state : GatewayState} {pipeId : PipeId} {pipe : PipeEntry}
  (counted : Counted state)
include counted

theorem removePipe (stored : state.pipes.get pipeId = some pipe) :
    Counted (state.removePipe pipeId).2 := by
  have removed := fun test : PipeEntry → Bool =>
    Table.countWhere_remove_of_some stored (fun _ pipe => test pipe)
  rw [GatewayState.removePipe_of_some stored]
  constructor
  · rw [GatewayState.pendingOfferCount_discountPipe]
    exact counted.pending.subIf (removed _)
  · rw [GatewayState.livePipeCount_discountPipe]
    exact counted.live.subIf (removed _)
  · rw [GatewayState.originatedPipeCount_discountPipe]
    exact counted.originated.subIf (removed _)

/-- A fresh Pipe is counted by the counters of its phase. -/
theorem inserted (pipe : PipeEntry) {target : GatewayState}
    (fresh : state.pipes.get pipeId = none)
    (pipes : target.pipes = state.pipes.insert pipeId pipe)
    (pending : target.pendingOfferCount =
      if pipe.isOffered then state.pendingOfferCount.add 1
      else state.pendingOfferCount)
    (live : target.livePipeCount =
      if pipe.isOpen then state.livePipeCount.add 1 else state.livePipeCount)
    (originated : target.originatedPipeCount =
      if pipe.isOriginated then state.originatedPipeCount.add 1
      else state.originatedPipeCount) :
    Counted target := by
  have added : ∀ test : PipeEntry → Bool,
      target.scan test = state.scan test + if test pipe then 1 else 0 := by
    intro test
    unfold GatewayState.scan
    rw [pipes]
    exact Table.countWhere_insert_of_none pipe fresh (fun _ pipe => test pipe)
  constructor
  · rw [pending]
    exact counted.pending.addIf (added _)
  · rw [live]
    exact counted.live.addIf (added _)
  · rw [originated]
    exact counted.originated.addIf (added _)

theorem insertOffer (fresh : state.pipes.get pipeId = none)
    (phase : pipe.phase = .offered) : Counted (state.insertOffer pipeId pipe) := by
  have offered : pipe.isOffered = true := by
    simp [PipeEntry.isOffered, phase]
  have opened : pipe.isOpen = false := by
    simp [PipeEntry.isOpen, phase]
  apply counted.inserted pipe fresh
  · simp [GatewayState.insertOffer]
  · simp [GatewayState.insertOffer, offered]
  · simp [GatewayState.insertOffer, opened]
  · simp [GatewayState.insertOffer, PipeEntry.isOriginated, opened]

theorem insertOpen (fresh : state.pipes.get pipeId = none) (phase : pipe.phase = .open) :
    Counted (state.insertOpen pipeId pipe) := by
  have offered : pipe.isOffered = false := by
    simp [PipeEntry.isOffered, phase]
  have opened : pipe.isOpen = true := by
    simp [PipeEntry.isOpen, phase]
  apply counted.inserted pipe fresh
  · simp [GatewayState.insertOpen]
  · simp [GatewayState.insertOpen, offered]
  · simp [GatewayState.insertOpen, opened]
  · simp [GatewayState.insertOpen, PipeEntry.isOriginated, opened]

/-- A replaced Pipe that keeps its phase and dialer keeps every count. -/
theorem replaced {updated : PipeEntry} (stored : state.pipes.get pipeId = some pipe)
    (phase : updated.phase = pipe.phase) (dialer : updated.dialer = pipe.dialer) :
    Counted { state with pipes := state.pipes.insert pipeId updated } := by
  have kept : ∀ test : PipeEntry → Bool, test updated = test pipe →
      state.scan test =
        (state.pipes.insert pipeId updated).countWhere
          fun _ pipe => test pipe := by
    intro test same
    have exchanged := Table.countWhere_insert_of_some updated stored
      (fun _ pipe => test pipe)
    simp only [same] at exchanged
    exact (Nat.add_right_cancel exchanged).symm
  constructor
  · exact counted.pending.of_eq
      (kept _ (by simp only [PipeEntry.isOffered, phase]))
  · exact counted.live.of_eq (kept _ (by simp only [PipeEntry.isOpen, phase]))
  · exact counted.originated.of_eq
      (kept _ (by simp only [PipeEntry.isOriginated, PipeEntry.isOpen,
        PipeEntry.originated, phase, dialer]))

/-- A promoted offer moves from the pending to the live count. -/
theorem promoteOffer (stored : state.pipes.get pipeId = some pipe)
    (phase : pipe.phase = .offered) : Counted (state.promoteOffer pipeId).2 := by
  have exchanged := fun test : PipeEntry → Bool =>
    Table.countWhere_insert_of_some { pipe with phase := .open } stored
      (fun _ pipe => test pipe)
  have offered := exchanged PipeEntry.isOffered
  have opened := exchanged PipeEntry.isOpen
  have originated := exchanged PipeEntry.isOriginated
  have wasOffered : pipe.isOffered = true := by
    simp [PipeEntry.isOffered, phase]
  have wasClosed : pipe.isOpen = false := by
    simp [PipeEntry.isOpen, phase]
  have wasUncounted : pipe.isOriginated = false := by
    simp [PipeEntry.isOriginated, wasClosed]
  rw [GatewayState.promoteOffer_of_offered stored phase]
  constructor
  · rw [wasOffered] at offered
    exact counted.pending.sub offered
  · rw [wasClosed] at opened
    exact (counted.live.add 1).of_eq opened.symm
  · rw [wasUncounted] at originated
    exact counted.originated.addIf originated

end Counted

end RelayGate.Gateway
