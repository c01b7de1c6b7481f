import RelayGate.Gateway.Preservation
import RelayGate.Library.Execution

/-!
# Runs of the Gateway state core

The events that reach a `GatewayState`, in any order and with any arguments.  A
control operation that was admitted to authorization waits in `authorizing`
until its verification ends, so the world remembers it beside the state.  The runs
are under conditions on the environment, which are guards of the events that need them.
-/

namespace RelayGate.Gateway

open Library
open RouteTable (BindingProjection)

/-- The state core and the operations whose authorization is in progress. -/
structure World where
  state : GatewayState
  authorizing : List (SessionId × ControlOperation)

/-- An operation of the state core with its arguments. -/
inductive Event
  | addSession (draws : Draws SessionId) (now : Instant)
  | removeSession (sessionId : SessionId)
  | prepare (sessionId : SessionId) (operation : ControlOperation)
      (now : Instant)
  | commit (sessionId : SessionId) (operation : ControlOperation)
      (verified : VerifiedAuthorization) (draws : Draws BindingId)
      (now : Instant)
  | refuse (sessionId : SessionId) (operation : ControlOperation)
      (code : ErrorCode)
  | handle (sessionId : SessionId) (frame : Frame) (now : Instant)
  | handleAt (draws : Draws BindingId) (sessionId : SessionId) (frame : Frame)
      (now : Instant)
  | offerDeliveryRejected (acceptor : SessionId) (pipeId : PipeId)
  | expireOffers (now : Instant) (order : List SessionId → List SessionId)
  | beginDraining
  | routeResolved (openIdentity : OpenIdentity)
      (bindings : List BindingProjection) (now : Instant)
  | routeFailed (openIdentity : OpenIdentity) (code : ErrorCode)
      (message : String)
  | peerOpenCommitted (openIdentity : OpenIdentity) (key : PeerStreamKey)
  | peerOpenCommitFailed (openIdentity : OpenIdentity) (code : ErrorCode)
      (observation : PeerObservation) (message : String)
  | receivePeerOpen (key : PeerStreamKey) (openIdentity : OpenIdentity)
      (destination : Destination) (relaySessionId : SessionId)
      (bindingId : BindingId) (now : Instant)
  | peerOpened (key : PeerStreamKey) (openIdentity : OpenIdentity)
      (now : Instant)
  | peerOpenFailed (key : PeerStreamKey) (openIdentity : OpenIdentity)
      (code : ErrorCode) (observation : PeerObservation) (message : String)
  | peerTransportLostStream (key : PeerStreamKey) (openIdentity : OpenIdentity)
      (observation : PeerObservation)
  | peerData (key : PeerStreamKey) (payload : List UInt8)
  | peerFin (key : PeerStreamKey)
  | peerClose (key : PeerStreamKey)
  | peerReset (key : PeerStreamKey) (code : ErrorCode) (message : String)
  | rehash (target : GatewayState)

/-- Two states that differ in the iteration order of their hash tables only. -/
structure GatewayState.Rehashed (state target : GatewayState) : Prop where
  sessions : ∀ key, target.sessions.get key = state.sessions.get key
  pipes : ∀ key, target.pipes.get key = state.pipes.get key
  peerPipes : ∀ key, target.peerPipes.get key = state.peerPipes.get key
  activePeerOpens : ∀ key,
    target.activePeerOpens.get key = state.activePeerOpens.get key
  remoteOpenAttempts : ∀ key,
    target.remoteOpenAttempts.get key = state.remoteOpenAttempts.get key
  byId : ∀ key, target.registry.byId.get key = state.registry.byId.get key
  byDestination : ∀ key, target.registry.byDestination.get key =
    state.registry.byDestination.get key
  bySession : ∀ bucket key, target.registry.bySession.find bucket key =
    state.registry.bySession.find bucket key
  nextSelection : ∀ key, target.registry.nextSelection.get key =
    state.registry.nextSelection.get key
  pendingOfferCount : target.pendingOfferCount = state.pendingOfferCount
  livePipeCount : target.livePipeCount = state.livePipeCount
  originatedPipeCount : target.originatedPipeCount = state.originatedPipeCount
  draining : target.draining = state.draining
  gatewayId : target.gatewayId = state.gatewayId
  limits : target.limits = state.limits
  controlRate : target.controlRate = state.controlRate
  overwritten : target.overwritten = state.overwritten

/-- The session has dialed the connection or a later one. -/
def SessionEntry.Spent (session : SessionEntry) (connectionId : Nat) : Prop :=
  ∃ highest, session.highestConnectionId = some highest ∧
    connectionId ≤ highest

namespace World

def initial (limits : GatewayLimits) (gatewayId : Option GatewayId)
    (now : Instant) : World :=
  ⟨GatewayState.build limits gatewayId now, []⟩

/-- The Pipe identity an operation asks for. -/
def dialId : SessionId × ControlOperation → Option PipeId
  | (sessionId, .dial connectionId _) => some ⟨sessionId, connectionId⟩
  | (_, .publish _ _) => none

/-- The Pipe identities of the DIALs whose authorization is in progress. -/
def dialing (world : World) : List PipeId :=
  world.authorizing.filterMap dialId

/-- Apply an event. -/
def apply (world : World) : Event → World
  | .addSession draws now =>
      { world with state := (world.state.addSession draws now).2 }
  | .removeSession sessionId =>
      { world with state := (world.state.removeSession sessionId).2 }
  | .prepare sessionId operation now =>
      match world.state.prepareAuthorization sessionId operation now with
      | (some _, state) => { world with state := state }
      | (none, state) =>
          ⟨state, world.authorizing ++ [(sessionId, operation)]⟩
  | .commit sessionId operation verified draws now =>
      ⟨(world.state.commitAuthorized draws sessionId operation verified
          now).2, world.authorizing.erase (sessionId, operation)⟩
  | .refuse sessionId operation _ =>
      { world with
        authorizing := world.authorizing.erase (sessionId, operation) }
  | .handle sessionId frame now =>
      { world with state := (world.state.handle sessionId frame now).2 }
  | .handleAt draws sessionId frame now =>
      { world with
        state := (world.state.handleAt draws sessionId frame now).2 }
  | .offerDeliveryRejected acceptor pipeId =>
      { world with
        state := (world.state.offerDeliveryRejected acceptor pipeId).2 }
  | .expireOffers now order =>
      { world with state := (world.state.expireOffers now order).2 }
  | .beginDraining => { world with state := world.state.beginDraining.2 }
  | .routeResolved openIdentity bindings now =>
      { world with
        state := (world.state.routeResolved openIdentity bindings now).2 }
  | .routeFailed openIdentity code message =>
      { world with
        state := (world.state.routeFailed openIdentity code message).2 }
  | .peerOpenCommitted openIdentity key =>
      { world with
        state := (world.state.peerOpenCommitted openIdentity key).2 }
  | .peerOpenCommitFailed openIdentity code observation message =>
      { world with
        state := (world.state.peerOpenCommitFailed openIdentity code
          observation message).2 }
  | .receivePeerOpen key openIdentity destination relaySessionId bindingId
      now =>
      { world with
        state := (world.state.receivePeerOpenAt key openIdentity destination
          relaySessionId bindingId now).2 }
  | .peerOpened key openIdentity now =>
      { world with
        state := (world.state.peerOpenedAt key openIdentity now).2 }
  | .peerOpenFailed key openIdentity code observation message =>
      { world with
        state := (world.state.peerOpenFailed key openIdentity code observation
          message).2 }
  | .peerTransportLostStream key openIdentity observation =>
      { world with
        state := (world.state.peerTransportLostStream key openIdentity
          observation).2 }
  | .peerData key payload =>
      { world with state := (world.state.peerData key payload).2 }
  | .peerFin key => { world with state := (world.state.peerFin key).2 }
  | .peerClose key => { world with state := (world.state.peerClose key).2 }
  | .peerReset key code message =>
      { world with state := (world.state.peerReset key code message).2 }
  | .rehash target => { world with state := target }

/-! ## Conditions on the environment -/

/-- A drawn session identity that nothing mentions yet. -/
def FreshSession (world : World) (sessionId : SessionId) : Prop :=
  (∀ pipeId, world.state.InUse pipeId → pipeId.originSessionId ≠ sessionId) ∧
    ∀ pipeId ∈ world.dialing, pipeId.originSessionId ≠ sessionId

/-- A condition on the events: a drawn session identity and the stream of a peer OPEN
or OPENED are not in use, and an authorization ends for an admitted operation. -/
def Possible (world : World) : Event → Prop
  | .addSession draws now => ∀ sessionId,
      (world.state.addSession draws now).1 = some sessionId →
        world.FreshSession sessionId
  | .commit sessionId operation _ _ _ =>
      (sessionId, operation) ∈ world.authorizing
  | .refuse sessionId operation _ =>
      (sessionId, operation) ∈ world.authorizing
  | .expireOffers _ order => ∀ sessionIds, (order sessionIds).Perm sessionIds
  | .receivePeerOpen key _ _ _ _ _ => ∀ openIdentity,
      ¬ world.state.Awaits openIdentity key
  | .peerOpened key openIdentity _ => ∀ pipeId bindingId,
      world.state.matchAttempt openIdentity (some key) =
        some (pipeId, .starting bindingId) → world.state.StreamFree key
  | .rehash target => world.state.Rehashed target
  | _ => True

/-- A peer OPEN names an origin session that is not a local session. -/
def ForeignOrigin (world : World) : Event → Prop
  | .receivePeerOpen _ openIdentity _ _ _ _ =>
      world.state.sessions.get openIdentity.originSession = none
  | _ => True

/-- A peer OPEN whose origin is a local session names a connection that the
session has already spent and that is neither attempted nor being authorized. -/
def HarmlessOrigin (world : World) : Event → Prop
  | .receivePeerOpen _ openIdentity _ _ _ _ => ∀ session,
      world.state.sessions.get openIdentity.originSession = some session →
        session.Spent openIdentity.connectionId ∧
        (∀ other attempt,
          world.state.remoteOpenAttempts.get other = some attempt →
            attempt.pipeId ≠ openIdentity.pipeId) ∧
        openIdentity.pipeId ∉ world.dialing
  | _ => True

/-- One event under a condition on the events. -/
def Step (Condition : World → Event → Prop) (world : World) (event : Event)
    (target : World) : Prop :=
  world.Possible event ∧ Condition world event ∧ target = world.apply event

end World

end RelayGate.Gateway
