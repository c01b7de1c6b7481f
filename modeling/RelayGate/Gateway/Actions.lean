import RelayGate.Gateway.Safety

/-!
# What an event asks for and returns

The frame, the operation and the session of an event, the actions it returns, and
the entries the events insert.
-/

namespace RelayGate.Gateway

open Library
open RouteTable (BindingProjection)

/-! ## What an event asks for -/

namespace Event

/-- The SDK frame of an event. -/
def frame? : Event → Option (SessionId × Frame)
  | .handle sessionId frame _ => some (sessionId, frame)
  | .handleAt _ sessionId frame _ => some (sessionId, frame)
  | _ => none

/-- The control operation of an event. -/
def operation? : Event → Option (SessionId × ControlOperation)
  | .prepare sessionId operation _ => some (sessionId, operation)
  | .commit sessionId operation _ _ _ => some (sessionId, operation)
  | .refuse sessionId operation _ => some (sessionId, operation)
  | .handle sessionId frame _ | .handleAt _ sessionId frame _ =>
      match ControlOperation.take frame with
      | .ok (operation, _) => some (sessionId, operation)
      | .error _ => none
  | _ => none

/-- The SDK session an event is sent by. -/
def session? : Event → Option SessionId
  | .prepare sessionId _ _ | .commit sessionId _ _ _ _ | .refuse sessionId _ _
  | .handle sessionId _ _ | .handleAt _ sessionId _ _ => some sessionId
  | _ => none

theorem session?_of_frame? {event : Event} {sessionId : SessionId} {frame : Frame}
    (sent : event.frame? = some (sessionId, frame)) : event.session? = some sessionId := by
  cases event with
  | handle | handleAt =>
    cases sent
    rfl
  | _ => cases sent

end Event

/-! ## What an event returns -/

/-- The actions of a handled frame; a violation has none. -/
def answered : Except ProtocolViolation (List GatewayAction) → List GatewayAction
  | .ok actions => actions
  | .error _ => []

/-- The actions of an event. -/
def World.actions (world : World) : Event → List GatewayAction
  | .addSession _ _ => []
  | .removeSession sessionId => (world.state.removeSession sessionId).1
  | .prepare sessionId operation now =>
      (world.state.prepareAuthorization sessionId operation now).1.getD []
  | .commit sessionId operation verified draws now =>
      (world.state.commitAuthorized draws sessionId operation verified now).1
  | .refuse sessionId operation code =>
      world.state.authorizationFailed sessionId operation code
  | .handle sessionId frame now =>
      answered (world.state.handle sessionId frame now).1
  | .handleAt draws sessionId frame now =>
      answered (world.state.handleAt draws sessionId frame now).1
  | .offerDeliveryRejected acceptor pipeId =>
      (world.state.offerDeliveryRejected acceptor pipeId).1
  | .expireOffers now order => (world.state.expireOffers now order).1
  | .beginDraining => world.state.beginDraining.1
  | .routeResolved openIdentity bindings now =>
      (world.state.routeResolved openIdentity bindings now).1
  | .routeFailed openIdentity code message =>
      (world.state.routeFailed openIdentity code message).1
  | .peerOpenCommitted openIdentity key =>
      (world.state.peerOpenCommitted openIdentity key).1
  | .peerOpenCommitFailed openIdentity code observation message =>
      (world.state.peerOpenCommitFailed openIdentity code observation message).1
  | .receivePeerOpen key openIdentity destination relaySessionId bindingId now =>
      (world.state.receivePeerOpenAt key openIdentity destination relaySessionId
        bindingId now).1
  | .peerOpened key openIdentity now =>
      (world.state.peerOpenedAt key openIdentity now).1
  | .peerOpenFailed key openIdentity code observation message =>
      (world.state.peerOpenFailed key openIdentity code observation message).1
  | .peerTransportLostStream key openIdentity observation =>
      (world.state.peerTransportLostStream key openIdentity observation).1
  | .peerData key payload => (world.state.peerData key payload).1
  | .peerFin key => (world.state.peerFin key).1
  | .peerClose key => (world.state.peerClose key).1
  | .peerReset key code message => (world.state.peerReset key code message).1
  | .rehash _ => []

theorem GatewayState.eq_of_mem_sendTo {state : GatewayState} {action : GatewayAction}
    {target : SessionId} {frame : Frame} (sent : action ∈ state.sendTo target frame) :
    action = .sendSdkFrame target frame := by
  unfold sendTo at sent
  split at sent
  · exact List.mem_singleton.mp sent
  · cases sent

/-! ## The entries of new Pipes -/

/-- The offer of a Pipe dialed by a local session to a local binding. -/
def localOffer (pipeId : PipeId) (binding : Binding) (now : Instant) :
    PipeEntry where
  dialer := .sdk pipeId.originSessionId
  acceptor := .sdk binding.sessionId
  bindingId := binding.id
  openIdentity := none
  phase := .offered
  offeredAt := now
  dialerFinished := false
  acceptorFinished := false

/-- The offer of a Pipe dialed by a peer to a local binding. -/
def peerOffer (key : PeerStreamKey) (openIdentity : OpenIdentity)
    (binding : Binding) (now : Instant) : PipeEntry where
  dialer := .peer key
  acceptor := .sdk binding.sessionId
  bindingId := binding.id
  openIdentity := some openIdentity
  phase := .offered
  offeredAt := now
  dialerFinished := false
  acceptorFinished := false

/-- The Pipe of an attempt that a peer has opened. -/
def remotePipe (key : PeerStreamKey) (openIdentity : OpenIdentity)
    (dialer : SessionId) (bindingId : BindingId) (now : Instant) :
    PipeEntry where
  dialer := .sdk dialer
  acceptor := .peer key
  bindingId := bindingId
  openIdentity := some openIdentity
  phase := .open
  offeredAt := now
  dialerFinished := false
  acceptorFinished := false

end RelayGate.Gateway
