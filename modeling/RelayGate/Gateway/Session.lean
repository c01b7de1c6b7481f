import RelayGate.Gateway.Remote

/-!
# Sessions and control operations

Admission and removal of sessions, publication of destinations, the two phases
of an authorized control operation, and the dispatch of SDK frames.
-/

namespace RelayGate.Gateway

open Library

/-- The action a token may authorize. -/
inductive Action
  | publish
  | dial
deriving DecidableEq

/-- A frame that needs an authorization, without its token. -/
inductive ControlOperation
  | publish (requestId : Nat) (destination : Destination)
  | dial (connectionId : Nat) (destination : Destination)
deriving DecidableEq

namespace ControlOperation

/-- Split a control frame into its operation and its token. -/
def take : Frame → Except Frame (ControlOperation × BearerToken)
  | .publish requestId destination accessToken =>
      .ok (.publish requestId destination, accessToken)
  | .dial connectionId destination accessToken =>
      .ok (.dial connectionId destination, accessToken)
  | frame => .error frame

def destination : ControlOperation → Destination
  | publish _ destination => destination
  | dial _ destination => destination

def action : ControlOperation → Action
  | publish _ _ => .publish
  | dial _ _ => .dial

/-- The answer to an operation that was not authorized. -/
def failure (operation : ControlOperation) (code : ErrorCode) : Frame :=
  let message := "operation authorization failed"
  match operation with
  | publish requestId _ => .publishFailed requestId code message
  | dial connectionId _ => .dialFailed connectionId code .notObserved message

end ControlOperation

/-- The outcome of a successful token verification. -/
structure VerifiedAuthorization where
  destination : Destination
  action : Action
  expiresAt : Instant

def VerifiedAuthorization.authorizes (verified : VerifiedAuthorization)
    (operation : ControlOperation) (now : Instant) : Bool :=
  verified.destination = operation.destination ∧
    verified.action = operation.action ∧ now < verified.expiresAt

namespace GatewayState

/-! ## Sessions -/

/-- Why a new session would be refused right now. -/
def sessionRejection (state : GatewayState) : Option (ErrorCode × String) :=
  if state.draining then
    some (.unavailable, "Gateway is draining")
  else if state.limits.maxSessions ≤ state.sessions.len then
    some (.resourceExhausted, "Gateway SDK session limit reached")
  else
    none

/-- Admit a session under an identity drawn until one that is not in use
appears. -/
def addSession (state : GatewayState) (draws : Draws SessionId)
    (now : Instant) : Option SessionId × GatewayState :=
  if state.sessionRejection.isSome then
    (none, state)
  else
    let sessionId := draws.unique state.sessions.keys.toFinset
    (some sessionId,
      { state with
        sessions := state.sessions.insert sessionId
          { highestConnectionId := none
            controlRate := TokenBucket.new
              state.limits.sessionControlRatePerSecond
              state.limits.sessionControlBurst now } })

/-- What the peer learns when the dialer of an attempt disconnects. -/
def abandonedAttempt (openIdentity : OpenIdentity)
    (attempt : RemoteOpenAttempt) : List GatewayAction :=
  match attempt.phase with
  | .resolving => []
  | .startingPeer _ => [.cancelPeerOpen openIdentity]
  | .awaitingPeer key _ =>
      [.sendPeerFrame (.reset key .cancelled "RelaySession disconnected")]

def abandonAttempts :
    List OpenIdentity → GatewayState → List GatewayAction × GatewayState
  | [], state => ([], state)
  | openIdentity :: openIdentities, state =>
      match state.takeRemoteAttempt openIdentity with
      | (none, state) => abandonAttempts openIdentities state
      | (some attempt, state) =>
          let (actions, final) := abandonAttempts openIdentities state
          (abandonedAttempt openIdentity attempt ++ actions, final)

/-- The attempts dialed by a session. -/
def attemptsOf (state : GatewayState) (sessionId : SessionId) :
    List OpenIdentity :=
  (state.remoteOpenAttempts.toList.filter fun entry =>
    entry.2.pipeId.originSessionId = sessionId).map Prod.fst

/-- What the counterpart of a disconnected session learns about a Pipe. -/
def disconnectedPipe (sessionId : SessionId) (state : GatewayState)
    (pipeId : PipeId) (pipe : PipeEntry) : List GatewayAction :=
  let isDialer : Bool := pipe.dialer = .sdk sessionId
  if !isDialer ∧ pipe.phase = .offered then
    state.dialerFailure pipe pipeId .unavailable .maybeObserved
      "selected RelaySession disconnected during OFFER"
  else
    let counterpart := if isDialer then pipe.acceptor else pipe.dialer
    let code :=
      if isDialer ∧ counterpart.peerKey.isSome then ErrorCode.cancelled
      else ErrorCode.unavailable
    state.endpointReset counterpart pipeId code
      "counterpart session disconnected"

/-- Remove a session with its bindings, attempts and Pipes. -/
def removeSession (state : GatewayState) (sessionId : SessionId) :
    List GatewayAction × GatewayState :=
  if !state.sessions.contains sessionId then
    ([], state)
  else
    let (removedBindings, registry) := state.registry.removeSession sessionId
    let state :=
      { state with
        sessions := state.sessions.remove sessionId
        registry := registry }
    let (abandoned, state) :=
      abandonAttempts (state.attemptsOf sessionId) state
    let (disconnected, state) :=
      removePipes (disconnectedPipe sessionId)
        (state.pipesWhere fun pipe =>
          pipe.dialer = .sdk sessionId ∨ pipe.acceptor = .sdk sessionId)
        state
    (abandoned ++ disconnected ++
      (if 0 < removedBindings.length then
        [state.registrationPublication sessionId]
      else
        []), state)

/-- Remove the listed sessions one by one. -/
def removeSessions :
    List SessionId → GatewayState → List GatewayAction × GatewayState
  | [], state => ([], state)
  | sessionId :: sessionIds, state =>
      let (actions, state) := state.removeSession sessionId
      let (rest, final) := removeSessions sessionIds state
      (actions ++ rest, final)

/-! ## Offer expiry -/

/-- The offers that have waited for the offer timeout. -/
def expiredOffers (state : GatewayState) (now : Instant) : List PipeId :=
  state.pipesWhere fun pipe =>
    pipe.phase = .offered ∧ state.limits.offerTimeout ≤ now - pipe.offeredAt

/-- The SDK acceptors of the expired offers, each once. -/
def expiredListeners (state : GatewayState) (now : Instant) :
    List SessionId :=
  ((state.expiredOffers now).filterMap fun pipeId =>
    (state.pipes.get pipeId).bind fun pipe => pipe.acceptor.sdkSession).dedup

/-- Fail the expired offers and remove the sessions that did not answer.  The
source collects the sessions in a hash set: `order` arranges them. -/
def expireOffers (state : GatewayState) (now : Instant)
    (order : List SessionId → List SessionId) :
    List GatewayAction × GatewayState :=
  let listeners := order (state.expiredListeners now)
  let (failures, state) :=
    removePipes
      (fun state pipeId pipe => state.dialerFailure pipe pipeId
        .deadlineExceeded .maybeObserved
        "Acceptor did not answer OFFER before the Gateway deadline")
      (state.expiredOffers now) state
  let (removals, state) := removeSessions listeners state
  (failures ++ removals, state)

/-! ## Publications -/

def publish (state : GatewayState) (draws : Draws BindingId)
    (sessionId : SessionId) (requestId : Nat) (destination : Destination) :
    List GatewayAction × GatewayState :=
  if state.draining then
    (state.sendTo sessionId
      (.publishFailed requestId .unavailable "Gateway is draining"), state)
  else if state.limits.maxBindings ≤ state.registry.bindingCount ∧
      !state.registry.containsSessionDestination sessionId destination then
    (state.sendTo sessionId
      (.publishFailed requestId .resourceExhausted
        "Gateway Binding limit reached"), state)
  else
    let (registration, registry) :=
      state.registry.register draws sessionId destination
    let state := { state with registry := registry }
    match registration with
    | .created binding =>
        (state.sendTo sessionId (.published requestId binding.id) ++
          [state.registrationPublication sessionId], state)
    | .existing binding =>
        (state.sendTo sessionId (.published requestId binding.id), state)

def unpublish (state : GatewayState) (sessionId : SessionId)
    (requestId : Nat) (bindingId : BindingId) :
    List GatewayAction × GatewayState :=
  match state.registry.removeOwned sessionId bindingId with
  | (none, registry) =>
      let state := { state with registry := registry }
      (state.sendTo sessionId (.unpublished requestId), state)
  | (some _, registry) =>
      let (cancelled, state) :=
        cancelPendingBinding { state with registry := registry } bindingId
      (cancelled ++ state.sendTo sessionId (.unpublished requestId) ++
        [state.registrationPublication sessionId], state)

/-! ## Authorized control operations -/

def authorizationFailed (state : GatewayState) (sessionId : SessionId)
    (operation : ControlOperation) (code : ErrorCode) : List GatewayAction :=
  state.sendTo sessionId (operation.failure code)

/-- Take one token of the session's rate, then one of the Gateway's. -/
def admitControl (state : GatewayState) (sessionId : SessionId)
    (now : Instant) : Bool × GatewayState :=
  match state.sessions.get sessionId with
  | none => (false, state)
  | some session =>
      let (sessionAdmits, sessionRate) := session.controlRate.tryTake now
      let state :=
        { state with
          sessions := state.sessions.insert sessionId
            { session with controlRate := sessionRate } }
      if !sessionAdmits then
        (false, state)
      else
        let (gatewayAdmits, gatewayRate) := state.controlRate.tryTake now
        (gatewayAdmits, { state with controlRate := gatewayRate })

/-- Remember the connection of a DIAL; connection numbers only grow. -/
def recordConnection (state : GatewayState) (sessionId : SessionId)
    (session : SessionEntry) : ControlOperation → Option GatewayState
  | .publish _ _ => some state
  | .dial connectionId _ =>
      if session.highestConnectionId.any fun highest =>
          connectionId ≤ highest then
        none
      else
        some { state with
          sessions := state.sessions.insert sessionId
            { session with highestConnectionId := some connectionId } }

/-- Admit an operation to authorization, or answer it at once. -/
def prepareAuthorization (state : GatewayState) (sessionId : SessionId)
    (operation : ControlOperation) (now : Instant) :
    Option (List GatewayAction) × GatewayState :=
  match state.sessions.get sessionId with
  | none => (some [], state)
  | some session =>
      match state.recordConnection sessionId session operation with
      | none =>
          (some (state.authorizationFailed sessionId operation .protocolError),
            state)
      | some state =>
          if state.draining then
            (some (state.authorizationFailed sessionId operation .unavailable),
              state)
          else
            let (admitted, state) := state.admitControl sessionId now
            if admitted then
              (none, state)
            else
              (some (state.authorizationFailed sessionId operation
                .resourceExhausted), state)

def applyControlAt (state : GatewayState) (draws : Draws BindingId)
    (sessionId : SessionId) (operation : ControlOperation) (now : Instant) :
    List GatewayAction × GatewayState :=
  match operation with
  | .publish requestId destination =>
      state.publish draws sessionId requestId destination
  | .dial connectionId destination =>
      state.dial sessionId connectionId destination now

def commitAuthorized (state : GatewayState) (draws : Draws BindingId)
    (sessionId : SessionId) (operation : ControlOperation)
    (verified : VerifiedAuthorization) (now : Instant) :
    List GatewayAction × GatewayState :=
  if !state.sessions.contains sessionId then
    ([], state)
  else if !verified.authorizes operation now then
    (state.authorizationFailed sessionId operation .unauthenticated, state)
  else
    state.applyControlAt draws sessionId operation now

/-! ## SDK frames -/

def applyFrame (state : GatewayState) (sessionId : SessionId)
    (frame : Frame) :
    Except ProtocolViolation (List GatewayAction) × GatewayState :=
  if !state.sessions.contains sessionId then
    (.ok [], state)
  else
    match frame with
    | .unpublish requestId bindingId =>
        let (actions, state) := state.unpublish sessionId requestId bindingId
        (.ok actions, state)
    | .offerAccepted pipeId => state.offerAccepted sessionId pipeId
    | .offerRejected pipeId code message =>
        state.offerRejected sessionId pipeId code message
    | .data pipeId payload => state.data sessionId pipeId payload
    | .fin pipeId => state.fin sessionId pipeId
    | .close pipeId => state.close sessionId pipeId
    | .reset pipeId code message => state.reset sessionId pipeId code message
    | .cancel pipeId => state.cancel sessionId pipeId
    | .ping nonce => (.ok (state.sendTo sessionId (.pong nonce)), state)
    | .pong _ | .hello | .publish _ _ _ | .dial _ _ _ | .welcome _
    | .sessionRejected _ _ | .published _ _ | .publishFailed _ _ _
    | .unpublished _ | .offer _ _ _ | .opened _ | .dialFailed _ _ _ _ =>
        (.ok [], state)

/-- A frame outside the authorization path: its control operations fail. -/
def handle (state : GatewayState) (sessionId : SessionId) (frame : Frame)
    (now : Instant) :
    Except ProtocolViolation (List GatewayAction) × GatewayState :=
  match ControlOperation.take frame with
  | .ok (operation, _) =>
      match state.prepareAuthorization sessionId operation now with
      | (some actions, state) => (.ok actions, state)
      | (none, state) =>
          (.ok (state.authorizationFailed sessionId operation
            .unauthenticated), state)
  | .error frame => state.applyFrame sessionId frame

/-- A frame whose control operations are applied without a token. -/
def handleAt (state : GatewayState) (draws : Draws BindingId)
    (sessionId : SessionId) (frame : Frame) (now : Instant) :
    Except ProtocolViolation (List GatewayAction) × GatewayState :=
  match ControlOperation.take frame with
  | .ok (operation, _) =>
      match state.prepareAuthorization sessionId operation now with
      | (some actions, state) => (.ok actions, state)
      | (none, state) =>
          let (actions, state) :=
            state.applyControlAt draws sessionId operation now
          (.ok actions, state)
  | .error frame => state.applyFrame sessionId frame

/-! ## Draining -/

/-- Stop admitting work and withdraw every session's publication. -/
def beginDraining (state : GatewayState) : List GatewayAction × GatewayState :=
  if state.draining then
    ([], state)
  else
    (state.sessions.keys.map fun sessionId => .publishRegistration sessionId [],
      { state with draining := true })

def isDrained (state : GatewayState) : Bool :=
  state.pendingOfferCount.value = 0 ∧ state.livePipeCount.value = 0 ∧
    state.remoteOpenAttempts.isEmpty

end GatewayState

end RelayGate.Gateway
