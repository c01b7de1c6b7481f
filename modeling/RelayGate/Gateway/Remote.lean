import RelayGate.Gateway.Opening

/-!
# Remote opens

The entry side follows an attempt through route resolution and the peer OPEN;
the owner side turns an incoming peer OPEN into a local offer.
-/

namespace RelayGate.Gateway

open Library
open RouteTable (BindingProjection)

/-- How a peer or route event relates to the current attempt. -/
inductive AttemptMatch
  | resolving
  | starting (bindingId : BindingId)
  | awaiting (bindingId : BindingId)
  | stale
  | committed
deriving DecidableEq

/-- Failures of internal credentials are not repaired by an application token. -/
def sdkDependencyFailure (code : ErrorCode) (message : String) :
    ErrorCode × String :=
  match code with
  | .unauthenticated | .permissionDenied =>
      (.internal,
        "Gateway internal dependency authentication or authorization failed")
  | _ => (code, message)

namespace GatewayState

/-- The phase of an attempt from the point of view of an event on `key`. -/
def matchAttempt (state : GatewayState) (openIdentity : OpenIdentity)
    (key : Option PeerStreamKey) : Option (PipeId × AttemptMatch) :=
  (state.remoteOpenAttempts.get openIdentity).map fun attempt =>
    (attempt.pipeId,
      match attempt.phase with
      | .resolving => .resolving
      | .startingPeer bindingId => .starting bindingId
      | .awaitingPeer currentKey bindingId =>
          match key with
          | none => .committed
          | some key => if key = currentKey then .awaiting bindingId else .stale)

def failRemoteAttempt (state : GatewayState) (openIdentity : OpenIdentity)
    (code : ErrorCode) (observation : PeerObservation) (message : String) :
    List GatewayAction × GatewayState :=
  match state.takeRemoteAttempt openIdentity with
  | (none, state) => ([], state)
  | (some attempt, state) =>
      (state.openFailed attempt.pipeId.originSessionId
        attempt.pipeId.connectionId code observation message, state)

/-- Whether a projection may serve the dialing session: not its own binding. -/
def servesDialer (state : GatewayState) (pipeId : PipeId)
    (projection : BindingProjection) : Bool :=
  some projection.identity.gatewayId ≠ state.gatewayId ∨
    projection.identity.relaySessionId.uuid ≠ pipeId.originSessionId.uuid

/-- The attempt asks for a peer OPEN towards a binding. -/
def startPeer (state : GatewayState) (openIdentity : OpenIdentity)
    (bindingId : BindingId) : GatewayState :=
  { state with
    remoteOpenAttempts := state.remoteOpenAttempts.modify openIdentity
      fun attempt => { attempt with phase := .startingPeer bindingId } }

/-- A route for a resolving attempt: the first projection of another session
decides between a local offer and a peer OPEN. -/
def routeResolved (state : GatewayState) (openIdentity : OpenIdentity)
    (bindings : List BindingProjection) (now : Instant) :
    List GatewayAction × GatewayState :=
  match state.remoteOpenAttempts.get openIdentity with
  | none => ([], state)
  | some attempt =>
      if attempt.phase ≠ .resolving then
        ([], state)
      else
        match bindings.find? (state.servesDialer attempt.pipeId) with
        | none =>
            state.failRemoteAttempt openIdentity .failedPrecondition .notObserved
              "only the dialing Relay publishes this Destination"
        | some projection =>
            if projection.destination ≠ attempt.destination then
              state.failRemoteAttempt openIdentity .failedPrecondition
                .notObserved
                "RouteTable returned a projection for a different Destination"
            else
              let relaySessionId :=
                projection.identity.relaySessionId.sessionId
              let bindingId := projection.identity.bindingId
              if some projection.identity.gatewayId = state.gatewayId then
                let state := (state.takeRemoteAttempt openIdentity).2
                match state.registry.exact relaySessionId bindingId
                    attempt.destination with
                | none =>
                    (state.openFailed attempt.pipeId.originSessionId
                      attempt.pipeId.connectionId .unavailable .notObserved
                      "selected local Binding is stale", state)
                | some binding =>
                    state.offerLocalAt attempt.pipeId binding now
              else
                ([.openPeer openIdentity projection.identity.gatewayId
                    projection.gatewayLocator attempt.destination
                    relaySessionId bindingId],
                  state.startPeer openIdentity bindingId)

def routeFailed (state : GatewayState) (openIdentity : OpenIdentity)
    (code : ErrorCode) (message : String) :
    List GatewayAction × GatewayState :=
  match state.matchAttempt openIdentity none with
  | some (_, .resolving) =>
      let (code, message) := sdkDependencyFailure code message
      state.failRemoteAttempt openIdentity code .notObserved message
  | _ => ([], state)

/-- Whether a stream or an open identity is already in use. -/
def peerIdentityActive (state : GatewayState) (openIdentity : OpenIdentity)
    (key : PeerStreamKey) : Bool :=
  state.peerPipes.contains key ||
    state.activePeerOpens.values.any (fun current => current = key) ||
    state.activePeerOpens.contains openIdentity

/-- Reserve the stream of a committed peer OPEN for its attempt. -/
def awaitPeer (state : GatewayState) (openIdentity : OpenIdentity)
    (key : PeerStreamKey) (bindingId : BindingId) : GatewayState :=
  { state with
    activePeerOpens := state.activePeerOpens.insert openIdentity key
    overwritten := state.overwritten ||
      state.activePeerOpens.contains openIdentity
    remoteOpenAttempts := state.remoteOpenAttempts.modify openIdentity
      fun attempt => { attempt with phase := .awaitingPeer key bindingId } }

def peerOpenCommitted (state : GatewayState) (openIdentity : OpenIdentity)
    (key : PeerStreamKey) : List GatewayAction × GatewayState :=
  match state.matchAttempt openIdentity (some key) with
  | none =>
      if state.activePeerOpens.get openIdentity = some key then
        ([], state)
      else
        (state.endpointReset (.peer key) openIdentity.pipeId .cancelled
          "Open attempt ended before the peer OPEN committed", state)
  | some (pipeId, .starting bindingId) =>
      if state.peerIdentityActive openIdentity key then
        (state.endpointReset (.peer key) pipeId .protocolError
          "peer stream identity is already active", state)
      else
        ([], state.awaitPeer openIdentity key bindingId)
  | some (_, .awaiting _) => ([], state)
  | some (pipeId, _) =>
      (state.endpointReset (.peer key) pipeId .protocolError
        "peer OPEN committed in an invalid local phase", state)

def peerOpenCommitFailed (state : GatewayState) (openIdentity : OpenIdentity)
    (code : ErrorCode) (observation : PeerObservation) (message : String) :
    List GatewayAction × GatewayState :=
  match state.matchAttempt openIdentity none with
  | some (_, .starting _) =>
      let (code, message) := sdkDependencyFailure code message
      state.failRemoteAttempt openIdentity code observation message
  | _ => ([], state)

/-! ## The owner side -/

def peerRefusal (key : PeerStreamKey) (code : ErrorCode) (message : String) :
    List GatewayAction :=
  [.sendPeerFrame (.failed key code .notObserved message)]

def receivePeerOpenAt (state : GatewayState) (key : PeerStreamKey)
    (openIdentity : OpenIdentity) (destination : Destination)
    (relaySessionId : SessionId) (bindingId : BindingId) (now : Instant) :
    List GatewayAction × GatewayState :=
  if state.draining then
    (peerRefusal key .unavailable "Gateway is draining", state)
  else if openIdentity.entryGateway ≠ key.peerGatewayId then
    (peerRefusal key .permissionDenied
      "peer OPEN identity does not match the authenticated Gateway", state)
  else if state.peerPipes.contains key ||
      state.activePeerOpens.contains openIdentity ||
      state.remoteOpenAttempts.contains openIdentity then
    (peerRefusal key .alreadyExists "peer OPEN identity is already active",
      state)
  else if state.livePipeLimitReached || state.pendingCapacityReached then
    (peerRefusal key .resourceExhausted "Gateway Pipe limit reached", state)
  else
    match (state.registry.exact relaySessionId bindingId destination).filter
        fun _ => state.sessions.contains relaySessionId with
    | none =>
        (peerRefusal key .unavailable "selected Binding is no longer current",
          state)
    | some binding =>
        let pipeId := openIdentity.pipeId
        if state.pipes.contains pipeId then
          (peerRefusal key .alreadyExists "Pipe identity is already active",
            state)
        else
          let state := state.insertOffer pipeId
            { dialer := .peer key
              acceptor := .sdk relaySessionId
              bindingId := binding.id
              openIdentity := some openIdentity
              phase := .offered
              offeredAt := now
              dialerFinished := false
              acceptorFinished := false }
          (state.sendTo relaySessionId (.offer pipeId bindingId destination),
            state)

/-! ## Peer answers to an attempt -/

/-- The peer OPENED an attempt in a matching phase. -/
def admitPeerOpened (state : GatewayState) (key : PeerStreamKey)
    (openIdentity : OpenIdentity) (bindingId : BindingId) (now : Instant) :
    List GatewayAction × GatewayState :=
  match state.takeRemoteAttempt openIdentity with
  | (none, state) => ([], state)
  | (some attempt, state) =>
      let dialer := attempt.pipeId.originSessionId
      let dialerIsLive := state.sessions.contains dialer
      if !dialerIsLive || state.livePipeLimitReached then
        let code := if dialerIsLive then .resourceExhausted else .cancelled
        let actions := state.endpointReset (.peer key) attempt.pipeId code
          "peer OPENED after the local endpoint became unavailable"
        if dialerIsLive then
          (actions ++ state.openFailed dialer attempt.pipeId.connectionId code
            .maybeObserved
            "Gateway live Pipe limit reached during remote admission", state)
        else
          (actions, state)
      else
        let state := state.insertOpen attempt.pipeId
          { dialer := .sdk dialer
            acceptor := .peer key
            bindingId := bindingId
            openIdentity := some openIdentity
            phase := .open
            offeredAt := now
            dialerFinished := false
            acceptorFinished := false }
        (state.sendTo dialer (.opened attempt.pipeId), state)

def peerOpenedAt (state : GatewayState) (key : PeerStreamKey)
    (openIdentity : OpenIdentity) (now : Instant) :
    List GatewayAction × GatewayState :=
  match state.matchAttempt openIdentity (some key) with
  | none =>
      if state.activePeerOpens.get openIdentity = some key ∧
          state.peerPipes.contains key then
        ([], state)
      else
        (state.endpointReset (.peer key) openIdentity.pipeId .cancelled
          "late peer OPENED cannot recreate an ended attempt", state)
  | some (_, .starting bindingId) =>
      state.admitPeerOpened key openIdentity bindingId now
  | some (_, .awaiting bindingId) =>
      state.admitPeerOpened key openIdentity bindingId now
  | some (pipeId, _) =>
      (state.endpointReset (.peer key) pipeId .protocolError
        "peer OPENED does not match the current attempt", state)

/-- A peer failure belongs to the attempt while its OPEN is starting or has
committed on that same stream. -/
def peerEventMatchesAttempt (state : GatewayState)
    (openIdentity : OpenIdentity) (key : PeerStreamKey) : Bool :=
  match state.matchAttempt openIdentity (some key) with
  | some (_, .starting _) => true
  | some (_, .awaiting _) => true
  | _ => false

def peerOpenFailed (state : GatewayState) (key : PeerStreamKey)
    (openIdentity : OpenIdentity) (code : ErrorCode)
    (observation : PeerObservation) (message : String) :
    List GatewayAction × GatewayState :=
  if state.peerEventMatchesAttempt openIdentity key then
    let (code, message) := sdkDependencyFailure code message
    state.failRemoteAttempt openIdentity code observation message
  else
    ([], state)

/-- The stream of a lost transport fails its attempt or resets its Pipe. -/
def peerTransportLostStream (state : GatewayState) (key : PeerStreamKey)
    (openIdentity : OpenIdentity) (observation : PeerObservation) :
    List GatewayAction × GatewayState :=
  if state.peerEventMatchesAttempt openIdentity key then
    state.failRemoteAttempt openIdentity .unavailable observation
      "PeerTransport was lost during remote OPEN"
  else
    match state.peerPipes.get key with
    | none => ([], state)
    | some pipeId =>
        if (state.pipes.get pipeId).any fun pipe =>
            pipe.openIdentity = some openIdentity then
          match state.removePipe pipeId with
          | (none, state) => ([], state)
          | (some pipe, state) =>
              (([pipe.dialer, pipe.acceptor].filterMap
                  PipeEndpoint.sdkSession).flatMap fun sessionId =>
                state.sendTo sessionId
                  (.reset pipeId .unavailable "PeerTransport was lost"), state)
        else
          ([], state)

end GatewayState

end RelayGate.Gateway
