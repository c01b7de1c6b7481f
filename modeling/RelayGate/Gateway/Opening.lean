import RelayGate.Gateway.Pipe

/-!
# Opening Pipes

Dialing, local offers and their answers, and cancellation of pending opens.
-/

namespace RelayGate.Gateway

open Library

namespace GatewayState

/-- Offer a Pipe to the session of a local binding. -/
def offerLocalAt (state : GatewayState) (pipeId : PipeId) (binding : Binding)
    (now : Instant) : List GatewayAction × GatewayState :=
  let dialer := pipeId.originSessionId
  if state.sessions.contains binding.sessionId then
    let state := state.insertOffer pipeId
      { dialer := .sdk dialer
        acceptor := .sdk binding.sessionId
        bindingId := binding.id
        openIdentity := none
        phase := .offered
        offeredAt := now
        dialerFinished := false
        acceptorFinished := false }
    (state.sendTo binding.sessionId
      (.offer pipeId binding.id binding.destination), state)
  else
    let state :=
      { state with
        registry :=
          (state.registry.removeOwned binding.sessionId binding.id).2 }
    (state.openFailed dialer pipeId.connectionId .unavailable .notObserved
        "selected RelaySession is no longer live" ++
      [state.registrationPublication binding.sessionId], state)

/-- Start a remote open attempt. -/
def startAttempt (state : GatewayState) (openIdentity : OpenIdentity)
    (destination : Destination) : GatewayState :=
  { state with
    remoteOpenAttempts := state.remoteOpenAttempts.insert openIdentity
      ⟨openIdentity.pipeId, destination, .resolving⟩
    overwritten := state.overwritten ||
      state.remoteOpenAttempts.contains openIdentity }

def dial (state : GatewayState) (dialer : SessionId) (connectionId : Nat)
    (destination : Destination) (now : Instant) :
    List GatewayAction × GatewayState :=
  if !state.sessions.contains dialer then
    ([], state)
  else if state.draining then
    (state.openFailed dialer connectionId .unavailable .notObserved
      "Gateway is draining", state)
  else if state.livePipeLimitReached then
    (state.openFailed dialer connectionId .resourceExhausted .notObserved
      "Gateway live Pipe limit reached", state)
  else if state.pendingCapacityReached then
    (state.openFailed dialer connectionId .resourceExhausted .notObserved
      "Gateway pending open limit reached", state)
  else
    let selfPublishesDestination :=
      state.registry.containsSessionDestination dialer destination
    let (selected, registry) :=
      state.registry.selectExcluding destination dialer
    let state := { state with registry := registry }
    match selected with
    | some binding => state.offerLocalAt ⟨dialer, connectionId⟩ binding now
    | none =>
        match state.gatewayId with
        | none =>
            if selfPublishesDestination then
              (state.openFailed dialer connectionId .failedPrecondition
                .notObserved "only the dialing Relay publishes this Destination",
                state)
            else
              (state.openFailed dialer connectionId .notFound .notObserved
                "no live Binding exists", state)
        | some gatewayId =>
            if state.limits.maxRemoteDialAttempts ≤
                state.remoteOpenAttempts.len then
              (state.openFailed dialer connectionId .resourceExhausted
                .notObserved "Gateway remote DIAL admission limit reached",
                state)
            else
              let openIdentity : OpenIdentity :=
                ⟨gatewayId, dialer, connectionId⟩
              ([.resolveRoute openIdentity destination],
                state.startAttempt openIdentity destination)

/-! ## Answers to an offer -/

/-- The Pipe, when the sender is its SDK acceptor. -/
def ensureSdkAcceptor (pipe : PipeEntry) (sender : SessionId)
    (pipeId : PipeId) (frameName : String) : Except ProtocolViolation Unit :=
  if pipe.acceptor = .sdk sender then .ok ()
  else .error ⟨sender, pipeId, frameName⟩

def offerAccepted (state : GatewayState) (acceptor : SessionId)
    (pipeId : PipeId) :
    Except ProtocolViolation (List GatewayAction) × GatewayState :=
  match state.pipes.get pipeId with
  | none => (.ok [], state)
  | some pipe =>
      match ensureSdkAcceptor pipe acceptor pipeId "OFFER_ACCEPTED" with
      | .error violation => (.error violation, state)
      | .ok () =>
          if pipe.phase ≠ .offered then
            let (actions, state) := state.protocolReset pipeId
              "OFFER_ACCEPTED is not valid after the Pipe opened"
            (.ok actions, state)
          else if state.livePipeLimitReached then
            match state.removePipe pipeId with
            | (none, state) => (.ok [], state)
            | (some pipe, state) =>
                let message :=
                  "Gateway live Pipe limit reached during admission"
                (.ok (state.dialerFailure pipe pipeId .resourceExhausted
                    .maybeObserved message ++
                  state.endpointReset pipe.acceptor pipeId .resourceExhausted
                    message), state)
          else
            match state.promoteOffer pipeId with
            | (none, state) => (.ok [], state)
            | (some pipe, state) => (.ok (state.dialerOpened pipe pipeId), state)

def offerRejected (state : GatewayState) (acceptor : SessionId)
    (pipeId : PipeId) (code : ErrorCode) (message : String) :
    Except ProtocolViolation (List GatewayAction) × GatewayState :=
  match state.pipes.get pipeId with
  | none => (.ok [], state)
  | some pipe =>
      match ensureSdkAcceptor pipe acceptor pipeId "OFFER_REJECTED" with
      | .error violation => (.error violation, state)
      | .ok () =>
          if pipe.phase ≠ .offered then
            let (actions, state) := state.protocolReset pipeId
              "OFFER_REJECTED is not valid after the Pipe opened"
            (.ok actions, state)
          else
            match state.removePipe pipeId with
            | (none, state) => (.ok [], state)
            | (some pipe, state) =>
                (.ok (state.dialerFailure pipe pipeId code .notObserved message),
                  state)

/-- The acceptor's writer queue was full before the offer was admitted. -/
def offerDeliveryRejected (state : GatewayState) (acceptor : SessionId)
    (pipeId : PipeId) : List GatewayAction × GatewayState :=
  if (state.pipes.get pipeId).any fun pipe =>
      pipe.phase = .offered ∧ pipe.acceptor = .sdk acceptor then
    match state.removePipe pipeId with
    | (none, state) => ([], state)
    | (some pipe, state) =>
        (state.dialerFailure pipe pipeId .resourceExhausted .notObserved
          "selected RelaySession writer queue is full", state)
  else
    ([], state)

/-! ## Cancellation -/

/-- Withdraw a remote open attempt of the dialer. -/
def cancelRemoteAttempt (state : GatewayState) (dialer : SessionId)
    (pipeId : PipeId) : List GatewayAction × GatewayState :=
  match state.gatewayId with
  | none => ([], state)
  | some gatewayId =>
      if pipeId.originSessionId ≠ dialer then
        ([], state)
      else
        let openIdentity : OpenIdentity :=
          ⟨gatewayId, dialer, pipeId.connectionId⟩
        match state.takeRemoteAttempt openIdentity with
        | (none, state) => ([], state)
        | (some attempt, state) =>
            match attempt.phase with
            | .resolving => ([], state)
            | .startingPeer _ => ([.cancelPeerOpen openIdentity], state)
            | .awaitingPeer key _ =>
                (state.endpointReset (.peer key) pipeId .cancelled
                  "Dialer cancelled the remote OPEN", state)

/-- Only the dialer may cancel; an acceptor holding the Pipe is a foreign
sender for CANCEL. -/
def cancel (state : GatewayState) (dialer : SessionId) (pipeId : PipeId) :
    Except ProtocolViolation (List GatewayAction) × GatewayState :=
  match state.pipes.get pipeId with
  | none =>
      let (actions, state) := state.cancelRemoteAttempt dialer pipeId
      (.ok actions, state)
  | some pipe =>
      if pipe.dialer ≠ .sdk dialer then
        (.error ⟨dialer, pipeId, "CANCEL"⟩, state)
      else
        match state.removePipe pipeId with
        | (none, state) => (.ok [], state)
        | (some pipe, state) =>
            (.ok (state.endpointReset pipe.acceptor pipeId .cancelled
              "Dialer cancelled the Pipe"), state)

/-- Remove the listed Pipes one by one, collecting what each removal answers. -/
def removePipes (answer : GatewayState → PipeId → PipeEntry →
      List GatewayAction) :
    List PipeId → GatewayState → List GatewayAction × GatewayState
  | [], state => ([], state)
  | pipeId :: pipeIds, state =>
      match state.removePipe pipeId with
      | (none, state) => removePipes answer pipeIds state
      | (some pipe, state) =>
          let (actions, final) := removePipes answer pipeIds state
          (answer state pipeId pipe ++ actions, final)

/-- The identities of the Pipes that satisfy a test. -/
def pipesWhere (state : GatewayState) (test : PipeEntry → Bool) :
    List PipeId :=
  (state.pipes.toList.filter fun entry => test entry.2).map Prod.fst

/-- The pending offers of a removed binding fail. -/
def cancelPendingBinding (state : GatewayState) (bindingId : BindingId) :
    List GatewayAction × GatewayState :=
  removePipes
    (fun state pipeId pipe => state.dialerFailure pipe pipeId .unavailable
      .notObserved "selected Binding was removed before admission")
    (state.pipesWhere fun pipe =>
      pipe.bindingId = bindingId ∧ pipe.phase = .offered)
    state

end GatewayState

end RelayGate.Gateway
