import RelayGate.Gateway.State

/-!
# Relaying on Pipes

DATA, FIN, CLOSE and RESET between the two ends of a Pipe, for SDK senders and
for peer streams.
-/

namespace RelayGate.Gateway

open Library

/-- The other end of a sender and whether the sender has finished. -/
def endpoint (pipe : PipeEntry) (sender : PipeEndpoint) :
    Option (PipeEndpoint × Bool) :=
  if pipe.dialer = sender then
    some (pipe.acceptor, pipe.dialerFinished)
  else if pipe.acceptor = sender then
    some (pipe.dialer, pipe.acceptorFinished)
  else
    none

namespace GatewayState

/-- Remove a Pipe and reset both its ends as a protocol error. -/
def protocolReset (state : GatewayState) (pipeId : PipeId) (message : String) :
    List GatewayAction × GatewayState :=
  match state.removePipe pipeId with
  | (none, state) => ([], state)
  | (some pipe, state) =>
      (state.endpointReset pipe.dialer pipeId .protocolError message ++
        state.endpointReset pipe.acceptor pipeId .protocolError message, state)

def relayData (state : GatewayState) (sender : PipeEndpoint) (pipeId : PipeId)
    (payload : List UInt8) : List GatewayAction × GatewayState :=
  match state.pipes.get pipeId with
  | none => ([], state)
  | some pipe =>
      match endpoint pipe sender with
      | none => ([], state)
      | some (counterpart, finished) =>
          if pipe.phase ≠ .open ∨ finished then
            state.protocolReset pipeId
              "DATA is not valid in the current Pipe state"
          else
            (state.endpointData counterpart pipeId payload, state)

/-- Mark the sender's direction finished; the flag of the other direction says
whether the Pipe is done. -/
def finishDirection (pipe : PipeEntry) (sender : PipeEndpoint) :
    PipeEntry × Bool :=
  if pipe.dialer = sender then
    ({ pipe with dialerFinished := true }, pipe.acceptorFinished)
  else
    ({ pipe with acceptorFinished := true }, pipe.dialerFinished)

def relayFin (state : GatewayState) (sender : PipeEndpoint) (pipeId : PipeId) :
    List GatewayAction × GatewayState :=
  match state.pipes.get pipeId with
  | none => ([], state)
  | some pipe =>
      match endpoint pipe sender with
      | none => ([], state)
      | some (counterpart, finished) =>
          if pipe.phase ≠ .open then
            state.protocolReset pipeId "FIN arrived before the Pipe opened"
          else if finished then
            ([], state)
          else
            let (finishedPipe, removeAfterDelivery) :=
              finishDirection pipe sender
            let state :=
              { state with pipes := state.pipes.insert pipeId finishedPipe }
            let state :=
              if removeAfterDelivery then (state.removePipe pipeId).2
              else state
            (state.endpointFin counterpart pipeId, state)

def relayClose (state : GatewayState) (sender : PipeEndpoint)
    (pipeId : PipeId) : List GatewayAction × GatewayState :=
  match state.pipes.get pipeId with
  | none => ([], state)
  | some pipe =>
      match endpoint pipe sender with
      | none => ([], state)
      | some (counterpart, _) =>
          if pipe.phase ≠ .open then
            state.protocolReset pipeId "CLOSE arrived before the Pipe opened"
          else
            let state := (state.removePipe pipeId).2
            (state.endpointClose counterpart pipeId, state)

def relayReset (state : GatewayState) (sender : PipeEndpoint) (pipeId : PipeId)
    (code : ErrorCode) (message : String) :
    List GatewayAction × GatewayState :=
  match state.pipes.get pipeId with
  | none => ([], state)
  | some pipe =>
      match endpoint pipe sender with
      | none => ([], state)
      | some (counterpart, _) =>
          if pipe.phase ≠ .open then
            state.protocolReset pipeId "RESET arrived before the Pipe opened"
          else
            let state := (state.removePipe pipeId).2
            (state.endpointReset counterpart pipeId code message, state)

/-! ## SDK senders -/

/-- The sender as an endpoint, when no Pipe it does not own has the identity. -/
def sdkEndpoint (state : GatewayState) (sender : SessionId) (pipeId : PipeId)
    (frameName : String) : Except ProtocolViolation PipeEndpoint :=
  match state.pipes.get pipeId with
  | none => .ok (.sdk sender)
  | some pipe =>
      if pipe.dialer = .sdk sender ∨ pipe.acceptor = .sdk sender then
        .ok (.sdk sender)
      else
        .error ⟨sender, pipeId, frameName⟩

/-- Relay from an SDK sender after the ownership check. -/
def fromSdk (state : GatewayState) (sender : SessionId) (pipeId : PipeId)
    (frameName : String)
    (relay : PipeEndpoint → List GatewayAction × GatewayState) :
    Except ProtocolViolation (List GatewayAction) × GatewayState :=
  match state.sdkEndpoint sender pipeId frameName with
  | .error violation => (.error violation, state)
  | .ok sender =>
      let (actions, state) := relay sender
      (.ok actions, state)

def data (state : GatewayState) (sender : SessionId) (pipeId : PipeId)
    (payload : List UInt8) :
    Except ProtocolViolation (List GatewayAction) × GatewayState :=
  state.fromSdk sender pipeId "DATA" fun sender =>
    state.relayData sender pipeId payload

def fin (state : GatewayState) (sender : SessionId) (pipeId : PipeId) :
    Except ProtocolViolation (List GatewayAction) × GatewayState :=
  state.fromSdk sender pipeId "FIN" fun sender => state.relayFin sender pipeId

def close (state : GatewayState) (sender : SessionId) (pipeId : PipeId) :
    Except ProtocolViolation (List GatewayAction) × GatewayState :=
  state.fromSdk sender pipeId "CLOSE" fun sender =>
    state.relayClose sender pipeId

def reset (state : GatewayState) (sender : SessionId) (pipeId : PipeId)
    (code : ErrorCode) (message : String) :
    Except ProtocolViolation (List GatewayAction) × GatewayState :=
  state.fromSdk sender pipeId "RESET" fun sender =>
    state.relayReset sender pipeId code message

/-! ## Peer senders -/

/-- Relay from a peer stream to the Pipe it is indexed for. -/
def fromPeer (state : GatewayState) (key : PeerStreamKey)
    (relay : PipeId → List GatewayAction × GatewayState) :
    List GatewayAction × GatewayState :=
  match state.peerPipes.get key with
  | none => ([], state)
  | some pipeId => relay pipeId

def peerData (state : GatewayState) (key : PeerStreamKey)
    (payload : List UInt8) : List GatewayAction × GatewayState :=
  state.fromPeer key fun pipeId => state.relayData (.peer key) pipeId payload

def peerFin (state : GatewayState) (key : PeerStreamKey) :
    List GatewayAction × GatewayState :=
  state.fromPeer key fun pipeId => state.relayFin (.peer key) pipeId

def peerClose (state : GatewayState) (key : PeerStreamKey) :
    List GatewayAction × GatewayState :=
  state.fromPeer key fun pipeId => state.relayClose (.peer key) pipeId

/-- Whether the stream's Pipe is an offer the peer dialed. -/
def peerCancelledOffer (state : GatewayState) (key : PeerStreamKey)
    (pipeId : PipeId) : Bool :=
  (state.pipes.get pipeId).any fun pipe =>
    pipe.phase = .offered ∧ pipe.dialer = .peer key

/-- A peer RESET withdraws an offer the peer dialed; otherwise it is relayed. -/
def peerReset (state : GatewayState) (key : PeerStreamKey) (code : ErrorCode)
    (message : String) : List GatewayAction × GatewayState :=
  state.fromPeer key fun pipeId =>
    if state.peerCancelledOffer key pipeId then
      match state.removePipe pipeId with
      | (none, state) => ([], state)
      | (some pipe, state) =>
          (state.endpointReset pipe.acceptor pipeId code message, state)
    else
      state.relayReset (.peer key) pipeId code message

end GatewayState

end RelayGate.Gateway
