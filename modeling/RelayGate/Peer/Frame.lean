import RelayGate.Peer.Identity

/-!
# The Gateway–Gateway wire protocol

The private frames between two Gateways, the life of one stream as each end
follows it, and the failures and events a transport reports to its Gateway.
-/

namespace RelayGate.Peer

/-- Name a Gateway presents during the peer handshake; never empty. -/
structure PeerGatewayName where
  text : String
  nonEmpty : text ≠ ""

instance : DecidableEq PeerGatewayName := fun first second =>
  decidable_of_iff (first.text = second.text)
    ⟨fun same => by cases first; cases second; cases same; rfl, congrArg _⟩

/-- Identity claims exchanged by both sides of a peer handshake. -/
structure PeerHandshake where
  gatewayName : PeerGatewayName
  gatewayId : GatewayId
  expectedPeerGatewayId : GatewayId
  dialerGatewayId : GatewayId
  peerTransportId : PeerTransportId
deriving DecidableEq

/-- Private Gateway-to-Gateway wire frames. -/
inductive PeerFrame
  | hello (handshake : PeerHandshake)
  | welcome (handshake : PeerHandshake)
  | handshakeRejected (code : ErrorCode) (message : String)
  | open (streamId : StreamId) (openIdentity : OpenIdentity)
      (destination : Destination) (relaySessionId : SessionId)
      (bindingId : BindingId)
  | opened (streamId : StreamId)
  | failed (streamId : StreamId) (code : ErrorCode)
      (observation : PeerObservation) (message : String)
  | data (streamId : StreamId) (payload : List UInt8)
  | fin (streamId : StreamId)
  | close (streamId : StreamId)
  | reset (streamId : StreamId) (code : ErrorCode) (message : String)
  | ping (nonce : Nat)
  | pong (nonce : Nat)
deriving DecidableEq

/-! ## Reports to the Gateway -/

/-- Why a peer operation failed and what the other end may have seen of it. -/
structure PeerFailure where
  code : ErrorCode
  observation : PeerObservation
  message : String
deriving DecidableEq, Repr

namespace PeerFailure

def notObserved (code : ErrorCode) (message : String) : PeerFailure :=
  ⟨code, .notObserved, message⟩

def maybeObserved (code : ErrorCode) (message : String) : PeerFailure :=
  ⟨code, .maybeObserved, message⟩

end PeerFailure

/-- One remote open, after route selection.  The target Gateway was used by the
manager to choose the transport. -/
structure PeerOpenRequest where
  openIdentity : OpenIdentity
  destination : Destination
  relaySessionId : SessionId
  bindingId : BindingId
deriving DecidableEq

/-- One stream affected by the loss of its transport. -/
structure LostPeerStream where
  key : PeerStreamKey
  openIdentity : OpenIdentity
  progress : PeerOpenProgress
deriving DecidableEq

/-- What a transport tells its Gateway. -/
inductive PeerEvent
  | incomingOpen (key : PeerStreamKey) (openIdentity : OpenIdentity)
      (destination : Destination) (relaySessionId : SessionId)
      (bindingId : BindingId)
  | opened (key : PeerStreamKey) (openIdentity : OpenIdentity)
  | failed (key : PeerStreamKey) (openIdentity : OpenIdentity)
      (failure : PeerFailure)
  | data (key : PeerStreamKey) (payload : List UInt8)
  | fin (key : PeerStreamKey)
  | close (key : PeerStreamKey)
  | reset (key : PeerStreamKey) (code : ErrorCode) (message : String)
deriving DecidableEq

/-! ## The life of one stream -/

/-- The source keeps the way a stream closed only for its tests. -/
inductive RelayStreamState
  | opening
  | open
  | closed
deriving DecidableEq, Repr

/-- A stream as one end follows it.  `localFinished` is the half the dialer
finished and `remoteFinished` the half the acceptor finished, at both ends. -/
structure RelayStream where
  state : RelayStreamState
  owner : Option OpenIdentity
  localFinished : Bool
  remoteFinished : Bool
deriving DecidableEq

namespace RelayStream

def ownedOpening (owner : OpenIdentity) : RelayStream :=
  ⟨.opening, some owner, false, false⟩

def opened (stream : RelayStream) : Except PeerError RelayStream :=
  match stream.state with
  | .opening => .ok { stream with state := .open }
  | .open | .closed =>
      .error (.failedPrecondition "RelayStream is not opening")

def ensureOpen (stream : RelayStream) : Except PeerError Unit :=
  match stream.state with
  | .open => .ok ()
  | .opening => .error (.failedPrecondition "RelayStream is not open yet")
  | .closed => .error (.failedPrecondition "RelayStream is closed")

/-- Whether an end has finished its half. -/
def finishedBy (stream : RelayStream) : StreamEndpoint → Bool
  | .dialer => stream.localFinished
  | .acceptor => stream.remoteFinished

/-- Mark the half of an end finished. -/
def finish (stream : RelayStream) : StreamEndpoint → RelayStream
  | .dialer => { stream with localFinished := true }
  | .acceptor => { stream with remoteFinished := true }

/-- A FIN of `sender`: whether it is the first one, and the stream after it. -/
def fin (stream : RelayStream) (sender : StreamEndpoint) :
    Except PeerError (Bool × RelayStream) := do
  stream.ensureOpen
  if stream.finishedBy sender then
    return (false, stream)
  let stream := stream.finish sender
  if stream.localFinished && stream.remoteFinished then
    return (true, { stream with state := .closed })
  return (true, stream)

def data (stream : RelayStream) (sender : StreamEndpoint) :
    Except PeerError Unit := do
  stream.ensureOpen
  if stream.finishedBy sender then
    throw (.protocol "DATA is not valid after FIN")

def isClosed (stream : RelayStream) : Bool :=
  stream.state = .closed

def isOpen (stream : RelayStream) : Bool :=
  stream.state = .open

end RelayStream

end RelayGate.Peer
