import RelayGate.Protocol.Frame

/-!
# Peer identities

The identities under which two Gateways correlate their streams, the counter
from which each end of a transport allocates stream numbers, and the guard that
checks the numbers of the other end.
-/

namespace RelayGate

/-- Identifies one peer transport. -/
structure PeerTransportId where
  uuid : Nat
deriving DecidableEq, Repr

/-- A transport-local stream number. -/
structure StreamId where
  raw : Nat
deriving DecidableEq, Repr

namespace StreamId

instance : LinearOrder StreamId :=
  LinearOrder.lift' raw fun first second same => by
    cases first
    cases second
    exact congrArg StreamId.mk same

/-- The role bit of the end that allocated the number. -/
def initiatorBit (streamId : StreamId) : Nat :=
  streamId.raw % 2

/-- The counter the number was allocated from. -/
def counter (streamId : StreamId) : Nat :=
  streamId.raw / 2

end StreamId

/-- The two ends of one peer transport. -/
inductive StreamEndpoint
  | dialer
  | acceptor
deriving DecidableEq, Repr

def StreamEndpoint.bit : StreamEndpoint → Nat
  | .dialer => 0
  | .acceptor => 1

/-- The other end. -/
def StreamEndpoint.other : StreamEndpoint → StreamEndpoint
  | .dialer => .acceptor
  | .acceptor => .dialer

/-- Failures of the peer runtime's own checks. -/
inductive PeerError
  | invalidArgument (message : String)
  | alreadyExists (message : String)
  | failedPrecondition (message : String)
  | protocol (message : String)
  | resourceExhausted (message : String)
deriving DecidableEq, Repr

/-- The last counter for which a stream number fits 64 bits. -/
def maxStreamCounter : Nat := 2 ^ 63 - 1

/-- Allocates the stream numbers of one end. -/
structure StreamIdAllocator where
  endpoint : StreamEndpoint
  nextCounter : Nat
deriving DecidableEq, Repr

namespace StreamIdAllocator

def new (endpoint : StreamEndpoint) : StreamIdAllocator :=
  ⟨endpoint, 0⟩

def allocate (allocator : StreamIdAllocator) :
    Except PeerError (StreamId × StreamIdAllocator) :=
  if maxStreamCounter < allocator.nextCounter then
    .error (.resourceExhausted "PeerTransport StreamId counter is exhausted")
  else
    .ok (⟨2 * allocator.nextCounter + allocator.endpoint.bit⟩,
      { allocator with nextCounter := allocator.nextCounter + 1 })

end StreamIdAllocator

/-- Checks the stream numbers the other end opens. -/
structure RemoteStreamGuard where
  remoteEndpoint : StreamEndpoint
  highestCounter : Option Nat
deriving DecidableEq, Repr

namespace RemoteStreamGuard

def new (remoteEndpoint : StreamEndpoint) : RemoteStreamGuard :=
  ⟨remoteEndpoint, none⟩

def acceptOpen (guard : RemoteStreamGuard) (streamId : StreamId) :
    Except PeerError RemoteStreamGuard :=
  if streamId.initiatorBit ≠ guard.remoteEndpoint.bit then
    .error (.protocol "remote StreamId role bit is invalid")
  else if guard.highestCounter.any fun highest =>
      streamId.counter ≤ highest then
    .error (.protocol "remote StreamId counter is not strictly increasing")
  else
    .ok { guard with highestCounter := some streamId.counter }

end RemoteStreamGuard

/-- How far a stream has come. -/
inductive PeerOpenProgress
  | afterOpenCommit
  | opened
deriving DecidableEq, Repr

/-- Identifies one remote open by its entry Gateway, origin session and
connection. -/
structure OpenIdentity where
  entryGateway : GatewayId
  originSession : SessionId
  connectionId : Nat
deriving DecidableEq, Repr

/-- The Pipe a remote open is for. -/
def OpenIdentity.pipeId (openIdentity : OpenIdentity) : PipeId :=
  ⟨openIdentity.originSession, openIdentity.connectionId⟩

/-- Transport-local identity of one peer stream. -/
structure PeerStreamKey where
  peerGatewayId : GatewayId
  peerTransportId : PeerTransportId
  streamId : StreamId
deriving DecidableEq, Repr

end RelayGate
