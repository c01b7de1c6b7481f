import RelayGate.RouteTable.Model

/-!
# The SDK–Gateway wire protocol

Error codes, Pipe identities and the frames exchanged within one SDK–Gateway
session.
-/

namespace RelayGate

/-- Stable wire error codes. -/
inductive ErrorCode
  | invalidArgument
  | unauthenticated
  | permissionDenied
  | notFound
  | failedPrecondition
  | unavailable
  | deadlineExceeded
  | resourceExhausted
  | cancelled
  | protocolError
  | internal
  | alreadyExists
deriving DecidableEq, Repr

/-- Whether a peer may have observed a failed control operation. -/
inductive PeerObservation
  | notObserved
  | maybeObserved
  | observed
deriving DecidableEq, Repr

/-- Identifies one SDK–Gateway transport-session incarnation. -/
structure SessionId where
  uuid : Nat
deriving DecidableEq, Repr

/-- The Relay session a RouteTable identity names, as a protocol session. -/
def RelaySessionId.sessionId (relaySessionId : RelaySessionId) : SessionId :=
  ⟨relaySessionId.uuid⟩

/-- Identifies one Pipe as its origin session plus a session-local counter. -/
structure PipeId where
  originSessionId : SessionId
  connectionId : Nat
deriving DecidableEq, Repr

/-- Maximum UTF-8 byte length of an operation bearer token. -/
def maxBearerTokenBytes : Nat := 4096

/-- Bounded operation credential carried only by `publish` and `dial`. -/
structure BearerToken where
  secret : String
  bounded : secret.utf8ByteSize ≤ maxBearerTokenBytes
deriving DecidableEq

/-- Wire messages exchanged within one SDK–Gateway session. -/
inductive Frame
  | hello
  | welcome (sessionId : SessionId)
  | sessionRejected (code : ErrorCode) (message : String)
  | publish (requestId : Nat) (destination : Destination)
      (accessToken : BearerToken)
  | published (requestId : Nat) (bindingId : BindingId)
  | publishFailed (requestId : Nat) (code : ErrorCode) (message : String)
  | unpublish (requestId : Nat) (bindingId : BindingId)
  | unpublished (requestId : Nat)
  | dial (connectionId : Nat) (destination : Destination)
      (accessToken : BearerToken)
  | offer (pipeId : PipeId) (bindingId : BindingId) (destination : Destination)
  | offerAccepted (pipeId : PipeId)
  | offerRejected (pipeId : PipeId) (code : ErrorCode) (message : String)
  | opened (pipeId : PipeId)
  | dialFailed (connectionId : Nat) (code : ErrorCode)
      (observation : PeerObservation) (message : String)
  | data (pipeId : PipeId) (payload : List UInt8)
  | fin (pipeId : PipeId)
  | close (pipeId : PipeId)
  | reset (pipeId : PipeId) (code : ErrorCode) (message : String)
  | ping (nonce : Nat)
  | pong (nonce : Nat)
  | cancel (pipeId : PipeId)
deriving DecidableEq

end RelayGate
