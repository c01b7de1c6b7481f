import RelayGate.Gateway.RateLimit
import RelayGate.Gateway.Registry
import RelayGate.Library.Counter
import RelayGate.Peer.Identity

/-!
# The Gateway state core

Sessions, Pipes, remote open attempts and the redundant indexes and counters
over them, with the helpers through which every transition edits them.  Instants
kept only for metrics are left out.  `overwritten` records a failed debug
assertion: an insertion that met an existing entry.
-/

namespace RelayGate.Gateway

open Library

structure SessionEntry where
  highestConnectionId : Option Nat
  controlRate : TokenBucket
deriving DecidableEq

inductive PipePhase
  | offered
  | open
deriving DecidableEq, Repr

/-- One end of a Pipe: a local SDK session or a peer stream. -/
inductive PipeEndpoint
  | sdk (sessionId : SessionId)
  | peer (key : PeerStreamKey)
deriving DecidableEq, Repr

def PipeEndpoint.sdkSession : PipeEndpoint → Option SessionId
  | .sdk sessionId => some sessionId
  | .peer _ => none

def PipeEndpoint.peerKey : PipeEndpoint → Option PeerStreamKey
  | .sdk _ => none
  | .peer key => some key

structure PipeEntry where
  dialer : PipeEndpoint
  acceptor : PipeEndpoint
  bindingId : BindingId
  openIdentity : Option OpenIdentity
  phase : PipePhase
  offeredAt : Instant
  dialerFinished : Bool
  acceptorFinished : Bool
deriving DecidableEq

/-- The stream a Pipe is indexed under: the dialer's, else the acceptor's. -/
def PipeEntry.peerKey (pipe : PipeEntry) : Option PeerStreamKey :=
  pipe.dialer.peerKey.or pipe.acceptor.peerKey

/-- Whether the Pipe was dialed by an SDK session. -/
def PipeEntry.originated (pipe : PipeEntry) : Bool :=
  pipe.dialer.sdkSession.isSome

inductive RemoteOpenPhase
  | resolving
  | startingPeer (bindingId : BindingId)
  | awaitingPeer (key : PeerStreamKey) (bindingId : BindingId)
deriving DecidableEq

structure RemoteOpenAttempt where
  pipeId : PipeId
  destination : Destination
  phase : RemoteOpenPhase
deriving DecidableEq

structure GatewayLimits where
  controlRatePerSecond : Nat
  controlBurst : Nat
  sessionControlRatePerSecond : Nat
  sessionControlBurst : Nat
  maxSessions : Nat
  maxBindings : Nat
  maxPendingOffers : Nat
  maxRemoteDialAttempts : Nat
  maxLivePipes : Nat
  offerTimeout : Duration
deriving DecidableEq

structure GatewayState where
  sessions : Table SessionId SessionEntry
  registry : LocalRegistry
  pipes : Table PipeId PipeEntry
  peerPipes : Table PeerStreamKey PipeId
  activePeerOpens : Table OpenIdentity PeerStreamKey
  remoteOpenAttempts : Table OpenIdentity RemoteOpenAttempt
  pendingOfferCount : Counter
  livePipeCount : Counter
  originatedPipeCount : Counter
  draining : Bool
  gatewayId : Option GatewayId
  limits : GatewayLimits
  controlRate : TokenBucket
  overwritten : Bool

/-! ## Actions -/

/-- A frame for a peer stream. -/
inductive PeerDelivery
  | opened (key : PeerStreamKey)
  | failed (key : PeerStreamKey) (code : ErrorCode)
      (observation : PeerObservation) (message : String)
  | data (key : PeerStreamKey) (payload : List UInt8)
  | fin (key : PeerStreamKey)
  | close (key : PeerStreamKey)
  | reset (key : PeerStreamKey) (code : ErrorCode) (message : String)
deriving DecidableEq

/-- Actions the state core returns instead of performing effects itself. -/
inductive GatewayAction
  | sendSdkFrame (target : SessionId) (frame : Frame)
  | sendSdkTerminalBatch (target : SessionId) (frames : List Frame)
  | publishRegistration (sessionId : SessionId) (bindings : List Binding)
  | resolveRoute (openIdentity : OpenIdentity) (destination : Destination)
  | openPeer (openIdentity : OpenIdentity) (gatewayId : GatewayId)
      (gatewayLocator : GatewayLocator) (destination : Destination)
      (relaySessionId : SessionId) (bindingId : BindingId)
  | cancelPeerOpen (openIdentity : OpenIdentity)
  | sendPeerFrame (delivery : PeerDelivery)
deriving DecidableEq

/-- A frame from a session that does not own the Pipe it names. -/
structure ProtocolViolation where
  sender : SessionId
  pipeId : PipeId
  frameName : String
deriving DecidableEq

namespace GatewayState

def build (limits : GatewayLimits) (gatewayId : Option GatewayId)
    (now : Instant) : GatewayState where
  sessions := ∅
  registry := LocalRegistry.empty
  pipes := ∅
  peerPipes := ∅
  activePeerOpens := ∅
  remoteOpenAttempts := ∅
  pendingOfferCount := Counter.zero
  livePipeCount := Counter.zero
  originatedPipeCount := Counter.zero
  draining := false
  gatewayId := gatewayId
  limits := limits
  controlRate :=
    TokenBucket.new limits.controlRatePerSecond limits.controlBurst now
  overwritten := false

/-! ## Pipe table helpers -/

def indexPeerPipe (state : GatewayState) (pipeId : PipeId)
    (pipe : PipeEntry) : GatewayState :=
  match pipe.peerKey with
  | none => state
  | some key =>
      { state with
        peerPipes := state.peerPipes.insert key pipeId
        activePeerOpens :=
          match pipe.openIdentity with
          | none => state.activePeerOpens
          | some openIdentity => state.activePeerOpens.insert openIdentity key
        overwritten := state.overwritten || state.peerPipes.contains key ||
          pipe.openIdentity.any fun openIdentity =>
            state.activePeerOpens.contains openIdentity }

def insertOffer (state : GatewayState) (pipeId : PipeId) (pipe : PipeEntry) :
    GatewayState :=
  let state := state.indexPeerPipe pipeId pipe
  { state with
    pipes := state.pipes.insert pipeId pipe
    overwritten := state.overwritten || state.pipes.contains pipeId
    pendingOfferCount := state.pendingOfferCount.add 1 }

def insertOpen (state : GatewayState) (pipeId : PipeId) (pipe : PipeEntry) :
    GatewayState :=
  let state := state.indexPeerPipe pipeId pipe
  { state with
    originatedPipeCount :=
      if pipe.originated then state.originatedPipeCount.add 1
      else state.originatedPipeCount
    pipes := state.pipes.insert pipeId pipe
    overwritten := state.overwritten || state.pipes.contains pipeId
    livePipeCount := state.livePipeCount.add 1 }

/-- The indexes and counters after a Pipe left the table. -/
def discountPipe (state : GatewayState) (pipe : PipeEntry) : GatewayState :=
  { state with
    peerPipes :=
      match pipe.peerKey with
      | none => state.peerPipes
      | some key => state.peerPipes.remove key
    activePeerOpens :=
      match pipe.openIdentity with
      | none => state.activePeerOpens
      | some openIdentity => state.activePeerOpens.remove openIdentity
    pendingOfferCount :=
      match pipe.phase with
      | .offered => state.pendingOfferCount.sub 1
      | .open => state.pendingOfferCount
    livePipeCount :=
      match pipe.phase with
      | .offered => state.livePipeCount
      | .open => state.livePipeCount.sub 1
    originatedPipeCount :=
      if pipe.phase = .open ∧ pipe.originated then
        state.originatedPipeCount.sub 1
      else
        state.originatedPipeCount }

def removePipe (state : GatewayState) (pipeId : PipeId) :
    Option PipeEntry × GatewayState :=
  match state.pipes.get pipeId with
  | none => (none, state)
  | some pipe =>
      (some pipe,
        discountPipe { state with pipes := state.pipes.remove pipeId } pipe)

def promoteOffer (state : GatewayState) (pipeId : PipeId) :
    Option PipeEntry × GatewayState :=
  match state.pipes.get pipeId with
  | none => (none, state)
  | some pipe =>
      if pipe.phase ≠ .offered then
        (none, state)
      else
        let pipe := { pipe with phase := .open }
        (some pipe,
          { state with
            pipes := state.pipes.insert pipeId pipe
            pendingOfferCount := state.pendingOfferCount.sub 1
            livePipeCount := state.livePipeCount.add 1
            originatedPipeCount :=
              if pipe.originated then state.originatedPipeCount.add 1
              else state.originatedPipeCount })

/-- Forget a remote open attempt and its active identity. -/
def takeRemoteAttempt (state : GatewayState) (openIdentity : OpenIdentity) :
    Option RemoteOpenAttempt × GatewayState :=
  match state.remoteOpenAttempts.get openIdentity with
  | none => (none, state)
  | some attempt =>
      (some attempt,
        { state with
          remoteOpenAttempts := state.remoteOpenAttempts.remove openIdentity
          activePeerOpens := state.activePeerOpens.remove openIdentity })

/-! ## Frames for the two ends of a Pipe -/

/-- A frame for an SDK session, or nothing if the session is gone. -/
def sendTo (state : GatewayState) (target : SessionId) (frame : Frame) :
    List GatewayAction :=
  if state.sessions.contains target then [.sendSdkFrame target frame] else []

def openFailed (state : GatewayState) (dialer : SessionId) (connectionId : Nat)
    (code : ErrorCode) (observation : PeerObservation) (message : String) :
    List GatewayAction :=
  state.sendTo dialer (.dialFailed connectionId code observation message)

def dialerOpened (state : GatewayState) (pipe : PipeEntry) (pipeId : PipeId) :
    List GatewayAction :=
  match pipe.dialer with
  | .sdk dialer => state.sendTo dialer (.opened pipeId)
  | .peer key => [.sendPeerFrame (.opened key)]

def dialerFailure (state : GatewayState) (pipe : PipeEntry) (pipeId : PipeId)
    (code : ErrorCode) (observation : PeerObservation) (message : String) :
    List GatewayAction :=
  match pipe.dialer with
  | .sdk dialer =>
      state.openFailed dialer pipeId.connectionId code observation message
  | .peer key => [.sendPeerFrame (.failed key code observation message)]

def endpointReset (state : GatewayState) (target : PipeEndpoint)
    (pipeId : PipeId) (code : ErrorCode) (message : String) :
    List GatewayAction :=
  match target with
  | .sdk sessionId => state.sendTo sessionId (.reset pipeId code message)
  | .peer key => [.sendPeerFrame (.reset key code message)]

def endpointData (state : GatewayState) (target : PipeEndpoint)
    (pipeId : PipeId) (payload : List UInt8) : List GatewayAction :=
  match target with
  | .sdk sessionId => state.sendTo sessionId (.data pipeId payload)
  | .peer key => [.sendPeerFrame (.data key payload)]

def endpointFin (state : GatewayState) (target : PipeEndpoint)
    (pipeId : PipeId) : List GatewayAction :=
  match target with
  | .sdk sessionId => state.sendTo sessionId (.fin pipeId)
  | .peer key => [.sendPeerFrame (.fin key)]

def endpointClose (state : GatewayState) (target : PipeEndpoint)
    (pipeId : PipeId) : List GatewayAction :=
  match target with
  | .sdk sessionId => state.sendTo sessionId (.close pipeId)
  | .peer key => [.sendPeerFrame (.close key)]

/-- The complete current snapshot of a session's bindings. -/
def registrationPublication (state : GatewayState) (sessionId : SessionId) :
    GatewayAction :=
  .publishRegistration sessionId
    (if state.draining then [] else state.registry.bindingsForSession sessionId)

def pendingCapacityReached (state : GatewayState) : Bool :=
  state.limits.maxPendingOffers ≤
    state.pendingOfferCount.value + state.remoteOpenAttempts.len

def livePipeLimitReached (state : GatewayState) : Bool :=
  state.limits.maxLivePipes ≤ state.livePipeCount.value

end GatewayState

end RelayGate.Gateway
