import RelayGate.Peer.Transport

/-!
# Heartbeats and idle retirement of a transport

The timers of one peer transport.  While it has streams it is probed when nothing
was received for the heartbeat interval, and a probe waits for its answer; without
streams it waits for its idle retirement.  Every reading of the clock is an
argument, and the clock has no last instant: a deadline past its range would end
the task of the transport.
-/

namespace RelayGate.Peer

open Library

/-- The timeouts of a transport and the bound of its command queue. -/
structure LoopConfig where
  heartbeatIdleInterval : Duration
  heartbeatResponseTimeout : Duration
  idleRetirementTimeout : Duration
  transportQueueCapacity : Nat
deriving DecidableEq

/-! ## Staggered intervals -/

/-- The sixteen bytes of a UUID, the highest first. -/
def uuidBytes (uuid : Nat) : List Nat :=
  (List.range 16).map fun index => uuid / 256 ^ (15 - index) % 256

/-- Scale a span into nine to eleven tenths of itself by a hash of the seed. -/
def staggered (span : Duration) (seed : Nat) (salt : Nat) : Duration :=
  let hash := (uuidBytes seed).foldl
    (fun hash byte => (hash * 16777619 % 2 ^ 64).xor byte) salt
  let nanos := span * (900 + hash % 201) / 1000
  max (if nanos < 2 ^ 64 then nanos else 2 ^ 64 - 1) 1000000

def staggeredInterval (interval : Duration) (peerTransportId : PeerTransportId)
    (endpoint : StreamEndpoint) : Duration :=
  staggered interval peerTransportId.uuid
    (match endpoint with
    | .dialer => 0x50
    | .acceptor => 0x51)

/-! ## Liveness -/

/-- A probe that waits for its answer. -/
structure PendingHeartbeat where
  nonce : Nat
  sentAt : Instant
  deadline : Instant
deriving DecidableEq

structure TransportLiveness where
  heartbeatIdleInterval : Duration
  heartbeatResponseTimeout : Duration
  idleRetirementTimeout : Duration
  lastInbound : Instant
  pending : Option PendingHeartbeat
  zeroStreamSince : Option Instant
  nextNonce : Nat
deriving DecidableEq

/-- What a deadline asks of the loop. -/
inductive LivenessAction
  | ping (frame : PeerFrame)
  | heartbeatTimeout
  | idleRetired
deriving DecidableEq

namespace TransportLiveness

def new (heartbeatIdleInterval heartbeatResponseTimeout
    idleRetirementTimeout : Duration) (now : Instant) : TransportLiveness where
  heartbeatIdleInterval := heartbeatIdleInterval
  heartbeatResponseTimeout := heartbeatResponseTimeout
  idleRetirementTimeout := idleRetirementTimeout
  lastInbound := now
  pending := none
  zeroStreamSince := none
  nextNonce := 1

/-- A transport that has lost its last stream starts to idle and forgets its probe;
one that has got a stream starts a new heartbeat interval. -/
def syncStreamState (liveness : TransportLiveness) (isEmpty : Bool)
    (now : Instant) : TransportLiveness :=
  match isEmpty, liveness.zeroStreamSince with
  | true, none => { liveness with zeroStreamSince := some now, pending := none }
  | false, some _ => { liveness with zeroStreamSince := none, lastInbound := now }
  | _, _ => liveness

/-- A received frame counts when it answers the probe in time, or when no probe
waits.  The result is the round trip of the answered probe. -/
def observeInbound (liveness : TransportLiveness) (frame : PeerFrame)
    (now : Instant) : Option Duration × TransportLiveness :=
  let heard := { liveness with lastInbound := now, pending := none }
  match liveness.pending, frame with
  | some pending, .pong nonce =>
      if pending.nonce = nonce ∧ now < pending.deadline then
        (some (now - pending.sentAt), heard)
      else
        (none, liveness)
  | some _, _ => (none, liveness)
  | none, .pong _ | none, .hello _ | none, .welcome _
  | none, .handshakeRejected _ _ => (none, liveness)
  | none, _ => (none, heard)

def responseTimedOut (liveness : TransportLiveness) (now : Instant) : Bool :=
  liveness.pending.any fun pending => pending.deadline ≤ now

/-- The instant of the next retirement, timeout or probe. -/
def due (liveness : TransportLiveness) : Instant :=
  match liveness.zeroStreamSince with
  | some since => since + liveness.idleRetirementTimeout
  | none =>
      match liveness.pending with
      | some pending => pending.deadline
      | none => liveness.lastInbound + liveness.heartbeatIdleInterval

/-- A transport always has a deadline. -/
def nextDeadline (liveness : TransportLiveness) : Option Instant :=
  some liveness.due

def onDeadline (liveness : TransportLiveness) (now : Instant)
    (isEmpty commandQueueEmpty : Bool) :
    Option LivenessAction × TransportLiveness :=
  if isEmpty then
    if liveness.zeroStreamSince.any fun since =>
        since + liveness.idleRetirementTimeout ≤ now then
      if commandQueueEmpty then
        (some .idleRetired, liveness)
      else
        (none, { liveness with zeroStreamSince := some now })
    else
      (none, liveness)
  else
    match liveness.pending with
    | some pending =>
        (if pending.deadline ≤ now then some .heartbeatTimeout else none, liveness)
    | none =>
        if now < liveness.lastInbound + liveness.heartbeatIdleInterval then
          (none, liveness)
        else
          (some (.ping (.ping liveness.nextNonce)),
            { liveness with
              nextNonce := max ((liveness.nextNonce + 1) % 2 ^ 64) 1
              pending := some
                { nonce := liveness.nextNonce
                  sentAt := now
                  deadline := now + liveness.heartbeatResponseTimeout } })

/-- The probe was given to the writer: its answer is awaited from now on. -/
def markProbeCommitted (liveness : TransportLiveness) (now : Instant) :
    TransportLiveness :=
  { liveness with
    pending := liveness.pending.map fun pending =>
      { pending with
        sentAt := now
        deadline := now + liveness.heartbeatResponseTimeout } }

end TransportLiveness

end RelayGate.Peer
