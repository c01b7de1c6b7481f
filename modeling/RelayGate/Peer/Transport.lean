import RelayGate.Library.Counter
import RelayGate.Library.OrderedSet
import RelayGate.Peer.Frame

/-!
# One end of a peer transport

The protocol state of one authenticated transport: its streams with their
bounded queues, the aggregate writer queue they are flushed to, and the notices
for the peer manager.  Two fields are kept for verification only: `allocated`
records the stream numbers handed out, and `violations` the received frames that
were judged protocol violations, with the reason given.
-/

namespace RelayGate.Peer

open Library

/-- Why a transport ends. -/
inductive TransportCloseReason
  | localClose
  | remoteClosed
  | protocolError
  | writerFailed
  | heartbeatTimeout
  | idleRetired
deriving DecidableEq, Repr

/-- Messages to the peer manager. -/
inductive TransportNotice
  | event (event : PeerEvent)
  | streamEnded (key : PeerStreamKey) (openIdentity : OpenIdentity)
  | attemptEnded (openIdentity : OpenIdentity)
  | transportLost (peerGatewayId : GatewayId)
      (peerTransportId : PeerTransportId) (reason : TransportCloseReason)
      (streams : List LostPeerStream)
deriving DecidableEq

/-! ## The aggregate writer -/

inductive TrySendError
  | full
  | closed
deriving DecidableEq, Repr

/-- The bounded queue of the writer task; `closed` once the task has ended. -/
structure Writer where
  queue : List PeerFrame
  capacity : Nat
  closed : Bool
deriving DecidableEq

def Writer.trySend (writer : Writer) (frame : PeerFrame) :
    Except TrySendError Writer :=
  if writer.closed then
    .error .closed
  else if writer.capacity ≤ writer.queue.length then
    .error .full
  else
    .ok { writer with queue := writer.queue ++ [frame] }

/-! ## Streams -/

inductive StreamOrigin
  | localEnd
  | remoteEnd
deriving DecidableEq, Repr

structure RuntimeStream where
  relay : RelayStream
  queuedFrames : List PeerFrame
  terminalQueued : Bool
  progress : PeerOpenProgress
  origin : StreamOrigin
  openDeadline : Option Instant
deriving DecidableEq

/-- The stream in a new relay state. -/
def RuntimeStream.become (stream : RuntimeStream) (relay : RelayStream)
    (progress : PeerOpenProgress) : RuntimeStream :=
  { stream with relay := relay, progress := progress }

/-- The settings a transport reads. -/
structure TransportConfig where
  maxStreamsPerTransport : Nat
  streamQueueCapacity : Nat
  writerQueueCapacity : Nat
  openResponseTimeout : Duration
deriving DecidableEq

/-- Put a frame at the end of a stream's queue.  Behind a terminal frame a
further terminal one is dropped and any other one refused. -/
def enqueueFrame (stream : RuntimeStream) (queueCapacity : Nat)
    (frame : PeerFrame) (terminal : Bool) :
    Except PeerFailure (RuntimeStream × Bool) :=
  if stream.terminalQueued then
    if terminal then
      .ok ({ stream with openDeadline := none }, false)
    else
      .error (.maybeObserved .failedPrecondition
        "peer RelayStream already has a terminal frame queued")
  else if queueCapacity ≤ stream.queuedFrames.length then
    .error (.maybeObserved .resourceExhausted
      "peer stream writer queue is full")
  else
    .ok ({ stream with
      queuedFrames := stream.queuedFrames ++ [frame]
      terminalQueued := terminal
      openDeadline := if terminal then none else stream.openDeadline }, true)

/-! ## The actor -/

/-- The protocol state of one end.  `activeOpens` and `streamCount` are shared
with the manager and with the other transports of the Gateway. -/
structure TransportActor where
  peerGatewayId : GatewayId
  peerTransportId : PeerTransportId
  localEndpoint : StreamEndpoint
  remoteEndpoint : StreamEndpoint
  allocator : StreamIdAllocator
  remoteGuard : RemoteStreamGuard
  streams : Table StreamId RuntimeStream
  readyStreams : OrderedSet StreamId
  aggregateWriter : Writer
  notices : List TransportNotice
  noticesClosed : Bool
  activeOpens : Finset OpenIdentity
  streamCount : Counter
  failure : Option TransportCloseReason
  cancelled : Bool
  config : TransportConfig
  allocated : List StreamId
  violations : List (StreamId × String)

namespace TransportActor

def new (peerGatewayId : GatewayId) (peerTransportId : PeerTransportId)
    (localEndpoint : StreamEndpoint) (activeOpens : Finset OpenIdentity)
    (streamCount : Counter) (config : TransportConfig) : TransportActor where
  peerGatewayId := peerGatewayId
  peerTransportId := peerTransportId
  localEndpoint := localEndpoint
  remoteEndpoint := localEndpoint.other
  allocator := StreamIdAllocator.new localEndpoint
  remoteGuard := RemoteStreamGuard.new localEndpoint.other
  streams := ∅
  readyStreams := ∅
  aggregateWriter := ⟨[], config.writerQueueCapacity, false⟩
  notices := []
  noticesClosed := false
  activeOpens := activeOpens
  streamCount := streamCount
  failure := none
  cancelled := false
  config := config
  allocated := []
  violations := []

def key (actor : TransportActor) (streamId : StreamId) : PeerStreamKey :=
  ⟨actor.peerGatewayId, actor.peerTransportId, streamId⟩

/-- The first failure decides the reason; every failure cancels the loop. -/
def failTransport (actor : TransportActor) (reason : TransportCloseReason) :
    TransportActor :=
  { actor with failure := actor.failure.or (some reason), cancelled := true }

/-- Notify the manager, if it still listens. -/
def notify (actor : TransportActor) (notice : TransportNotice) :
    TransportActor :=
  if actor.noticesClosed then actor
  else { actor with notices := actor.notices ++ [notice] }

/-- Report an event; a manager that is gone fails the transport. -/
def emit (actor : TransportActor) (event : PeerEvent) : TransportActor :=
  if actor.noticesClosed then actor.failTransport .protocolError
  else actor.notify (.event event)

/-- `reserve` of the shared set: whether the identity was free. -/
def reserve (actor : TransportActor) (openIdentity : OpenIdentity) :
    Bool × TransportActor :=
  (openIdentity ∉ actor.activeOpens,
    { actor with activeOpens := insert openIdentity actor.activeOpens })

def release (actor : TransportActor) (openIdentity : OpenIdentity) :
    TransportActor :=
  { actor with activeOpens := actor.activeOpens.erase openIdentity }

def insertStream (actor : TransportActor) (streamId : StreamId)
    (stream : RuntimeStream) : TransportActor :=
  { actor with
    streams := actor.streams.insert streamId stream
    streamCount := actor.streamCount.add 1 }

/-- Replace the state of a stream of the table. -/
def setStream (actor : TransportActor) (streamId : StreamId)
    (stream : RuntimeStream) : TransportActor :=
  { actor with streams := actor.streams.insert streamId stream }

/-- Change a stream that is in the table. -/
def updateStream (actor : TransportActor) (streamId : StreamId)
    (update : RuntimeStream → RuntimeStream) : TransportActor :=
  { actor with streams := actor.streams.modify streamId update }

/-- Enqueue a frame on a stream and mark the stream ready to be flushed. -/
def enqueueStreamFrame (actor : TransportActor) (streamId : StreamId)
    (stream : RuntimeStream) (frame : PeerFrame) (terminal : Bool) :
    Except PeerFailure TransportActor :=
  match enqueueFrame stream actor.config.streamQueueCapacity frame terminal with
  | .error failure => .error failure
  | .ok (stream, queued) =>
      let actor := actor.setStream streamId stream
      .ok (if queued then
        { actor with readyStreams := actor.readyStreams.insert streamId }
      else actor)

/-- Enqueue a terminal frame; a full queue fails the transport. -/
def enqueueTerminal (actor : TransportActor) (streamId : StreamId)
    (stream : RuntimeStream) (frame : PeerFrame) :
    Except PeerFailure Unit × TransportActor :=
  match actor.enqueueStreamFrame streamId stream frame true with
  | .error failure => (.error failure, actor.failTransport .writerFailed)
  | .ok actor => (.ok (), actor)

def finishStream (actor : TransportActor) (streamId : StreamId) :
    TransportActor :=
  let actor := { actor with readyStreams := actor.readyStreams.erase streamId }
  match actor.streams.get streamId with
  | none => actor
  | some stream =>
      let actor := { actor with streams := actor.streams.remove streamId }
      match stream.relay.owner with
      | none => actor.failTransport .protocolError
      | some openIdentity =>
          let actor := actor.release openIdentity
          { actor with streamCount := actor.streamCount.sub 1 }.notify
            (.streamEnded (actor.key streamId) openIdentity)

/-- The streams in ascending order of their numbers. -/
def orderedStreams (actor : TransportActor) :
    List (StreamId × RuntimeStream) :=
  actor.streams.toList.insertionSort fun first second => first.1 ≤ second.1

/-- Give up every stream when the transport has ended. -/
def drainLosses (actor : TransportActor) :
    List LostPeerStream × TransportActor :=
  let losses := actor.orderedStreams.filterMap fun entry =>
    entry.2.relay.owner.map fun openIdentity =>
      ⟨actor.key entry.1, openIdentity, entry.2.progress⟩
  (losses,
    { actor with
      readyStreams := ∅
      streams := ∅
      activeOpens := actor.activeOpens \
        (losses.map LostPeerStream.openIdentity).toFinset
      streamCount := actor.streamCount.sub actor.streams.len })

/-! ## OPEN deadlines -/

/-- The streams whose OPEN has waited too long for an answer. -/
def expiredOpens (actor : TransportActor) (now : Instant) : List StreamId :=
  (actor.orderedStreams.filter fun entry =>
    !entry.2.terminalQueued &&
      entry.2.openDeadline.any fun deadline => deadline ≤ now).map Prod.fst

/-- Reset one expired stream; `false` when that failed the transport. -/
def expireOpen (actor : TransportActor) (streamId : StreamId) :
    Bool × TransportActor :=
  match actor.streams.get streamId with
  | none => (true, actor)
  | some stream =>
      match stream.relay.owner with
      | none => (false, actor.failTransport .protocolError)
      | some openIdentity =>
          match actor.enqueueStreamFrame streamId stream
              (.reset streamId .deadlineExceeded
                "peer OPEN response timed out") true with
          | .error _ => (false, actor.failTransport .writerFailed)
          | .ok actor =>
              let actor := actor.updateStream streamId fun stream =>
                { stream with openDeadline := none }
              (true, actor.emit (.failed (actor.key streamId) openIdentity
                (.maybeObserved .deadlineExceeded
                  "peer OPEN response timed out")))

/-- Reset the listed streams until the transport fails. -/
def expireOpens : List StreamId → TransportActor → TransportActor
  | [], actor => actor
  | streamId :: streamIds, actor =>
      match actor.expireOpen streamId with
      | (false, actor) => actor
      | (true, actor) => expireOpens streamIds actor

def expireOpenDeadlines (actor : TransportActor) (now : Instant) :
    TransportActor :=
  expireOpens (actor.expiredOpens now) actor

/-! ## Flushing -/

/-- How a pass over the ready streams ended. -/
inductive PassEnd
  | completed
  | blocked
  | closed
deriving DecidableEq, Repr

/-- A pass over the ready streams: the actor after it, whether a frame moved,
and the streams whose terminal frame moved. -/
structure FlushPass where
  actor : TransportActor
  moved : Bool
  finished : List StreamId
  ending : PassEnd

/-- Forget a stream that has nothing to flush. -/
def unready (actor : TransportActor) (streamId : StreamId) : TransportActor :=
  { actor with readyStreams := actor.readyStreams.erase streamId }

/-- The rest of a stream's queue after its first frame was taken. -/
def setQueue (actor : TransportActor) (streamId : StreamId)
    (stream : RuntimeStream) (frames : List PeerFrame) : TransportActor :=
  let actor :=
    actor.setStream streamId { stream with queuedFrames := frames }
  if frames.isEmpty then actor.unready streamId else actor

/-- Move one frame of each listed stream to the writer, in the order of the
list. -/
def flushPass : List StreamId → FlushPass → FlushPass
  | [], pass => pass
  | streamId :: streamIds, pass =>
      let actor := pass.actor
      match actor.streams.get streamId with
      | none =>
          flushPass streamIds { pass with actor := actor.unready streamId }
      | some stream =>
          match stream.queuedFrames with
          | [] =>
              flushPass streamIds { pass with actor := actor.unready streamId }
          | frame :: frames =>
              match actor.aggregateWriter.trySend frame with
              | .ok writer =>
                  flushPass streamIds
                    { pass with
                      actor := { actor with aggregateWriter := writer }.setQueue
                        streamId stream frames
                      moved := true
                      finished :=
                        if frames.isEmpty && stream.terminalQueued then
                          pass.finished ++ [streamId]
                        else pass.finished }
              | .error .full => { pass with ending := .blocked }
              | .error .closed =>
                  { pass with
                    actor := (actor.setQueue streamId stream
                      frames).failTransport .writerFailed
                    ending := .closed }

/-- Passes over the ready streams until one moves nothing or is blocked. -/
def flushLoop : Nat → TransportActor → TransportActor
  | 0, actor => actor
  | fuel + 1, actor =>
      let pass :=
        flushPass actor.readyStreams.elements ⟨actor, false, [], .completed⟩
      if pass.ending = .closed then
        pass.actor
      else
        let actor := pass.finished.foldl finishStream pass.actor
        if pass.ending = .blocked || !pass.moved then actor
        else flushLoop fuel actor

/-- The frames waiting in the streams' queues. -/
def queuedCount (actor : TransportActor) : Nat :=
  actor.streams.tally fun _ stream => stream.queuedFrames.length

/-- Every pass but the last moves a queued frame, so the fuel suffices. -/
def flushStreamQueues (actor : TransportActor) : TransportActor :=
  flushLoop (actor.queuedCount + 1) actor

/-- What a pass and the end of a stream keep, the passes keep. -/
theorem kept_flushLoop {Kept : TransportActor → Prop}
    (flush : ∀ streamIds pass, Kept pass.actor → Kept (flushPass streamIds pass).actor)
    (finish : ∀ actor, Kept actor → ∀ streamId, Kept (finishStream actor streamId))
    (fuel : Nat) {actor : TransportActor} (kept : Kept actor) : Kept (flushLoop fuel actor) := by
  induction fuel generalizing actor with
  | zero => exact kept
  | succ fuel ih =>
    have passed := flush actor.readyStreams.elements
      ⟨actor, false, [], .completed⟩ kept
    have finished := fun streamIds : List StreamId =>
      List.foldlRecOn streamIds finishStream passed
        fun actor kept streamId _ => finish actor kept streamId
    unfold flushLoop
    dsimp only
    split
    · exact passed
    · split
      · exact finished _
      · exact ih (finished _)

end TransportActor

end RelayGate.Peer
