import RelayGate.Peer.Transport

/-!
# Commands and received frames

The two inputs of a transport actor: commands of its own Gateway, and frames of
the other end.  Frames for streams that are unknown or already ended are late
and do nothing; a frame that does not fit a current stream resets that stream
as a protocol error.
-/

namespace RelayGate.Peer

open Library

/-- A command addressed to one stream. -/
inductive StreamCommand
  | opened
  | failed (failure : PeerFailure)
  | data (payload : List UInt8)
  | fin
  | close
  | reset (code : ErrorCode) (message : String)
deriving DecidableEq

inductive TransportCommand
  | open (request : PeerOpenRequest)
  | cancel (openIdentity : OpenIdentity)
  | stream (streamId : StreamId) (command : StreamCommand)
deriving DecidableEq

namespace TransportActor

/-! ## Commands -/

/-- The writer refused an OPEN before it was committed. -/
def openCommitFailure : TrySendError → PeerFailure
  | .full => .notObserved .resourceExhausted
      "peer aggregate writer queue is full before OPEN commit"
  | .closed => .notObserved .unavailable
      "peer transport closed before OPEN commit"

/-- Allocate a stream and commit its OPEN to the writer.  A number that was
allocated for an OPEN the writer refuses is not used again. -/
def «open» (actor : TransportActor) (request : PeerOpenRequest)
    (now : Instant) : Except PeerFailure PeerStreamKey × TransportActor :=
  if actor.config.maxStreamsPerTransport ≤ actor.streams.len then
    (.error (.notObserved .resourceExhausted
      "peer transport stream limit is reached"),
      actor.release request.openIdentity)
  else
    match actor.allocator.allocate with
    | .error _ =>
        (.error (.notObserved .resourceExhausted
          "peer StreamId counter is exhausted"),
          actor.release request.openIdentity)
    | .ok (streamId, allocator) =>
        let actor :=
          { actor with
            allocator := allocator
            allocated := actor.allocated ++ [streamId] }
        match actor.aggregateWriter.trySend
            (.open streamId request.openIdentity request.destination
              request.relaySessionId request.bindingId) with
        | .error error =>
            (.error (openCommitFailure error),
              actor.release request.openIdentity)
        | .ok writer =>
            (.ok (actor.key streamId),
              { actor with aggregateWriter := writer }.insertStream streamId
                { relay := RelayStream.ownedOpening request.openIdentity
                  queuedFrames := []
                  terminalQueued := false
                  progress := .afterOpenCommit
                  origin := .localEnd
                  openDeadline :=
                    checkedAdd now actor.config.openResponseTimeout })

/-- A command for a stream that is gone or has its terminal frame queued does
nothing; any other one is run on the stream. -/
def onLiveStream (actor : TransportActor) (streamId : StreamId)
    (run : RuntimeStream → Except PeerFailure Unit × TransportActor) :
    Except PeerFailure Unit × TransportActor :=
  match actor.streams.get streamId with
  | none => (.ok (), actor)
  | some stream =>
      if stream.terminalQueued then (.ok (), actor) else run stream

/-- Enqueue a frame and then replace the stream's relay state and progress; a
refused frame changes nothing. -/
def enqueueWith (actor : TransportActor) (streamId : StreamId)
    (stream : RuntimeStream) (frame : PeerFrame) (terminal : Bool)
    (relay : RelayStream) (progress : PeerOpenProgress) :
    Except PeerFailure Unit × TransportActor :=
  match actor.enqueueStreamFrame streamId stream frame terminal with
  | .error failure => (.error failure, actor)
  | .ok actor =>
      (.ok (), actor.updateStream streamId fun stream =>
        stream.become relay progress)

def sendOpened (actor : TransportActor) (streamId : StreamId) :
    Except PeerFailure Unit × TransportActor :=
  actor.onLiveStream streamId fun stream =>
    if stream.origin ≠ .remoteEnd then
      (.error (.maybeObserved .failedPrecondition
        "OPENED can only answer a peer-originated OPEN"), actor)
    else if stream.progress = .opened then
      (.ok (), actor)
    else
      match stream.relay.opened with
      | .error _ =>
          (.error (.maybeObserved .failedPrecondition
            "peer RelayStream is not opening"), actor)
      | .ok relay =>
          actor.enqueueWith streamId stream (.opened streamId) false relay
            .opened

def sendFailed (actor : TransportActor) (streamId : StreamId)
    (failure : PeerFailure) : Except PeerFailure Unit × TransportActor :=
  actor.onLiveStream streamId fun stream =>
    if stream.origin ≠ .remoteEnd ∨ stream.progress = .opened then
      (.error (.maybeObserved .failedPrecondition
        "FAILED can only answer an opening peer-originated OPEN"), actor)
    else
      actor.enqueueTerminal streamId stream
        (.failed streamId failure.code failure.observation failure.message)

/-- DATA for a stream that already ended is dropped: its terminal event is on
its way to the Gateway. -/
def sendData (actor : TransportActor) (streamId : StreamId)
    (payload : List UInt8) : Except PeerFailure Unit × TransportActor :=
  match actor.streams.get streamId with
  | none => (.ok (), actor)
  | some stream =>
      match stream.relay.data actor.localEndpoint with
      | .error _ =>
          (.error (.maybeObserved .failedPrecondition
            "peer RelayStream does not accept DATA in this direction"), actor)
      | .ok () =>
          match actor.enqueueStreamFrame streamId stream
              (.data streamId payload) false with
          | .error failure => (.error failure, actor)
          | .ok actor => (.ok (), actor)

def sendFin (actor : TransportActor) (streamId : StreamId) :
    Except PeerFailure Unit × TransportActor :=
  actor.onLiveStream streamId fun stream =>
    match stream.relay.fin actor.localEndpoint with
    | .error _ =>
        (.error (.maybeObserved .failedPrecondition
          "peer RelayStream does not accept FIN in this direction"), actor)
    | .ok (false, _) => (.ok (), actor)
    | .ok (true, relay) =>
        actor.enqueueWith streamId stream (.fin streamId) relay.isClosed relay
          stream.progress

def sendReset (actor : TransportActor) (streamId : StreamId)
    (code : ErrorCode) (message : String) :
    Except PeerFailure Unit × TransportActor :=
  actor.onLiveStream streamId fun stream =>
    actor.enqueueTerminal streamId stream (.reset streamId code message)

def sendClose (actor : TransportActor) (streamId : StreamId) :
    Except PeerFailure Unit × TransportActor :=
  actor.onLiveStream streamId fun stream =>
    if !stream.relay.isOpen then
      actor.sendReset streamId .protocolError "CLOSE is invalid before OPENED"
    else
      actor.enqueueTerminal streamId stream (.close streamId)

/-- Reset the stream that was opened for an identity. -/
def cancel (actor : TransportActor) (openIdentity : OpenIdentity) :
    Except PeerFailure Unit × TransportActor :=
  match actor.orderedStreams.find? fun entry =>
      entry.2.relay.owner = some openIdentity with
  | none => (.ok (), actor)
  | some (streamId, _) =>
      actor.sendReset streamId .cancelled "peer OPEN was cancelled"

def streamCommand (actor : TransportActor) (streamId : StreamId) :
    StreamCommand → Except PeerFailure Unit × TransportActor
  | .opened => actor.sendOpened streamId
  | .failed failure => actor.sendFailed streamId failure
  | .data payload => actor.sendData streamId payload
  | .fin => actor.sendFin streamId
  | .close => actor.sendClose streamId
  | .reset code message => actor.sendReset streamId code message

/-- The answer to a command. -/
inductive Reply
  | opened (result : Except PeerFailure PeerStreamKey)
  | done (result : Except PeerFailure Unit)

def handleCommand (actor : TransportActor) (command : TransportCommand)
    (now : Instant) : Reply × TransportActor :=
  match command with
  | .open request =>
      match actor.open request now with
      | (.error failure, actor) =>
          (.opened (.error failure),
            actor.notify (.attemptEnded request.openIdentity))
      | (.ok key, actor) => (.opened (.ok key), actor)
  | .cancel openIdentity =>
      let (result, actor) := actor.cancel openIdentity
      (.done result, actor)
  | .stream streamId command =>
      let (result, actor) := actor.streamCommand streamId command
      (.done result, actor)

/-! ## Received frames -/

/-- Refuse a remote OPEN with a FAILED that goes to the writer directly. -/
def rejectRemoteOpen (actor : TransportActor) (streamId : StreamId)
    (code : ErrorCode) (message : String) : TransportActor :=
  match actor.aggregateWriter.trySend
      (.failed streamId code .notObserved message) with
  | .error _ => actor.failTransport .writerFailed
  | .ok writer => { actor with aggregateWriter := writer }

/-- A stream that ends: while its own OPEN is unanswered the open fails,
otherwise the stream is reset. -/
def emitTerminalReset (actor : TransportActor) (streamId : StreamId)
    (code : ErrorCode) (message : String) : TransportActor :=
  match actor.streams.get streamId with
  | none => actor
  | some stream =>
      if stream.origin = .localEnd ∧ stream.progress ≠ .opened then
        match stream.relay.owner with
        | none => actor.failTransport .protocolError
        | some openIdentity =>
            actor.emit (.failed (actor.key streamId) openIdentity
              (.maybeObserved code message))
      else
        actor.emit (.reset (actor.key streamId) code message)

def recordViolation (actor : TransportActor) (streamId : StreamId)
    (message : String) : TransportActor :=
  { actor with violations := actor.violations ++ [(streamId, message)] }

def protocolReset (actor : TransportActor) (streamId : StreamId)
    (message : String) : TransportActor :=
  let actor := actor.recordViolation streamId message
  match actor.sendReset streamId .protocolError message with
  | (.error _, actor) => actor
  | (.ok (), actor) =>
      actor.emitTerminalReset streamId .protocolError message

def receiveOpen (actor : TransportActor) (streamId : StreamId)
    (openIdentity : OpenIdentity) (destination : Destination)
    (relaySessionId : SessionId) (bindingId : BindingId) : TransportActor :=
  match actor.remoteGuard.acceptOpen streamId with
  | .error _ =>
      let message := "remote StreamId is invalid or not strictly increasing"
      (actor.recordViolation streamId message).rejectRemoteOpen streamId
        .protocolError message
  | .ok remoteGuard =>
      let actor := { actor with remoteGuard := remoteGuard }
      if openIdentity.entryGateway ≠ actor.peerGatewayId then
        actor.rejectRemoteOpen streamId .permissionDenied
          "peer OPEN entry Gateway identity does not match the authenticated transport"
      else if actor.config.maxStreamsPerTransport ≤ actor.streams.len then
        actor.rejectRemoteOpen streamId .resourceExhausted
          "peer transport stream limit is reached"
      else
        match actor.reserve openIdentity with
        | (false, actor) =>
            actor.rejectRemoteOpen streamId .alreadyExists
              "peer OPEN identity is already active"
        | (true, actor) =>
            (actor.insertStream streamId
              { relay := RelayStream.ownedOpening openIdentity
                queuedFrames := []
                terminalQueued := false
                progress := .afterOpenCommit
                origin := .remoteEnd
                openDeadline := none }).emit
              (.incomingOpen (actor.key streamId) openIdentity destination
                relaySessionId bindingId)

/-- A frame for a stream that is gone or has its terminal frame queued does
nothing; any other one is received by the stream. -/
def receiveLive (actor : TransportActor) (streamId : StreamId)
    (receive : RuntimeStream → TransportActor) : TransportActor :=
  match actor.streams.get streamId with
  | none => actor
  | some stream => if stream.terminalQueued then actor else receive stream

def receiveOpened (actor : TransportActor) (streamId : StreamId) :
    TransportActor :=
  actor.receiveLive streamId fun stream =>
    if stream.origin ≠ .localEnd then
      actor.protocolReset streamId
        "OPENED is invalid for a peer-originated stream"
    else if stream.progress = .opened then
      actor
    else
      match stream.relay.opened with
      | .error _ =>
          actor.protocolReset streamId
            "OPENED is invalid in the current stream phase"
      | .ok relay =>
          let actor := actor.setStream streamId
            { stream with
              relay := relay
              progress := .opened
              openDeadline := none }
          match relay.owner with
          | none => actor.failTransport .protocolError
          | some openIdentity =>
              actor.emit (.opened (actor.key streamId) openIdentity)

def receiveFailed (actor : TransportActor) (streamId : StreamId)
    (failure : PeerFailure) : TransportActor :=
  actor.receiveLive streamId fun stream =>
    if stream.origin ≠ .localEnd ∨ stream.progress = .opened then
      actor.protocolReset streamId
        "FAILED is invalid in the current stream phase"
    else
      match stream.relay.owner with
      | none => actor.failTransport .protocolError
      | some openIdentity =>
          (actor.emit (.failed (actor.key streamId) openIdentity
            failure)).finishStream streamId

def receiveData (actor : TransportActor) (streamId : StreamId)
    (payload : List UInt8) : TransportActor :=
  actor.receiveLive streamId fun stream =>
    match stream.relay.data actor.remoteEndpoint with
    | .error _ =>
        actor.protocolReset streamId
          "DATA is invalid in the current stream phase"
    | .ok () => actor.emit (.data (actor.key streamId) payload)

/-- The second FIN closes the stream, which stays until its queue is flushed. -/
def receiveFin (actor : TransportActor) (streamId : StreamId) :
    TransportActor :=
  actor.receiveLive streamId fun stream =>
    match stream.relay.fin actor.remoteEndpoint with
    | .error _ =>
        actor.protocolReset streamId
          "FIN is invalid in the current stream phase"
    | .ok (false, _) => actor
    | .ok (true, relay) =>
        let stream :=
          { stream with
            relay := relay
            terminalQueued := relay.isClosed
            openDeadline :=
              if relay.isClosed then none else stream.openDeadline }
        let actor :=
          (actor.setStream streamId stream).emit (.fin (actor.key streamId))
        if relay.isClosed && stream.queuedFrames.isEmpty then
          actor.finishStream streamId
        else actor

def receiveClose (actor : TransportActor) (streamId : StreamId) :
    TransportActor :=
  actor.receiveLive streamId fun stream =>
    if !stream.relay.isOpen then
      actor.protocolReset streamId "CLOSE is invalid before OPENED"
    else
      (actor.emit (.close (actor.key streamId))).finishStream streamId

def receiveReset (actor : TransportActor) (streamId : StreamId)
    (code : ErrorCode) (message : String) : TransportActor :=
  actor.receiveLive streamId fun _ =>
    (actor.emitTerminalReset streamId code message).finishStream streamId

/-- Apply a received frame; `false` ends the loop. -/
def handleFrame (actor : TransportActor) :
    PeerFrame → Bool × TransportActor
  | .open streamId openIdentity destination relaySessionId bindingId =>
      (true, actor.receiveOpen streamId openIdentity destination
        relaySessionId bindingId)
  | .opened streamId => (true, actor.receiveOpened streamId)
  | .failed streamId code observation message =>
      (true, actor.receiveFailed streamId ⟨code, observation, message⟩)
  | .data streamId payload => (true, actor.receiveData streamId payload)
  | .fin streamId => (true, actor.receiveFin streamId)
  | .close streamId => (true, actor.receiveClose streamId)
  | .reset streamId code message =>
      (true, actor.receiveReset streamId code message)
  | .ping nonce =>
      match actor.aggregateWriter.trySend (.pong nonce) with
      | .error _ => (false, actor.failTransport .writerFailed)
      | .ok writer => (true, { actor with aggregateWriter := writer })
  | .pong _ => (true, actor)
  | .hello _ | .welcome _ | .handshakeRejected _ _ => (false, actor)

/-! ## The tasks beside the actor -/

/-- The writer task has ended: what it had not written is lost. -/
def closeWriter (actor : TransportActor) : TransportActor :=
  { actor with
    aggregateWriter := { actor.aggregateWriter with closed := true } }

/-- The writer task has taken frames off its queue. -/
def setWriterQueue (actor : TransportActor) (frames : List PeerFrame) :
    TransportActor :=
  { actor with
    aggregateWriter := { actor.aggregateWriter with queue := frames } }

/-- The loop has ended: give up the streams and report their loss. -/
def stop (actor : TransportActor) (reason : TransportCloseReason) :
    TransportActor :=
  let (losses, actor) := actor.drainLosses
  actor.closeWriter.notify
    (.transportLost actor.peerGatewayId actor.peerTransportId
      (actor.failure.getD reason) losses)

end TransportActor

end RelayGate.Peer
