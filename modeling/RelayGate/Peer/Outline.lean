import RelayGate.Library.Execution
import RelayGate.Peer.Actor

/-!
# What an actor is to its streams

The part of a transport actor that decides how it speaks and what it makes of
the frames it hears.  An actor's outline gives, for every stream number, the
phase of this end and the signals it has not yet put on the wire.  Notices,
shared sets, deadlines of the loop and the ready set are outside it.
-/

namespace RelayGate.Peer

open Library

variable {relay : RelayStream} {writer : Writer} {frame : PeerFrame}
  {streamId : StreamId} {stream : RuntimeStream}

/-! ## The outline of an actor -/

/-- What an actor is to its streams. -/
structure Outline where
  localEndpoint : StreamEndpoint
  remoteEndpoint : StreamEndpoint
  allocator : StreamIdAllocator
  remoteGuard : RemoteStreamGuard
  streams : Table StreamId RuntimeStream
  writer : Writer
  allocated : List StreamId
  violations : List (StreamId × String)

def TransportActor.outline (actor : TransportActor) : Outline where
  localEndpoint := actor.localEndpoint
  remoteEndpoint := actor.remoteEndpoint
  allocator := actor.allocator
  remoteGuard := actor.remoteGuard
  streams := actor.streams
  writer := actor.aggregateWriter
  allocated := actor.allocated
  violations := actor.violations

namespace Outline

/-- Replace the state of a stream. -/
def put (outline : Outline) (streamId : StreamId) (stream : RuntimeStream) :
    Outline :=
  { outline with streams := outline.streams.insert streamId stream }

/-- Take a stream off the table. -/
def discard (outline : Outline) (streamId : StreamId) : Outline :=
  { outline with streams := outline.streams.remove streamId }

end Outline

/-! ## Operations outside the outline -/

namespace TransportActor

variable (actor : TransportActor)

@[simp]
theorem outline_notify (notice : TransportNotice) :
    (actor.notify notice).outline = actor.outline := by
  unfold notify
  split <;> rfl

@[simp]
theorem outline_failTransport (reason : TransportCloseReason) :
    (actor.failTransport reason).outline = actor.outline :=
  rfl

@[simp]
theorem outline_emit (event : PeerEvent) : (actor.emit event).outline = actor.outline := by
  unfold emit
  split <;> simp

@[simp]
theorem outline_finishStream (streamId : StreamId) :
    (actor.finishStream streamId).outline = actor.outline.discard streamId := by
  unfold finishStream
  dsimp only
  cases found : actor.streams.get streamId with
  | none =>
    have unchanged : actor.streams.remove streamId = actor.streams :=
      Table.remove_of_get_eq_none found
    unfold Outline.discard outline
    dsimp only
    rw [unchanged]
  | some =>
    dsimp only
    split
    · rfl
    · simp only [outline_notify]
      rfl

@[simp]
theorem outline_emitTerminalReset (actor : TransportActor)
    (streamId : StreamId) (code : ErrorCode) (message : String) :
    (actor.emitTerminalReset streamId code message).outline = actor.outline := by
  unfold emitTerminalReset
  split
  · rfl
  · split
    · split <;> simp
    · simp

end TransportActor

/-! ## A first FIN -/

/-- The relay state after the first FIN of an end. -/
def RelayStream.afterFin (relay : RelayStream) (sender : StreamEndpoint) :
    RelayStream :=
  { relay.finish sender with
    state := if relay.finishedBy sender.other then .closed else .open }

/-- A FIN is accepted on an open stream; a repeated one changes nothing. -/
theorem RelayStream.fin_of_open (sender : StreamEndpoint) (isOpen : relay.state = .open) :
    relay.fin sender =
      if relay.finishedBy sender then .ok (false, relay)
      else .ok (true, relay.afterFin sender) := by
  unfold RelayStream.fin RelayStream.ensureOpen RelayStream.afterFin
  rw [isOpen]
  obtain ⟨state, owner, dialerDone, acceptorDone⟩ := relay
  cases isOpen
  cases sender <;> cases dialerDone <;> cases acceptorDone <;> rfl

theorem RelayStream.open_of_fin {sender : StreamEndpoint}
    {result : Bool × RelayStream} (accepted : relay.fin sender = .ok result) :
    relay.state = .open := by
  unfold RelayStream.fin RelayStream.ensureOpen at accepted
  cases state : relay.state with
  | «open» => rfl
  | opening | closed =>
    rw [state] at accepted
    cases accepted

/-! ## The queue of the writer -/

theorem Writer.eq_of_trySend {after : Writer} (sent : writer.trySend frame = .ok after) :
    writer.closed = false ∧
      after = { writer with queue := writer.queue ++ [frame] } := by
  unfold Writer.trySend at sent
  cases closed : writer.closed with
  | true =>
    rw [closed] at sent
    cases sent
  | false =>
    rw [closed] at sent
    simp only [Bool.false_eq_true, if_false] at sent
    split at sent
    · cases sent
    · cases sent
      exact ⟨rfl, rfl⟩

theorem Writer.closed_of_trySend
    (refused : writer.trySend frame = .error .closed) : writer.closed = true := by
  unfold Writer.trySend at refused
  by_contra running
  rw [if_neg running] at refused
  split at refused <;> cases refused

/-! ## Flushing -/

/-- A stream that has said everything and has nothing left to flush. -/
def Outline.Settled (outline : Outline) (streamId : StreamId) : Prop :=
  ∀ stream, outline.streams.get streamId = some stream →
    stream.terminalQueued = true ∧ stream.queuedFrames = []

theorem Outline.Settled.put_of_ne {outline : Outline} {other : StreamId}
    (settled : outline.Settled other) (different : other ≠ streamId) :
    (outline.put streamId stream).Settled other := by
  intro found stored
  rw [Outline.put, Table.get_insert_of_ne _ _ different] at stored
  exact settled found stored

theorem Outline.settled_put {outline : Outline} (terminal : stream.terminalQueued = true)
    (unqueued : stream.queuedFrames = []) : (outline.put streamId stream).Settled streamId := by
  intro found stored
  rw [Outline.put, Table.get_insert_self] at stored
  cases stored
  exact ⟨terminal, unqueued⟩

namespace TransportActor

variable {pass : FlushPass} {streamId other : StreamId} {stream : RuntimeStream}
  {frame : PeerFrame} {frames : List PeerFrame}

theorem outline_setQueue (actor : TransportActor) (streamId : StreamId)
    (stream : RuntimeStream) (frames : List PeerFrame) :
    (actor.setQueue streamId stream frames).outline =
      actor.outline.put streamId { stream with queuedFrames := frames } := by
  unfold setQueue
  dsimp only
  split <;> rfl

/-- A stream that is listed as finished has nothing queued, so it is not the one
whose frame moves next. -/
theorem ne_of_settled (settled : ∀ listed ∈ pass.finished, pass.actor.outline.Settled listed)
    (found : pass.actor.streams.get streamId = some stream)
    (queued : stream.queuedFrames = frame :: frames)
    (member : other ∈ pass.finished) : other ≠ streamId := by
  rintro rfl
  have unqueued := (settled other member stream found).2
  rw [queued] at unqueued
  cases unqueued

/-- What is listed as finished after a frame has moved is settled. -/
theorem settled_move (settled : ∀ listed ∈ pass.finished, pass.actor.outline.Settled listed)
    (found : pass.actor.streams.get streamId = some stream)
    (queued : stream.queuedFrames = frame :: frames) (writer : Writer)
    (member : other ∈ if frames.isEmpty && stream.terminalQueued then
      pass.finished ++ [streamId] else pass.finished) :
    ({ pass.actor with aggregateWriter := writer }.setQueue streamId stream
      frames).outline.Settled other := by
  rw [outline_setQueue]
  split at member
  · rename_i last
    rcases List.mem_append.mp member with listed | new
    · exact Outline.Settled.put_of_ne (settled other listed)
        (ne_of_settled settled found queued listed)
    · obtain ⟨empty, terminal⟩ := Bool.and_eq_true_iff.mp last
      rw [List.mem_singleton.mp new]
      exact Outline.settled_put terminal (List.isEmpty_iff.mp empty)
  · exact Outline.Settled.put_of_ne (settled other member)
      (ne_of_settled settled found queued member)

end TransportActor

end RelayGate.Peer
