import RelayGate.Peer.Outline

/-!
# What a flush does to the streams

While the writer is open, flushing only moves frames: each stream's frames go to the
writer in their order, and a stream whose terminal frame has moved leaves the table.
No stream loses a frame and the transport is not failed.
-/

namespace RelayGate.Peer

open Library

/-! ## Frames carried to the writer -/

/-- The frames of one stream among those that moved. -/
def movedOf (streamId : StreamId) (moved : List (StreamId × PeerFrame)) :
    List PeerFrame :=
  (moved.filter fun entry => entry.1 = streamId).map Prod.snd

@[simp]
theorem movedOf_append (streamId : StreamId) (first second : List (StreamId × PeerFrame)) :
    movedOf streamId (first ++ second) = movedOf streamId first ++ movedOf streamId second := by
  simp [movedOf]

theorem movedOf_self (streamId : StreamId) (frame : PeerFrame) :
    movedOf streamId [(streamId, frame)] = [frame] := by
  simp [movedOf]

theorem movedOf_of_ne {streamId other : StreamId} (different : other ≠ streamId)
    (frame : PeerFrame) : movedOf other [(streamId, frame)] = [] := by
  simp [movedOf, different.symm]

/-- A stream keeps its state while some frames leave the head of its queue; one that
has its terminal frame among them may end. -/
inductive Carried (moved : List PeerFrame) :
    Option RuntimeStream → Option RuntimeStream → Prop
  | absent (unmoved : moved = []) : Carried moved none none
  | kept (stream : RuntimeStream) (rest : List PeerFrame)
      (queued : stream.queuedFrames = moved ++ rest) :
      Carried moved (some stream) (some { stream with queuedFrames := rest })
  | ended (stream : RuntimeStream) (queued : stream.queuedFrames = moved)
      (terminal : stream.terminalQueued = true) : Carried moved (some stream) none

namespace Carried

variable {before : Option RuntimeStream}

theorem refl (stream : Option RuntimeStream) : Carried [] stream stream := by
  cases stream with
  | none => exact absent rfl
  | some stream => exact kept stream stream.queuedFrames rfl

theorem trans {first second : List PeerFrame} {middle after : Option RuntimeStream}
    (earlier : Carried first before middle) (later : Carried second middle after) :
    Carried (first ++ second) before after := by
  cases earlier with
  | absent unmoved =>
    subst unmoved
    exact later
  | kept stream rest queued =>
    cases later with
    | kept _ remaining split =>
      refine kept stream remaining ?_
      dsimp only at split
      rw [queued, split, List.append_assoc]
    | ended _ all terminal =>
      refine ended stream ?_ terminal
      dsimp only at all
      rw [queued, all]
  | ended stream queued terminal =>
    cases later with
    | absent unmoved =>
      subst unmoved
      rw [List.append_nil]
      exact ended stream queued terminal

/-- A stream that is still there was there with the same relay state. -/
theorem relay_of_some {moved : List PeerFrame}
    {after : RuntimeStream} (carried : Carried moved before (some after)) :
    ∃ stream, before = some stream ∧ after.relay = stream.relay := by
  cases carried with
  | kept stream => exact ⟨stream, rfl, rfl⟩

end Carried

namespace TransportActor

/-- Every stream has an owner. -/
def Owned (actor : TransportActor) : Prop :=
  Table.Every (fun _ stream => stream.relay.owner ≠ none) actor.streams

/-- Only frames have moved to the writer. -/
structure Drained (before after : TransportActor) : Prop where
  failure : after.failure = before.failure
  cancelled : after.cancelled = before.cancelled
  writing : after.aggregateWriter.closed = before.aggregateWriter.closed
  moved : ∃ moved : List (StreamId × PeerFrame),
    after.aggregateWriter.queue =
        before.aggregateWriter.queue ++ moved.map Prod.snd ∧
      ∀ streamId, Carried (movedOf streamId moved)
        (before.streams.get streamId) (after.streams.get streamId)

namespace Drained

variable {before after : TransportActor}

theorem trans {middle : TransportActor}
    (earlier : Drained before middle) (later : Drained middle after) : Drained before after where
  failure := later.failure.trans earlier.failure
  cancelled := later.cancelled.trans earlier.cancelled
  writing := later.writing.trans earlier.writing
  moved := by
    obtain ⟨first, queueFirst, carriedFirst⟩ := earlier.moved
    obtain ⟨second, queueSecond, carriedSecond⟩ := later.moved
    refine ⟨first ++ second, ?_, fun streamId => ?_⟩
    · rw [queueSecond, queueFirst, List.map_append, List.append_assoc]
    · rw [movedOf_append]
      exact (carriedFirst streamId).trans (carriedSecond streamId)

/-- Nothing moved. -/
theorem of_same (failure : after.failure = before.failure)
    (cancelled : after.cancelled = before.cancelled)
    (writer : after.aggregateWriter = before.aggregateWriter)
    (streams : after.streams = before.streams) : Drained before after where
  failure := failure
  cancelled := cancelled
  writing := by rw [writer]
  moved := by
    refine ⟨[], ?_, fun streamId => ?_⟩
    · rw [writer, List.map_nil, List.append_nil]
    · rw [streams]
      exact Carried.refl _

theorem owned (drained : Drained before after) (owned : before.Owned) : after.Owned := by
  obtain ⟨moved, -, carried⟩ := drained.moved
  intro streamId stream found
  have here := carried streamId
  rw [found] at here
  obtain ⟨earlier, stored, same⟩ := here.relay_of_some
  rw [same]
  exact owned streamId earlier stored

end Drained

variable {actor : TransportActor} {streamId : StreamId} {stream : RuntimeStream}

/-- The first frame of a stream's queue moves to the writer. -/
theorem drained_move {frame : PeerFrame} {frames : List PeerFrame} {writer : Writer}
    (found : actor.streams.get streamId = some stream)
    (queued : stream.queuedFrames = frame :: frames)
    (sent : actor.aggregateWriter.trySend frame = .ok writer) :
    Drained actor
      ({ actor with aggregateWriter := writer }.setQueue streamId stream frames) := by
  obtain ⟨-, rfl⟩ := Writer.eq_of_trySend sent
  have streams : ({ actor with
      aggregateWriter :=
        { actor.aggregateWriter with
          queue := actor.aggregateWriter.queue ++ [frame] } }.setQueue streamId
      stream frames).streams =
        actor.streams.insert streamId { stream with queuedFrames := frames } := by
    unfold setQueue
    dsimp only
    split <;> rfl
  constructor
  · unfold setQueue
    dsimp only
    split <;> rfl
  · unfold setQueue
    dsimp only
    split <;> rfl
  · unfold setQueue
    dsimp only
    split <;> rfl
  · refine ⟨[(streamId, frame)], ?_, fun other => ?_⟩
    · unfold setQueue
      dsimp only
      split <;> rfl
    · rw [streams]
      by_cases same : other = streamId
      · subst same
        rw [Table.get_insert_self, found, movedOf_self]
        exact Carried.kept stream frames queued
      · rw [Table.get_insert_of_ne _ _ same, movedOf_of_ne same]
        exact Carried.refl _

/-- A stream whose terminal frame has moved leaves the table. -/
theorem drained_finishStream (owned : actor.Owned) (settled : actor.outline.Settled streamId) :
    Drained actor (actor.finishStream streamId) := by
  unfold finishStream
  dsimp only
  cases found : actor.streams.get streamId with
  | none => exact Drained.of_same rfl rfl rfl rfl
  | some stream =>
    dsimp only
    obtain ⟨terminal, unqueued⟩ := settled stream found
    cases owner : stream.relay.owner with
    | none => exact absurd owner (owned streamId stream found)
    | some =>
      dsimp only
      have carried : ∀ other, Carried [] (actor.streams.get other)
          ((actor.streams.remove streamId).get other) := by
        intro other
        by_cases same : other = streamId
        · subst same
          rw [Table.get_remove_self, found]
          exact Carried.ended stream unqueued terminal
        · rw [Table.get_remove_of_ne _ same]
          exact Carried.refl _
      unfold notify
      split
      · exact ⟨rfl, rfl, rfl, [], (List.append_nil _).symm, carried⟩
      · exact ⟨rfl, rfl, rfl, [], (List.append_nil _).symm, carried⟩

theorem drained_finishStreams (streamIds : List StreamId) (owned : actor.Owned)
    (settled : ∀ streamId ∈ streamIds, actor.outline.Settled streamId) :
    Drained actor (streamIds.foldl finishStream actor) := by
  induction streamIds generalizing actor with
  | nil => exact Drained.of_same rfl rfl rfl rfl
  | cons streamId streamIds ih =>
    have first := drained_finishStream owned (settled _ List.mem_cons_self)
    refine first.trans (ih (first.owned owned) fun other member => ?_)
    rw [outline_finishStream]
    intro stream stored
    exact settled other (List.mem_cons_of_mem _ member) stream
      (Table.get_remove_eq_some_iff.mp stored).2

/-- The state of a pass: frames have moved, and what is listed as finished is
settled. -/
structure Passing (start : TransportActor) (pass : FlushPass) : Prop where
  drained : Drained start pass.actor
  settled : ∀ streamId ∈ pass.finished, pass.actor.outline.Settled streamId
  unclosed : pass.ending ≠ .closed

theorem passing_flushPass (streamIds : List StreamId) {start : TransportActor}
    (writing : start.aggregateWriter.closed = false) {pass : FlushPass}
    (passing : Passing start pass) : Passing start (flushPass streamIds pass) := by
  induction streamIds generalizing pass with
  | nil => exact passing
  | cons streamId streamIds ih =>
    have skipped : Passing start
        { pass with actor := pass.actor.unready streamId } :=
      ⟨passing.drained.trans (Drained.of_same rfl rfl rfl rfl), passing.settled, passing.unclosed⟩
    unfold flushPass
    dsimp only
    split
    · exact ih skipped
    · rename_i stream found
      split
      · exact ih skipped
      · rename_i frame frames queued
        split
        · rename_i writer sent
          have moved := passing.drained.trans (drained_move found queued sent)
          exact ih ⟨moved, fun other member =>
            settled_move passing.settled found queued writer member,
            passing.unclosed⟩
        · exact ⟨passing.drained, passing.settled, nofun⟩
        · rename_i refused
          have closed := Writer.closed_of_trySend refused
          rw [passing.drained.writing, writing] at closed
          cases closed

theorem drained_flushLoop (fuel : Nat)
    (owned : actor.Owned) (writing : actor.aggregateWriter.closed = false) :
    Drained actor (flushLoop fuel actor) := by
  induction fuel generalizing actor with
  | zero => exact Drained.of_same rfl rfl rfl rfl
  | succ fuel ih =>
    have passing : Passing actor (flushPass actor.readyStreams.elements
        ⟨actor, false, [], .completed⟩) :=
      passing_flushPass _ writing
        ⟨Drained.of_same rfl rfl rfl rfl, nofun, nofun⟩
    have finished := passing.drained.trans
      (drained_finishStreams _ (passing.drained.owned owned) passing.settled)
    unfold flushLoop
    dsimp only
    rw [if_neg passing.unclosed]
    split
    · exact finished
    · exact finished.trans (ih (finished.owned owned) (finished.writing.trans writing))

theorem drained_flushStreamQueues (owned : actor.Owned)
    (writing : actor.aggregateWriter.closed = false) : Drained actor actor.flushStreamQueues :=
  drained_flushLoop _ owned writing

end TransportActor

end RelayGate.Peer
