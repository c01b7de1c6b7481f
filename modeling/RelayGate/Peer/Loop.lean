import RelayGate.Library.Execution
import RelayGate.Peer.Actor
import RelayGate.Peer.Liveness

/-!
# The task of one transport

The loop that owns a transport actor and its timers.  It takes commands from a
bounded queue, frames from the wire, its deadlines and the wakes of the writer;
after each it flushes the streams' queues and notes whether the transport has
streams.  Every step happens at an instant, and the clock does not pass a deadline
that the loop has not served.
-/

namespace RelayGate.Peer

open Library

/-- The earliest OPEN deadline of the streams. -/
def TransportActor.nextOpenDeadline (actor : TransportActor) : Option Instant :=
  (actor.orderedStreams.filterMap fun entry => entry.2.openDeadline).min?

def earliestDeadline : Option Instant → Option Instant → Option Instant
  | some left, some right => some (min left right)
  | some deadline, none | none, some deadline => some deadline
  | none, none => none

/-- What the read side of a connection yields. -/
inductive Inbound
  | ended
  | failed (isIo : Bool)
  | frame (frame : PeerFrame)
deriving DecidableEq

/-- The actor and the timers of one transport. -/
structure TransportLoop where
  actor : TransportActor
  liveness : TransportLiveness

namespace TransportLoop

def nextDeadline (loop : TransportLoop) : Option Instant :=
  earliestDeadline loop.actor.nextOpenDeadline loop.liveness.nextDeadline

def syncLiveness (loop : TransportLoop) (now : Instant) : TransportLoop :=
  { loop with
    liveness := loop.liveness.syncStreamState loop.actor.streams.isEmpty now }

/-- Every state change flushes the queues and notes whether there are streams. -/
def afterActivity (loop : TransportLoop) (now : Instant) : TransportLoop :=
  { loop with actor := loop.actor.flushStreamQueues }.syncLiveness now

def onCommand (loop : TransportLoop) (command : TransportCommand)
    (now : Instant) : TransportActor.Reply × TransportLoop :=
  let (reply, actor) := loop.actor.handleCommand command now
  (reply, { loop with actor := actor }.afterActivity now)

/-- A result with a reason ends the loop. -/
def onInbound (loop : TransportLoop) (input : Inbound) (now : Instant) :
    Option TransportCloseReason × TransportLoop :=
  match input with
  | .ended => (some .remoteClosed, loop)
  | .failed isIo => (some (if isIo then .remoteClosed else .protocolError), loop)
  | .frame frame =>
      let loop :=
        { loop with liveness := (loop.liveness.observeInbound frame now).2 }
      if loop.liveness.responseTimedOut now then
        (some .heartbeatTimeout, loop)
      else
        match loop.actor.handleFrame frame with
        | (false, actor) => (some .protocolError, { loop with actor := actor })
        | (true, actor) => (none, { loop with actor := actor }.afterActivity now)

def onDeadline (loop : TransportLoop) (commandQueueEmpty : Bool)
    (now : Instant) : Option TransportCloseReason × TransportLoop :=
  let actor := (loop.actor.expireOpenDeadlines now).flushStreamQueues
  match loop.liveness.onDeadline now actor.streams.isEmpty commandQueueEmpty with
  | (some (.ping frame), liveness) =>
      match actor.aggregateWriter.trySend frame with
      | .error _ => (some .writerFailed, ⟨actor, liveness⟩)
      | .ok writer =>
          (none, (TransportLoop.mk { actor with aggregateWriter := writer }
            (liveness.markProbeCommitted now)).syncLiveness now)
  | (some .heartbeatTimeout, liveness) =>
      (some .heartbeatTimeout, ⟨actor, liveness⟩)
  | (some .idleRetired, liveness) => (some .idleRetired, ⟨actor, liveness⟩)
  | (none, liveness) => (none, (TransportLoop.mk actor liveness).syncLiveness now)

end TransportLoop

/-! ## The task -/

/-- The loop with its command queue and the clock; `closed` once it has ended. -/
structure TransportTask where
  loop : TransportLoop
  commands : List TransportCommand
  capacity : Nat
  now : Instant
  closed : Option TransportCloseReason

/-- The steps of the task and of those it works with.  `submit` is a command of the
peer manager, `write` a frame that the writer takes, and `cancel` a closure from
outside.  The loop leaves when it is cancelled, when its commands have no sender
left, and when the writer has ended; it may be woken at any time. -/
inductive TaskEvent
  | wait (span : Duration)
  | submit (command : TransportCommand)
  | command
  | inbound (input : Inbound)
  | deadline
  | wake
  | write
  | share (activeOpens : Finset OpenIdentity) (streamCount : Counter)
  | closeWriter
  | closeNotices
  | cancel (reason : Option TransportCloseReason)
  | leave
  | released
  | writerEnded

namespace TransportTask

/-- A transport that has just been established. -/
def start (peerGatewayId : GatewayId) (peerTransportId : PeerTransportId)
    (localEndpoint : StreamEndpoint) (activeOpens : Finset OpenIdentity)
    (streamCount : Counter) (config : TransportConfig) (loopConfig : LoopConfig)
    (now : Instant) : TransportTask where
  loop := TransportLoop.syncLiveness
    { actor := TransportActor.new peerGatewayId peerTransportId localEndpoint
        activeOpens streamCount config
      liveness := TransportLiveness.new
        (staggeredInterval loopConfig.heartbeatIdleInterval peerTransportId
          localEndpoint)
        loopConfig.heartbeatResponseTimeout loopConfig.idleRetirementTimeout
        now } now
  commands := []
  capacity := loopConfig.transportQueueCapacity
  now := now
  closed := none

/-- Replace the actor of the loop. -/
def setActor (task : TransportTask) (actor : TransportActor) : TransportTask :=
  { task with loop := { task.loop with actor := actor } }

/-- Go on with a loop, or end it for a reason, which an earlier failure overrides:
the streams are given up and their loss is reported. -/
def resume (task : TransportTask) :
    Option TransportCloseReason × TransportLoop → TransportTask
  | (none, loop) => { task with loop := loop }
  | (some reason, loop) =>
      { task with
        loop :=
          { loop with
            actor := { loop.actor with cancelled := true }.stop reason }
        closed := some (loop.actor.failure.getD reason) }

/-- Close a transport from outside, with a reason if it has failed. -/
def cancelWith (actor : TransportActor) :
    Option TransportCloseReason → TransportActor
  | none => { actor with cancelled := true }
  | some reason => actor.failTransport reason

def apply (task : TransportTask) : TaskEvent → TransportTask
  | .wait span => { task with now := task.now + span }
  | .submit command =>
      if task.commands.length < task.capacity then
        { task with commands := task.commands ++ [command] }
      else task
  | .command =>
      match task.commands with
      | [] => task
      | command :: commands =>
          { task with
            loop := (task.loop.onCommand command task.now).2
            commands := commands }
  | .inbound input => task.resume (task.loop.onInbound input task.now)
  | .deadline =>
      task.resume (task.loop.onDeadline task.commands.isEmpty task.now)
  | .wake => { task with loop := task.loop.afterActivity task.now }
  | .write =>
      task.setActor (task.loop.actor.setWriterQueue
        task.loop.actor.aggregateWriter.queue.tail)
  | .share activeOpens streamCount =>
      task.setActor
        { task.loop.actor with
          activeOpens := activeOpens
          streamCount := streamCount }
  | .closeWriter => task.setActor task.loop.actor.closeWriter
  | .closeNotices => task.setActor { task.loop.actor with noticesClosed := true }
  | .cancel reason => task.setActor (cancelWith task.loop.actor reason)
  | .leave | .released => task.resume (some .localClose, task.loop)
  | .writerEnded =>
      task.resume
        (some (if task.loop.actor.cancelled then .localClose else .writerFailed),
          task.loop)

/-- A task that has ended takes no step.  The clock stops at the next deadline until
it is served. -/
def Possible (task : TransportTask) (event : TaskEvent) : Prop :=
  task.closed = none ∧
    match event with
    | .wait span =>
        task.loop.nextDeadline.all (fun deadline => task.now + span ≤ deadline) = true
    | .deadline =>
        task.loop.nextDeadline.any (fun deadline => deadline ≤ task.now) = true
    | .command => task.commands ≠ []
    | .write => task.loop.actor.aggregateWriter.closed = false
    | .leave => task.loop.actor.cancelled = true
    | .released => task.commands = []
    | .writerEnded => task.loop.actor.aggregateWriter.closed = true
    | _ => True

instance (task : TransportTask) (event : TaskEvent) :
    Decidable (task.Possible event) :=
  match event with
  | .wait _ | .deadline | .command | .write | .leave | .released | .writerEnded
  | .submit _ | .inbound _ | .wake | .share _ _ | .closeWriter | .closeNotices
  | .cancel _ => inferInstanceAs (Decidable (_ ∧ _))

def Step (source : TransportTask) (event : TaskEvent) (target : TransportTask) :
    Prop :=
  source.Possible event ∧ target = source.apply event

end TransportTask

end RelayGate.Peer
