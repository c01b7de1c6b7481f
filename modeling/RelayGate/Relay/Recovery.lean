import RelayGate.Peer.Scope
import RelayGate.Relay.Delivery

/-!
# Recovery of one stream

When a DATA or FIN finds the queue of its stream full, the Gateway ends the Pipe and
sends a RESET on the stream and one to the other end of the Pipe.  As long as they are
taken by the queues on their way, no step of this recovery closes the transport or
disturbs another stream; a queue that refuses the first makes the Gateway close the
transport, and a session that refuses the second is removed.
-/

namespace RelayGate.Gateway.GatewayState

open Library

variable (state : GatewayState) (key : PeerStreamKey) (code : ErrorCode)
  (message : String)

/-- No other Pipe is changed by a peer RESET. -/
theorem get_pipes_peerReset_of_ne {key : PeerStreamKey} {pipeId : PipeId}
    (elsewhere : state.peerPipes.get key ≠ some pipeId) :
    (state.peerReset key code message).2.pipes.get pipeId = state.pipes.get pipeId := by
  rcases state.peerReset_cases key code message with
    same | ⟨ended, -, indexed, -, removed⟩
  · rw [same]
  · rw [removed, get_pipes_removePipe, if_neg]
    rintro rfl
    exact elsewhere indexed

theorem remoteOpenAttempts_peerReset :
    (state.peerReset key code message).2.remoteOpenAttempts = state.remoteOpenAttempts := by
  rcases state.peerReset_cases key code message with same | ⟨ended, -, -, -, removed⟩
  · rw [same]
  · rw [removed, remoteOpenAttempts_removePipe]

end RelayGate.Gateway.GatewayState

namespace RelayGate.Peer.TransportActor

variable {failure : PeerFailure}

/-! ## Commands that are refused or queued -/

variable {actor : TransportActor} {streamId : StreamId}

theorem sendData_of_error {payload : List UInt8}
    (refused : (actor.sendData streamId payload).1 = .error failure) :
    (actor.sendData streamId payload).2 = actor := by
  unfold sendData at refused ⊢
  split at refused
  · cases refused
  · split at refused
    · rfl
    · split at refused
      · rfl
      · cases refused

theorem enqueueWith_of_error {stream : RuntimeStream} {frame : PeerFrame}
    {terminal : Bool} {relay : RelayStream} {progress : PeerOpenProgress}
    (refused : (actor.enqueueWith streamId stream frame terminal relay progress).1 =
      .error failure) :
    (actor.enqueueWith streamId stream frame terminal relay progress).2 = actor := by
  unfold enqueueWith at refused ⊢
  split at refused
  · rfl
  · cases refused

theorem sendFin_of_error (refused : (actor.sendFin streamId).1 = .error failure) :
    (actor.sendFin streamId).2 = actor := by
  unfold sendFin onLiveStream at refused ⊢
  split at refused
  · cases refused
  · split at refused
    · cases refused
    · rename_i live
      rw [if_neg live]
      dsimp only at refused ⊢
      split at refused
      · rfl
      · rfl
      · exact enqueueWith_of_error refused

/-- Whether a terminal frame for a stream is dropped or finds room in its queue. -/
def TakesReset (actor : TransportActor) (streamId : StreamId) : Prop :=
  ∀ stream, actor.streams.get streamId = some stream →
    stream.terminalQueued = true ∨
      stream.queuedFrames.length < actor.config.streamQueueCapacity

/-- A RESET that finds room leaves the writer and the closure of the transport
alone. -/
theorem sendReset_of_takes (takes : actor.TakesReset streamId) (code : ErrorCode)
    (message : String) :
    (actor.sendReset streamId code message).2.aggregateWriter =
        actor.aggregateWriter ∧
      (actor.sendReset streamId code message).2.failure = actor.failure ∧
      (actor.sendReset streamId code message).2.cancelled = actor.cancelled := by
  unfold sendReset onLiveStream
  cases found : actor.streams.get streamId with
  | none => exact ⟨rfl, rfl, rfl⟩
  | some stream =>
    dsimp only
    split
    · exact ⟨rfl, rfl, rfl⟩
    · rename_i live
      rcases takes stream found with queued | room
      · exact absurd queued live
      · have notFull : ¬ actor.config.streamQueueCapacity ≤
            stream.queuedFrames.length := Nat.not_le.mpr room
        simp only [enqueueTerminal, enqueueStreamFrame, enqueueFrame, live,
          notFull, if_false, if_true]
        exact ⟨rfl, rfl, rfl⟩

/-- A RESET that finds the queue full fails the transport. -/
theorem sendReset_of_full (full : ¬ actor.TakesReset streamId) (code : ErrorCode)
    (message : String) :
    (actor.sendReset streamId code message).2 = actor.failTransport .writerFailed := by
  simp only [TakesReset, not_forall, not_or, Bool.not_eq_true, not_lt] at full
  obtain ⟨stream, found, live, room⟩ := full
  simp [sendReset, onLiveStream, found, live, enqueueTerminal, enqueueStreamFrame,
    enqueueFrame, room]

end RelayGate.Peer.TransportActor

namespace RelayGate.Peer.TransportTask

open Library TransportActor

variable {task : TransportTask} {loop : TransportLoop}

/-! ## Owners along a run -/

theorem owned_resume {result : Option TransportCloseReason × TransportLoop}
    (owned : result.2.actor.Owned) : (task.resume result).loop.actor.Owned := by
  obtain ⟨reason, loop⟩ := result
  cases reason with
  | none => exact owned
  | some =>
    refine owned_of_streams (streams_notify _) ?_
    exact Table.every_empty

theorem owned_onInbound (owned : loop.actor.Owned)
    (input : Inbound) (now : Instant) : (loop.onInbound input now).2.actor.Owned := by
  cases input with
  | ended | failed => exact owned
  | frame frame =>
    have handled := owned_handleFrame owned frame
    unfold TransportLoop.onInbound
    dsimp only
    split
    · exact owned
    · split
      · rename_i actor result
        rw [result] at handled
        exact handled
      · rename_i actor result
        rw [result] at handled
        exact owned_flushLoop _ handled

theorem owned_onDeadline (owned : loop.actor.Owned) (commandQueueEmpty : Bool) (now : Instant) :
    (loop.onDeadline commandQueueEmpty now).2.actor.Owned := by
  have flushed : ((loop.actor.expireOpenDeadlines now).flushStreamQueues).Owned :=
    owned_flushLoop _ (owned_expireOpens _ owned)
  unfold TransportLoop.onDeadline
  dsimp only
  split
  · split
    · exact flushed
    · exact flushed
  · exact flushed
  · exact flushed
  · exact flushed

/-- Every step of the task keeps the owners of the streams. -/
theorem owned_apply (owned : task.loop.actor.Owned)
    (event : TaskEvent) : (task.apply event).loop.actor.Owned := by
  cases event with
  | submit =>
    unfold apply
    dsimp only
    split <;> exact owned
  | command =>
    unfold apply
    dsimp only
    split
    · exact owned
    · exact owned_flushLoop _
        (owned_handleCommand owned _ _)
  | inbound input => exact owned_resume (owned_onInbound owned input task.now)
  | deadline =>
    exact owned_resume (owned_onDeadline owned task.commands.isEmpty task.now)
  | wake => exact owned_flushLoop _ owned
  | cancel reason =>
    cases reason with
    | none | some => exact owned
  | leave | released | writerEnded => exact owned_resume owned
  | wait | write | share | closeWriter | closeNotices => exact owned

end RelayGate.Peer.TransportTask

namespace RelayGate.Relay

open Gateway Library Peer TransportActor

namespace PeerRelay

variable {command : StreamCommand} {after relay : PeerRelay} {failure : PeerFailure}
  {streamId : StreamId} {commands : List TransportCommand} {event : RelayEvent}

/-- What a recovery leaves as it was: the other Pipes, the closure of the transport,
and every other stream, whose frames may only move on to the writer. -/
structure Isolated (key : PeerStreamKey) (before after : PeerRelay) : Prop where
  pipes : ∀ pipeId, before.gateway.peerPipes.get key ≠ some pipeId →
    after.gateway.pipes.get pipeId = before.gateway.pipes.get pipeId
  attempts :
    after.gateway.remoteOpenAttempts = before.gateway.remoteOpenAttempts
  closed : after.task.closed = before.task.closed
  failure : after.actor.failure = before.actor.failure
  cancelled : after.actor.cancelled = before.actor.cancelled
  streams : ∃ moved : List (StreamId × PeerFrame),
    after.actor.aggregateWriter.queue =
        before.actor.aggregateWriter.queue ++ moved.map Prod.snd ∧
      ∀ streamId, streamId ≠ key.streamId →
        Carried (movedOf streamId moved) (before.actor.streams.get streamId)
          (after.actor.streams.get streamId)

/-- The refusal of a frame for which the stream's queue has no room. -/
def queueFull : PeerFailure :=
  .maybeObserved .resourceExhausted "peer stream writer queue is full"

/-- DATA and FIN. -/
def Sends : StreamCommand → Prop
  | .data _ | .fin => True
  | .opened | .failed _ | .close | .reset _ _ => False

/-- The steps of the recovery of a stream, each with the condition under which the
RESET is accepted there: the loop refuses DATA or FIN, the Gateway resets the Pipe
and sends a RESET, the manager hands it to the transport, the loop handles it, the
Gateway takes the answer, and it delivers the frames for the other end of the Pipe. -/
inductive Recovery (relay : PeerRelay) (key : PeerStreamKey) :
    RelayEvent → Prop → Prop
  | refusal {command : StreamCommand} {commands : List TransportCommand}
      (sends : Sends command)
      (next : relay.task.commands = .stream key.streamId command :: commands)
      (refused : (relay.actor.streamCommand key.streamId command).1 =
        .error queueFull) : Recovery relay key .handle True
  | reset {command : StreamCommand} {index : Nat} (sends : Sends command)
      (answer : relay.answers[index]? = some ⟨key, command, .error queueFull⟩) :
      Recovery relay key (.resume index)
        (relay.managerClosed = false ∧ relay.queue.length < relay.managerCapacity)
  | dispatch {code : ErrorCode} {message : String} {queue : List ManagerCommand}
      (next : relay.queue = .stream key (.reset code message) :: queue) :
      Recovery relay key .dispatch
        (relay.task.commands.length < relay.task.capacity)
  | handling {code : ErrorCode} {message : String} {commands : List TransportCommand}
      (next : relay.task.commands =
        .stream key.streamId (.reset code message) :: commands) :
      Recovery relay key .handle (relay.actor.TakesReset key.streamId)
  | answered {code : ErrorCode} {message : String} {index : Nat}
      {result : Except PeerFailure Unit}
      (answer : relay.answers[index]? = some ⟨key, .reset code message, result⟩) :
      Recovery relay key (.resume index) (result = .ok ())
  | delivery {action : GatewayAction} {index : Nat} {answer : EffectAnswer}
      (asked : relay.actions[index]? = some action) :
      Recovery relay key (.execute index answer) (action.cleanup? [] answer = none)

/-- The Gateway cleans up after a frame that its session does not take; the transport
is left alone. -/
def CleansUp (relay : PeerRelay) (event : RelayEvent) : Prop :=
  ∃ index answer action cleanup, event = .execute index answer ∧
    relay.actions[index]? = some action ∧ action.cleanup? [] answer = some cleanup ∧
    (relay.apply event).gateway = (cleanup.apply relay.gateway).2 ∧
    (relay.apply event).task = relay.task

/-- A transport that is open, with a stream of its own. -/
structure Serving (relay : PeerRelay) (key : PeerStreamKey) : Prop where
  running : relay.task.closed = none
  writing : relay.actor.aggregateWriter.closed = false
  known : relay.knows key = true
  peer : key.peerGatewayId = relay.actor.peerGatewayId
  remote : key.peerGatewayId ≠ relay.localGatewayId

/-! ## The steps of a recovery -/

variable {key : PeerStreamKey}

theorem actor_handle (next : relay.task.commands = .stream streamId command :: commands) :
    (relay.apply .handle).actor =
      (relay.actor.streamCommand streamId command).2.flushStreamQueues := by
  simp only [apply, handle, next, TransportTask.apply]
  rfl

/-- The loop changes the transport only. -/
theorem gateway_handle : (relay.apply .handle).gateway = relay.gateway := by
  simp only [apply, handle]
  split <;> rfl

theorem closed_handle : (relay.apply .handle).task.closed = relay.task.closed := by
  have same : (relay.task.apply .command).closed = relay.task.closed := by
    unfold TransportTask.apply
    dsimp only
    split <;> rfl
  simp only [apply, handle]
  split <;> exact same

/-- A step that leaves the Gateway and the transport alone. -/
theorem isolated_of_same (gateway : after.gateway = relay.gateway)
    (closed : after.task.closed = relay.task.closed)
    (actor : after.actor = relay.actor) : Isolated key relay after where
  pipes pipeId _ := by rw [gateway]
  attempts := by rw [gateway]
  closed := closed
  failure := by rw [actor]
  cancelled := by rw [actor]
  streams := by
    refine ⟨[], ?_, fun streamId _ => ?_⟩
    · rw [actor, List.map_nil, List.append_nil]
    · rw [actor]
      exact Carried.refl _

/-- The loop handles a command that touches one stream, and flushes. -/
theorem isolated_handle (next : relay.task.commands = .stream key.streamId command :: commands)
    (owned : relay.actor.Owned) (serving : Serving relay key)
    (writer : (relay.actor.streamCommand key.streamId command).2.aggregateWriter =
      relay.actor.aggregateWriter)
    (failure : (relay.actor.streamCommand key.streamId command).2.failure = relay.actor.failure)
    (cancelled : (relay.actor.streamCommand key.streamId command).2.cancelled =
      relay.actor.cancelled) :
    Isolated key relay (relay.apply .handle) := by
  have touched := touched_streamCommand relay.actor key.streamId command
  have writing := serving.writing
  rw [← writer] at writing
  have drained := drained_flushStreamQueues (touched.owned owned) writing
  obtain ⟨moved, queue, carried⟩ := drained.moved
  constructor
  · intro pipeId _
    rw [gateway_handle]
  · rw [gateway_handle]
  · exact closed_handle
  · rw [actor_handle next, drained.failure, failure]
  · rw [actor_handle next, drained.cancelled, cancelled]
  · refine ⟨moved, ?_, fun streamId different => ?_⟩
    · rw [actor_handle next, queue, writer]
    · rw [actor_handle next, ← touched.others streamId different]
      exact carried streamId

theorem streamCommand_of_refused {actor : TransportActor} (sends : Sends command)
    (refused : (actor.streamCommand streamId command).1 = .error failure) :
    (actor.streamCommand streamId command).2 = actor := by
  cases command with
  | data => exact sendData_of_error refused
  | fin => exact sendFin_of_error refused
  | opened | failed | close | reset => cases sends

theorem cancelled_closeTransport (known : relay.knows key = true) :
    (relay.closeTransport key).actor.cancelled = true := by
  unfold closeTransport
  rw [if_pos known]
  rfl

/-- The Gateway resets the Pipe and hands the RESET to the manager. -/
theorem isolated_recover
    (accepted : relay.managerClosed = false ∧ relay.queue.length < relay.managerCapacity)
    (recovered : after = relay.recover key failure) : Isolated key relay after := by
  have sent : ∀ command (state : GatewayState) (actions : List GatewayAction),
      tryManagerSend { relay with gateway := state, actions := actions } command =
        .ok { relay with
          gateway := state, actions := actions, queue := relay.queue ++ [command] } := by
    intro command state actions
    simp [tryManagerSend, accepted.1, Nat.not_le.mpr accepted.2]
  subst recovered
  unfold recover
  dsimp only
  rw [sent]
  constructor
  · intro pipeId elsewhere
    exact GatewayState.get_pipes_peerReset_of_ne _ _ _ elsewhere
  · exact GatewayState.remoteOpenAttempts_peerReset _ _ _ _
  · rfl
  · rfl
  · rfl
  · exact ⟨[], (List.append_nil _).symm, fun _ _ => Carried.refl _⟩

theorem cancelled_recover (known : relay.knows key = true)
    (refused : ¬ (relay.managerClosed = false ∧ relay.queue.length < relay.managerCapacity)) :
    (relay.recover key failure).actor.cancelled = true := by
  unfold recover tryManagerSend
  dsimp only
  cases closed : relay.managerClosed with
  | true =>
    simp only [if_true]
    exact cancelled_closeTransport known
  | false =>
    have full : relay.managerCapacity ≤ relay.queue.length := by
      by_contra room
      exact refused ⟨closed, Nat.not_le.mp room⟩
    simp only [Bool.false_eq_true, if_false, full, if_true]
    exact cancelled_closeTransport known

section

variable {code : ErrorCode} {message : String}

/-- The manager hands the RESET to the transport, or closes the transport. -/
theorem apply_dispatch {queue : List ManagerCommand} (serving : Serving relay key)
    (next : relay.queue = .stream key (.reset code message) :: queue) :
    relay.apply .dispatch =
      if relay.task.capacity ≤ relay.task.commands.length then
        PeerRelay.refuse { relay with queue := queue } key (.reset code message)
          (.maybeObserved .resourceExhausted "peer transport command queue is full")
      else
        { relay with
          queue := queue
          task :=
            { relay.task with
              commands := relay.task.commands ++
                [.stream key.streamId (.reset code message)] } } := by
  have known : PeerRelay.knows { relay with queue := queue } key = true := serving.known
  have peer : (PeerRelay.actor { relay with queue := queue }).peerGatewayId =
      key.peerGatewayId := serving.peer.symm
  simp [apply, PeerRelay.dispatch, next, dispatchStreamCommand, serving.remote, known, peer,
    serving.running]

/-- The loop closes the transport for a RESET that its stream cannot queue. -/
theorem cancelled_handle {commands : List TransportCommand} (owned : relay.actor.Owned)
    (serving : Serving relay key) (full : ¬ relay.actor.TakesReset key.streamId)
    (next : relay.task.commands = .stream key.streamId (.reset code message) :: commands) :
    (relay.apply .handle).actor.cancelled = true := by
  have failed := sendReset_of_full full code message
  rw [actor_handle next]
  change (relay.actor.sendReset key.streamId code
    message).2.flushStreamQueues.cancelled = true
  rw [failed]
  have stillOwned : (relay.actor.failTransport .writerFailed).Owned := owned
  rw [(drained_flushStreamQueues stillOwned serving.writing).cancelled]
  rfl

end

/-- A step of a recovery isolates the other streams if what it sends is accepted
there.  If not, it closes the transport or cleans up after a session. -/
theorem Recovery.outcome {accepted : Prop}
    (recovery : Recovery relay key event accepted) (owned : relay.actor.Owned)
    (serving : Serving relay key) :
    (accepted → Isolated key relay (relay.apply event)) ∧
      (¬ accepted → (relay.apply event).actor.cancelled = true ∨ relay.CleansUp event) := by
  cases recovery with
  | refusal sends next refused =>
    have same := streamCommand_of_refused sends refused
    refine ⟨fun _ => ?_, fun refusal => absurd trivial refusal⟩
    apply isolated_handle next owned serving <;> rw [same]
  | @reset command index sends answer =>
    have recovered : relay.apply (.resume index) =
        PeerRelay.recover { relay with answers := relay.answers.eraseIdx index } key
          queueFull := by
      have recoverable : terminal command = false := by
        cases command with
        | data | fin => rfl
        | opened | failed | close | reset => cases sends
      simp [apply, resume, answer, onFailure, recoverable]
    constructor
    · intro accepted
      have isolated := isolated_recover (by exact accepted) recovered
      exact { isolated with }
    · intro refused
      rw [recovered]
      exact Or.inl (cancelled_recover serving.known refused)
  | dispatch next =>
    have dispatched := apply_dispatch serving next
    constructor
    · intro room
      rw [dispatched, if_neg (Nat.not_le.mpr room)]
      exact isolated_of_same rfl rfl rfl
    · intro full
      rw [dispatched, if_pos (Nat.not_lt.mp full)]
      exact Or.inl rfl
  | @handling code message commands next =>
    constructor
    · intro takes
      obtain ⟨writer, failure, cancelled⟩ := sendReset_of_takes takes code message
      exact isolated_handle next owned serving writer failure cancelled
    · exact fun full => Or.inl (cancelled_handle owned serving full next)
  | @answered code message index result answer =>
    constructor
    · rintro rfl
      have resumed : relay.apply (.resume index) =
          { relay with answers := relay.answers.eraseIdx index } := by
        simp [apply, resume, answer]
      rw [resumed]
      exact isolated_of_same rfl rfl rfl
    · intro failed
      cases result with
      | ok => exact absurd rfl failed
      | error =>
        have resumed : relay.apply (.resume index) = PeerRelay.closeTransport
            { relay with answers := relay.answers.eraseIdx index } key := by
          simp [apply, resume, answer, onFailure, terminal]
        rw [resumed]
        exact Or.inl (cancelled_closeTransport serving.known)
  | @delivery action index answer asked =>
    constructor
    · intro taken
      have executed : relay.apply (.execute index answer) =
          { relay with actions := relay.actions.eraseIdx index } := by
        simp [apply, execute, Executor.step, Executor.cleanup?, asked, taken]
      rw [executed]
      exact isolated_of_same rfl rfl rfl
    · intro refused
      obtain ⟨cleanup, asks⟩ := Option.ne_none_iff_exists'.mp refused
      refine Or.inr ⟨index, answer, action, cleanup, rfl, asked, asks, ?_, rfl⟩
      simp [apply, execute, Executor.step, Executor.cleanup?, asked, asks]

/-! ## Runs -/

theorem owned_forceClose (owned : relay.actor.Owned) : relay.forceClose.actor.Owned :=
  owned

theorem owned_closeTransport (owned : relay.actor.Owned) :
    (relay.closeTransport key).actor.Owned := by
  unfold closeTransport
  split
  · exact owned_forceClose owned
  · exact owned

theorem task_of_tryManagerSend {command : ManagerCommand}
    (sent : relay.tryManagerSend command = .ok after) : after.task = relay.task := by
  unfold tryManagerSend at sent
  split at sent
  · cases sent
  · split at sent
    · cases sent
    · cases sent
      rfl

theorem owned_of_task (same : after.task = relay.task)
    (owned : relay.actor.Owned) : after.actor.Owned := by
  unfold actor
  rw [same]
  exact owned

theorem owned_onFailure (owned : relay.actor.Owned) (command : StreamCommand)
    (failure : PeerFailure) : (relay.onFailure key command failure).actor.Owned := by
  unfold onFailure
  split
  · exact owned_closeTransport owned
  · unfold recover
    dsimp only
    split
    · rename_i sent
      exact owned_of_task (task_of_tryManagerSend sent) owned
    · exact owned_closeTransport owned

theorem owned_dispatchStreamCommand (owned : relay.actor.Owned) (command : StreamCommand) :
    (relay.dispatchStreamCommand key command).actor.Owned := by
  have refused : ∀ failure, (relay.refuse key command failure).actor.Owned := by
    intro failure
    unfold refuse
    dsimp only
    split <;> exact owned
  unfold dispatchStreamCommand
  split
  · exact owned
  · split
    · exact owned
    · split
      · exact owned
      · split
        · exact refused _
        · split
          · exact refused _
          · exact owned

/-- Every step keeps the owners of the streams. -/
theorem owned_step {source target : PeerRelay}
    (owned : source.actor.Owned) (step : Step source event target) : target.actor.Owned := by
  obtain ⟨-, rfl⟩ := step
  cases event with
  | send key command =>
    unfold apply sendPeerDelivery
    dsimp only
    split
    · rename_i sent
      exact owned_of_task (task_of_tryManagerSend sent) owned
    · exact owned_onFailure owned command _
  | enqueue =>
    unfold apply
    dsimp only
    split
    · rename_i sent
      exact owned_of_task (task_of_tryManagerSend sent) owned
    · exact owned
  | dispatch =>
    unfold apply PeerRelay.dispatch
    dsimp only
    split
    · exact owned
    · exact owned
    · exact owned_dispatchStreamCommand (by exact owned) _
  | handle =>
    have handled := TransportTask.owned_apply owned .command
    unfold apply PeerRelay.handle
    dsimp only
    split <;> exact handled
  | transport event => exact TransportTask.owned_apply owned event
  | abandon =>
    unfold apply PeerRelay.abandon
    dsimp only
    split <;> exact owned
  | resume =>
    unfold apply PeerRelay.resume
    dsimp only
    split
    · exact owned
    · split
      · exact owned
      · exact owned_onFailure (by exact owned) _ _
  | execute | gateway | unregister | closeManager => exact owned

/-- In every run, a step of the recovery of one stream leaves the transport open and
every other stream with its state and its frames as long as what it sends is accepted;
where a queue refuses the RESET, the transport is closed, and where a session refuses
its frame, the Gateway cleans up after that session. -/
theorem recovery_isolates_streams (gateway : GatewayState)
    (localGatewayId peerGatewayId : GatewayId) (managerCapacity : Nat)
    (peerTransportId : PeerTransportId) (localEndpoint : StreamEndpoint)
    (activeOpens : Finset OpenIdentity) (streamCount : Counter)
    (config : TransportConfig) (loopConfig : LoopConfig) (begun : Instant)
    {events : List RelayEvent} {relay : PeerRelay}
    (run : Execution Step (start gateway localGatewayId managerCapacity
      (TransportTask.start peerGatewayId peerTransportId localEndpoint activeOpens
        streamCount config loopConfig begun)) events relay)
    {key : PeerStreamKey} (serving : Serving relay key) {event : RelayEvent}
    {accepted : Prop} (recovery : Recovery relay key event accepted) :
    (accepted → Isolated key relay (relay.apply event)) ∧
      (¬ accepted → (relay.apply event).actor.cancelled = true ∨ relay.CleansUp event) := by
  have owned : relay.actor.Owned :=
    Execution.invariant (fun (source : PeerRelay) (event : RelayEvent) target
      (owned : source.actor.Owned) (step : Step source event target) =>
        owned_step owned step) run Table.every_empty
  exact recovery.outcome owned serving

namespace Scenario

/-- Queues of one frame for a stream and two for the writer. -/
def config : TransportConfig where
  maxStreamsPerTransport := 4
  streamQueueCapacity := 1
  writerQueueCapacity := 2
  openResponseTimeout := 1000000000

def loopConfig : LoopConfig where
  heartbeatIdleInterval := 1000000000
  heartbeatResponseTimeout := 1000000000
  idleRetirementTimeout := 1000000000
  transportQueueCapacity := 4

/-- An OPEN for `a/a` with the given connection number. -/
def request (connectionId : Nat) : PeerOpenRequest where
  openIdentity := ⟨⟨1⟩, ⟨7⟩, connectionId⟩
  destination := ⟨⟨[97], validateNamespace_a⟩, ⟨[97], validateDestinationName_a⟩⟩
  relaySessionId := ⟨8⟩
  bindingId := ⟨9⟩

def fresh : PeerRelay :=
  start (GatewayState.build World.Scenario.limits (some ⟨1⟩) 0) ⟨1⟩ 4
    (TransportTask.start ⟨2⟩ ⟨3⟩ .dialer ∅ Counter.zero config loopConfig 0)

/-- The first stream of the transport; the second one has number two. -/
def firstStream : PeerStreamKey := ⟨⟨2⟩, ⟨3⟩, ⟨0⟩⟩

/-- Two streams are opened and confirmed. -/
def opening : List RelayEvent :=
  [.transport (.submit (.open (request 1))), .handle, .transport .write,
    .transport (.submit (.open (request 2))), .handle, .transport .write,
    .transport (.inbound (.frame (.opened ⟨0⟩))),
    .transport (.inbound (.frame (.opened ⟨2⟩)))]

/-- Four DATA frames are sent on the first stream and the writer takes none. -/
def pressing : List RelayEvent :=
  (List.replicate 4 [.send firstStream (.data [5]), .dispatch, .handle]).flatten

def pressed : PeerRelay := (opening ++ pressing).foldl apply fresh

/-- The fourth DATA was refused; the Gateway sends a RESET, which reaches the
transport. -/
def resetting : List RelayEvent := [.resume 3, .dispatch]

def saturated : PeerRelay := resetting.foldl apply pressed

/-- The writer takes a frame before the RESET is handled. -/
def relieved : PeerRelay :=
  [.transport .write, .transport .wake].foldl apply saturated

theorem run_saturated : Execution Step fresh (opening ++ pressing ++ resetting) saturated := by
  have allowed : Allowed apply Possible fresh (opening ++ pressing ++ resetting) := by
    decide
  exact Execution.of_allowed _ allowed

theorem run_relieved :
    Execution Step fresh
      (opening ++ pressing ++ resetting ++ [.transport .write, .transport .wake])
      relieved := by
  have allowed : Allowed apply Possible fresh
      (opening ++ pressing ++ resetting ++ [.transport .write, .transport .wake]) := by
    decide
  exact Execution.of_allowed _ allowed

end Scenario

open Scenario in
/-- The RESET for a stream whose queue is still full closes the transport, and the
other stream is lost with it, though the writer has not failed. -/
theorem recovery_closes_transport :
    Execution Step fresh (opening ++ pressing ++ resetting) saturated ∧
      pressed.answers[3]? = some ⟨firstStream, .data [5], .error queueFull⟩ ∧
      saturated.task.commands = [.stream firstStream.streamId
          (.reset queueFull.code queueFull.message)] ∧
      saturated.actor.aggregateWriter.closed = false ∧
      saturated.actor.cancelled = false ∧
      (saturated.actor.streams.get ⟨2⟩).isSome = true ∧
      (saturated.apply .handle).actor.failure = some .writerFailed ∧
      (saturated.apply .handle).Possible (.transport .leave) ∧
      (((saturated.apply .handle).apply
        (.transport .leave)).actor.streams.get ⟨2⟩).isSome = false := by
  refine ⟨run_saturated, rfl, by decide, by decide, by decide, by decide,
    by decide, by decide, by decide⟩

open Scenario in
/-- The same recovery when the writer has taken a frame in between. -/
theorem recovery_isolates_when_relieved :
    Isolated firstStream relieved (relieved.apply .handle) := by
  have serving : Serving relieved firstStream :=
    ⟨by decide, by decide, by decide, by decide, by decide⟩
  have recovery : Recovery relieved firstStream .handle (relieved.actor.TakesReset ⟨0⟩) :=
    @Recovery.handling relieved firstStream queueFull.code queueFull.message [] (by decide)
  have takes : relieved.actor.TakesReset ⟨0⟩ := by
    intro stream found
    have emptied : (relieved.actor.streams.get ⟨0⟩).map
        (fun stream => stream.queuedFrames.length) = some 0 := by decide
    rw [found] at emptied
    have unqueued : stream.queuedFrames.length = 0 := Option.some.inj emptied
    right
    rw [unqueued]
    decide
  exact (recovery_isolates_streams _ ⟨1⟩ ⟨2⟩ 4 ⟨3⟩ .dialer ∅ Counter.zero
    config loopConfig 0 run_relieved serving recovery).1
    takes

/-- The frames that the writer takes along a list of events. -/
def written (task : TransportTask) : List TaskEvent → List PeerFrame
  | [] => []
  | .write :: events =>
      task.loop.actor.aggregateWriter.queue.take 1 ++ written (task.apply .write) events
  | event :: events => written (task.apply event) events

/-- Frames go through the writer, which takes the given ones, those of a stream in the
order of its queue; a stream goes only once its queue is empty. -/
def Forwards (taken : List PeerFrame) (before after : TransportActor) : Prop :=
  ∃ moved : List (StreamId × PeerFrame),
    before.aggregateWriter.queue ++ moved.map Prod.snd =
        taken ++ after.aggregateWriter.queue ∧
      ∀ streamId, Carried (movedOf streamId moved) (before.streams.get streamId)
        (after.streams.get streamId)

/-- Whatever a transport has been through, while its loop is only woken and its writer
only takes frames, no frame is lost, repeated or overtaken by one of its stream. -/
theorem frames_leave_in_order {begin task : TransportTask} {past events : List TaskEvent}
    (fresh : begin.loop.actor.streams = ∅)
    (run : Execution TransportTask.Step begin past task)
    (writing : task.loop.actor.aggregateWriter.closed = false)
    (upkeep : ∀ event ∈ events, event = .wake ∨ event = .write) :
    Forwards (written task events) task.loop.actor
      (events.foldl TransportTask.apply task).loop.actor := by
  have owned : task.loop.actor.Owned := by
    refine run.invariant (fun (source : TransportTask) event _
      (owned : source.loop.actor.Owned) step => ?_) ?_
    · rw [step.2]
      exact TransportTask.owned_apply owned event
    · unfold Owned
      rw [fresh]
      exact Table.every_empty
  clear run
  induction events generalizing task with
  | nil => exact ⟨[], List.append_nil _, fun _ => Carried.refl _⟩
  | cons event events ih =>
    have owners := TransportTask.owned_apply owned event
    obtain ⟨next, rest⟩ := List.forall_mem_cons.mp upkeep
    rcases next with rfl | rfl
    · have drained := drained_flushStreamQueues owned writing
      obtain ⟨first, queue, carried⟩ := drained.moved
      obtain ⟨moved, order, later⟩ := ih (drained.writing.trans writing) rest owners
      refine ⟨first ++ moved, ?_, fun streamId => ?_⟩
      · rw [List.map_append, ← List.append_assoc, ← queue]
        exact order
      · rw [movedOf_append]
        exact (carried streamId).trans (later streamId)
    · obtain ⟨moved, order, later⟩ := @ih (task.apply .write) writing rest owners
      refine ⟨moved, ?_, later⟩
      rw [written, List.append_assoc, List.foldl_cons, ← order, ← List.append_assoc]
      refine congrArg (· ++ _) ?_
      exact (List.take_append_drop 1 _).symm.trans (by rw [List.drop_one]; rfl)

namespace Scenario

/-- Two streams are opened, and three DATA frames fill the writer and the queue of the
first. -/
def filling : List TaskEvent :=
  [.submit (.open (request 1)), .command, .write, .submit (.open (request 2)), .command,
    .write, .inbound (.frame (.opened ⟨0⟩)), .inbound (.frame (.opened ⟨2⟩))] ++
    [[5], [6], [7]].flatMap fun payload => [.submit (.stream ⟨0⟩ (.data payload)), .command]

def filled : TransportTask := filling.foldl TransportTask.apply fresh.task

/-- The writer takes the frames, and the loop is woken when it has room. -/
def leaving : List TaskEvent := [.write, .wake, .write, .write]

end Scenario

open Scenario in
/-- The frame that waited in the queue of its stream leaves last. -/
theorem data_leaves_in_order :
    written filled leaving = [.data ⟨0⟩ [5], .data ⟨0⟩ [6], .data ⟨0⟩ [7]] ∧
      Forwards (written filled leaving) filled.loop.actor
        (leaving.foldl TransportTask.apply filled).loop.actor :=
  ⟨by decide, @frames_leave_in_order fresh.task filled filling leaving rfl
    (Execution.of_allowed _ (by decide)) rfl (by simp [leaving])⟩

end PeerRelay

end RelayGate.Relay
