import RelayGate.Gateway.Executor
import RelayGate.Peer.Loop

/-!
# From the Gateway to a transport

The way of a stream command: a task of the Gateway hands it to the bounded queue of
the peer manager, the manager hands it to the bounded queue of the transport, the
transport's loop handles it, and the task goes on with the answer.  A refused OPENED,
DATA or FIN makes the task reset the Pipe and send a RESET on the stream, and the task
then executes the actions of the reset; a refused FAILED, CLOSE or RESET closes the
transport.

The Gateway has one transport here.  Commands for other transports, OPENs and
cancellations take a place in the manager's queue and are `other`; what the manager
submits to this transport for them is a step of the transport.
-/

namespace RelayGate.Relay

open Gateway Library Peer

/-- A command of the manager's queue. -/
inductive ManagerCommand
  | stream (key : PeerStreamKey) (command : StreamCommand)
  | other
deriving DecidableEq

/-- An answer that a task of the Gateway has not yet taken. -/
structure Answer where
  key : PeerStreamKey
  command : StreamCommand
  result : Except PeerFailure Unit

/-- The Gateway, the manager's queue and the transport.  `registered` while the
manager knows the transport; `actions` have still to be executed by the tasks that
reset a Pipe. -/
structure PeerRelay where
  gateway : GatewayState
  localGatewayId : GatewayId
  queue : List ManagerCommand
  managerCapacity : Nat
  managerClosed : Bool
  task : TransportTask
  registered : Bool
  answers : List Answer
  actions : List GatewayAction

/-- Whether a command ends its stream. -/
def terminal : StreamCommand → Bool
  | .failed _ | .close | .reset _ _ => true
  | .opened | .data _ | .fin => false

namespace PeerRelay

def actor (relay : PeerRelay) : TransportActor :=
  relay.task.loop.actor

/-- Whether the transport of a stream is registered. -/
def knows (relay : PeerRelay) (key : PeerStreamKey) : Bool :=
  relay.registered && key.peerTransportId = relay.actor.peerTransportId

def forceClose (relay : PeerRelay) : PeerRelay :=
  { relay with
    task := relay.task.setActor (relay.actor.failTransport .writerFailed) }

/-- Close the transport of a stream without the manager. -/
def closeTransport (relay : PeerRelay) (key : PeerStreamKey) : PeerRelay :=
  if relay.knows key then relay.forceClose else relay

def tryManagerSend (relay : PeerRelay) (command : ManagerCommand) :
    Except PeerFailure PeerRelay :=
  if relay.managerClosed then
    .error (.maybeObserved .unavailable "peer manager is closed")
  else if relay.managerCapacity ≤ relay.queue.length then
    .error (.maybeObserved .resourceExhausted "peer manager command queue is full")
  else
    .ok { relay with queue := relay.queue ++ [command] }

/-- End the Pipe of a stream here and reset the stream. -/
def recover (relay : PeerRelay) (key : PeerStreamKey) (failure : PeerFailure) :
    PeerRelay :=
  let (actions, gateway) := relay.gateway.peerReset key failure.code failure.message
  let relay := { relay with gateway := gateway, actions := relay.actions ++ actions }
  match relay.tryManagerSend (.stream key (.reset failure.code failure.message)) with
  | .ok relay => relay
  | .error _ => relay.closeTransport key

/-- What a task does when its command was not committed. -/
def onFailure (relay : PeerRelay) (key : PeerStreamKey) (command : StreamCommand)
    (failure : PeerFailure) : PeerRelay :=
  if terminal command then relay.closeTransport key
  else relay.recover key failure

/-- A task sends a frame on a stream. -/
def sendPeerDelivery (relay : PeerRelay) (key : PeerStreamKey)
    (command : StreamCommand) : PeerRelay :=
  match relay.tryManagerSend (.stream key command) with
  | .ok relay => relay
  | .error failure => relay.onFailure key command failure

def reply (relay : PeerRelay) (key : PeerStreamKey) (command : StreamCommand)
    (result : Except PeerFailure Unit) : PeerRelay :=
  { relay with answers := relay.answers ++ [⟨key, command, result⟩] }

/-- The transport's queue refuses a command; a terminal one closes the transport. -/
def refuse (relay : PeerRelay) (key : PeerStreamKey) (command : StreamCommand)
    (failure : PeerFailure) : PeerRelay :=
  let relay := relay.reply key command (.error failure)
  if terminal command then relay.forceClose else relay

def dispatchStreamCommand (relay : PeerRelay) (key : PeerStreamKey)
    (command : StreamCommand) : PeerRelay :=
  if key.peerGatewayId = relay.localGatewayId then
    relay.reply key command (.error (.maybeObserved .failedPrecondition
      "peer stream key identifies the local Gateway"))
  else if !relay.knows key then
    relay.reply key command (.error (.maybeObserved .unavailable
      "peer transport is no longer ready"))
  else if relay.actor.peerGatewayId ≠ key.peerGatewayId then
    relay.reply key command (.error (.maybeObserved .permissionDenied
      "peer stream key does not belong to the selected transport"))
  else if relay.task.closed.isSome then
    relay.refuse key command (.maybeObserved .unavailable "peer transport is closed")
  else if relay.task.capacity ≤ relay.task.commands.length then
    relay.refuse key command (.maybeObserved .resourceExhausted
      "peer transport command queue is full")
  else
    { relay with
      task :=
        { relay.task with
          commands := relay.task.commands ++ [.stream key.streamId command] } }

/-- The manager takes its next command. -/
def dispatch (relay : PeerRelay) : PeerRelay :=
  match relay.queue with
  | [] => relay
  | .other :: queue => { relay with queue := queue }
  | .stream key command :: queue =>
      { relay with queue := queue }.dispatchStreamCommand key command

/-- The loop of the transport takes its next command and answers it. -/
def handle (relay : PeerRelay) : PeerRelay :=
  let after := { relay with task := relay.task.apply .command }
  match relay.task.commands with
  | .stream streamId command :: _ =>
      after.reply (relay.actor.key streamId) command
        (relay.actor.streamCommand streamId command).1
  | _ => after

/-- A transport that has ended drops its next command unanswered. -/
def abandon (relay : PeerRelay) : PeerRelay :=
  match relay.task.commands with
  | [] => relay
  | .stream streamId command :: commands =>
      { relay with task := { relay.task with commands := commands } }.reply
        (relay.actor.key streamId) command
        (.error (.maybeObserved .unavailable
          "peer transport ended before the command was processed"))
  | _ :: commands => { relay with task := { relay.task with commands := commands } }

/-- A task goes on with the answer to its command. -/
def resume (relay : PeerRelay) (index : Nat) : PeerRelay :=
  match relay.answers[index]? with
  | none => relay
  | some answer =>
      let relay := { relay with answers := relay.answers.eraseIdx index }
      match answer.result with
      | .ok () => relay
      | .error failure => relay.onFailure answer.key answer.command failure

/-- A task executes an action of its reset.  A refused SDK frame removes its session; a
peer frame leaves as a `send`. -/
def execute (relay : PeerRelay) (index : Nat) (answer : EffectAnswer) : PeerRelay :=
  let round := Executor.step ⟨relay.gateway, relay.actions[index]?.toList, []⟩ (.work answer)
  { relay with
    gateway := round.state
    actions := relay.actions.eraseIdx index ++ round.pending }

end PeerRelay

/-- The steps of the tasks of the Gateway, of the manager and of the transport.
`enqueue` is a command of the manager that is `other`, and `gateway` any other
transition of the Gateway. -/
inductive RelayEvent
  | send (key : PeerStreamKey) (command : StreamCommand)
  | enqueue
  | dispatch
  | handle
  | transport (event : TaskEvent)
  | abandon
  | resume (index : Nat)
  | execute (index : Nat) (answer : EffectAnswer)
  | gateway (state : GatewayState)
  | unregister
  | closeManager

namespace PeerRelay

def start (gateway : GatewayState) (localGatewayId : GatewayId)
    (managerCapacity : Nat) (task : TransportTask) : PeerRelay where
  gateway := gateway
  localGatewayId := localGatewayId
  queue := []
  managerCapacity := managerCapacity
  managerClosed := false
  task := task
  registered := true
  answers := []
  actions := []

def apply (relay : PeerRelay) : RelayEvent → PeerRelay
  | .send key command => relay.sendPeerDelivery key command
  | .enqueue =>
      match relay.tryManagerSend .other with
      | .ok relay => relay
      | .error _ => relay
  | .dispatch => relay.dispatch
  | .handle => relay.handle
  | .transport event => { relay with task := relay.task.apply event }
  | .abandon => relay.abandon
  | .resume index => relay.resume index
  | .execute index answer => relay.execute index answer
  | .gateway state => { relay with gateway := state }
  | .unregister => { relay with registered := false }
  | .closeManager => { relay with managerClosed := true }

/-- Whether a step of the transport takes a command. -/
def takesCommand : TaskEvent → Bool
  | .command => true
  | _ => false

/-- Commands reach the loop through `handle`, and are dropped only once it has
ended. -/
def Possible (relay : PeerRelay) : RelayEvent → Prop
  | .handle => relay.task.Possible .command
  | .transport event => takesCommand event = false ∧ relay.task.Possible event
  | .abandon => relay.task.closed ≠ none
  | _ => True

instance (relay : PeerRelay) (event : RelayEvent) : Decidable (relay.Possible event) :=
  match event with
  | .handle => inferInstanceAs (Decidable (relay.task.Possible .command))
  | .transport event =>
      inferInstanceAs (Decidable (takesCommand event = false ∧ relay.task.Possible event))
  | .abandon => inferInstanceAs (Decidable (relay.task.closed ≠ none))
  | .send _ _ | .enqueue | .dispatch | .resume _ | .execute _ _ | .gateway _
  | .unregister | .closeManager => inferInstanceAs (Decidable True)

def Step (source : PeerRelay) (event : RelayEvent) (target : PeerRelay) : Prop :=
  source.Possible event ∧ target = source.apply event

end PeerRelay

end RelayGate.Relay
