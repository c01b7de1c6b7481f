import RelayGate.Library.Execution
import RelayGate.Routing.Worker

/-!
# A worker and its shard

The shard worker of one Gateway composed with one RouteTable shard.  Requests
travel on a FIFO wire and are applied in issue order or lost; an answer may be
lost, the connection may drop and the shard may restart at any time.  Other
Gateways use the same shard.  The journal records, for each registration, the
lease-bound answers that took effect on it.
-/

namespace RelayGate.Routing

open Library
open RouteTable

/-- A request on its way to the shard. -/
structure Request where
  serial : Nat
  action : RegistrationAction

/-- The one operation the worker waits for. -/
structure InFlight where
  epoch : Nat
  serial : Nat
  ticket : OperationTicket
  answer : Option OperationResult

/-- A lease-bound answer that took effect: a FAILED_PRECONDITION, or the
acknowledgement of an Update or a KeepAlive. -/
inductive LeaseReply
  | refused
  | acknowledged
deriving DecidableEq, Repr

structure World where
  worker : ShardWorker
  operation : Option InFlight
  wire : List Request
  nextSerial : Nat
  shard : RouteTableShard
  journal : RelaySessionId → List LeaseReply

/-! ## The shard's side of an operation -/

/-- A shard result as the client reports it. -/
def reported {Value : Type} (result : Except RouteTableError Value) :
    Except TransportError Value :=
  result.mapError TransportError.ofRouteTable

/-- The shard applies one lease operation of a Gateway. -/
def applyAction (shard : RouteTableShard) (draws : LeaseDraws)
    (gatewayId : GatewayId) (generation : ShardDirectoryGeneration)
    (action : RegistrationAction) (now : Instant) :
    OperationResult × RouteTableShard :=
  match action with
  | .register key =>
      let (result, shard) :=
        shard.register draws ⟨gatewayId⟩ generation key now
      (.registration (reported result), shard)
  | .update key leaseId revision snapshot =>
      let (result, shard) :=
        shard.update ⟨gatewayId⟩ generation key leaseId revision snapshot now
      (.registration (reported result), shard)
  | .keepAlive key leaseId =>
      let (result, shard) :=
        shard.keepAlive ⟨gatewayId⟩ generation key leaseId now
      (.registration (reported result), shard)
  | .deregister key leaseId =>
      let (result, shard) :=
        shard.deregister ⟨gatewayId⟩ generation key leaseId now
      (.deregister (reported result), shard)

/-- An operation that ends with a transport error. -/
def failureOf (action : RegistrationAction) (error : TransportError) :
    OperationResult :=
  if action.isDeregister then .deregister (.error error)
  else .registration (.error error)

/-! ## The journal -/

/-- The lease-bound answer that takes effect when a result is applied. -/
def RegistrationState.leaseReply (state : RegistrationState)
    (ticket : OperationTicket) (result : OperationResult) : Option LeaseReply :=
  match ticket.action, result with
  | .update _ leaseId _ _, .registration (.ok ack) =>
      if (state.takePending ticket).1 && decide (ack.leaseId = leaseId) then
        some .acknowledged
      else
        none
  | .keepAlive _ leaseId, .registration (.ok ack) =>
      if (state.takeCurrent ticket).1 && decide (ack.leaseId = leaseId) then
        some .acknowledged
      else
        none
  | .update _ _ _ _, .registration (.error error)
  | .keepAlive _ _, .registration (.error error) =>
      if (state.takeCurrent ticket).1 &&
          decide (error.code = .failedPrecondition) then
        some .refused
      else
        none
  | _, _ => none

/-- The journal after a completion reached the worker. -/
def recordCompletion (worker : ShardWorker) (completion : OperationCompletion)
    (journal : RelaySessionId → List LeaseReply) :
    RelaySessionId → List LeaseReply :=
  if completion.epoch ≠ worker.connected.getD 0 then
    journal
  else
    let sessionId := completion.ticket.action.key.relaySessionId
    match worker.registrations.get sessionId with
    | none => journal
    | some state =>
        Function.update journal sessionId
          (journal sessionId ++
            (state.leaseReply completion.ticket completion.result).toList)

/-! ## Events -/

inductive Event
  | reconcile (view : ShardDesiredView) (now : Instant)
  | prune
  | prepare (now : Instant)
  | connected (result : Except TransportError Unit)
  | clientFailure (epoch : Nat) (error : TransportError) (now : Instant)
  | serve (draws : LeaseDraws) (now : Instant)
  | drop
  | respond (now : Instant)
  | fail (error : TransportError) (now : Instant)
  | foreign (call : RouteTableShard.Call)
  | restart (directory : ShardDirectory) (shardId : ShardId)
      (config : RouteTableConfig)

/-- Whether a shard call is made for another Gateway, or for none. -/
def ForeignTo (gatewayId : GatewayId) : RouteTableShard.Call → Prop
  | .register _ context _ _ _ => context.authenticatedGatewayId ≠ gatewayId
  | .update context _ _ _ _ _ _ => context.authenticatedGatewayId ≠ gatewayId
  | .keepAlive context _ _ _ _ => context.authenticatedGatewayId ≠ gatewayId
  | .deregister context _ _ _ _ => context.authenticatedGatewayId ≠ gatewayId
  | .resolve _ _ _ => True
  | .expireDue _ => True

namespace World

/-- A worker that has not connected yet and a shard that just started. -/
def initial (worker : ShardWorker) (shard : RouteTableShard) : World where
  worker := worker
  operation := none
  wire := []
  nextSerial := 0
  shard := shard
  journal := fun _ => []

/-- The worker's pass; the operation it selects is sent at once. -/
def prepare (world : World) (now : Instant) : World :=
  match world.worker.prepareRegistrations now with
  | (.ok (some (epoch, ticket)), worker) =>
      { world with
        worker := worker
        operation := some ⟨epoch, world.nextSerial, ticket, none⟩
        wire := world.wire ++ [⟨world.nextSerial, ticket.action⟩]
        nextSerial := world.nextSerial + 1 }
  | (_, worker) => { world with worker := worker }

/-- The operation in flight ends with a result. -/
def complete (world : World) (operation : InFlight) (result : OperationResult)
    (now : Instant) : World :=
  let completion : OperationCompletion :=
    ⟨operation.epoch, operation.ticket, result⟩
  { world with
    worker := world.worker.onOperationCompletion completion now
    operation := none
    journal := recordCompletion world.worker completion world.journal }

/-- The shard applies the oldest request; the answer waits for the worker if
the worker still waits for it. -/
def serve (world : World) (draws : LeaseDraws) (now : Instant) : World :=
  match world.wire with
  | [] => world
  | request :: wire =>
      let (result, shard) := applyAction world.shard draws
        world.worker.gatewayId world.worker.generation request.action now
      { world with
        wire := wire
        shard := shard
        operation := world.operation.map fun operation =>
          if operation.serial = request.serial then
            { operation with answer := some result }
          else
            operation }

def apply (world : World) : Event → World
  | .reconcile view now =>
      { world with
        worker := world.worker.reconcile view now
        journal := fun sessionId =>
          if (world.worker.registrations.get sessionId).isSome then
            world.journal sessionId
          else
            [] }
  | .prune => { world with worker := world.worker.prune }
  | .prepare now => world.prepare now
  | .connected result =>
      { world with worker := (world.worker.onConnectResult result).2 }
  | .clientFailure epoch error now =>
      { world with worker := world.worker.onClientFailure epoch error now }
  | .serve draws now => world.serve draws now
  | .drop => { world with wire := world.wire.tail }
  | .respond now =>
      match world.operation with
      | some operation =>
          match operation.answer with
          | some result => world.complete operation result now
          | none => world
      | none => world
  | .fail error now =>
      match world.operation with
      | some operation =>
          world.complete operation (failureOf operation.ticket.action error) now
      | none => world
  | .foreign call => { world with shard := (world.shard.answer call).2 }
  | .restart directory shardId config =>
      { world with shard := RouteTableShard.empty directory shardId config }

/-- The worker issues one operation at a time and connects only while it has no
client; nobody else acts for its Gateway. -/
def Possible (world : World) : Event → Prop
  | .prepare _ => world.operation.isNone = true
  | .connected _ => world.worker.terminal = false ∧ world.worker.connected = none
  | .foreign call => ForeignTo world.worker.gatewayId call
  | _ => True

def Step (world : World) (event : Event) (target : World) : Prop :=
  world.Possible event ∧ target = world.apply event

/-- The directory generation, identity and authority match and resources
suffice: published bindings belong to the shard, a restarted shard has the same
identity and directory, no counter is exhausted, and transport failures are
connection errors. -/
def Matched (world : World) : Event → Prop
  | .reconcile view _ =>
      ∀ change ∈ view.changed,
        world.shard.validateSnapshot
          ⟨world.worker.gatewayId, change.1, world.worker.shardId⟩
          change.2.2 = .ok ()
  | .prepare now =>
      (world.worker.prepareRegistrations now).1.toOption.isSome = true
  | .connected (.error error) => isTerminalControlError error.code = false
  | .clientFailure _ error _ => isTerminalControlError error.code = false
  | .fail error _ => isConnectionError error.code = true
  | .restart directory shardId _ =>
      directory = world.shard.directory ∧ shardId = world.shard.shardId
  | _ => True

def MatchedStep (world : World) (event : Event) (target : World) : Prop :=
  (world.Possible event ∧ world.Matched event) ∧ target = world.apply event

end World

/-! ## A small system -/

namespace Scenario

def shardId : ShardId := ⟨"rt-0", by decide⟩

/-- One shard is the authority of every destination. -/
def directory : ShardDirectory where
  generation := ⟨7⟩
  shards := [⟨shardId⟩]
  nonempty := by decide
  distinct := by decide
  sha256Prefix := fun _ => 0

def config : RouteTableConfig := ⟨1000, by decide⟩

def session : RelaySessionId := ⟨5⟩

def binding : BindingProjection where
  destination := ⟨⟨[97], validateNamespace_a⟩, ⟨[98], validateDestinationName_b⟩⟩
  identity := ⟨⟨1⟩, session, ⟨3⟩⟩
  gatewayLocator := ⟨"gw", by decide⟩

def snapshot : BindingSnapshot where
  entries := (∅ : BindingMap).insert binding.identity binding
  collected := ⟨[binding], rfl⟩
  nonempty := by decide

/-- Lease identifiers from `first` on. -/
def draws (first : Nat) : LeaseDraws where
  draw index := ⟨first + index⟩
  distinct := by
    intro one other same
    exact Nat.add_left_cancel (LeaseId.mk.inj same)

def start : World :=
  World.initial (ShardWorker.new shardId ⟨7⟩ ⟨1⟩ 10 40)
    (RouteTableShard.empty directory shardId config)

/-- The session publishes one binding and the worker connects. -/
def publishing : List Event :=
  [.reconcile ⟨[(session, 1, snapshot)], []⟩ 0, .connected (.ok ())]

/-- One operation, issued, applied and answered. -/
def operation (lease : Nat) (now : Instant) : List Event :=
  [.prepare now, .serve (draws lease) now, .respond now]

def restart : Event := .restart directory shardId config

/-- A Register and an Update. -/
def synchronizing : List Event :=
  publishing ++ operation 0 0 ++ operation 0 0

/-- The shard restarts after the Register, and again after the next one. -/
def restartingTwice : List Event :=
  publishing ++ operation 0 0 ++ [restart] ++ operation 1 1 ++
    operation 2 2 ++ [restart] ++ operation 3 3

/-- The events of a list, applied in order. -/
def after (events : List Event) : World :=
  events.foldl World.apply start

end Scenario

end RelayGate.Routing
