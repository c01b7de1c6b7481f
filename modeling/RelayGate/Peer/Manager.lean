import RelayGate.Library.Execution
import RelayGate.Peer.Actor
import RelayGate.Peer.Pool

/-!
# The peer manager

The manager owns the direction slots, the handshakes in flight, the ready
transports and the OPENs that wait for one.  It takes the commands of its
Gateway, the results of the handshakes it has started, and the notices of the
transports, one at a time; what it sends is recorded as a list of effects.

The handshakes themselves run as tasks of their own.  Their results are events,
and `tasks` lists the ones that have still to report.
-/

namespace RelayGate.Peer

open Library

/-- A Gateway to dial. -/
structure PeerTarget where
  gatewayId : GatewayId
  gatewayLocator : String
deriving DecidableEq, Repr

/-- An OPEN that waits for a transport; `reply` names the channel on which its
caller waits. -/
structure PendingOpen where
  request : PeerOpenRequest
  target : PeerTarget
  reply : Nat
deriving DecidableEq

/-- The other end of a transport that has finished its handshake. -/
structure EstablishedPeer where
  remoteGatewayId : GatewayId
  peerTransportId : PeerTransportId
deriving DecidableEq, Repr

/-- A HELLO another Gateway has sent. -/
structure InboundHello where
  remoteGatewayId : GatewayId
  peerTransportId : PeerTransportId
deriving DecidableEq, Repr

/-- A handshake task that has not reported yet. -/
inductive HandshakeTask
  | outbound (remote : GatewayId) (transportId : PeerTransportId)
  | hello
  | complete (remote : GatewayId) (transportId : PeerTransportId)
  | reject
deriving DecidableEq, Repr

/-- The transport a handshake task works on. -/
def HandshakeTask.transportId? : HandshakeTask → Option PeerTransportId
  | .outbound _ transportId => some transportId
  | .complete _ transportId => some transportId
  | .hello => none
  | .reject => none

inductive HandshakeNotice
  | outbound (remote : GatewayId) (transportId : PeerTransportId)
      (result : Except PeerFailure EstablishedPeer)
  | inboundHello (result : Except PeerFailure InboundHello)
  | inboundComplete (remote : GatewayId) (transportId : PeerTransportId)
      (result : Except PeerFailure EstablishedPeer)
  | rejected

/-- The task a notice comes from. -/
def HandshakeNotice.task : HandshakeNotice → HandshakeTask
  | .outbound remote transportId _ => .outbound remote transportId
  | .inboundHello _ => .hello
  | .inboundComplete remote transportId _ => .complete remote transportId
  | .rejected => .reject

/-- What the manager sends. -/
inductive ManagerEffect
  | failOpen (reply : Nat) (failure : PeerFailure)
  | answer (reply : Nat) (result : Except PeerFailure Unit)
  | send (transportId : PeerTransportId) (reply : Nat)
      (command : TransportCommand)
  | close (transportId : PeerTransportId)
  | forceClose (transportId : PeerTransportId)
deriving DecidableEq

/-- The answer of a transport that does not take a command into its queue. -/
def TransportCommand.queueFailure (command : TransportCommand)
    (error : TrySendError) : PeerFailure :=
  let observation : PeerObservation :=
    match command with
    | .open _ => .notObserved
    | .cancel _ => .maybeObserved
    | .stream _ _ => .maybeObserved
  match error with
  | .full =>
      ⟨.resourceExhausted, observation, "peer transport command queue is full"⟩
  | .closed => ⟨.unavailable, observation, "peer transport is closed"⟩

/-- The command queues of the transports, as far as one event meets them: the
error, if any, with which the command of a reply channel is refused. -/
abbrev Queues := Nat → Option TrySendError

structure Manager where
  localGatewayId : GatewayId
  maxPendingOpens : Nat
  maxHandshakes : Nat
  pool : PeerPool
  transports : Table PeerTransportId GatewayId
  pending : List PendingOpen
  assignments : Table OpenIdentity PeerTransportId
  activeOpens : Finset OpenIdentity
  handshakesInflight : Nat
  tasks : List HandshakeTask
  shuttingDown : Bool

namespace Manager

def new (localGatewayId : GatewayId) (maxPendingOpens maxHandshakes : Nat) :
    Manager where
  localGatewayId := localGatewayId
  maxPendingOpens := maxPendingOpens
  maxHandshakes := maxHandshakes
  pool := ∅
  transports := ∅
  pending := []
  assignments := ∅
  activeOpens := ∅
  handshakesInflight := 0
  tasks := []
  shuttingDown := false

/-! ## OPENs -/

def release (manager : Manager) (identity : OpenIdentity) : Manager :=
  { manager with activeOpens := manager.activeOpens.erase identity }

/-- Hand an OPEN to a transport. -/
def dispatchOpen (manager : Manager) (transportId : PeerTransportId)
    (queues : Queues) (pending : PendingOpen) : Manager × List ManagerEffect :=
  let identity := pending.request.openIdentity
  match manager.transports.get transportId with
  | none =>
      (manager.release identity,
        [.failOpen pending.reply (.notObserved .unavailable
          "selected peer transport is no longer ready")])
  | some _ =>
      let assigned :=
        { manager with
          assignments := manager.assignments.insert identity transportId }
      let command := TransportCommand.open pending.request
      match queues pending.reply with
      | none => (assigned, [.send transportId pending.reply command])
      | some error =>
          ({ assigned with assignments := assigned.assignments.remove identity
              }.release identity,
            [.failOpen pending.reply (command.queueFailure error)])

/-- Hand OPENs to a transport, one after the other. -/
def dispatchAll (transportId : PeerTransportId) (queues : Queues) :
    List PendingOpen → Manager → Manager × List ManagerEffect
  | [], manager => (manager, [])
  | first :: rest, manager =>
      let (manager, effects) := manager.dispatchOpen transportId queues first
      let (manager, later) := dispatchAll transportId queues rest manager
      (manager, effects ++ later)

/-- The OPENs that wait for a Gateway. -/
def waitingFor (manager : Manager) (remote : GatewayId) : List PendingOpen :=
  manager.pending.filter (·.target.gatewayId = remote)

/-- The OPENs that wait for other Gateways. -/
def retainedFor (manager : Manager) (remote : GatewayId) : List PendingOpen :=
  manager.pending.filter (·.target.gatewayId ≠ remote)

/-- Hand the OPENs that wait for a Gateway to a transport that has become
ready. -/
def flushPendingFor (manager : Manager) (remote : GatewayId)
    (transportId : PeerTransportId) (queues : Queues) :
    Manager × List ManagerEffect :=
  let (after, effects) :=
    dispatchAll transportId queues (manager.waitingFor remote)
      { manager with pending := [] }
  ({ after with pending := manager.retainedFor remote }, effects)

/-- Fail the OPENs that wait for a Gateway. -/
def failPendingFor (manager : Manager) (remote : GatewayId)
    (failure : PeerFailure) : Manager × List ManagerEffect :=
  ({ manager with
      pending := manager.retainedFor remote
      activeOpens := manager.activeOpens \
        ((manager.waitingFor remote).map (·.request.openIdentity)).toFinset },
    (manager.waitingFor remote).map fun pending => .failOpen pending.reply failure)

def startOutboundHandshake (manager : Manager) (target : PeerTarget)
    (transportId : PeerTransportId) : Manager :=
  { manager with
    handshakesInflight := manager.handshakesInflight + 1
    tasks := .outbound target.gatewayId transportId :: manager.tasks }

/-- Let an OPEN wait, and start dialling its Gateway unless a candidate is
connecting already.  `transportId` is the number drawn for the candidate. -/
def enqueueOpen (manager : Manager) (opening : PendingOpen)
    (transportId : PeerTransportId) : Manager × List ManagerEffect :=
  let remote := opening.target.gatewayId
  let manager := { manager with pending := manager.pending ++ [opening] }
  match manager.pool.connect manager.localGatewayId remote transportId with
  | .ok pool =>
      let manager := { manager with pool := pool }
      if manager.maxHandshakes ≤ manager.handshakesInflight then
        { manager with pool := pool.removeTransport transportId
            }.failPendingFor remote
          (.notObserved .resourceExhausted "peer handshake limit is reached")
      else
        (manager.startOutboundHandshake opening.target transportId, [])
  | .error (.alreadyExists _) => (manager, [])
  | .error _ =>
      manager.failPendingFor remote (.notObserved .failedPrecondition
        "peer pair slot could not start a candidate")

def startOpen (manager : Manager) (opening : PendingOpen)
    (transportId : PeerTransportId) (queues : Queues) :
    Manager × List ManagerEffect :=
  let identity := opening.request.openIdentity
  if identity.entryGateway ≠ manager.localGatewayId then
    (manager, [.failOpen opening.reply (.notObserved .permissionDenied
      "peer OPEN identity does not belong to the local Entry Gateway")])
  else if opening.target.gatewayId = manager.localGatewayId then
    (manager, [.failOpen opening.reply (.notObserved .failedPrecondition
      "peer OPEN target is the local Gateway")])
  else if identity ∈ manager.activeOpens then
    (manager, [.failOpen opening.reply (.notObserved .alreadyExists
      "peer OPEN identity is already active")])
  else
    let manager :=
      { manager with activeOpens := insert identity manager.activeOpens }
    match manager.pool.readyTransport opening.target.gatewayId with
    | some ready => manager.dispatchOpen ready queues opening
    | none =>
        if manager.maxPendingOpens ≤ manager.pending.length then
          (manager.release identity,
            [.failOpen opening.reply (.notObserved .resourceExhausted
              "peer pending OPEN limit is reached")])
        else
          manager.enqueueOpen opening transportId

/-- Take an element out of a list, the last one taking its place. -/
def swapRemove {α : Type} (list : List α) (index : Nat) : List α :=
  match list.getLast? with
  | none => []
  | some last => (list.set index last).dropLast

/-- Cancel an OPEN, before or after it has been handed to a transport. -/
def cancelOpen (manager : Manager) (identity : OpenIdentity) (reply : Nat)
    (queues : Queues) : Manager × List ManagerEffect :=
  let owns := fun pending : PendingOpen => pending.request.openIdentity = identity
  match manager.pending.find? owns with
  | some pending =>
      ({ manager with
          pending := swapRemove manager.pending (manager.pending.findIdx owns)
          }.release identity,
        [.failOpen pending.reply (.notObserved .cancelled
            "peer OPEN was cancelled before commit"),
          .answer reply (.ok ())])
  | none =>
      match manager.assignments.get identity with
      | none => (manager, [.answer reply (.ok ())])
      | some transportId =>
          match manager.transports.get transportId with
          | none =>
              ({ manager with
                  assignments := manager.assignments.remove identity
                  }.release identity,
                [.answer reply (.ok ())])
          | some _ =>
              let command := TransportCommand.cancel identity
              match queues reply with
              | none => (manager, [.send transportId reply command])
              | some error =>
                  (manager, [.answer reply (.error (command.queueFailure error)),
                    .forceClose transportId])

/-- Hand a stream command to the transport of its stream. -/
def dispatchStreamCommand (manager : Manager) (key : PeerStreamKey)
    (command : StreamCommand) (reply : Nat) (queues : Queues) :
    List ManagerEffect :=
  if key.peerGatewayId = manager.localGatewayId then
    [.answer reply (.error ⟨.failedPrecondition, .maybeObserved,
      "peer stream key identifies the local Gateway"⟩)]
  else
    match manager.transports.get key.peerTransportId with
    | none =>
        [.answer reply (.error ⟨.unavailable, .maybeObserved,
          "peer transport is no longer ready"⟩)]
    | some peerGatewayId =>
        if peerGatewayId ≠ key.peerGatewayId then
          [.answer reply (.error ⟨.permissionDenied, .maybeObserved,
            "peer stream key does not belong to the selected transport"⟩)]
        else
          let terminal :=
            match command with
            | .close => true
            | .reset _ _ => true
            | .failed _ => true
            | .opened => false
            | .data _ => false
            | .fin => false
          let queued := TransportCommand.stream key.streamId command
          match queues reply with
          | none => [.send key.peerTransportId reply queued]
          | some error =>
              .answer reply (.error (queued.queueFailure error)) ::
                if terminal then [.forceClose key.peerTransportId] else []

/-! ## Handshakes -/

def startInboundHandshake (manager : Manager) : Manager :=
  if manager.maxHandshakes ≤ manager.handshakesInflight then
    manager
  else
    { manager with
      handshakesInflight := manager.handshakesInflight + 1
      tasks := .hello :: manager.tasks }

/-- Make a transport ready whose handshake has succeeded, in the direction whose
slot its candidate holds. -/
def admitEstablished (manager : Manager) (established : EstablishedPeer)
    (queues : Queues) : Manager × List ManagerEffect :=
  let remote := established.remoteGatewayId
  let transportId := established.peerTransportId
  let admitted :=
    match manager.pool.ready manager.localGatewayId remote transportId with
    | .ok pool => some pool
    | .error _ =>
        match manager.pool.ready remote manager.localGatewayId transportId with
        | .ok pool => some pool
        | .error _ => none
  match admitted with
  | none =>
      { manager with pool := manager.pool.removeTransport transportId
          }.failPendingFor remote
        (.notObserved .failedPrecondition
          "peer candidate no longer owns its direction slot")
  | some pool =>
      { manager with
          pool := pool
          transports := manager.transports.insert transportId remote
          }.flushPendingFor remote transportId queues

/-- The failure the waiting OPENs see when their outbound handshake fails. -/
def pendingFailure (error : PeerFailure) : PeerFailure :=
  if error.code = .alreadyExists then
    .notObserved .unavailable
      "peer pair already has a transport in the opposite direction"
  else
    error

/-- Answer the HELLO of another Gateway: complete the handshake when the slot of
that direction is free, reject it as a duplicate otherwise. -/
def answerHello (manager : Manager) (hello : InboundHello) : Manager :=
  match manager.pool.connect hello.remoteGatewayId manager.localGatewayId
      hello.peerTransportId with
  | .ok pool =>
      { manager with
        pool := pool
        handshakesInflight := manager.handshakesInflight + 1
        tasks := .complete hello.remoteGatewayId hello.peerTransportId ::
          manager.tasks }
  | .error (.alreadyExists _) =>
      { manager with
        handshakesInflight := manager.handshakesInflight + 1
        tasks := .reject :: manager.tasks }
  | .error _ => manager

/-- A handshake task has reported. -/
def taskEnded (manager : Manager) (task : HandshakeTask) : Manager :=
  { manager with
    handshakesInflight := manager.handshakesInflight - 1
    tasks := manager.tasks.erase task }

def handleHandshakeNotice (manager : Manager) (notice : HandshakeNotice)
    (queues : Queues) : Manager × List ManagerEffect :=
  let manager := manager.taskEnded notice.task
  match notice with
  | .outbound _ _ (.ok established) => manager.admitEstablished established queues
  | .outbound remote transportId (.error error) =>
      { manager with pool := manager.pool.removeTransport transportId
          }.failPendingFor remote (pendingFailure error)
  | .inboundHello (.error _) => (manager, [])
  | .inboundHello (.ok hello) => (manager.answerHello hello, [])
  | .inboundComplete _ _ (.ok established) =>
      manager.admitEstablished established queues
  | .inboundComplete remote transportId (.error _) =>
      { manager with pool := manager.pool.removeTransport transportId
          }.failPendingFor remote
        (.notObserved .unavailable "inbound peer handshake did not become ready")
  | .rejected => (manager, [])

/-! ## Transport notices and shutdown -/

def streamEnded (manager : Manager) (key : PeerStreamKey)
    (openIdentity : OpenIdentity) : Manager :=
  if openIdentity ∉ manager.activeOpens ∧
      manager.assignments.get openIdentity = some key.peerTransportId then
    { manager with assignments := manager.assignments.remove openIdentity }
  else
    manager

def attemptEnded (manager : Manager) (openIdentity : OpenIdentity) : Manager :=
  if openIdentity ∉ manager.activeOpens then
    { manager with assignments := manager.assignments.remove openIdentity }
  else
    manager

def transportLost (manager : Manager) (transportId : PeerTransportId) : Manager :=
  let lost := manager.assignments.toList.filterMap fun entry =>
    if entry.2 = transportId then some entry.1 else none
  { manager with
    pool := manager.pool.removeTransport transportId
    transports := manager.transports.remove transportId
    assignments := lost.foldl (fun table identity => table.remove identity)
      manager.assignments
    activeOpens := manager.activeOpens \ lost.toFinset }

def beginShutdown (manager : Manager) : Manager × List ManagerEffect :=
  ({ manager with
      pending := []
      activeOpens := manager.activeOpens \
        (manager.pending.map (·.request.openIdentity)).toFinset
      shuttingDown := true },
    (manager.pending.map fun pending =>
        .failOpen pending.reply
          (.notObserved .unavailable "peer runtime is shutting down")) ++
      manager.transports.keys.map .close)

end Manager

/-! ## Runs -/

/-- What the manager's loop takes from its queues.  `shutdown` is any of its
reasons to stop: its cancellation, a listener that fails, a task that fails, an
event its Gateway does not take. `released` is a transport that gives back the
identity of an OPEN, in the set they share. -/
inductive ManagerEvent
  | open (opening : PendingOpen) (transportId : PeerTransportId) (queues : Queues)
  | cancel (identity : OpenIdentity) (reply : Nat) (queues : Queues)
  | stream (key : PeerStreamKey) (command : StreamCommand) (reply : Nat)
      (queues : Queues)
  | accepted
  | handshake (notice : HandshakeNotice) (queues : Queues)
  | streamEnded (key : PeerStreamKey) (openIdentity : OpenIdentity)
  | attemptEnded (openIdentity : OpenIdentity)
  | transportLost (transportId : PeerTransportId)
  | released (openIdentity : OpenIdentity)
  | shutdown

namespace Manager

def run (manager : Manager) : ManagerEvent → Manager × List ManagerEffect
  | .open opening transportId queues =>
      manager.startOpen opening transportId queues
  | .cancel identity reply queues => manager.cancelOpen identity reply queues
  | .stream key command reply queues =>
      (manager, manager.dispatchStreamCommand key command reply queues)
  | .accepted => (manager.startInboundHandshake, [])
  | .handshake notice queues => manager.handleHandshakeNotice notice queues
  | .streamEnded key openIdentity => (manager.streamEnded key openIdentity, [])
  | .attemptEnded openIdentity => (manager.attemptEnded openIdentity, [])
  | .transportLost transportId => (manager.transportLost transportId, [])
  | .released openIdentity => (manager.release openIdentity, [])
  | .shutdown => manager.beginShutdown

def apply (manager : Manager) (event : ManagerEvent) : Manager :=
  (manager.run event).1

def effects (manager : Manager) (event : ManagerEvent) : List ManagerEffect :=
  (manager.run event).2

/-- A transport number belongs to a handshake in flight or to a transport. -/
def Uses (manager : Manager) (transportId : PeerTransportId) : Prop :=
  transportId ∈ manager.tasks.filterMap HandshakeTask.transportId? ∨
    manager.transports.contains transportId

instance (manager : Manager) (transportId : PeerTransportId) :
    Decidable (manager.Uses transportId) :=
  inferInstanceAs (Decidable (_ ∨ _))

/-- What a handshake task can report: a success names the Gateway and the
transport of the task, and no HELLO is accepted from the Gateway itself. -/
def Reports (manager : Manager) : HandshakeNotice → Prop
  | .outbound remote transportId (.ok established) =>
      established = ⟨remote, transportId⟩
  | .inboundComplete remote transportId (.ok established) =>
      established = ⟨remote, transportId⟩
  | .inboundHello (.ok hello) => hello.remoteGatewayId ≠ manager.localGatewayId
  | _ => True

instance (manager : Manager) :
    (notice : HandshakeNotice) → Decidable (manager.Reports notice)
  | .outbound _ _ (.ok _) => inferInstanceAs (Decidable (_ = _))
  | .outbound _ _ (.error _) => inferInstanceAs (Decidable True)
  | .inboundComplete _ _ (.ok _) => inferInstanceAs (Decidable (_ = _))
  | .inboundComplete _ _ (.error _) => inferInstanceAs (Decidable True)
  | .inboundHello (.ok _) => inferInstanceAs (Decidable (_ ≠ _))
  | .inboundHello (.error _) => inferInstanceAs (Decidable True)
  | .rejected => inferInstanceAs (Decidable True)

/-- The events that can come next.  Commands are not taken during shutdown; the
number drawn for a candidate is a new one, and so is the reply channel of an
OPEN. -/
def Possible (manager : Manager) : ManagerEvent → Prop
  | .open opening transportId _ =>
      manager.shuttingDown = false ∧ ¬manager.Uses transportId ∧
        ∀ pending ∈ manager.pending, pending.reply ≠ opening.reply
  | .cancel _ _ _ => manager.shuttingDown = false
  | .stream _ _ _ _ => manager.shuttingDown = false
  | .accepted => manager.shuttingDown = false
  | .handshake notice _ => notice.task ∈ manager.tasks ∧ manager.Reports notice
  | .transportLost transportId => manager.transports.contains transportId
  | .streamEnded _ _ => True
  | .attemptEnded _ => True
  | .released _ => True
  | .shutdown => True

instance (manager : Manager) :
    (event : ManagerEvent) → Decidable (manager.Possible event)
  | .open _ _ _ => inferInstanceAs (Decidable (_ ∧ _ ∧ _))
  | .cancel _ _ _ => inferInstanceAs (Decidable (_ = _))
  | .stream _ _ _ _ => inferInstanceAs (Decidable (_ = _))
  | .accepted => inferInstanceAs (Decidable (_ = _))
  | .handshake _ _ => inferInstanceAs (Decidable (_ ∧ _))
  | .transportLost transportId =>
      inferInstanceAs (Decidable (manager.transports.contains transportId = true))
  | .streamEnded _ _ => inferInstanceAs (Decidable True)
  | .attemptEnded _ => inferInstanceAs (Decidable True)
  | .released _ => inferInstanceAs (Decidable True)
  | .shutdown => inferInstanceAs (Decidable True)

/-- One turn of the manager's loop. -/
def Step (source : Manager) (event : ManagerEvent) (target : Manager) : Prop :=
  source.Possible event ∧ target = source.apply event

end Manager

end RelayGate.Peer
