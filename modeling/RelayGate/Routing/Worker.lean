import RelayGate.Routing.Operation

/-!
# The shard worker

Per-shard orchestration: reconciliation with the desired state, the
registration pass that selects the next operation, and the reactions to
connections, failures and completions.  Reconnect pacing, metrics and the
observation of the dependency do not feed back into the registrations and are
left out.
-/

namespace RelayGate.Routing

open Library
open RouteTable

/-! ## Reconciliation -/

/-- The sessions whose desired state changed since the worker last looked. -/
structure ShardDesiredView where
  changed : List (RelaySessionId × Nat × BindingSnapshot)
  removed : List (RelaySessionId × Nat)

/-- One changed session: publish to its registration, or create it. -/
def reconcileChanged (shardId : ShardId) (gatewayId : GatewayId)
    (retryInitial retryMax : Duration) (now : Instant)
    (registrations : Registrations)
    (change : RelaySessionId × Nat × BindingSnapshot) : Registrations :=
  match registrations.get change.1 with
  | some state =>
      registrations.insert change.1
        (state.publish change.2.1 (some change.2.2) now)
  | none =>
      registrations.insert change.1
        (RegistrationState.new ⟨gatewayId, change.1, shardId⟩ change.2.1
          (some change.2.2) now retryInitial retryMax)

/-- One removed session. -/
def reconcileRemoved (now : Instant) (registrations : Registrations)
    (removal : RelaySessionId × Nat) : Registrations :=
  registrations.modify removal.1 fun state => state.publish removal.2 none now

def reconcileDesired (view : ShardDesiredView) (shardId : ShardId)
    (gatewayId : GatewayId) (retryInitial retryMax : Duration)
    (registrations : Registrations) (now : Instant) : Registrations :=
  view.removed.foldl (reconcileRemoved now)
    (view.changed.foldl
      (reconcileChanged shardId gatewayId retryInitial retryMax now)
      registrations)

/-! ## The registration pass -/

structure RegistrationCounts where
  synced : Nat
  unsynced : Nat
  terminal : Nat
deriving DecidableEq, Repr

def RegistrationCounts.zero : RegistrationCounts := ⟨0, 0, 0⟩

def RegistrationCounts.observe (counts : RegistrationCounts)
    (state : RegistrationState) : RegistrationCounts :=
  if !state.isDesired then
    counts
  else
    match state.phase with
    | .synced => { counts with synced := counts.synced + 1 }
    | .terminal =>
        { counts with
          unsynced := counts.unsynced + 1
          terminal := counts.terminal + 1 }
    | .registering | .leased | .unsynced | .deregistering | .removed =>
        { counts with unsynced := counts.unsynced + 1 }

structure RegistrationPass where
  ticket : Option OperationTicket
  deadline : Option Instant
  counts : RegistrationCounts

/-- What the pass has seen so far. -/
structure PassProgress where
  registrations : Registrations
  pass : RegistrationPass
  error : Option String

/-- The earlier of two optional instants. -/
def earliest : Option Instant → Option Instant → Option Instant
  | some current, some candidate => some (min current candidate)
  | none, candidate => candidate
  | current, none => current

/-- The operation a visited registration begins, if the pass has none yet. -/
def selectNext (progress : PassProgress) (state : RegistrationState)
    (now : Instant) :
    Option OperationTicket × Option String × RegistrationState :=
  if progress.error.isNone && progress.pass.ticket.isNone then
    match state.beginNext now with
    | .ok (ticket, state) => (ticket, none, state)
    | .error message => (none, some message, state)
  else
    (progress.pass.ticket, progress.error, state)

/-- One visit of the pass: prune the registration, or select and observe. -/
def visitRegistration (now : Instant) (progress : PassProgress)
    (entry : RelaySessionId × RegistrationState) : PassProgress :=
  if entry.2.isRemovable then
    { progress with
      registrations := progress.registrations.remove entry.1 }
  else
    let (ticket, error, state) := selectNext progress entry.2 now
    { registrations := progress.registrations.insert entry.1 state
      pass :=
        { ticket := ticket
          deadline :=
            if ticket.isNone then
              earliest progress.pass.deadline (state.nextDeadline now)
            else
              progress.pass.deadline
          counts := progress.pass.counts.observe state }
      error := error }

/-- The registrations in the order of their session identities. -/
def orderedRegistrations (registrations : Registrations) :
    List (RelaySessionId × RegistrationState) :=
  registrations.toList.insertionSort fun first second =>
    first.1.uuid ≤ second.1.uuid

def prepareRegistrationPass (registrations : Registrations) (now : Instant) :
    Except String RegistrationPass × Registrations :=
  let progress := (orderedRegistrations registrations).foldl
    (visitRegistration now)
    ⟨registrations, ⟨none, none, RegistrationCounts.zero⟩, none⟩
  match progress.error with
  | some message => (.error message, progress.registrations)
  | none =>
      (.ok { progress.pass with
        deadline :=
          if progress.pass.ticket.isSome then none
          else progress.pass.deadline },
        progress.registrations)

def markConnectionLost (registrations : Registrations) (now : Instant) :
    Registrations :=
  registrations.mapValues fun state => state.connectionLost now

def markAllTerminal (registrations : Registrations) : Registrations :=
  registrations.mapValues RegistrationState.markTerminal

/-! ## The worker -/

/-- One shard worker.  `connected` is the epoch of the current client. -/
structure ShardWorker where
  shardId : ShardId
  generation : ShardDirectoryGeneration
  gatewayId : GatewayId
  reconnectInitial : Duration
  reconnectMax : Duration
  registrations : Registrations
  connected : Option Nat
  connectionEpoch : Nat
  terminal : Bool

namespace ShardWorker

def new (shardId : ShardId) (generation : ShardDirectoryGeneration)
    (gatewayId : GatewayId) (reconnectInitial reconnectMax : Duration) :
    ShardWorker where
  shardId := shardId
  generation := generation
  gatewayId := gatewayId
  reconnectInitial := reconnectInitial
  reconnectMax := reconnectMax
  registrations := ∅
  connected := none
  connectionEpoch := 0
  terminal := false

def reconcile (worker : ShardWorker) (view : ShardDesiredView) (now : Instant) :
    ShardWorker :=
  { worker with
    registrations := reconcileDesired view worker.shardId worker.gatewayId
      worker.reconnectInitial worker.reconnectMax worker.registrations now }

def prune (worker : ShardWorker) : ShardWorker :=
  { worker with
    registrations :=
      worker.registrations.retain fun _ state => !state.isRemovable }

/-- The operation to execute, with the epoch of the client it runs on; an error
ends the worker. -/
def prepareRegistrations (worker : ShardWorker) (now : Instant) :
    Except String (Option (Nat × OperationTicket)) × ShardWorker :=
  if worker.terminal then
    (.ok none, worker.prune)
  else
    match worker.connected with
    | none => (.ok none, worker.prune)
    | some epoch =>
        match prepareRegistrationPass worker.registrations now with
        | (.ok pass, registrations) =>
            (.ok (pass.ticket.map fun ticket => (epoch, ticket)),
              { worker with registrations := registrations })
        | (.error message, registrations) =>
            (.error message,
              { worker with registrations := markAllTerminal registrations })

def enterTerminal (worker : ShardWorker) : ShardWorker :=
  { worker with
    terminal := true
    connected := none
    registrations := markAllTerminal worker.registrations }

def connectionLost (worker : ShardWorker) (now : Instant) : ShardWorker :=
  { worker with
    connected := none
    registrations := markConnectionLost worker.registrations now }

/-- A failure another user of the client observed; it counts only for the
current epoch. -/
def onClientFailure (worker : ShardWorker) (epoch : Nat)
    (error : TransportError) (now : Instant) : ShardWorker :=
  if worker.connected ≠ some epoch then
    worker
  else if isTerminalControlError error.code then
    worker.enterTerminal
  else if isConnectionError error.code then
    worker.connectionLost now
  else
    worker

/-- The result of a connection attempt; an exhausted epoch ends the worker. -/
def onConnectResult (worker : ShardWorker) (result : Except TransportError Unit) :
    Except String Unit × ShardWorker :=
  match result with
  | .ok () =>
      match checkedSucc worker.connectionEpoch with
      | none => (.error "RouteTable connection epoch exhausted", worker)
      | some epoch =>
          (.ok (),
            { worker with connectionEpoch := epoch, connected := some epoch })
  | .error error =>
      if isTerminalControlError error.code then
        (.ok (), worker.enterTerminal)
      else
        (.ok (), worker)

/-- Only a rejected Register proves the shard unusable; other terminal codes
stay scoped to their registration. -/
def onCompletionError (worker : ShardWorker) (action : RegistrationAction)
    (error : TransportError) (now : Instant) : ShardWorker :=
  if isTerminalControlError error.code then
    if action.isRegister then worker.enterTerminal else worker
  else if isConnectionError error.code then
    worker.connectionLost now
  else
    worker

def onOperationCompletion (worker : ShardWorker)
    (completion : OperationCompletion) (now : Instant) : ShardWorker :=
  let (error, registrations) := applyEpochScopedOperationCompletion
    worker.registrations completion worker.connected now
  let worker := { worker with registrations := registrations }
  match error with
  | none => worker.prune
  | some error =>
      (worker.onCompletionError completion.ticket.action error now).prune

end ShardWorker

end RelayGate.Routing
