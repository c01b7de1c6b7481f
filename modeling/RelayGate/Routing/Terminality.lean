import RelayGate.Routing.Replies

/-!
# When a registration becomes terminal

As long as generation, identity and authority match and resources suffice, one
thing ends a registration: two lease-bound FAILED_PRECONDITION answers in a row,
with no acknowledged Update or KeepAlive between them.  A second restart of the
shard before the first Update is acknowledged is enough for that.
-/

namespace RelayGate.Routing

open Library
open RouteTable
open RouteTable.RouteTableShard (Framed)

variable {Valid : BindingSnapshot → Prop} {journal : List LeaseReply}
  {state : RegistrationState}

/-! ## Validation depends on the identity of the shard -/

section Validation

variable {shard other : RouteTableShard} {generation : ShardDirectoryGeneration}

theorem validateSnapshot_congr (directory : other.directory = shard.directory)
    (shardId : other.shardId = shard.shardId) (key : RegistrationKey)
    (snapshot : BindingSnapshot) :
    other.validateSnapshot key snapshot = shard.validateSnapshot key snapshot := by
  have same : other.validateBinding key = shard.validateBinding key := by
    funext binding
    unfold RouteTableShard.validateBinding
      RouteTableShard.validateDestinationAuthority
    rw [directory, shardId]
  unfold RouteTableShard.validateSnapshot
  rw [same]

theorem validateRequest_congr (directory : other.directory = shard.directory)
    (shardId : other.shardId = shard.shardId) (context : RequestContext)
    (generation : ShardDirectoryGeneration) (key : RegistrationKey) :
    other.validateRequest context generation key =
      shard.validateRequest context generation key := by
  unfold RouteTableShard.validateRequest RouteTableShard.validateGeneration
    RouteTableShard.validateRegistrationScope
  rw [directory, shardId]

theorem Admissible.congr {gatewayId : GatewayId} {action : RegistrationAction}
    (admissible : Admissible gatewayId generation shard action)
    (directory : other.directory = shard.directory) (shardId : other.shardId = shard.shardId) :
    Admissible gatewayId generation other action where
  request := by
    rw [validateRequest_congr directory shardId]
    exact admissible.request
  snapshot key leaseId revision snapshot updates := by
    rw [validateSnapshot_congr directory shardId]
    exact admissible.snapshot key leaseId revision snapshot updates

theorem validateRequest_of_matching (key : RegistrationKey)
    (current : generation = shard.directory.generation) (scope : key.shardId = shard.shardId) :
    shard.validateRequest ⟨key.gatewayId⟩ generation key = .ok () := by
  unfold RouteTableShard.validateRequest
    RouteTableShard.validateAuthenticatedOwner
    RouteTableShard.validateGeneration RouteTableShard.validateRegistrationScope
  simp [current, scope, bind, Except.bind]

end Validation

/-! ## All registrations of a worker -/

/-- The desired snapshot is valid for the shard and the journal is right. -/
structure RegistrationState.Tracked (Valid : BindingSnapshot → Prop)
    (journal : List LeaseReply) (state : RegistrationState) : Prop where
  desired : ∀ snapshot, state.snapshot = some snapshot → Valid snapshot
  recorded : state.Recorded journal

theorem RegistrationState.Tracked.of_snapshot_eq
    {other : List LeaseReply} {after : RegistrationState}
    (tracked : state.Tracked Valid journal) (same : after.snapshot = state.snapshot)
    (recorded : after.Recorded other) : after.Tracked Valid other := by
  refine ⟨?_, recorded⟩
  rw [same]
  exact tracked.desired

/-- Publishing a valid snapshot, or none, keeps a registration tracked. -/
theorem RegistrationState.Tracked.publish
    (tracked : state.Tracked Valid journal) (desiredVersion : Nat)
    {published : Option BindingSnapshot}
    (valid : ∀ snapshot, published = some snapshot → Valid snapshot) (now : Instant) :
    (state.publish desiredVersion published now).Tracked Valid journal := by
  refine ⟨?_, tracked.recorded.of_sameFate (state.sameFate_publish desiredVersion published now)⟩
  by_cases newer : state.desiredVersion < desiredVersion
  · rw [(state.published_publish newer published now).snapshot]
    exact valid
  · rw [state.publish_of_old (Nat.le_of_not_lt newer)]
    exact tracked.desired

/-- Every registration is tracked. -/
def AllTracked (Valid : RelaySessionId → BindingSnapshot → Prop)
    (journal : RelaySessionId → List LeaseReply)
    (registrations : Registrations) : Prop :=
  registrations.Every fun sessionId state =>
    state.Tracked (Valid sessionId) (journal sessionId)

namespace AllTracked

variable {Valid : RelaySessionId → BindingSnapshot → Prop}
  {journal : RelaySessionId → List LeaseReply} {registrations : Registrations}
  (tracked : AllTracked Valid journal registrations)
include tracked

/-- Reconciliation also keeps that a session without a registration has an
empty journal. -/
theorem reconcileChanged
    (fresh : ∀ sessionId, registrations.get sessionId = none → journal sessionId = [])
    (shardId : ShardId) (gatewayId : GatewayId) (retryInitial retryMax : Duration)
    (now : Instant) {change : RelaySessionId × Nat × BindingSnapshot}
    (valid : Valid change.1 change.2.2) :
    AllTracked Valid journal (Routing.reconcileChanged shardId gatewayId
        retryInitial retryMax now registrations change) ∧
      ∀ sessionId, (Routing.reconcileChanged shardId gatewayId retryInitial
        retryMax now registrations change).get sessionId = none → journal sessionId = [] := by
  have known : ∀ snapshot, some change.2.2 = some snapshot →
      Valid change.1 snapshot := by
    intro snapshot same
    cases same
    exact valid
  have absent : ∀ (state : RegistrationState) sessionId,
      (registrations.insert change.1 state).get sessionId = none →
        journal sessionId = [] := by
    intro state sessionId missing
    rw [Table.get_insert] at missing
    split at missing
    · cases missing
    · exact fresh sessionId missing
  unfold Routing.reconcileChanged
  split
  · rename_i state found
    exact ⟨Table.Every.insert tracked ((tracked _ state found).publish _ known now), absent _⟩
  · rename_i missing
    refine ⟨Table.Every.insert tracked ⟨known, ?_⟩, absent _⟩
    rw [fresh change.1 missing]
    exact RegistrationState.recorded_new _ _ _ _ _ _

theorem reconcileDesired
    (fresh : ∀ sessionId, registrations.get sessionId = none → journal sessionId = [])
    (view : ShardDesiredView) (shardId : ShardId) (gatewayId : GatewayId)
    (retryInitial retryMax : Duration) (now : Instant)
    (valid : ∀ change ∈ view.changed, Valid change.1 change.2.2) :
    AllTracked Valid journal (Routing.reconcileDesired view shardId gatewayId
      retryInitial retryMax registrations now) := by
  have changed : AllTracked Valid journal (view.changed.foldl
        (Routing.reconcileChanged shardId gatewayId retryInitial retryMax now)
        registrations) ∧
      ∀ sessionId, (view.changed.foldl (Routing.reconcileChanged shardId
        gatewayId retryInitial retryMax now) registrations).get sessionId =
          none → journal sessionId = [] :=
    List.foldlRecOn (motive := fun registrations =>
        AllTracked Valid journal registrations ∧
          ∀ sessionId, registrations.get sessionId = none → journal sessionId = [])
      view.changed _ ⟨tracked, fresh⟩ fun _ kept change member =>
        kept.1.reconcileChanged kept.2 shardId gatewayId retryInitial retryMax
          now (valid change member)
  exact List.foldlRecOn view.removed _ changed.1 fun _ kept removal _ =>
    Table.Every.modify kept removal.1 fun _ held =>
      held.publish _ (fun _ absent => by cases absent) now

theorem connectionLost (now : Instant) :
    AllTracked Valid journal (markConnectionLost registrations now) :=
  Table.Every.mapValues tracked fun _ state held => held.of_snapshot_eq rfl
    (held.recorded.of_sameFate (state.sameFate_connectionLost now))

theorem passed {now : Instant} {progress : PassProgress}
    (passed : Passed now registrations progress) :
    AllTracked Valid journal progress.registrations := by
  intro sessionId after found
  obtain ⟨state, stored, same | ⟨ticket, -, begun⟩⟩ := passed.kept sessionId after found
  · rw [same]
    exact tracked sessionId state stored
  · have held := tracked sessionId state stored
    exact held.of_snapshot_eq begun.snapshot_eq (held.recorded.begun begun)

end AllTracked

/-! ## Completions -/

namespace ShardWorker

variable {Valid : RelaySessionId → BindingSnapshot → Prop}
  {journal : RelaySessionId → List LeaseReply} {worker : ShardWorker}
  {completion : OperationCompletion}

/-- An acceptable completion keeps every registration tracked, with the journal
extended by its reply. -/
theorem tracked_applyCompletion
    (tracked : AllTracked Valid journal worker.registrations) (now : Instant)
    (acceptable : Acceptable completion.ticket.action completion.result) :
    AllTracked Valid (recordCompletion worker completion journal)
      (applyEpochScopedOperationCompletion worker.registrations completion
        worker.connected now).2 := by
  unfold applyEpochScopedOperationCompletion recordCompletion
  split
  · refine Table.Every.modify tracked _ fun state held => ?_
    exact held.of_snapshot_eq
      (state.yields_transientFailure completion.ticket now).settles.snapshot
      (held.recorded.of_sameFate (state.sameFate_transientFailure completion.ticket now))
  · unfold applyOperationCompletion
    dsimp only
    cases found : worker.registrations.get
        completion.ticket.action.key.relaySessionId with
    | none => exact tracked
    | some state =>
      intro sessionId after stored
      rw [Table.get_insert] at stored
      have held := tracked _ state found
      split at stored
      · rename_i here
        cases stored
        rw [here]
        dsimp only
        rw [Function.update_self]
        exact held.of_snapshot_eq
          (state.settles_completed completion.ticket completion.result now).snapshot
          (held.recorded.completed acceptable now)
      · rename_i elsewhere
        dsimp only
        rw [Function.update_of_ne elsewhere]
        exact tracked sessionId after stored

/-- The error an acceptable completion reports never proves the shard
unusable. -/
theorem error_of_acceptable {registrations : Registrations} {connected : Option Nat}
    {now : Instant} (acceptable : Acceptable completion.ticket.action completion.result)
    {error : TransportError}
    (failed : (applyEpochScopedOperationCompletion registrations completion
      connected now).1 = some error)
    (registers : completion.ticket.action.isRegister = true) :
    isTerminalControlError error.code = false := by
  obtain ⟨epoch, ticket, result⟩ := completion
  dsimp only at acceptable registers failed
  cases action : ticket.action with
  | update | keepAlive | deregister => rw [action] at registers; cases registers
  | register =>
    rw [action] at acceptable
    unfold applyEpochScopedOperationCompletion applyOperationCompletion at failed
    dsimp only at failed
    split at failed
    · cases failed
    · split at failed
      · cases failed
      · unfold RegistrationState.completed at failed
        rw [action] at failed
        cases result with
        | deregister => cases acceptable
        | registration result =>
          cases result with
          | ok => cases failed
          | error =>
            cases failed
            have connection : isConnectionError error.code = true := acceptable
            cases code : error.code <;> rw [code] at connection <;>
              first | rfl | cases connection

theorem tracked_onOperationCompletion (tracked : AllTracked Valid journal worker.registrations)
    (completion : OperationCompletion) (now : Instant)
    (acceptable : Acceptable completion.ticket.action completion.result) :
    AllTracked Valid (recordCompletion worker completion journal)
      (worker.onOperationCompletion completion now).registrations := by
  have applied := tracked_applyCompletion tracked now acceptable
  unfold onOperationCompletion
  dsimp only
  split
  · exact Table.Every.retain applied _
  · rename_i error failed
    apply Table.Every.retain
    unfold onCompletionError
    split
    · rename_i control
      split
      · rename_i registers
        rw [error_of_acceptable acceptable failed registers] at control
        cases control
      · exact applied
    · split
      · exact applied.connectionLost now
      · exact applied

end ShardWorker

/-! ## The invariant -/

namespace World

variable {world : World} {shard : RouteTableShard}

/-- The snapshots the shard accepts from a session of the worker. -/
def Authorized (world : World) (sessionId : RelaySessionId)
    (snapshot : BindingSnapshot) : Prop :=
  world.shard.validateSnapshot
    ⟨world.worker.gatewayId, sessionId, world.worker.shardId⟩ snapshot = .ok ()

/-- The invariant of a system in which everything matches. -/
structure Orderly (world : World) : Prop where
  coherent : world.Coherent
  generation : world.worker.generation = world.shard.directory.generation
  shardId : world.worker.shardId = world.shard.shardId
  tracked : AllTracked world.Authorized world.journal
    world.worker.registrations
  requests : ∀ request ∈ world.wire,
    Admissible world.worker.gatewayId world.worker.generation world.shard
      request.action
  answers : ∀ operation result, world.operation = some operation →
    operation.answer = some result → Acceptable operation.ticket.action result

theorem orderly_initial (shardId : ShardId) (gatewayId : GatewayId)
    (reconnectInitial reconnectMax : Duration) (directory : ShardDirectory)
    (config : RouteTableConfig) :
    Orderly (initial
      (ShardWorker.new shardId directory.generation gatewayId reconnectInitial reconnectMax)
      (RouteTableShard.empty directory shardId config)) where
  coherent := coherent_initial _ _ _ _ _ _ _ _
  generation := rfl
  shardId := rfl
  tracked := Table.every_empty
  requests _ member := by cases member
  answers _ _ flying := by cases flying

section

variable (orderly : world.Orderly)
include orderly

/-- A step of the worker alone. -/
theorem Orderly.withWorker {worker : ShardWorker} {journal : RelaySessionId → List LeaseReply}
    (coherent : Coherent { world with worker := worker, journal := journal })
    (identity : ShardWorker.SameIdentity world.worker worker)
    (tracked : AllTracked world.Authorized journal worker.registrations) :
    Orderly { world with worker := worker, journal := journal } := by
  obtain ⟨gatewayId, shardId, generation⟩ := identity
  refine ⟨coherent, generation.trans orderly.generation,
    shardId.trans orderly.shardId, ?_, ?_, orderly.answers⟩
  · unfold Authorized
    dsimp only
    rw [gatewayId, shardId]
    exact tracked
  · dsimp only
    rw [gatewayId, generation]
    exact orderly.requests

/-- The registrations stay tracked while the shard keeps its identity. -/
theorem Orderly.tracked_of_identity (directory : shard.directory = world.shard.directory)
    (shardId : shard.shardId = world.shard.shardId) :
    AllTracked (fun sessionId snapshot => shard.validateSnapshot
        ⟨world.worker.gatewayId, sessionId, world.worker.shardId⟩ snapshot = .ok ())
      world.journal world.worker.registrations := by
  intro sessionId state found
  have held := orderly.tracked sessionId state found
  refine ⟨?_, held.recorded⟩
  intro snapshot desired
  dsimp only
  rw [validateSnapshot_congr directory shardId]
  exact held.desired snapshot desired

theorem Orderly.withShard (coherent : Coherent { world with shard := shard })
    (directory : shard.directory = world.shard.directory)
    (shardId : shard.shardId = world.shard.shardId) : Orderly { world with shard := shard } where
  coherent := coherent
  generation := by
    rw [directory]
    exact orderly.generation
  shardId := orderly.shardId.trans shardId.symm
  tracked := orderly.tracked_of_identity directory shardId
  requests request member := (orderly.requests request member).congr directory shardId
  answers := orderly.answers

theorem Orderly.prepare {now : Instant}
    (enough : (world.worker.prepareRegistrations now).1.toOption.isSome = true) :
    (world.prepare now).Orderly := by
  have coherent := orderly.coherent.prepare now
  have identity := world.worker.sameIdentity_prepareRegistrations now
  have admissible : ∀ {progress : PassProgress} {ticket : OperationTicket},
      Passed now world.worker.registrations progress →
      progress.pass.ticket = some ticket →
      Admissible world.worker.gatewayId world.worker.generation world.shard
        ticket.action := by
    intro progress ticket passed selected
    obtain ⟨source, state, after, stored, -, begun⟩ := passed.selected ticket selected
    have key := (orderly.coherent.sound source state stored).key
    constructor
    · rw [begun.due.key_eq, key]
      exact validateRequest_of_matching
        ⟨world.worker.gatewayId, source, world.worker.shardId⟩
        orderly.generation orderly.shardId
    · intro updateKey leaseId revision snapshot updates
      have due := begun.due
      rw [updates] at due
      cases due with
      | update _ lease _ desired =>
        rw [key]
        exact (orderly.tracked source state stored).desired snapshot desired
  unfold World.prepare at coherent ⊢
  rcases world.worker.prepareRegistrations_cases now with
    ⟨progress, passed, same, selects⟩ | pruned | ⟨message, _, _, failed⟩
  · have tracked := orderly.tracked.passed passed
    split
    · rename_i epoch ticket worker prepared
      rw [prepared] at coherent same selects
      dsimp only at same
      subst same
      refine ⟨coherent, orderly.generation, orderly.shardId, tracked, ?_, ?_⟩
      · intro request member
        rcases List.mem_append.mp member with earlier | last
        · exact orderly.requests request earlier
        · rw [List.mem_singleton] at last
          rw [last]
          exact admissible passed (selects epoch ticket rfl)
      · intro operation result flying answer
        cases flying
        cases answer
    · rename_i worker other prepared
      rw [prepared] at same
      dsimp only at same
      subst same
      have sound : ShardWorker.Sound world.shard world.wire
          { world.worker with registrations := progress.registrations } :=
        orderly.coherent.sound.passed passed
      exact orderly.withWorker
        (orderly.coherent.withWorker sound ⟨rfl, rfl, rfl⟩ world.journal)
        ⟨rfl, rfl, rfl⟩ tracked
  · rw [pruned] at coherent ⊢
    exact orderly.withWorker coherent ⟨rfl, rfl, rfl⟩
      (Table.Every.retain orderly.tracked _)
  · rw [failed] at enough
    cases enough

theorem Orderly.complete {operation : InFlight} {result : OperationResult}
    (now : Instant) (coherent : (world.complete operation result now).Coherent)
    (acceptable : Acceptable operation.ticket.action result) :
    (world.complete operation result now).Orderly := by
  have identity := world.worker.sameIdentity_onOperationCompletion
    ⟨operation.epoch, operation.ticket, result⟩ now
  have tracked := ShardWorker.tracked_onOperationCompletion orderly.tracked
    ⟨operation.epoch, operation.ticket, result⟩ now acceptable
  refine ⟨coherent, identity.generation.trans orderly.generation,
    identity.shardId.trans orderly.shardId, ?_, ?_, ?_⟩
  · unfold Authorized World.complete
    dsimp only
    rw [identity.gatewayId, identity.shardId]
    exact tracked
  · unfold World.complete
    dsimp only
    rw [identity.gatewayId, identity.generation]
    exact orderly.requests
  · intro other answer flying
    cases flying

theorem Orderly.serve (draws : LeaseDraws) (now : Instant) : (world.serve draws now).Orderly := by
  have coherent := orderly.coherent.serve draws now
  unfold World.serve at coherent ⊢
  split
  · exact orderly
  · rename_i request wire head
    rw [head] at coherent
    dsimp only at coherent ⊢
    have admissible := orderly.requests request
      (by rw [head]; exact List.mem_cons_self)
    have framed := framed_applyAction world.shard draws
      world.worker.gatewayId world.worker.generation request.action now
    refine ⟨coherent, ?_, orderly.shardId.trans framed.shardId.symm,
      orderly.tracked_of_identity framed.directory framed.shardId, ?_, ?_⟩
    · rw [framed.directory]
      exact orderly.generation
    · intro later member
      have earlier : later ∈ world.wire := by
        rw [head]
        exact List.mem_cons_of_mem _ member
      exact (orderly.requests later earlier).congr framed.directory framed.shardId
    · intro operation result flying answer
      rw [Option.map_eq_some_iff] at flying
      obtain ⟨earlier, found, rfl⟩ := flying
      split at answer
      · rename_i awaited
        cases answer
        have action := orderly.coherent.sent earlier found request
          (by rw [head]; exact List.mem_cons_self) awaited.symm
        rw [if_pos awaited]
        change Acceptable earlier.ticket.action _
        rw [← action]
        exact acceptable_applyAction admissible draws now
      · rename_i unrelated
        rw [if_neg unrelated]
        exact orderly.answers earlier result found answer

theorem Orderly.drop : Orderly { world with wire := world.wire.tail } where
  __ := orderly
  coherent := orderly.coherent.drop
  requests request member := orderly.requests request (List.mem_of_mem_tail member)

/-- Every event of a matching system keeps it orderly. -/
theorem Orderly.step {target : World} {event : Event}
    (step : world.MatchedStep event target) : target.Orderly := by
  obtain ⟨⟨possible, matched⟩, rfl⟩ := step
  have coherent := orderly.coherent.step ⟨possible, rfl⟩
  cases event with
  | reconcile view now =>
    refine orderly.withWorker coherent ⟨rfl, rfl, rfl⟩ ?_
    refine AllTracked.reconcileDesired ?_ ?_ view _ _ _ _ now matched
    · intro sessionId state found
      dsimp only
      rw [found]
      exact orderly.tracked sessionId state found
    · intro sessionId missing
      rw [missing]
      rfl
  | prune =>
    exact orderly.withWorker coherent ⟨rfl, rfl, rfl⟩
      (Table.Every.retain orderly.tracked _)
  | prepare => exact orderly.prepare matched
  | connected result =>
    refine orderly.withWorker coherent
      (world.worker.sameIdentity_onConnectResult result) ?_
    unfold ShardWorker.onConnectResult
    cases result with
    | ok =>
      dsimp only
      split
      · exact orderly.tracked
      · exact orderly.tracked
    | error error =>
      dsimp only
      rw [show isTerminalControlError error.code = false from matched]
      exact orderly.tracked
  | clientFailure epoch error now =>
    refine orderly.withWorker coherent
      (world.worker.sameIdentity_onClientFailure epoch error now) ?_
    unfold ShardWorker.onClientFailure
    split
    · exact orderly.tracked
    · rw [show isTerminalControlError error.code = false from matched]
      split
      · rename_i impossible
        cases impossible
      · split
        · exact orderly.tracked.connectionLost now
        · exact orderly.tracked
  | serve draws now => exact orderly.serve draws now
  | drop => exact orderly.drop
  | respond now =>
    simp only [World.apply] at coherent ⊢
    split
    · rename_i operation flying
      rw [flying] at coherent
      dsimp only at coherent
      split
      · rename_i result answer
        rw [answer] at coherent
        exact orderly.complete now coherent
          (orderly.answers operation result flying answer)
      · exact orderly
    · exact orderly
  | fail error now =>
    simp only [World.apply] at coherent ⊢
    split
    · rename_i operation flying
      rw [flying] at coherent
      exact orderly.complete now coherent (acceptable_failureOf _ matched)
    · exact orderly
  | foreign =>
    have framed := framed_foreign world.shard possible
    exact orderly.withShard coherent framed.directory framed.shardId
  | restart =>
    exact orderly.withShard coherent matched.1 matched.2

end

/-- In every run in which generation, identity and authority match and resources
suffice, a registration is in the terminal phase exactly when two lease-bound
FAILED_PRECONDITION answers took effect on it in a row, with no acknowledged
Update or KeepAlive between them. -/
theorem terminal_iff_refused_twice (shardId : ShardId) (gatewayId : GatewayId)
    (reconnectInitial reconnectMax : Duration) (directory : ShardDirectory)
    (config : RouteTableConfig) (events : List Event) (world : World)
    (run : Execution MatchedStep
      (initial
        (ShardWorker.new shardId directory.generation gatewayId reconnectInitial
          reconnectMax)
        (RouteTableShard.empty directory shardId config))
      events world)
    (sessionId : RelaySessionId) (state : RegistrationState)
    (found : world.worker.registrations.get sessionId = some state) :
    state.phase = .terminal ↔
      [LeaseReply.refused, LeaseReply.refused] <:+: world.journal sessionId := by
  have orderly : world.Orderly :=
    run.invariant (fun _ _ _ holds step => Orderly.step holds step)
      (orderly_initial shardId gatewayId reconnectInitial reconnectMax directory
        config)
  have ended : state.phase = .terminal ↔ state.terminal = true := by
    unfold RegistrationState.phase
    split
    · rename_i ended
      exact iff_of_true rfl ended
    · rename_i live
      refine iff_of_false ?_ live
      split
      · split <;> simp
      · split
        · simp
        · split
          · simp
          · split <;> simp
  exact ended.trans (orderly.tracked sessionId state found).recorded.terminal

theorem allowed_restartingTwice :
    Allowed World.apply
      (fun world event => world.Possible event ∧ world.Matched event)
      Scenario.start Scenario.restartingTwice := by
  refine ⟨⟨trivial, ?_⟩, ⟨⟨rfl, rfl⟩, trivial⟩, ⟨?_, ?_⟩,
    ⟨trivial, trivial⟩, ⟨trivial, trivial⟩, ⟨trivial, rfl, rfl⟩,
    ⟨?_, ?_⟩, ⟨trivial, trivial⟩, ⟨trivial, trivial⟩,
    ⟨?_, ?_⟩, ⟨trivial, trivial⟩, ⟨trivial, trivial⟩,
    ⟨trivial, rfl, rfl⟩, ⟨?_, ?_⟩, ⟨trivial, trivial⟩,
    ⟨trivial, trivial⟩, trivial⟩
  · intro change member
    cases List.mem_singleton.mp member
    rfl
  all_goals
    change _ = true
    decide

open Scenario in
theorem run_restartingTwice :
    Execution MatchedStep start restartingTwice (after restartingTwice) :=
  Execution.of_allowed restartingTwice allowed_restartingTwice

open Scenario in
theorem phase_restartingTwice :
    ((after restartingTwice).worker.registrations.get
      session).map RegistrationState.phase = some .terminal := by
  decide

open Scenario in
/-- Two restarts are enough: the second one comes before the Update under the
new lease, so the registration ends although everything matches. -/
theorem terminal_after_two_restarts :
    ∃ events world state, Execution MatchedStep (initial
          (ShardWorker.new shardId directory.generation ⟨1⟩ 10 40)
          (RouteTableShard.empty directory shardId config))
        events world ∧
      world.worker.registrations.get session = some state ∧
      state.phase = .terminal := by
  obtain ⟨state, found, ended⟩ :=
    Option.map_eq_some_iff.mp phase_restartingTwice
  exact ⟨restartingTwice, after restartingTwice, state, run_restartingTwice, found, ended⟩

open Scenario in
/-- The journal of that registration has two refusals in a row. -/
theorem refused_twice_after_two_restarts :
    [LeaseReply.refused, LeaseReply.refused] <:+: (after restartingTwice).journal session := by
  obtain ⟨state, found, ended⟩ :=
    Option.map_eq_some_iff.mp phase_restartingTwice
  exact (terminal_iff_refused_twice shardId ⟨1⟩ 10 40 directory config restartingTwice
    (after restartingTwice) run_restartingTwice
    session state found).mp ended

end World

end RelayGate.Routing
