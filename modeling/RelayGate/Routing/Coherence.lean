import RelayGate.Routing.Agreement

/-!
# Coherence of a worker and its shard

The invariant of the composed system: the shard's indexes, every registration
of the worker, the order of the requests under way, and what the answer of the
operation in flight establishes.  Every event keeps it, so a synchronized
registration is right about the shard in every run.
-/

namespace RelayGate.Routing

open Library
open RouteTable
open RouteTable.RouteTableShard (Framed)

/-! ## The identity of the worker -/

namespace ShardWorker

variable {now : Instant} {progress : PassProgress}

section

variable (worker : ShardWorker)

theorem SameIdentity.refl : SameIdentity worker worker :=
  ⟨rfl, rfl, rfl⟩

theorem sameIdentity_prepareRegistrations (now : Instant) :
    SameIdentity worker (worker.prepareRegistrations now).2 := by
  unfold prepareRegistrations
  split
  · exact ⟨rfl, rfl, rfl⟩
  · split
    · exact ⟨rfl, rfl, rfl⟩
    · split
      · exact ⟨rfl, rfl, rfl⟩
      · exact ⟨rfl, rfl, rfl⟩

theorem sameIdentity_onClientFailure (epoch : Nat) (error : TransportError)
    (now : Instant) : SameIdentity worker (worker.onClientFailure epoch error now) := by
  unfold onClientFailure
  split
  · exact SameIdentity.refl worker
  · split
    · exact ⟨rfl, rfl, rfl⟩
    · split
      · exact ⟨rfl, rfl, rfl⟩
      · exact SameIdentity.refl worker

theorem sameIdentity_onConnectResult (result : Except TransportError Unit) :
    SameIdentity worker (worker.onConnectResult result).2 := by
  unfold onConnectResult
  split
  · split
    · exact SameIdentity.refl worker
    · exact ⟨rfl, rfl, rfl⟩
  · split
    · exact ⟨rfl, rfl, rfl⟩
    · exact SameIdentity.refl worker

theorem sameIdentity_onOperationCompletion (completion : OperationCompletion) (now : Instant) :
    SameIdentity worker (worker.onOperationCompletion completion now) := by
  unfold onOperationCompletion onCompletionError
  dsimp only
  split
  · exact ⟨rfl, rfl, rfl⟩
  · split
    · split
      · exact ⟨rfl, rfl, rfl⟩
      · exact ⟨rfl, rfl, rfl⟩
    · split
      · exact ⟨rfl, rfl, rfl⟩
      · exact ⟨rfl, rfl, rfl⟩

end

/-! ## Preparing the next operation -/

variable {shard : RouteTableShard} {wire : List Request} {worker : ShardWorker}

theorem Sound.passed (sound : worker.Sound shard wire)
    (passed : Passed now worker.registrations progress) :
    AllSound worker.gatewayId worker.shardId shard wire progress.registrations := by
  intro sessionId after found
  obtain ⟨state, stored, same | ⟨ticket, -, begun⟩⟩ := passed.kept sessionId after found
  · rw [same]
    exact sound sessionId state stored
  · exact (sound sessionId state stored).begun begun

/-- Sending the selected operation keeps the invariant: a registration that
claims its snapshot only renews its lease. -/
theorem Sound.sent (sound : worker.Sound shard wire)
    (passed : Passed now worker.registrations progress)
    {ticket : OperationTicket} (selected : progress.pass.ticket = some ticket) (serial : Nat) :
    AllSound worker.gatewayId worker.shardId shard
      (wire ++ [⟨serial, ticket.action⟩]) progress.registrations := by
  obtain ⟨source, state, begunState, stored, left, begun⟩ := passed.selected ticket selected
  intro sessionId after found
  have held := sound.passed passed sessionId after found
  refine ⟨held.key, held.fits, ?_⟩
  intro leaseId snapshot claims
  have backed := held.backed leaseId snapshot claims
  refine ⟨backed.held, ?_⟩
  intro request member sameKey
  rcases List.mem_append.mp member with earlier | last
  · exact backed.quiet request earlier sameKey
  · rw [List.mem_singleton] at last
    subst last
    have keys : state.key = after.key := begun.due.key_eq.symm.trans sameKey
    rw [(sound source state stored).key, held.key] at keys
    cases keys
    rw [left] at found
    cases found
    obtain ⟨older, old, -⟩ := begun.claimsFrom leaseId snapshot claims
    exact begun.due.isKeepAlive_of_claims old

/-- What preparing does: prune or fail without an operation, or one pass. -/
theorem prepareRegistrations_cases (worker : ShardWorker) (now : Instant) :
    (∃ progress, Passed now worker.registrations progress ∧
      (worker.prepareRegistrations now).2 =
        { worker with registrations := progress.registrations } ∧
      ∀ epoch ticket, (worker.prepareRegistrations now).1 =
        .ok (some (epoch, ticket)) → progress.pass.ticket = some ticket) ∨
    (worker.prepareRegistrations now = (.ok none, worker.prune)) ∨
    ∃ message progress, Passed now worker.registrations progress ∧
      worker.prepareRegistrations now = (.error message,
        { worker with
          registrations := markAllTerminal progress.registrations }) := by
  have passed := passed_all now worker.registrations
  unfold prepareRegistrations
  split
  · exact Or.inr (Or.inl rfl)
  · split
    · exact Or.inr (Or.inl rfl)
    · unfold prepareRegistrationPass
      dsimp only
      split
      · rename_i pass registrations prepared
        split at prepared
        · cases prepared
        · cases prepared
          refine Or.inl ⟨_, passed, rfl, ?_⟩
          intro epoch ticket sent
          simp only [Except.ok.injEq, Option.map_eq_some_iff, Prod.mk.injEq] at sent
          obtain ⟨chosen, selected, -, rfl⟩ := sent
          exact selected
      · rename_i message registrations prepared
        split at prepared
        · cases prepared
          exact Or.inr (Or.inr ⟨_, _, passed, rfl⟩)
        · cases prepared

theorem Sound.prepareRegistrations (sound : worker.Sound shard wire) (now : Instant) :
    (worker.prepareRegistrations now).2.Sound shard wire := by
  rcases worker.prepareRegistrations_cases now with
    ⟨progress, passed, same, -⟩ | pruned | ⟨message, progress, passed, same⟩
  · rw [same]
    exact sound.passed passed
  · rw [pruned]
    exact sound.prune
  · rw [same]
    exact AllSound.mapValues (sound.passed passed)
      RegistrationState.yields_markTerminal

end ShardWorker

/-! ## The shard's side -/

section Shard

variable {shard : RouteTableShard}

theorem indexed_applyAction (indexed : shard.Indexed) (draws : LeaseDraws)
    (gatewayId : GatewayId) (generation : ShardDirectoryGeneration)
    (action : RegistrationAction) (now : Instant) :
    (applyAction shard draws gatewayId generation action now).2.Indexed := by
  cases action with
  | register => exact indexed.register _ _ _ _ _
  | update => exact indexed.update _ _ _ _ _ _ _
  | keepAlive => exact indexed.keepAlive _ _ _ _ _
  | deregister => exact indexed.deregister _ _ _ _ _

theorem framed_applyAction (shard : RouteTableShard) (draws : LeaseDraws)
    (gatewayId : GatewayId) (generation : ShardDirectoryGeneration)
    (action : RegistrationAction) (now : Instant) :
    Framed (· = action.key) shard
      (applyAction shard draws gatewayId generation action now).2 := by
  have named (call : RouteTableShard.Call)
      (own : ∀ key, call.Writes key → key = action.key) :
      Framed (· = action.key) shard (shard.answer call).2 :=
    (shard.framed_answer call).mono own
  cases action with
  | register key =>
    exact named (.register draws ⟨gatewayId⟩ generation key now)
      fun _ writes => writes.1.symm
  | update key leaseId revision snapshot =>
    exact named (.update ⟨gatewayId⟩ generation key leaseId revision snapshot now)
      fun _ writes => writes.1.symm
  | keepAlive key leaseId =>
    exact named (.keepAlive ⟨gatewayId⟩ generation key leaseId now)
      fun _ writes => writes.1.symm
  | deregister key leaseId =>
    exact named (.deregister ⟨gatewayId⟩ generation key leaseId now)
      fun _ writes => writes.elim

theorem reported_eq_ok {Value : Type} {result : Except RouteTableError Value}
    {value : Value} (accepted : reported result = .ok value) : result = .ok value := by
  cases result with
  | error => cases accepted
  | ok =>
    cases accepted
    rfl

/-- A claim survives a request: it is a KeepAlive of the same key, or it is for
another key. -/
theorem Backed.applyAction {request : Request} {wire : List Request}
    {key : RegistrationKey} {leaseId : LeaseId} {snapshot : BindingSnapshot}
    (backed : Backed shard (request :: wire) key leaseId snapshot)
    (draws : LeaseDraws) (gatewayId : GatewayId)
    (generation : ShardDirectoryGeneration) (now : Instant) :
    Backed (Routing.applyAction shard draws gatewayId generation request.action
      now).2 wire key leaseId snapshot where
  held registration found lease := by
    by_cases same : key = request.action.key
    · have renews := backed.quiet request List.mem_cons_self same.symm
      cases action : request.action with
      | register | update | deregister => rw [action] at renews; cases renews
      | keepAlive other =>
        rw [action] at same found
        change key = other at same
        subst same
        obtain ⟨earlier, stored, sameLease, sameBindings⟩ := RouteTableShard.get_keepAlive found
        rw [sameBindings]
        exact backed.held earlier stored (sameLease.symm.trans lease)
    · exact backed.held registration ((framed_applyAction shard draws gatewayId
        generation request.action now).kept key registration same found) lease
  quiet later member := backed.quiet later (List.mem_cons_of_mem _ member)

/-- The answer to an accepted Update establishes its snapshot. -/
theorem established_applyAction (draws : LeaseDraws) (gatewayId : GatewayId)
    (generation : ShardDirectoryGeneration) (action : RegistrationAction) (now : Instant) :
    Established
      (applyAction shard draws gatewayId generation action now).2 [] action
      (applyAction shard draws gatewayId generation action now).1 := by
  intro ack key leaseId revision snapshot updates accepted
  subst updates
  refine ⟨rfl, ?_⟩
  intro registration found
  have reports : reported (shard.update ⟨gatewayId⟩ generation key leaseId
      revision snapshot now).1 = .ok ack := by
    injection accepted
  exact RouteTableShard.bindings_of_update_eq_ok (reported_eq_ok reports) found

/-- Other Gateways leave the registrations of this one alone. -/
theorem framed_foreign (shard : RouteTableShard) {gatewayId : GatewayId}
    {call : RouteTableShard.Call} (foreign : ForeignTo gatewayId call) :
    Framed (fun key => key.gatewayId ≠ gatewayId) shard (shard.answer call).2 := by
  apply (shard.framed_answer call).mono
  intro key writes same
  cases call with
  | register | update | keepAlive => exact foreign (writes.2.trans same)
  | deregister | resolve | expireDue => exact writes

end Shard

/-! ## The invariant -/

namespace World

variable {world : World} {operation : InFlight}

/-- The invariant of the composed system. -/
structure Coherent (world : World) : Prop where
  indexed : world.shard.Indexed
  sound : world.worker.Sound world.shard world.wire
  ordered : world.wire.Pairwise fun earlier later =>
    earlier.serial < later.serial
  issued : ∀ request ∈ world.wire, request.serial < world.nextSerial
  latest : ∀ operation, world.operation = some operation →
    operation.serial + 1 = world.nextSerial
  sent : ∀ operation, world.operation = some operation →
    ∀ request ∈ world.wire, request.serial = operation.serial →
      request.action = operation.ticket.action
  owned : ∀ operation, world.operation = some operation →
    operation.ticket.action.key.gatewayId = world.worker.gatewayId
  answered : ∀ operation result, world.operation = some operation →
    operation.answer = some result →
      world.wire = [] ∧
        Established world.shard world.wire operation.ticket.action result

/-- A worker and a shard that have just started are coherent. -/
theorem coherent_initial (shardId : ShardId)
    (generation : ShardDirectoryGeneration) (gatewayId : GatewayId)
    (reconnectInitial reconnectMax : Duration) (directory : ShardDirectory)
    (authority : ShardId) (config : RouteTableConfig) :
    Coherent (initial
      (ShardWorker.new shardId generation gatewayId reconnectInitial reconnectMax)
      (RouteTableShard.empty directory authority config)) where
  indexed := RouteTableShard.indexed_empty directory authority config
  sound := Table.every_empty
  ordered := List.Pairwise.nil
  issued _ member := by cases member
  latest _ flying := by cases flying
  sent _ flying := by cases flying
  owned _ flying := by cases flying
  answered _ _ flying := by cases flying

section

variable (coherent : world.Coherent)
include coherent

/-- A transition of the worker alone. -/
theorem Coherent.withWorker {worker : ShardWorker} (sound : worker.Sound world.shard world.wire)
    (identity : ShardWorker.SameIdentity world.worker worker)
    (journal : RelaySessionId → List LeaseReply) :
    Coherent { world with worker := worker, journal := journal } where
  __ := coherent
  sound := sound
  owned operation flying :=
    (coherent.owned operation flying).trans identity.gatewayId.symm

theorem Coherent.prepare (now : Instant) : (world.prepare now).Coherent := by
  have sound := coherent.sound.prepareRegistrations now
  have identity := world.worker.sameIdentity_prepareRegistrations now
  unfold World.prepare
  split
  · rename_i epoch ticket worker prepared
    rw [prepared] at sound identity
    rcases world.worker.prepareRegistrations_cases now with
      ⟨progress, passed, same, selects⟩ | pruned | ⟨message, _, _, failed⟩
    · rw [prepared] at same selects
      dsimp only at same
      subst same
      have selected := selects epoch ticket rfl
      refine ⟨coherent.indexed, ?_, ?_, ?_, ?_, ?_, ?_, ?_⟩
      · exact coherent.sound.sent passed selected world.nextSerial
      · rw [List.pairwise_append]
        refine ⟨coherent.ordered, List.pairwise_singleton _ _, ?_⟩
        intro request member last final
        rw [List.mem_singleton] at final
        rw [final]
        exact coherent.issued request member
      · intro request member
        rcases List.mem_append.mp member with earlier | last
        · exact Nat.lt_succ_of_lt (coherent.issued request earlier)
        · rw [List.mem_singleton] at last
          rw [last]
          exact Nat.lt_succ_self _
      · intro operation flying
        cases flying
        rfl
      · intro operation flying request member sameSerial
        cases flying
        rcases List.mem_append.mp member with earlier | last
        · exact absurd sameSerial
            (Nat.ne_of_lt (coherent.issued request earlier))
        · rw [List.mem_singleton] at last
          rw [last]
      · intro operation flying
        cases flying
        obtain ⟨source, state, _, stored, _, begun⟩ := passed.selected ticket selected
        rw [begun.due.key_eq, (coherent.sound source state stored).key]
      · intro operation result flying answer
        cases flying
        cases answer
    · rw [prepared] at pruned
      cases pruned
    · rw [prepared] at failed
      cases failed
  · rename_i worker prepared
    rw [prepared] at sound identity
    exact coherent.withWorker sound identity world.journal

/-- The operation in flight ends with a result that is established. -/
theorem Coherent.complete {result : OperationResult}
    (established : Established world.shard world.wire operation.ticket.action result)
    (now : Instant) : (world.complete operation result now).Coherent where
  __ := coherent
  sound := coherent.sound.onOperationCompletion
    ⟨operation.epoch, operation.ticket, result⟩ now established
  latest _ flying := by cases flying
  sent _ flying := by cases flying
  owned _ flying := by cases flying
  answered _ _ flying := by cases flying

/-- The oldest request is the last one if the worker waits for it. -/
theorem Coherent.last_of_awaited {request : Request} {wire : List Request}
    (head : world.wire = request :: wire) (flying : world.operation = some operation)
    (awaited : operation.serial = request.serial) : wire = [] := by
  rw [List.eq_nil_iff_forall_not_mem]
  intro later member
  have after : request.serial < later.serial := by
    have ordered := coherent.ordered
    rw [head, List.pairwise_cons] at ordered
    exact ordered.1 later member
  have before := coherent.issued later
    (by rw [head]; exact List.mem_cons_of_mem _ member)
  have newest := coherent.latest operation flying
  omega

theorem Coherent.serve (draws : LeaseDraws) (now : Instant) :
    (world.serve draws now).Coherent := by
  unfold World.serve
  split
  · exact coherent
  · rename_i request wire head
    dsimp only
    have subset : ∀ later ∈ wire, later ∈ world.wire := by
      intro later member
      rw [head]
      exact List.mem_cons_of_mem _ member
    have ordered := coherent.ordered
    rw [head, List.pairwise_cons] at ordered
    have flown : ∀ operation, (world.operation.map fun operation =>
          if operation.serial = request.serial then
            { operation with
              answer := some (applyAction world.shard draws
                world.worker.gatewayId world.worker.generation request.action
                now).1 }
          else
            operation) = some operation →
        ∃ earlier, world.operation = some earlier ∧
          earlier.serial = operation.serial ∧
          earlier.ticket = operation.ticket := by
      intro operation flying
      rw [Option.map_eq_some_iff] at flying
      obtain ⟨earlier, found, rfl⟩ := flying
      refine ⟨earlier, found, ?_⟩
      split
      · exact ⟨rfl, rfl⟩
      · exact ⟨rfl, rfl⟩
    refine ⟨indexed_applyAction coherent.indexed _ _ _ _ _, ?_, ordered.2,
      fun later member => coherent.issued later (subset later member),
      ?_, ?_, ?_, ?_⟩
    · intro sessionId state found
      have sound := coherent.sound sessionId state found
      refine ⟨sound.key, sound.fits, ?_⟩
      intro leaseId snapshot claims
      have backed := sound.backed leaseId snapshot claims
      rw [head] at backed
      exact backed.applyAction draws _ _ now
    · intro operation flying
      obtain ⟨earlier, found, serial, -⟩ := flown operation flying
      rw [← serial]
      exact coherent.latest earlier found
    · intro operation flying later member sameSerial
      obtain ⟨earlier, found, serial, ticket⟩ := flown operation flying
      rw [← ticket]
      exact coherent.sent earlier found later (subset later member)
        (sameSerial.trans serial.symm)
    · intro operation flying
      obtain ⟨earlier, found, -, ticket⟩ := flown operation flying
      rw [← ticket]
      exact coherent.owned earlier found
    · intro operation result flying answer
      rw [Option.map_eq_some_iff] at flying
      obtain ⟨earlier, found, rfl⟩ := flying
      split at answer
      · rename_i awaited
        cases answer
        have last := coherent.last_of_awaited head found awaited
        have action := coherent.sent earlier found request
          (by rw [head]; exact List.mem_cons_self) awaited.symm
        rw [if_pos awaited, last]
        refine ⟨rfl, ?_⟩
        change Established _ [] earlier.ticket.action _
        rw [← action]
        exact established_applyAction draws _ _ request.action now
      · obtain ⟨empty, -⟩ := coherent.answered earlier result found answer
        rw [head] at empty
        cases empty

theorem Coherent.drop : Coherent { world with wire := world.wire.tail } where
  __ := coherent
  sound sessionId state found := by
    have sound := coherent.sound sessionId state found
    refine ⟨sound.key, sound.fits, ?_⟩
    intro leaseId snapshot claims
    have backed := sound.backed leaseId snapshot claims
    exact ⟨backed.held, fun request member =>
      backed.quiet request (List.mem_of_mem_tail member)⟩
  ordered := coherent.ordered.tail
  issued request member := coherent.issued request (List.mem_of_mem_tail member)
  sent operation flying request member :=
    coherent.sent operation flying request (List.mem_of_mem_tail member)
  answered operation result flying answer := by
    obtain ⟨empty, established⟩ := coherent.answered operation result flying answer
    dsimp only
    rw [empty] at established ⊢
    exact ⟨rfl, established⟩

/-- A change of the shard that leaves this Gateway's registrations alone. -/
theorem Coherent.withShard {shard : RouteTableShard} (indexed : shard.Indexed)
    (kept : ∀ key registration, key.gatewayId = world.worker.gatewayId →
      shard.registrationIndex.get key = some registration →
        world.shard.registrationIndex.get key = some registration) :
    Coherent { world with shard := shard } where
  __ := coherent
  indexed := indexed
  sound sessionId state found := by
    have sound := coherent.sound sessionId state found
    refine ⟨sound.key, sound.fits, ?_⟩
    intro leaseId snapshot claims
    have backed := sound.backed leaseId snapshot claims
    refine ⟨fun registration stored => backed.held registration
      (kept state.key registration ?_ stored), backed.quiet⟩
    rw [sound.key]
  answered operation result flying answer := by
    obtain ⟨empty, established⟩ := coherent.answered operation result flying answer
    refine ⟨empty, ?_⟩
    intro ack key leaseId revision snapshot updates accepted
    obtain ⟨-, has⟩ := established ack key leaseId revision snapshot updates
      accepted
    refine ⟨empty, fun registration stored => has registration (kept key registration ?_ stored)⟩
    rw [← coherent.owned operation flying, updates]
    rfl

end

theorem established_failureOf (shard : RouteTableShard) (wire : List Request)
    (action : RegistrationAction) (error : TransportError) :
    Established shard wire action (failureOf action error) := by
  intro ack key leaseId revision snapshot updates failed
  subst updates
  cases failed

/-- Every event keeps the system coherent. -/
theorem Coherent.step {target : World} {event : Event}
    (coherent : world.Coherent) (step : world.Step event target) : target.Coherent := by
  obtain ⟨possible, rfl⟩ := step
  cases event with
  | reconcile view now =>
    exact coherent.withWorker (coherent.sound.reconcile view now)
      ⟨rfl, rfl, rfl⟩ _
  | prune =>
    exact coherent.withWorker coherent.sound.prune ⟨rfl, rfl, rfl⟩ _
  | prepare now => exact coherent.prepare now
  | connected result =>
    exact coherent.withWorker (coherent.sound.onConnectResult result)
      (world.worker.sameIdentity_onConnectResult result) _
  | clientFailure epoch error now =>
    exact coherent.withWorker (coherent.sound.onClientFailure epoch error now)
      (world.worker.sameIdentity_onClientFailure epoch error now) _
  | serve draws now => exact coherent.serve draws now
  | drop => exact coherent.drop
  | respond now =>
    simp only [World.apply]
    split
    · rename_i operation flying
      split
      · rename_i result answer
        exact coherent.complete
          (coherent.answered operation result flying answer).2 now
      · exact coherent
    · exact coherent
  | fail error now =>
    simp only [World.apply]
    split
    · exact coherent.complete (established_failureOf _ _ _ error) now
    · exact coherent
  | foreign call =>
    have framed := framed_foreign world.shard possible
    exact coherent.withShard (coherent.indexed.answer call)
      fun key registration own =>
        framed.kept key registration (not_not.mpr own)
  | restart directory shardId config =>
    apply coherent.withShard
      (RouteTableShard.indexed_empty directory shardId config)
    intro key registration _ found
    cases found

/-- In every run of a worker and a shard, a registration that reports `synced`
under a lease is right: if the shard still has that lease for its key, its
bindings are exactly the desired snapshot. -/
theorem synced_agrees_with_shard (shardId : ShardId)
    (generation : ShardDirectoryGeneration) (gatewayId : GatewayId)
    (reconnectInitial reconnectMax : Duration) (directory : ShardDirectory)
    (authority : ShardId) (config : RouteTableConfig) (events : List Event)
    (world : World)
    (run : Execution Step
      (initial
        (ShardWorker.new shardId generation gatewayId reconnectInitial
          reconnectMax)
        (RouteTableShard.empty directory authority config))
      events world)
    (sessionId : RelaySessionId) (state : RegistrationState)
    (found : world.worker.registrations.get sessionId = some state)
    (synced : state.phase = .synced) :
    ∃ lease snapshot, state.lease = some lease ∧
      state.snapshot = some snapshot ∧
      ∀ registration,
        world.shard.registrationIndex.get state.key = some registration →
        registration.leaseId = lease.id →
          ∀ identity, registration.bindings.get identity =
            snapshot.entries.get identity := by
  have coherent : world.Coherent :=
    run.invariant (fun _ _ _ holds step => Coherent.step holds step)
      (coherent_initial shardId generation gatewayId reconnectInitial
        reconnectMax directory authority config)
  obtain ⟨lease, snapshot, leased, claims⟩ :=
    RegistrationState.claims_of_synced synced
  refine ⟨lease, snapshot, leased, claims.snapshot, ?_⟩
  intro registration stored sameLease
  exact Table.sameEntries_iff.mp (((coherent.sound sessionId state found).backed
    lease.id snapshot claims).held registration stored sameLease)

open Scenario in
/-- After its first Update the registration is synchronized, and the shard has
its snapshot under its lease. -/
theorem synced_after_first_update :
    ∃ state, (after synchronizing).worker.registrations.get session = some state ∧
      state.phase = .synced ∧
      ∃ lease snapshot, state.lease = some lease ∧
        state.snapshot = some snapshot ∧
        ∀ registration, (after synchronizing).shard.registrationIndex.get
            state.key = some registration →
          registration.leaseId = lease.id →
            ∀ identity, registration.bindings.get identity = snapshot.entries.get identity := by
  have allowed : Allowed World.apply Possible start synchronizing :=
    ⟨trivial, ⟨rfl, rfl⟩, rfl, trivial, trivial, rfl, trivial, trivial, trivial⟩
  have reported : ((after synchronizing).worker.registrations.get
        session).map RegistrationState.phase = some .synced := by
    decide
  obtain ⟨state, found, synced⟩ := Option.map_eq_some_iff.mp reported
  exact ⟨state, found, synced, synced_agrees_with_shard shardId ⟨7⟩ ⟨1⟩
    10 40 directory shardId config
    synchronizing _ (Execution.of_allowed _ allowed) session
    state found synced⟩

end World

end RelayGate.Routing
