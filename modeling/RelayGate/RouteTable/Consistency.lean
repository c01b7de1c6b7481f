import RelayGate.Library.Execution
import RelayGate.RouteTable.Expiry

/-!
# Consistency of a shard over whole runs

Every call on a shard keeps both halves of the index invariant, so after any
list of calls, at any clock values, the redundant indexes and the maintained
counters say exactly what the registrations say.
-/

namespace RelayGate.RouteTable

open Library

namespace RouteTableShard

variable {shard : RouteTableShard} {key : RegistrationKey}

/-- Both halves of the index invariant, with no bucket taken out. -/
structure Indexed (shard : RouteTableShard) : Prop where
  bindings : shard.BindingsIndexed
  expiries : ExpiriesIndexed [] 0 shard

theorem indexed_empty (directory : ShardDirectory) (shardId : ShardId)
    (config : RouteTableConfig) : (empty directory shardId config).Indexed :=
  ⟨bindingsIndexed_empty directory shardId config,
    expiriesIndexed_empty directory shardId config 0⟩

theorem Indexed.expireDue (indexed : shard.Indexed)
    (now : Instant) : (shard.expireDue now).2.Indexed := by
  obtain ⟨progressed, -⟩ := expireDue_spec indexed.bindings indexed.expiries now
  exact ⟨progressed.bindings, progressed.expiries⟩

theorem Indexed.get_expireDue (indexed : shard.Indexed) (now : Instant) (key : RegistrationKey) :
    (shard.expireDue now).2.registrationIndex.get key =
      (shard.registrationIndex.get key).filter fun registration => now < registration.deadline :=
  (expireDue_spec indexed.bindings indexed.expiries now).2 key

theorem Indexed.swept_expireDue (indexed : shard.Indexed) (now : Instant) :
    Swept now shard (shard.expireDue now).2 :=
  (expireDue_spec indexed.bindings indexed.expiries now).1.swept

theorem Indexed.removeRegistration (indexed : shard.Indexed) (key : RegistrationKey) :
    (shard.removeRegistration key).Indexed := by
  refine ⟨indexed.bindings.removeRegistration key, ?_⟩
  cases found : shard.registrationIndex.get key with
  | none =>
    unfold RouteTableShard.removeRegistration
    rw [found]
    exact indexed.expiries
  | some => exact indexed.expiries.removeRegistration found

/-! ## What the validations establish -/

theorem validateRequest_eq_ok {context : RequestContext} {generation : ShardDirectoryGeneration}
    (valid : shard.validateRequest context generation key = .ok ()) :
    context.authenticatedGatewayId = key.gatewayId ∧
      generation = shard.directory.generation ∧
      key.shardId = shard.shardId := by
  unfold validateRequest validateAuthenticatedOwner validateGeneration
    validateRegistrationScope at valid
  by_cases owner : context.authenticatedGatewayId = key.gatewayId
  · by_cases current : generation = shard.directory.generation
    · by_cases scope : key.shardId = shard.shardId
      · exact ⟨owner, current, scope⟩
      · simp [owner, current, scope, bind, Except.bind] at valid
    · simp [owner, current, bind, Except.bind] at valid
  · simp [owner, bind, Except.bind] at valid

theorem bind_eq_ok {first second : Except RouteTableError Unit}
    (valid : (do first; second) = .ok ()) : first = .ok () ∧ second = .ok () := by
  cases first with
  | error => cases valid
  | ok => exact ⟨rfl, valid⟩

theorem forM_eq_ok {check : BindingProjection → Except RouteTableError Unit}
    {bindings : List BindingProjection} (valid : bindings.forM check = .ok ())
    {binding : BindingProjection} (member : binding ∈ bindings) : check binding = .ok () := by
  induction bindings with
  | nil => cases member
  | cons first rest ih =>
    have both : (do check first; rest.forM check) = .ok () := valid
    obtain ⟨head, tail⟩ := bind_eq_ok both
    rcases List.mem_cons.mp member with rfl | later
    · exact head
    · exact ih tail later

/-- A snapshot that passes validation lies in the scope of its key. -/
theorem ownedBy_of_validateSnapshot {snapshot : BindingSnapshot}
    (valid : shard.validateSnapshot key snapshot = .ok ()) : OwnedBy key snapshot.entries := by
  intro identity binding found
  have passed := forM_eq_ok valid (mem_orderedValues.mpr ⟨identity, found⟩)
  have filed := snapshot.keyed identity binding found
  unfold validateBinding at passed
  split at passed
  · cases passed
  · rename_i inScope
    rw [not_or, not_not, not_not, filed] at inScope
    exact inScope

theorem currentRegistration_eq_ok {leaseId : LeaseId} {registration : RegistrationState}
    (current : shard.currentRegistration key leaseId = .ok registration) :
    shard.registrationIndex.get key = some registration ∧ registration.leaseId = leaseId := by
  unfold currentRegistration at current
  cases found : shard.registrationIndex.get key with
  | none =>
    rw [found] at current
    cases current
  | some =>
    rw [found] at current
    dsimp only at current
    split at current
    · cases current
    · rename_i sameLease
      cases current
      exact ⟨rfl, not_not.mp sameLease⟩

/-! ## Every call keeps the invariant -/

section

variable (indexed : shard.Indexed)
include indexed

theorem Indexed.register (draws : LeaseDraws) (context : RequestContext)
    (generation : ShardDirectoryGeneration) (key : RegistrationKey) (now : Instant) :
    (shard.register draws context generation key now).2.Indexed := by
  have live := indexed.expireDue now
  unfold RouteTableShard.register
  split
  · exact indexed
  · rename_i valid
    obtain ⟨-, -, scope⟩ := validateRequest_eq_ok valid
    dsimp only
    split
    · exact live
    · rename_i free
      split
      · exact live
      · rename_i deadline fits
        rw [← (indexed.swept_expireDue now).shardId] at scope
        exact ⟨live.bindings.fileRegistration deadline scope free
            (draws.unique_notMem _),
          live.expiries.fileRegistration _ deadline free⟩

section

variable (context : RequestContext) (generation : ShardDirectoryGeneration)
  (key : RegistrationKey) (leaseId : LeaseId) (now : Instant)

theorem Indexed.update (revision : RegistrationRevision) (snapshot : BindingSnapshot)
    (now : Instant) :
    (shard.update context generation key leaseId revision snapshot now).2.Indexed := by
  have live := indexed.expireDue now
  unfold RouteTableShard.update
  split
  · exact indexed
  · rename_i valid
    have owned := ownedBy_of_validateSnapshot (bind_eq_ok valid).2
    dsimp only
    split
    · exact live
    · rename_i registration current
      have found := (currentRegistration_eq_ok current).1
      split
      · exact live
      · exact live
      · split
        · exact live
        · exact ⟨live.bindings.replaceBindings revision found snapshot.keyed
              owned,
            live.expiries.replaceBindings revision _ found⟩

theorem Indexed.keepAlive : (shard.keepAlive context generation key leaseId now).2.Indexed := by
  have live := indexed.expireDue now
  unfold RouteTableShard.keepAlive
  split
  · exact indexed
  · dsimp only
    split
    · exact live
    · rename_i registration current
      have found := (currentRegistration_eq_ok current).1
      split
      · exact live
      · rename_i deadline fits
        exact ⟨live.bindings.moveDeadline deadline found,
          live.expiries.moveDeadline deadline found⟩

theorem Indexed.deregister : (shard.deregister context generation key leaseId now).2.Indexed := by
  have live := indexed.expireDue now
  unfold RouteTableShard.deregister
  split
  · exact indexed
  · dsimp only
    split
    · exact live
    · split
      · exact live
      · exact live.removeRegistration key

theorem Indexed.resolve (destination : Destination) (now : Instant) :
    (shard.resolve generation destination now).2.Indexed := by
  have live := indexed.expireDue now
  unfold RouteTableShard.resolve
  split
  · exact indexed
  · dsimp only
    split
    · exact live
    · split
      · exact live
      · exact live

end

/-- Every call keeps the index invariant. -/
theorem Indexed.answer (call : Call) : (shard.answer call).2.Indexed := by
  cases call with
  | register draws context generation key now =>
    exact indexed.register draws context generation key now
  | update context generation key leaseId revision snapshot now =>
    exact indexed.update context generation key leaseId revision snapshot now
  | keepAlive context generation key leaseId now =>
    exact indexed.keepAlive context generation key leaseId now
  | deregister context generation key leaseId now =>
    exact indexed.deregister context generation key leaseId now
  | resolve generation destination now =>
    exact indexed.resolve generation destination now
  | expireDue now => exact indexed.expireDue now

end

/-! ## The shard as a whole -/

/-- The statistics found by scanning the indexes. -/
def recount (shard : RouteTableShard) : RouteTableStats where
  registrationCount := shard.registrationIndex.len
  bindingCount := shard.registrationIndex.tally fun _ registration =>
    registration.bindings.len
  destinationCount := shard.destinationIndex.len
  expiryRecordCount := shard.expiryIndex.tally fun _ bucket => bucket.len

/-- The indexes are exact inverses of the registrations without empty buckets,
and the maintained counters equal a full recount and never underflowed. -/
structure Consistent (shard : RouteTableShard) : Prop where
  destinations : ∀ destination identity binding,
    shard.destinationIndex.find destination identity = some binding ↔
      shard.Publishes destination identity binding
  destinationBuckets : shard.destinationIndex.NoEmptyBucket
  expiries : ∀ deadline record,
    shard.expiryIndex.find deadline record = some () ↔
      ∃ registration,
        shard.registrationIndex.get record.registrationKey = some registration ∧
          registration.leaseId = record.leaseId ∧
          registration.deadline = deadline
  expiryBuckets : shard.expiryIndex.NoEmptyBucket
  leases : ∀ leaseId, leaseId ∈ shard.activeLeaseIds ↔
    ∃ key registration, shard.registrationIndex.get key = some registration ∧
      registration.leaseId = leaseId
  distinctLeases : ∀ first second firstRegistration secondRegistration,
    shard.registrationIndex.get first = some firstRegistration →
    shard.registrationIndex.get second = some secondRegistration →
    firstRegistration.leaseId = secondRegistration.leaseId → first = second
  stats : shard.stats = shard.recount
  bindingUnderflow : shard.bindingCount.underflowed = false
  expiryUnderflow : shard.expiryRecordCount.underflowed = false

theorem Indexed.consistent (indexed : shard.Indexed) : shard.Consistent where
  __ := indexed.bindings
  destinationBuckets := indexed.bindings.occupied
  expiries deadline record := by
    simpa using indexed.expiries.records deadline record
  expiryBuckets := indexed.expiries.occupied
  stats := by
    unfold RouteTableShard.stats recount
    rw [indexed.bindings.counted.1, indexed.expiries.counted.1]
    rfl
  bindingUnderflow := indexed.bindings.counted.2
  expiryUnderflow := indexed.expiries.counted.2

/-- After every list of calls, with any arguments and any clock values, the
indexes and counters of a shard are consistent. -/
theorem consistent_after_calls (directory : ShardDirectory)
    (shardId : ShardId) (config : RouteTableConfig) (calls : List Call) :
    (runCalls answer (empty directory shardId config) calls).Consistent := by
  have indexed : (runCalls answer (empty directory shardId config) calls).Indexed :=
    runCalls_invariant (fun _ call indexed => indexed.answer call) calls
      (indexed_empty directory shardId config)
  exact indexed.consistent

end RouteTableShard

end RelayGate.RouteTable
