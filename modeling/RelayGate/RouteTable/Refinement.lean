import RelayGate.RouteTable.Consistency
import RelayGate.RouteTable.Naive

/-!
# The shard refines the index-free RouteTable

A shard whose registrations are the entries of a naive table answers every call
as the naive table does, and stays in that relation.  The indexed `resolve`
returns the same bindings as the scan of the naive table, each once.
-/

namespace RelayGate.RouteTable

open Library Table
open RouteTableShard (Call Answer)

/-- A shard's answer agrees with the naive one.  Resolved bindings have no
order: the shard returns exactly the bindings of the naive answer, each once. -/
def Matches : Answer → Answer → Prop
  | .resolved (.ok bindings), .resolved (.ok expected) =>
      bindings.Nodup ∧ ∀ binding, binding ∈ bindings ↔ binding ∈ expected
  | given, expected => given = expected

/-- A shard and the naive table it stands for. -/
structure Refines (shard : RouteTableShard) (table : NaiveTable) : Prop where
  indexed : shard.Indexed
  directory : shard.directory = table.directory
  shardId : shard.shardId = table.shardId
  config : shard.config = table.config
  entries : ∀ key, shard.registrationIndex.get key = table.entries.get key

/-- A refusal as the result of a validation. -/
def refusal : Option RouteTableError → Except RouteTableError Unit
  | none => .ok ()
  | some error => .error error

theorem refusal_or (first second : Option RouteTableError) :
    refusal (first.or second) = (do refusal first; refusal second) := by
  cases first <;> rfl

namespace Refines

variable {destination : Destination} {shard : RouteTableShard} {table : NaiveTable}
  {bucket : BindingMap}

theorem empty (directory : ShardDirectory) (shardId : ShardId) (config : RouteTableConfig) :
    Refines (RouteTableShard.empty directory shardId config)
      (NaiveTable.empty directory shardId config) :=
  ⟨RouteTableShard.indexed_empty directory shardId config, rfl, rfl, rfl, fun _ => rfl⟩

/-! ## Validations -/

theorem validateGeneration (refines : Refines shard table)
    (generation : ShardDirectoryGeneration) :
    shard.validateGeneration generation = refusal (table.generationError generation) := by
  unfold RouteTableShard.validateGeneration NaiveTable.generationError
  rw [refines.directory]
  by_cases current : generation = table.directory.generation
  · simp [current, refusal]
  · simp [current, refusal]

theorem validateDestinationAuthority (refines : Refines shard table) (destination : Destination) :
    shard.validateDestinationAuthority destination =
      refusal (table.authorityError destination) := by
  unfold RouteTableShard.validateDestinationAuthority NaiveTable.authorityError
  rw [refines.directory, refines.shardId]
  by_cases owner : (table.directory.authority destination).id = table.shardId
  · simp [owner, refusal]
  · simp [owner, refusal]

theorem validateRequest (refines : Refines shard table)
    (context : RequestContext) (generation : ShardDirectoryGeneration) (key : RegistrationKey) :
    shard.validateRequest context generation key =
      refusal (table.requestError context generation key) := by
  unfold RouteTableShard.validateRequest NaiveTable.requestError
    RouteTableShard.validateAuthenticatedOwner
    RouteTableShard.validateRegistrationScope
  rw [refines.validateGeneration, refines.shardId]
  by_cases owner : context.authenticatedGatewayId = key.gatewayId
  · simp only [owner, ne_eq, not_true_eq_false, if_false, refusal_or]
    by_cases scope : key.shardId = table.shardId
    · simp only [scope, if_true, if_false, not_true_eq_false, refusal]
      rfl
    · simp only [scope, if_true, if_false, not_false_eq_true, refusal]
      rfl
  · simp only [owner, ne_eq, not_false_eq_true, if_true, refusal]
    rfl

theorem forM_refusal (errors : BindingProjection → Option RouteTableError)
    (bindings : List BindingProjection) :
    bindings.forM (fun binding => refusal (errors binding)) =
      refusal (bindings.findSome? errors) := by
  induction bindings with
  | nil => rfl
  | cons first rest ih =>
    rw [List.findSome?_cons]
    change (refusal (errors first) >>= fun _ => rest.forM fun binding =>
      refusal (errors binding)) = _
    rw [ih]
    cases errors first <;> rfl

section

variable (refines : Refines shard table)
include refines

theorem validateSnapshot (key : RegistrationKey) (snapshot : BindingSnapshot) :
    shard.validateSnapshot key snapshot = refusal (table.snapshotError key snapshot) := by
  unfold RouteTableShard.validateSnapshot NaiveTable.snapshotError
  rw [← forM_refusal]
  congr 1
  funext binding
  unfold RouteTableShard.validateBinding
  rw [refines.validateDestinationAuthority]
  by_cases gateway : binding.identity.gatewayId = key.gatewayId
  · by_cases session : binding.identity.relaySessionId = key.relaySessionId
    · simp [gateway, session]
    · simp [session, refusal]
  · simp [gateway, refusal]

/-! ## Expiry and lookup -/

theorem expireDue (now : Instant) : Refines (shard.expireDue now).2 (table.discard now) := by
  have swept := refines.indexed.swept_expireDue now
  refine ⟨refines.indexed.expireDue now, swept.directory.trans refines.directory,
    swept.shardId.trans refines.shardId, swept.config.trans refines.config, ?_⟩
  intro key
  rw [refines.indexed.get_expireDue, refines.entries]
  exact (get_retain (fun _ entry => decide (now < entry.deadline)) table.entries key).symm

theorem activeLeaseIds : shard.activeLeaseIds = table.leaseIds := by
  ext leaseId
  rw [refines.indexed.bindings.leases]
  simp only [NaiveTable.leaseIds, List.mem_toFinset, List.mem_map, mem_values, refines.entries]
  constructor
  · rintro ⟨key, entry, found, same⟩
    exact ⟨entry, ⟨key, found⟩, same⟩
  · rintro ⟨entry, ⟨key, found⟩, same⟩
    exact ⟨key, entry, found, same⟩

theorem currentRegistration (key : RegistrationKey) (leaseId : LeaseId) :
    shard.currentRegistration key leaseId = table.current key leaseId := by
  unfold RouteTableShard.currentRegistration NaiveTable.current
  rw [refines.entries]
  cases table.entries.get key with
  | none => rfl
  | some entry =>
    by_cases same : entry.leaseId = leaseId
    · simp [same]
    · simp [same]

/-- The naive table holds a binding for a destination exactly when the shard
publishes it. -/
theorem mem_bindingsFor {binding : BindingProjection} :
    binding ∈ table.bindingsFor destination ↔
      ∃ identity, shard.Publishes destination identity binding := by
  simp only [NaiveTable.bindingsFor, List.mem_flatMap, List.mem_filter, decide_eq_true_eq,
    mem_values, RouteTableShard.Publishes, refines.entries]
  constructor
  · rintro ⟨entry, ⟨key, found⟩, ⟨identity, published⟩, same⟩
    exact ⟨identity, key, entry, found, published, same⟩
  · rintro ⟨identity, key, entry, found, published, same⟩
    exact ⟨entry, ⟨key, found⟩, ⟨identity, published⟩, same⟩

/-- The bucket of a destination holds what the naive table finds by scanning. -/
theorem mem_orderedValues_bucket (stored : shard.destinationIndex.get destination = some bucket)
    (binding : BindingProjection) :
    binding ∈ orderedValues bucket ↔ binding ∈ table.bindingsFor destination := by
  rw [refines.mem_bindingsFor, mem_orderedValues]
  apply exists_congr
  intro identity
  rw [← refines.indexed.bindings.destinations]
  simp [BucketIndex.find, stored]

end

theorem nodup_orderedValues {bindings : BindingMap} (keyed : Keyed bindings) :
    (orderedValues bindings).Nodup := by
  unfold orderedValues
  rw [((List.perm_insertionSort _ bindings.toList).map Prod.snd).nodup_iff]
  refine (List.nodup_map_iff_inj_on bindings.nodup_toList).mpr ?_
  rintro ⟨first, binding⟩ firstMember ⟨second, other⟩ secondMember equal
  have firstKey := keyed first binding (mem_toList.mp firstMember)
  have secondKey := keyed second other (mem_toList.mp secondMember)
  dsimp only at equal
  rw [← firstKey, ← secondKey, equal]

variable (refines : Refines shard table)
include refines

/-- Every bucket of the destination index files bindings by identity. -/
theorem keyed_bucket (stored : shard.destinationIndex.get destination = some bucket) :
    Keyed bucket := by
  intro identity binding found
  have filed : shard.destinationIndex.find destination identity =
      some binding := by
    simp [BucketIndex.find, stored, found]
  obtain ⟨key, registration, registered, published, -⟩ :=
    (refines.indexed.bindings.destinations _ _ _).mp filed
  exact refines.indexed.bindings.keyed key _ registered identity binding published

/-- The naive table has no binding for a destination without bucket. -/
theorem bindingsFor_eq_nil (absent : shard.destinationIndex.get destination = none) :
    table.bindingsFor destination = [] := by
  rw [List.eq_nil_iff_forall_not_mem]
  intro binding member
  obtain ⟨identity, published⟩ := refines.mem_bindingsFor.mp member
  rw [← refines.indexed.bindings.destinations] at published
  simp [BucketIndex.find, absent] at published

/-! ## Matching answers -/

theorem register (draws : LeaseDraws) (context : RequestContext)
    (generation : ShardDirectoryGeneration) (key : RegistrationKey) (now : Instant) :
    (shard.register draws context generation key now).1 =
        (table.register draws context generation key now).1 ∧
      Refines (shard.register draws context generation key now).2
        (table.register draws context generation key now).2 := by
  have indexed := refines.indexed.register draws context generation key now
  have live := refines.expireDue now
  unfold RouteTableShard.register NaiveTable.register at *
  rw [refines.validateRequest] at *
  cases refused : table.requestError context generation key with
  | some => exact ⟨rfl, refines⟩
  | none =>
    simp only [refused, refusal, live.entries, live.config, live.activeLeaseIds] at indexed ⊢
    cases found : (table.discard now).entries.get key with
    | some => exact ⟨rfl, live⟩
    | none =>
      simp only [found] at indexed ⊢
      cases fits : checkedAdd now (table.discard now).config.leaseTtl with
      | none => exact ⟨rfl, live⟩
      | some =>
        simp only [fits] at indexed ⊢
        refine ⟨trivial, { live with indexed := indexed, entries := ?_ }⟩
        intro other
        change (Table.insert _ _ _).get other = _
        rw [get_insert, get_insert, live.entries]

section

variable (context : RequestContext) (generation : ShardDirectoryGeneration)
  (key : RegistrationKey) (leaseId : LeaseId) (now : Instant)

theorem update (revision : RegistrationRevision) (snapshot : BindingSnapshot) (now : Instant) :
    (shard.update context generation key leaseId revision snapshot now).1 =
        (table.update context generation key leaseId revision snapshot now).1 ∧
      Refines
        (shard.update context generation key leaseId revision snapshot now).2
        (table.update context generation key leaseId revision snapshot now).2 := by
  have indexed := refines.indexed.update context generation key leaseId
    revision snapshot now
  have live := refines.expireDue now
  unfold RouteTableShard.update NaiveTable.update at *
  rw [refines.validateRequest, refines.validateSnapshot, ← refusal_or] at *
  cases refused : (table.requestError context generation key).or
      (table.snapshotError key snapshot) with
  | some error => exact ⟨rfl, refines⟩
  | none =>
    simp only [refused, refusal, live.currentRegistration] at indexed ⊢
    cases current : (table.discard now).current key leaseId with
    | error => exact ⟨rfl, live⟩
    | ok entry =>
      simp only [current] at indexed ⊢
      cases checked : RouteTableShard.checkRevision entry revision
          snapshot with
      | refused error => exact ⟨rfl, live⟩
      | repeated => exact ⟨rfl, live⟩
      | advances =>
        simp only [checked] at indexed ⊢
        cases stable :
            RouteTableShard.validateCurrentBindingIdentityStability entry
              snapshot with
        | error error => exact ⟨rfl, live⟩
        | ok value =>
          simp only [stable] at indexed ⊢
          refine ⟨trivial, { live with indexed := indexed, entries := ?_ }⟩
          intro other
          change (Table.insert _ _ _).get other = _
          rw [get_insert, get_insert, live.entries]

theorem keepAlive :
    (shard.keepAlive context generation key leaseId now).1 =
        (table.keepAlive context generation key leaseId now).1 ∧
      Refines (shard.keepAlive context generation key leaseId now).2
        (table.keepAlive context generation key leaseId now).2 := by
  have indexed := refines.indexed.keepAlive context generation key leaseId now
  have live := refines.expireDue now
  unfold RouteTableShard.keepAlive NaiveTable.keepAlive at *
  rw [refines.validateRequest] at *
  cases refused : table.requestError context generation key with
  | some => exact ⟨rfl, refines⟩
  | none =>
    simp only [refused, refusal, live.currentRegistration, live.config] at indexed ⊢
    cases current : (table.discard now).current key leaseId with
    | error => exact ⟨rfl, live⟩
    | ok =>
      simp only [current] at indexed ⊢
      cases fits : checkedAdd now (table.discard now).config.leaseTtl with
      | none => exact ⟨rfl, live⟩
      | some =>
        simp only [fits] at indexed ⊢
        refine ⟨trivial, { live with indexed := indexed, entries := ?_ }⟩
        intro other
        change (Table.insert _ _ _).get other = _
        rw [get_insert, get_insert, live.entries]

theorem deregister :
    (shard.deregister context generation key leaseId now).1 =
        (table.deregister context generation key leaseId now).1 ∧
      Refines (shard.deregister context generation key leaseId now).2
        (table.deregister context generation key leaseId now).2 := by
  have indexed := refines.indexed.deregister context generation key leaseId now
  have live := refines.expireDue now
  unfold RouteTableShard.deregister NaiveTable.deregister at *
  rw [refines.validateRequest] at *
  cases refused : table.requestError context generation key with
  | some => exact ⟨rfl, refines⟩
  | none =>
    simp only [refused, refusal, live.entries] at indexed ⊢
    cases found : (table.discard now).entries.get key with
    | none => exact ⟨rfl, live⟩
    | some entry =>
      simp only [found] at indexed ⊢
      by_cases same : entry.leaseId = leaseId
      · simp only [same, ne_eq, not_true_eq_false, if_false, if_true] at indexed ⊢
        have stored := (live.entries key).trans found
        have swept := RouteTableShard.swept_removeRegistration stored
          (Nat.le_refl entry.deadline)
        refine ⟨trivial, indexed, swept.directory.trans live.directory,
          swept.shardId.trans live.shardId,
          swept.config.trans live.config, ?_⟩
        intro other
        rw [RouteTableShard.get_removeRegistration, get_remove, live.entries]
      · simp only [same, ne_eq, not_false_eq_true, if_true, if_false]
        exact ⟨trivial, live⟩

/-- Resolution from the destination index is resolution by scanning. -/
theorem resolve (destination : Destination) (now : Instant) :
    Matches (.resolved (shard.resolve generation destination now).1)
        (.resolved (table.resolve generation destination now).1) ∧
      Refines (shard.resolve generation destination now).2
        (table.resolve generation destination now).2 := by
  have live := refines.expireDue now
  unfold RouteTableShard.resolve NaiveTable.resolve
  rw [refines.validateGeneration, refines.validateDestinationAuthority, ← refusal_or]
  cases refused : (table.generationError generation).or
      (table.authorityError destination) with
  | some error => exact ⟨rfl, refines⟩
  | none =>
    simp only [refusal]
    cases stored : (shard.expireDue now).2.destinationIndex.get
        destination with
    | none =>
      simp only [live.bindingsFor_eq_nil stored, if_true]
      exact ⟨rfl, live⟩
    | some bucket =>
      obtain ⟨identity, binding, inBucket⟩ :=
        live.indexed.bindings.occupied destination bucket stored
      have occupied : bucket.isEmpty = false :=
        BucketIndex.isEmpty_eq_false_iff.mpr ⟨identity, binding, inBucket⟩
      have found : (table.discard now).bindingsFor destination ≠ [] := by
        apply List.ne_nil_of_mem
        exact (live.mem_orderedValues_bucket stored binding).mp
          (mem_orderedValues.mpr ⟨identity, inBucket⟩)
      simp only [occupied, Bool.false_eq_true, if_false, found]
      exact ⟨⟨nodup_orderedValues (live.keyed_bucket stored),
        live.mem_orderedValues_bucket stored⟩, live⟩

/-- Both sides expire the same number of registrations. -/
theorem expireDue_count : (shard.expireDue now).1 = (table.expireDue now).1 := by
  have counted := (RouteTableShard.expireDue_spec refines.indexed.bindings
    refines.indexed.expiries now).1.count
  have before := len_congr refines.entries
  have after := len_congr (refines.expireDue now).entries
  have split := len_retain_add_countWhere
    (fun _ entry => decide (now < entry.deadline)) table.entries
  have dropped : (table.entries.countWhere fun _ entry =>
      !decide (now < entry.deadline)) =
        table.entries.countWhere fun _ entry => decide (entry.deadline ≤ now) := by
    simp only [← decide_not, Nat.not_lt]
  simp only [NaiveTable.discard, NaiveTable.expireDue] at *
  omega

end

/-- Every call is answered alike and keeps the relation. -/
theorem answer (call : Call) :
    Matches (shard.answer call).1 (table.answer call).1 ∧
      Refines (shard.answer call).2 (table.answer call).2 := by
  cases call with
  | register draws context generation key now =>
    obtain ⟨same, next⟩ := refines.register draws context generation key now
    exact ⟨congrArg Answer.acknowledged same, next⟩
  | update context generation key leaseId revision snapshot now =>
    obtain ⟨same, next⟩ := refines.update context generation key leaseId
      revision snapshot now
    exact ⟨congrArg Answer.acknowledged same, next⟩
  | keepAlive context generation key leaseId now =>
    obtain ⟨same, next⟩ := refines.keepAlive context generation key leaseId now
    exact ⟨congrArg Answer.acknowledged same, next⟩
  | deregister context generation key leaseId now =>
    obtain ⟨same, next⟩ := refines.deregister context generation key leaseId now
    exact ⟨congrArg Answer.deregistered same, next⟩
  | resolve generation destination now =>
    exact refines.resolve generation destination now
  | expireDue now =>
    exact ⟨congrArg Answer.expired (refines.expireDue_count now), refines.expireDue now⟩

end Refines

/-- For every list of calls the shard gives the answers of the naive table. -/
theorem shard_refines_naive (directory : ShardDirectory) (shardId : ShardId)
    (config : RouteTableConfig) (calls : List Call) :
    List.Forall₂ Matches
      (results RouteTableShard.answer
        (RouteTableShard.empty directory shardId config) calls)
      (results NaiveTable.answer
        (NaiveTable.empty directory shardId config) calls) :=
  results_forall₂ (fun _ _ call refines => refines.answer call) calls
    (Refines.empty directory shardId config)

end RelayGate.RouteTable
