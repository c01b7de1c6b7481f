import RelayGate.RouteTable.Shard

/-!
# The indexes of a shard

The invariant of the redundant indexes, in two halves.  `BindingsIndexed` ties
the destination index, the active leases and the binding counter to the
registrations.  `ExpiriesIndexed` ties the expiry index and its counter to the
registrations; it is parameterised by the records of a bucket that has been
taken out of the index and whose registrations are still waiting to be
removed, which is the state inside the expiry loop.
-/

namespace RelayGate.RouteTable

open Library Table

namespace RouteTableShard

variable {identity : BindingIdentity} {binding : BindingProjection}
  {bindings : BindingMap} {shard : RouteTableShard} {key : RegistrationKey}
  {registration : RegistrationState} {destination : Destination}
  {index : DestinationIndex}

/-- A registration publishes a binding for a destination. -/
def Publishes (shard : RouteTableShard) (destination : Destination)
    (identity : BindingIdentity) (binding : BindingProjection) : Prop :=
  ∃ key registration, shard.registrationIndex.get key = some registration ∧
    registration.bindings.get identity = some binding ∧
    binding.destination = destination

/-- Bindings filed under a key's gateway and session. -/
def OwnedBy (key : RegistrationKey) (bindings : BindingMap) : Prop :=
  ∀ identity binding, bindings.get identity = some binding →
    identity.gatewayId = key.gatewayId ∧
      identity.relaySessionId = key.relaySessionId

/-- The destination index, the active leases and the binding counter agree
with the registrations. -/
structure BindingsIndexed (shard : RouteTableShard) : Prop where
  scope : ∀ key registration,
    shard.registrationIndex.get key = some registration →
      key.shardId = shard.shardId
  keyed : ∀ key registration,
    shard.registrationIndex.get key = some registration →
      Keyed registration.bindings
  owned : ∀ key registration,
    shard.registrationIndex.get key = some registration →
      OwnedBy key registration.bindings
  destinations : ∀ destination identity binding,
    shard.destinationIndex.find destination identity = some binding ↔
      shard.Publishes destination identity binding
  occupied : shard.destinationIndex.NoEmptyBucket
  leases : ∀ leaseId, leaseId ∈ shard.activeLeaseIds ↔
    ∃ key registration, shard.registrationIndex.get key = some registration ∧
      registration.leaseId = leaseId
  distinctLeases : ∀ first second firstRegistration secondRegistration,
    shard.registrationIndex.get first = some firstRegistration →
    shard.registrationIndex.get second = some secondRegistration →
    firstRegistration.leaseId = secondRegistration.leaseId → first = second
  counted : shard.bindingCount.Exact
    (shard.registrationIndex.tally fun _ registration =>
      registration.bindings.len)

/-- The expiry index and its counter agree with the registrations, except for
the `pending` records of the bucket `due`, which the index no longer has. -/
structure ExpiriesIndexed (pending : List ExpiryKey) (due : Instant)
    (shard : RouteTableShard) : Prop where
  records : ∀ deadline record,
    (shard.expiryIndex.find deadline record = some () ∨
        (deadline = due ∧ record ∈ pending)) ↔
      ∃ registration,
        shard.registrationIndex.get record.registrationKey = some registration ∧
          registration.leaseId = record.leaseId ∧
          registration.deadline = deadline
  taken : pending ≠ [] → shard.expiryIndex.get due = none
  distinct : pending.Nodup
  occupied : shard.expiryIndex.NoEmptyBucket
  counted : shard.expiryRecordCount.Exact shard.expiryIndex.size

/-! ## Filing and removing the bindings of a map -/

theorem find_foldl_put_of_mem (entries : List (BindingIdentity × BindingProjection))
    (distinct : (entries.map Prod.fst).Nodup) (index : DestinationIndex)
    (member : (identity, binding) ∈ entries) :
    (entries.foldl (fun index entry =>
      index.put entry.2.destination entry.1 entry.2) index).find
        binding.destination identity = some binding := by
  induction entries using List.reverseRecOn with
  | nil => cases member
  | append_singleton entries last ih =>
    rw [List.foldl_append, List.foldl_cons, List.foldl_nil, BucketIndex.find_put]
    rw [List.map_append, List.nodup_append] at distinct
    rcases List.mem_append.mp member with earlier | final
    · have different : identity ≠ last.1 := by
        intro equal
        exact distinct.2.2 identity (List.mem_map_of_mem earlier) last.1
          (by simp) equal
      rw [if_neg (fun same => different same.2)]
      exact ih distinct.1 earlier
    · cases List.mem_singleton.mp final
      rw [if_pos ⟨rfl, rfl⟩]

theorem find_foldl_put_of_forall_ne (entries : List (BindingIdentity × BindingProjection))
    (index : DestinationIndex)
    (absent : ∀ binding, (identity, binding) ∈ entries → binding.destination ≠ destination) :
    (entries.foldl (fun index entry =>
      index.put entry.2.destination entry.1 entry.2) index).find
        destination identity = index.find destination identity := by
  induction entries generalizing index with
  | nil => rfl
  | cons entry entries ih =>
    rw [List.foldl_cons, ih]
    · rw [BucketIndex.find_put, if_neg]
      rintro ⟨sameDestination, sameIdentity⟩
      exact absent entry.2 (by simp [sameIdentity]) sameDestination.symm
    · intro binding member
      exact absent binding (List.mem_cons_of_mem _ member)

theorem find_insertBindings_of_mem (index : DestinationIndex)
    (found : bindings.get identity = some binding) :
    (insertBindings index bindings).find binding.destination identity = some binding :=
  find_foldl_put_of_mem bindings.toList bindings.nodup_keys index
    (mem_toList.mpr found)

theorem find_insertBindings_of_ne (index : DestinationIndex)
    (absent : ∀ binding, bindings.get identity = some binding →
      binding.destination ≠ destination) :
    (insertBindings index bindings).find destination identity =
      index.find destination identity := by
  apply find_foldl_put_of_forall_ne
  intro binding member
  exact absent binding (mem_toList.mp member)

theorem find_foldl_drop_iff (entries : List (BindingIdentity × BindingProjection))
    (index : DestinationIndex) (destination : Destination)
    (identity : BindingIdentity) (value : BindingProjection) :
    (entries.foldl (fun index entry =>
      index.drop entry.2.destination entry.1) index).find destination identity = some value ↔
      index.find destination identity = some value ∧
        ∀ binding, (identity, binding) ∈ entries → binding.destination ≠ destination := by
  induction entries generalizing index with
  | nil => simp
  | cons entry entries ih =>
    rw [List.foldl_cons, ih, BucketIndex.find_drop]
    obtain ⟨first, dropped⟩ := entry
    constructor
    · rintro ⟨found, later⟩
      split at found
      · cases found
      · rename_i elsewhere
        refine ⟨found, ?_⟩
        intro binding member same
        rcases List.mem_cons.mp member with head | tail
        · cases head
          exact elsewhere ⟨same.symm, rfl⟩
        · exact later binding tail same
    · rintro ⟨found, absent⟩
      refine ⟨?_, fun binding member =>
        absent binding (List.mem_cons_of_mem _ member)⟩
      rw [if_neg, found]
      rintro ⟨sameDestination, sameIdentity⟩
      exact absent dropped (by simp [sameIdentity]) sameDestination.symm

theorem find_removeBindings_iff (index : DestinationIndex)
    (bindings : BindingMap) (destination : Destination)
    (identity : BindingIdentity) (value : BindingProjection) :
    (removeBindings index bindings).find destination identity = some value ↔
      index.find destination identity = some value ∧
        ∀ binding, bindings.get identity = some binding → binding.destination ≠ destination := by
  unfold removeBindings
  rw [find_foldl_drop_iff]
  simp only [mem_toList]

theorem noEmptyBucket_insertBindings (occupied : index.NoEmptyBucket) (bindings : BindingMap) :
    (insertBindings index bindings).NoEmptyBucket := by
  unfold insertBindings
  induction bindings.toList generalizing index with
  | nil => exact occupied
  | cons entry entries ih => exact ih (occupied.put _ _ _)

theorem noEmptyBucket_removeBindings (occupied : index.NoEmptyBucket) (bindings : BindingMap) :
    (removeBindings index bindings).NoEmptyBucket := by
  unfold removeBindings
  induction bindings.toList generalizing index with
  | nil => exact occupied
  | cons entry entries ih => exact ih (occupied.drop _ _)

theorem find_insertBindings_iff (index : DestinationIndex)
    (bindings : BindingMap) (destination : Destination)
    (identity : BindingIdentity) (value : BindingProjection) :
    (insertBindings index bindings).find destination identity = some value ↔
      (bindings.get identity = some value ∧ value.destination = destination) ∨
        (index.find destination identity = some value ∧
          ∀ binding, bindings.get identity = some binding →
            binding.destination ≠ destination) := by
  by_cases here : ∃ binding, bindings.get identity = some binding ∧
      binding.destination = destination
  · obtain ⟨binding, found, rfl⟩ := here
    rw [find_insertBindings_of_mem index found]
    constructor
    · intro equal
      cases equal
      exact Or.inl ⟨found, rfl⟩
    · rintro (⟨other, -⟩ | ⟨-, absent⟩)
      · rw [← found, other]
      · exact absurd rfl (absent binding found)
  · have absent : ∀ binding, bindings.get identity = some binding →
        binding.destination ≠ destination :=
      fun binding found same => here ⟨binding, found, same⟩
    rw [find_insertBindings_of_ne index absent]
    constructor
    · intro found
      exact Or.inr ⟨found, absent⟩
    · rintro (⟨found, same⟩ | ⟨found, -⟩)
      · exact absurd same (absent value found)
      · exact found

/-! ## The bindings half -/

/-- Keys of one shard that own a common identity are equal. -/
theorem key_eq_of_owned {first second : RegistrationKey}
    {firstBindings secondBindings : BindingMap} (firstOwned : OwnedBy first firstBindings)
    (secondOwned : OwnedBy second secondBindings)
    (sameShard : first.shardId = second.shardId) {other : BindingProjection}
    (inFirst : firstBindings.get identity = some binding)
    (inSecond : secondBindings.get identity = some other) : first = second := by
  obtain ⟨firstGateway, firstSession⟩ := firstOwned identity binding inFirst
  obtain ⟨secondGateway, secondSession⟩ := secondOwned identity other inSecond
  cases first
  cases second
  simp_all

/-- Bindings owned by a key share no identity with another registration. -/
theorem BindingsIndexed.key_eq (indexed : shard.BindingsIndexed) {other : RegistrationKey}
    {otherRegistration : RegistrationState}
    (found : shard.registrationIndex.get key = some registration)
    (otherFound : shard.registrationIndex.get other = some otherRegistration)
    (owned : OwnedBy key bindings) {published : BindingProjection}
    (inKey : bindings.get identity = some binding)
    (inOther : otherRegistration.bindings.get identity = some published) : other = key :=
  key_eq_of_owned (indexed.owned other _ otherFound) owned
    ((indexed.scope other _ otherFound).trans (indexed.scope key _ found).symm) inOther inKey

/-- What the other registrations publish when one registration's bindings are
taken out of the destination index. -/
theorem BindingsIndexed.find_without (indexed : shard.BindingsIndexed)
    (found : shard.registrationIndex.get key = some registration)
    (destination : Destination) (identity : BindingIdentity) (binding : BindingProjection) :
    (removeBindings shard.destinationIndex registration.bindings).find
        destination identity = some binding ↔
      ∃ other otherRegistration, other ≠ key ∧
        shard.registrationIndex.get other = some otherRegistration ∧
        otherRegistration.bindings.get identity = some binding ∧
        binding.destination = destination := by
  rw [find_removeBindings_iff, indexed.destinations]
  constructor
  · rintro ⟨⟨other, otherRegistration, otherFound, published, same⟩, absent⟩
    refine ⟨other, otherRegistration, ?_, otherFound, published, same⟩
    rintro rfl
    rw [found] at otherFound
    cases otherFound
    exact absent binding published same
  · rintro ⟨other, otherRegistration, different, otherFound, published, same⟩
    refine ⟨⟨other, otherRegistration, otherFound, published, same⟩, ?_⟩
    intro own inKey
    exact absurd (indexed.key_eq found otherFound (indexed.owned key _ found)
      inKey published) different

theorem bindingsIndexed_empty (directory : ShardDirectory) (shardId : ShardId)
    (config : RouteTableConfig) : (empty directory shardId config).BindingsIndexed where
  scope _ _ found := by cases found
  keyed _ _ found := by cases found
  owned _ _ found := by cases found
  destinations destination identity binding := by
    constructor
    · intro found
      cases found
    · rintro ⟨key, registration, found, -⟩
      cases found
  occupied := BucketIndex.noEmptyBucket_empty
  leases leaseId := by
    constructor
    · intro member
      exact absurd member (Finset.notMem_empty leaseId)
    · rintro ⟨key, registration, found, -⟩
      cases found
  distinctLeases _ _ _ _ found := by cases found
  counted := Counter.exact_zero

variable (indexed : shard.BindingsIndexed)
include indexed

theorem BindingsIndexed.removeRegistration (key : RegistrationKey) :
    (shard.removeRegistration key).BindingsIndexed := by
  unfold RouteTableShard.removeRegistration
  cases found : shard.registrationIndex.get key with
  | none => exact indexed
  | some registration =>
    constructor
    · intro other otherRegistration kept
      exact indexed.scope other _ (get_remove_eq_some_iff.mp kept).2
    · intro other otherRegistration kept
      exact indexed.keyed other _ (get_remove_eq_some_iff.mp kept).2
    · intro other otherRegistration kept
      exact indexed.owned other _ (get_remove_eq_some_iff.mp kept).2
    · intro destination identity binding
      refine (indexed.find_without found destination identity binding).trans ?_
      constructor
      · rintro ⟨other, otherRegistration, different, kept, published⟩
        exact ⟨other, otherRegistration, get_remove_eq_some_iff.mpr ⟨different, kept⟩, published⟩
      · rintro ⟨other, otherRegistration, kept, published⟩
        obtain ⟨different, kept⟩ := get_remove_eq_some_iff.mp kept
        exact ⟨other, otherRegistration, different, kept, published⟩
    · exact noEmptyBucket_removeBindings indexed.occupied _
    · intro leaseId
      change leaseId ∈ shard.activeLeaseIds.erase registration.leaseId ↔ _
      rw [Finset.mem_erase, indexed.leases]
      constructor
      · rintro ⟨different, other, otherRegistration, kept, rfl⟩
        refine ⟨other, otherRegistration, get_remove_eq_some_iff.mpr ⟨?_, kept⟩, rfl⟩
        rintro rfl
        rw [found] at kept
        cases kept
        exact different rfl
      · rintro ⟨other, otherRegistration, kept, rfl⟩
        obtain ⟨different, kept⟩ := get_remove_eq_some_iff.mp kept
        refine ⟨fun same => different ?_, other, otherRegistration, kept, rfl⟩
        exact indexed.distinctLeases other key _ _ kept found same
    · intro first second firstRegistration secondRegistration firstKept
        secondKept
      exact indexed.distinctLeases first second _ _
        (get_remove_eq_some_iff.mp firstKept).2 (get_remove_eq_some_iff.mp secondKept).2
    · exact indexed.counted.sub
        (tally_remove_of_some found fun _ registration =>
          registration.bindings.len)

/-- Filing a registration without bindings under a free key and a fresh lease. -/
theorem BindingsIndexed.fileRegistration {leaseId : LeaseId} (deadline : Instant)
    (scope : key.shardId = shard.shardId) (free : shard.registrationIndex.get key = none)
    (fresh : leaseId ∉ shard.activeLeaseIds) :
    (shard.fileRegistration key leaseId deadline).BindingsIndexed := by
  have unused : ∀ other registration,
      shard.registrationIndex.get other = some registration → registration.leaseId ≠ leaseId :=
    fun other registration found same =>
      fresh ((indexed.leases leaseId).mpr ⟨other, registration, found, same⟩)
  constructor
  · intro other registration found
    rcases get_insert_eq_some_iff.mp found with ⟨rfl, rfl⟩ | ⟨-, found⟩
    · exact scope
    · exact indexed.scope other _ found
  · intro other registration found
    rcases get_insert_eq_some_iff.mp found with ⟨rfl, rfl⟩ | ⟨-, found⟩
    · exact keyed_empty
    · exact indexed.keyed other _ found
  · intro other registration found
    rcases get_insert_eq_some_iff.mp found with ⟨rfl, rfl⟩ | ⟨-, found⟩
    · intro identity binding absent
      cases absent
    · exact indexed.owned other _ found
  · intro destination identity binding
    refine (indexed.destinations destination identity binding).trans ?_
    constructor
    · rintro ⟨other, registration, found, published⟩
      refine ⟨other, registration, get_insert_eq_some_iff.mpr (Or.inr ⟨?_, found⟩), published⟩
      rintro rfl
      rw [free] at found
      cases found
    · rintro ⟨other, registration, found, published, same⟩
      rcases get_insert_eq_some_iff.mp found with ⟨rfl, rfl⟩ | ⟨-, found⟩
      · cases published
      · exact ⟨other, registration, found, published, same⟩
  · exact indexed.occupied
  · intro other
    change other ∈ insert leaseId shard.activeLeaseIds ↔ _
    rw [Finset.mem_insert, indexed.leases]
    constructor
    · rintro (rfl | ⟨holder, registration, found, rfl⟩)
      · exact ⟨key, _, get_insert_eq_some_iff.mpr (Or.inl ⟨rfl, rfl⟩), rfl⟩
      · refine ⟨holder, registration, get_insert_eq_some_iff.mpr (Or.inr ⟨?_, found⟩), rfl⟩
        rintro rfl
        rw [free] at found
        cases found
    · rintro ⟨holder, registration, found, rfl⟩
      rcases get_insert_eq_some_iff.mp found with ⟨rfl, rfl⟩ | ⟨-, found⟩
      · exact Or.inl rfl
      · exact Or.inr ⟨holder, registration, found, rfl⟩
  · intro first second firstRegistration secondRegistration firstFound
      secondFound same
    rcases get_insert_eq_some_iff.mp firstFound with ⟨rfl, rfl⟩ | ⟨-, firstKept⟩
    · rcases get_insert_eq_some_iff.mp secondFound with ⟨rfl, rfl⟩ | ⟨-, secondKept⟩
      · rfl
      · exact absurd same.symm (unused second _ secondKept)
    · rcases get_insert_eq_some_iff.mp secondFound with ⟨rfl, rfl⟩ | ⟨-, secondKept⟩
      · exact absurd same (unused first _ firstKept)
      · exact indexed.distinctLeases first second _ _ firstKept secondKept same
  · have grown := tally_insert_of_none
      (⟨leaseId, none, deadline, ∅⟩ : RegistrationState) free
      fun _ registration => registration.bindings.len
    exact indexed.counted.of_eq (grown.trans (Nat.add_zero _)).symm

/-- Replacing the bindings of a registration by others of the same key. -/
theorem BindingsIndexed.replaceBindings (revision : RegistrationRevision)
    (found : shard.registrationIndex.get key = some registration)
    (keyed : Keyed bindings) (owned : OwnedBy key bindings) :
    (shard.replaceBindings key registration revision bindings).BindingsIndexed := by
  have scope := indexed.scope key _ found
  constructor
  · intro other replaced stored
    rcases get_insert_eq_some_iff.mp stored with ⟨rfl, rfl⟩ | ⟨-, kept⟩
    · exact scope
    · exact indexed.scope other _ kept
  · intro other replaced stored
    rcases get_insert_eq_some_iff.mp stored with ⟨rfl, rfl⟩ | ⟨-, kept⟩
    · exact keyed
    · exact indexed.keyed other _ kept
  · intro other replaced stored
    rcases get_insert_eq_some_iff.mp stored with ⟨rfl, rfl⟩ | ⟨-, kept⟩
    · exact owned
    · exact indexed.owned other _ kept
  · intro destination identity binding
    refine (find_insertBindings_iff _ _ destination identity binding).trans ?_
    rw [indexed.find_without found]
    constructor
    · rintro (⟨inNew, same⟩ | ⟨⟨other, kept, different, stored, rest⟩, -⟩)
      · exact ⟨key, _, get_insert_eq_some_iff.mpr (Or.inl ⟨rfl, rfl⟩), inNew, same⟩
      · exact ⟨other, kept, get_insert_eq_some_iff.mpr (Or.inr ⟨different, stored⟩), rest⟩
    · rintro ⟨other, kept, stored, published, same⟩
      rcases get_insert_eq_some_iff.mp stored with
        ⟨rfl, rfl⟩ | ⟨different, stored⟩
      · exact Or.inl ⟨published, same⟩
      · refine Or.inr ⟨⟨other, kept, different, stored, published, same⟩, ?_⟩
        intro own inNew
        exact absurd (indexed.key_eq found stored owned inNew published) different
  · exact noEmptyBucket_insertBindings
      (noEmptyBucket_removeBindings indexed.occupied _) _
  · intro leaseId
    refine (indexed.leases leaseId).trans ?_
    constructor
    · rintro ⟨holder, kept, stored, rfl⟩
      by_cases same : holder = key
      · subst holder
        rw [found] at stored
        cases stored
        exact ⟨key, _, get_insert_eq_some_iff.mpr (Or.inl ⟨rfl, rfl⟩), rfl⟩
      · exact ⟨holder, kept, get_insert_eq_some_iff.mpr (Or.inr ⟨same, stored⟩), rfl⟩
    · rintro ⟨holder, kept, stored, rfl⟩
      rcases get_insert_eq_some_iff.mp stored with ⟨rfl, rfl⟩ | ⟨-, stored⟩
      · exact ⟨holder, registration, found, rfl⟩
      · exact ⟨holder, kept, stored, rfl⟩
  · intro first second firstKept secondKept firstStored secondStored same
    rcases get_insert_eq_some_iff.mp firstStored with
      ⟨rfl, rfl⟩ | ⟨-, firstFound⟩
    · rcases get_insert_eq_some_iff.mp secondStored with
        ⟨rfl, rfl⟩ | ⟨-, secondFound⟩
      · rfl
      · exact indexed.distinctLeases first second _ _ found secondFound same
    · rcases get_insert_eq_some_iff.mp secondStored with
        ⟨rfl, rfl⟩ | ⟨-, secondFound⟩
      · exact indexed.distinctLeases first second _ _ firstFound found same
      · exact indexed.distinctLeases first second _ _ firstFound secondFound same
  · have exchanged := tally_insert_of_some
      { registration with bindings := bindings, revision := some revision }
      found fun _ registration => registration.bindings.len
    have covered := weight_le_tally found fun _ registration =>
      registration.bindings.len
    refine ((indexed.counted.sub (Nat.sub_add_cancel covered)).add bindings.len).of_eq ?_
    simp only [RouteTableShard.replaceBindings] at exchanged ⊢
    omega

/-- The bindings half reads only the lease and the bindings of a registration,
so moving a deadline keeps it. -/
theorem BindingsIndexed.moveDeadline (deadline : Instant)
    (found : shard.registrationIndex.get key = some registration) :
    (shard.moveDeadline key registration deadline).BindingsIndexed := by
  have forward : ∀ other moved,
      (shard.registrationIndex.insert key
          { registration with deadline := deadline }).get other = some moved →
        ∃ kept, shard.registrationIndex.get other = some kept ∧
          kept.leaseId = moved.leaseId ∧ kept.bindings = moved.bindings := by
    intro other moved stored
    rcases get_insert_eq_some_iff.mp stored with ⟨rfl, rfl⟩ | ⟨-, kept⟩
    · exact ⟨registration, found, rfl, rfl⟩
    · exact ⟨moved, kept, rfl, rfl⟩
  have backward : ∀ other kept,
      shard.registrationIndex.get other = some kept →
        ∃ moved, (shard.registrationIndex.insert key
            { registration with deadline := deadline }).get other = some moved ∧
          kept.leaseId = moved.leaseId ∧ kept.bindings = moved.bindings := by
    intro other kept stored
    by_cases same : other = key
    · subst other
      rw [found] at stored
      cases stored
      exact ⟨_, get_insert_self _ _ _, rfl, rfl⟩
    · exact ⟨kept, (get_insert_of_ne _ _ same).trans stored, rfl, rfl⟩
  constructor
  · intro other moved stored
    obtain ⟨kept, old, -, -⟩ := forward other moved stored
    exact indexed.scope other kept old
  · intro other moved stored
    obtain ⟨kept, old, -, sameBindings⟩ := forward other moved stored
    exact sameBindings ▸ indexed.keyed other kept old
  · intro other moved stored
    obtain ⟨kept, old, -, sameBindings⟩ := forward other moved stored
    exact sameBindings ▸ indexed.owned other kept old
  · intro destination identity binding
    refine (indexed.destinations destination identity binding).trans ?_
    constructor
    · rintro ⟨other, kept, old, published, same⟩
      obtain ⟨moved, stored, -, sameBindings⟩ := backward other kept old
      exact ⟨other, moved, stored, sameBindings ▸ published, same⟩
    · rintro ⟨other, moved, stored, published, same⟩
      obtain ⟨kept, old, -, sameBindings⟩ := forward other moved stored
      exact ⟨other, kept, old, sameBindings ▸ published, same⟩
  · exact indexed.occupied
  · intro leaseId
    refine (indexed.leases leaseId).trans ?_
    constructor
    · rintro ⟨other, kept, old, rfl⟩
      obtain ⟨moved, stored, sameLease, -⟩ := backward other kept old
      exact ⟨other, moved, stored, sameLease.symm⟩
    · rintro ⟨other, moved, stored, rfl⟩
      obtain ⟨kept, old, sameLease, -⟩ := forward other moved stored
      exact ⟨other, kept, old, sameLease⟩
  · intro first second firstMoved secondMoved firstStored secondStored same
    obtain ⟨firstKept, firstOld, firstLease, -⟩ := forward first firstMoved firstStored
    obtain ⟨secondKept, secondOld, secondLease, -⟩ := forward second secondMoved secondStored
    exact indexed.distinctLeases first second _ _ firstOld secondOld
      (firstLease.trans (same.trans secondLease.symm))
  · have exchanged := tally_insert_of_some
      { registration with deadline := deadline } found
      fun _ registration => registration.bindings.len
    exact indexed.counted.of_eq (Nat.add_right_cancel exchanged).symm

theorem BindingsIndexed.popBucket (deadline : Instant) (candidates : Table ExpiryKey Unit) :
    (shard.popBucket deadline candidates).BindingsIndexed :=
  { indexed with }

end RouteTableShard

end RelayGate.RouteTable
