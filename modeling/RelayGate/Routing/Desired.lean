import RelayGate.Library.Loops
import RelayGate.Routing.Projection
import RelayGate.Routing.Replies

/-!
# Following the desired state

The store of what every shard should be told about every session, and the workers
that follow it.  A commit writes the store under the next version; a worker takes
the changes and removals since the version it has observed and publishes them to
its registrations.  The purpose of the two is a plain map with the last value
committed for each shard and session, and right after a worker has looked, its
registrations are that map.
-/

namespace RelayGate.Routing

open Library Table
open RouteTable
open RegistrationState (Settles settles_completed)

variable {other : RelaySessionId}

/-! ## The store -/

structure DesiredShardEntry where
  version : Nat
  snapshot : BindingSnapshot

/-- What a shard should be told, and the sessions removed from it since its worker
last looked. -/
structure DesiredShard where
  sessions : Table RelaySessionId DesiredShardEntry
  removed : Table RelaySessionId Nat

def DesiredShard.empty : DesiredShard := ⟨∅, ∅⟩

structure DesiredStore where
  version : Nat
  byShard : Table ShardId DesiredShard

/-- One projected shard of a commit. -/
def DesiredShard.note (shard : DesiredShard) (sessionId : RelaySessionId)
    (version : Nat) : Option BindingSnapshot → DesiredShard
  | some snapshot =>
      { removed := shard.removed.remove sessionId
        sessions := shard.sessions.insert sessionId ⟨version, snapshot⟩ }
  | none =>
      if (shard.sessions.get sessionId).isSome then
        { sessions := shard.sessions.remove sessionId
          removed := shard.removed.insert sessionId version }
      else
        shard

namespace DesiredStore

/-- What the store holds for a shard. -/
def shard (store : DesiredStore) (shardId : ShardId) : DesiredShard :=
  (store.byShard.get shardId).getD DesiredShard.empty

def note (sessionId : RelaySessionId) (version : Nat) (store : DesiredStore)
    (projected : ProjectedShardSnapshot) : DesiredStore :=
  { store with
    byShard := store.byShard.insert projected.shardId
      ((store.shard projected.shardId).note sessionId version
        projected.snapshot) }

def commit (store : DesiredStore) (sessionId : RelaySessionId)
    (projected : List ProjectedShardSnapshot) :
    Except String Nat × DesiredStore :=
  match checkedSucc store.version with
  | none => (.error "routing desired version exhausted", store)
  | some version =>
      (.ok version,
        projected.foldl (note sessionId version)
          { store with version := version })

/-- The entries of a shard that are newer than an observed version. -/
def changedAfter (shard : DesiredShard) (observedVersion : Nat) :
    List (RelaySessionId × Nat × BindingSnapshot) :=
  (shard.sessions.toList.filter fun entry => observedVersion < entry.2.version).map
    fun entry => (entry.1, entry.2.version, entry.2.snapshot)

/-- The version of the store and what changed after `observedVersion`; the removals
handed out are dropped from the store. -/
def shardViewAfter (store : DesiredStore) (shardId : ShardId)
    (observedVersion : Nat) : Option (Nat × ShardDesiredView) × DesiredStore :=
  if store.version ≤ observedVersion then
    (none, store)
  else
    match store.byShard.get shardId with
    | none => (some (store.version, ⟨[], []⟩), store)
    | some shard =>
        (some (store.version,
            ⟨changedAfter shard observedVersion, shard.removed.toList⟩),
          { store with
            byShard := store.byShard.insert shardId { shard with removed := ∅ } })

end DesiredStore

/-! ## Workers that follow the store -/

/-- A change or a removal handed to a worker. -/
structure Handout where
  sessionId : RelaySessionId
  version : Nat
  snapshot : Option BindingSnapshot

/-- A worker with the version it has observed and everything handed to it. -/
structure Follower where
  worker : ShardWorker
  observedVersion : Nat
  handed : List Handout

def ShardDesiredView.handouts (view : ShardDesiredView) : List Handout :=
  (view.changed.map fun change => ⟨change.1, change.2.1, some change.2.2⟩) ++
    view.removed.map fun removal => ⟨removal.1, removal.2, none⟩

/-- `reconcile_desired` with the view it was given. -/
def Follower.reconcile (follower : Follower) (version : Nat)
    (view : ShardDesiredView) (now : Instant) : Follower where
  worker := follower.worker.reconcile view now
  observedVersion := version
  handed := follower.handed ++ view.handouts

/-- The store and the single worker of every shard. -/
structure Fleet where
  store : DesiredStore
  follower : ShardId → Follower

inductive FleetEvent
  | commit (sessionId : RelaySessionId) (projected : List ProjectedShardSnapshot)
  | reconcile (shardId : ShardId) (now : Instant)
  | prune (shardId : ShardId)
  | prepare (shardId : ShardId) (now : Instant)
  | connected (shardId : ShardId) (result : Except TransportError Unit)
  | clientFailure (shardId : ShardId) (epoch : Nat) (error : TransportError)
      (now : Instant)
  | completion (shardId : ShardId) (completion : OperationCompletion)
      (now : Instant)

namespace Fleet

/-- No commit yet, and workers that have not looked. -/
def initial (generation : ShardDirectoryGeneration) (gatewayId : GatewayId)
    (reconnectInitial reconnectMax : Duration) : Fleet where
  store := ⟨0, ∅⟩
  follower shardId :=
    ⟨ShardWorker.new shardId generation gatewayId reconnectInitial reconnectMax,
      0, []⟩

/-- The worker of a shard does something by itself. -/
def work (fleet : Fleet) (shardId : ShardId)
    (step : ShardWorker → ShardWorker) : Fleet :=
  { fleet with
    follower := Function.update fleet.follower shardId
      { fleet.follower shardId with
        worker := step (fleet.follower shardId).worker } }

def apply (fleet : Fleet) : FleetEvent → Fleet
  | .commit sessionId projected =>
      { fleet with store := (fleet.store.commit sessionId projected).2 }
  | .reconcile shardId now =>
      match fleet.store.shardViewAfter shardId
          (fleet.follower shardId).observedVersion with
      | (none, store) => { fleet with store := store }
      | (some (version, view), store) =>
          { store := store
            follower := Function.update fleet.follower shardId
              ((fleet.follower shardId).reconcile version view now) }
  | .prune shardId => fleet.work shardId ShardWorker.prune
  | .prepare shardId now =>
      fleet.work shardId fun worker => (worker.prepareRegistrations now).2
  | .connected shardId result =>
      fleet.work shardId fun worker => (worker.onConnectResult result).2
  | .clientFailure shardId epoch error now =>
      fleet.work shardId fun worker => worker.onClientFailure epoch error now
  | .completion shardId completion now =>
      fleet.work shardId fun worker => worker.onOperationCompletion completion now

/-- Commits and steps of the workers interleave freely. -/
def Step (fleet : Fleet) (event : FleetEvent) (target : Fleet) : Prop :=
  target = fleet.apply event

end Fleet

/-! ## The plain map -/

/-- The last value committed for each shard and session, with its version; `none`
inside is a removal. -/
structure Latest where
  version : Nat
  value : ShardId → RelaySessionId → Option (Nat × Option BindingSnapshot)

namespace Latest

def initial : Latest := ⟨0, fun _ _ => none⟩

def note (sessionId : RelaySessionId) (version : Nat) (latest : Latest)
    (projected : ProjectedShardSnapshot) : Latest :=
  { latest with
    value := fun shardId other =>
      if shardId = projected.shardId ∧ other = sessionId then
        some (version, projected.snapshot)
      else
        latest.value shardId other }

/-- A commit gives its version to everything it names; an exhausted version refuses
the commit. -/
def commit (latest : Latest) (sessionId : RelaySessionId)
    (projected : List ProjectedShardSnapshot) : Latest :=
  match checkedSucc latest.version with
  | none => latest
  | some version =>
      projected.foldl (note sessionId version) { latest with version := version }

/-- Only commits change what is desired. -/
def apply (latest : Latest) : FleetEvent → Latest
  | .commit sessionId projected => latest.commit sessionId projected
  | _ => latest

/-- The map after a list of events. -/
def after (events : List FleetEvent) : Latest :=
  events.foldl apply initial

/-- The version and the snapshot that a registration should carry. -/
def desired (latest : Latest) (shardId : ShardId) (sessionId : RelaySessionId) :
    Option (Nat × BindingSnapshot) :=
  (latest.value shardId sessionId).bind fun value =>
    value.2.map fun snapshot => (value.1, snapshot)

end Latest

/-- The version and the snapshot that a registration carries; `none` for a session
without a registration and for a registration without a snapshot. -/
def Registrations.carried (registrations : Registrations)
    (sessionId : RelaySessionId) : Option (Nat × BindingSnapshot) :=
  (registrations.get sessionId).bind fun state =>
    state.snapshot.map fun snapshot => (state.desiredVersion, snapshot)

/-! ## What the worker's own steps keep -/

/-- The registrations carry what they carried, and none is new. -/
structure SameDesire (before after : Registrations) : Prop where
  carried : ∀ sessionId, after.carried sessionId = before.carried sessionId
  version : ∀ sessionId state, after.get sessionId = some state →
    ∃ old, before.get sessionId = some old ∧
      state.desiredVersion = old.desiredVersion

namespace SameDesire

variable {first second third : Registrations}

theorem refl (registrations : Registrations) : SameDesire registrations registrations :=
  ⟨fun _ => rfl, fun _ state found => ⟨state, found, rfl⟩⟩

theorem trans (one : SameDesire first second) (other : SameDesire second third) :
    SameDesire first third := by
  refine ⟨fun sessionId => (other.carried sessionId).trans (one.carried sessionId), ?_⟩
  intro sessionId state found
  obtain ⟨middle, before, same⟩ := other.version sessionId state found
  obtain ⟨old, origin, equal⟩ := one.version sessionId middle before
  exact ⟨old, origin, same.trans equal⟩

/-- Each registration is left as far as its desire goes, or pruned without a
snapshot. -/
theorem of_entries
    (entries : ∀ sessionId,
      (∃ old state, first.get sessionId = some old ∧
        second.get sessionId = some state ∧
        state.desiredVersion = old.desiredVersion ∧
        state.snapshot = old.snapshot) ∨
      (second.get sessionId = none ∧
        ∀ old, first.get sessionId = some old → old.snapshot = none)) :
    SameDesire first second := by
  constructor
  · intro sessionId
    unfold Registrations.carried
    rcases entries sessionId with ⟨old, state, before, after, version, snapshot⟩ |
      ⟨gone, undesired⟩
    · simp [before, after, version, snapshot]
    · cases before : first.get sessionId with
      | none => simp [gone]
      | some old => simp [gone, undesired old before]
  · intro sessionId state found
    rcases entries sessionId with ⟨old, other, before, after, version, -⟩ | ⟨gone, -⟩
    · rw [after] at found
      cases found
      exact ⟨old, before, version⟩
    · rw [gone] at found
      cases found

theorem mapValues (registrations : Registrations)
    {transition : RegistrationState → RegistrationState}
    (settles : ∀ state, Settles state (transition state)) :
    SameDesire registrations (registrations.mapValues transition) := by
  apply of_entries
  intro sessionId
  cases before : registrations.get sessionId with
  | none => exact Or.inr ⟨by simp [get_mapValues, before], fun _ found => by cases found⟩
  | some old =>
    exact Or.inl ⟨old, transition old, rfl, by simp [get_mapValues, before],
      (settles old).version, (settles old).snapshot⟩

theorem insert {registrations : Registrations} {sessionId : RelaySessionId}
    {old state : RegistrationState} (before : registrations.get sessionId = some old)
    (settles : Settles old state) :
    SameDesire registrations (registrations.insert sessionId state) := by
  apply of_entries
  intro other
  rw [get_insert]
  split
  · rename_i same
    subst same
    exact Or.inl ⟨old, state, before, rfl, settles.version, settles.snapshot⟩
  · cases found : registrations.get other with
    | none => exact Or.inr ⟨rfl, fun _ found => by cases found⟩
    | some entry => exact Or.inl ⟨entry, entry, rfl, rfl, rfl, rfl⟩

end SameDesire

namespace ShardWorker

variable (worker : ShardWorker)

theorem sameDesire_prune : SameDesire worker.registrations worker.prune.registrations := by
  apply SameDesire.of_entries
  intro sessionId
  unfold prune
  rw [get_retain]
  cases found : worker.registrations.get sessionId with
  | none => exact Or.inr ⟨rfl, fun _ found => by cases found⟩
  | some state =>
    by_cases removable : state.isRemovable = true
    · refine Or.inr ⟨by simp [removable], ?_⟩
      rintro old ⟨⟩
      simp only [RegistrationState.isRemovable, Bool.and_eq_true,
        Option.isNone_iff_eq_none] at removable
      exact removable.1.1
    · exact Or.inl ⟨state, state, rfl, by simp [removable], rfl, rfl⟩

theorem sameDesire_markAllTerminal (registrations : Registrations) :
    SameDesire registrations (markAllTerminal registrations) :=
  SameDesire.mapValues _ fun state => (state.yields_markTerminal).settles

theorem sameDesire_connectionLost (now : Instant) :
    SameDesire worker.registrations (worker.connectionLost now).registrations :=
  SameDesire.mapValues _ fun state => (state.yields_connectionLost now).settles

/-- A visit leaves the desire of the registration it visits. -/
theorem sameDesire_pass (registrations : Registrations) (now : Instant) :
    SameDesire registrations
      ((orderedRegistrations registrations).foldl (visitRegistration now)
        ⟨registrations, ⟨none, none, RegistrationCounts.zero⟩, none⟩).registrations := by
  have perm : (orderedRegistrations registrations).Perm registrations.toList :=
    List.perm_insertionSort _ _
  have distinct := (perm.map Prod.fst).nodup_iff.mpr registrations.nodup_keys
  obtain ⟨apart, visited⟩ := foldl_local Prod.fst
    (fun progress => progress.registrations.get)
    (fun progress entry _ => get_visitRegistration_of_ne now progress entry)
    (orderedRegistrations registrations) distinct
    ⟨registrations, ⟨none, none, RegistrationCounts.zero⟩, none⟩
  apply SameDesire.of_entries
  intro sessionId
  cases found : registrations.get sessionId with
  | none =>
    refine Or.inr ⟨?_, fun _ found => by cases found⟩
    rw [apart sessionId, found]
    intro listed
    obtain ⟨entry, member, rfl⟩ := List.mem_map.mp listed
    rw [mem_toList.mp (perm.mem_iff.mp member)] at found
    cases found
  | some state =>
    have member : (sessionId, state) ∈ orderedRegistrations registrations :=
      perm.mem_iff.mpr (mem_toList.mpr found)
    obtain ⟨progress, -, result⟩ := visited (sessionId, state) member
    rw [result]
    unfold visitRegistration
    by_cases removable : state.isRemovable = true
    · refine Or.inr ⟨by simp [removable], ?_⟩
      rintro old ⟨⟩
      simp only [RegistrationState.isRemovable, Bool.and_eq_true,
        Option.isNone_iff_eq_none] at removable
      exact removable.1.1
    · refine Or.inl ⟨state, (selectNext progress state now).2.2, rfl,
        by simp [removable, get_insert_self], ?_⟩
      rcases selectNext_cases progress state now with ⟨-, same⟩ |
        ⟨ticket, -, -, begun⟩
      · rw [same]
        exact ⟨rfl, rfl⟩
      · exact ⟨begun.version_eq, begun.snapshot_eq⟩

theorem sameDesire_prepareRegistrations (now : Instant) :
    SameDesire worker.registrations (worker.prepareRegistrations now).2.registrations := by
  unfold prepareRegistrations
  split
  · exact worker.sameDesire_prune
  · split
    · exact worker.sameDesire_prune
    · have pass := sameDesire_pass worker.registrations now
      unfold prepareRegistrationPass
      dsimp only
      split
      · rename_i registrations prepared
        split at prepared
        · cases prepared
        · cases prepared
          exact pass
      · rename_i registrations prepared
        split at prepared
        · cases prepared
          exact pass.trans (sameDesire_markAllTerminal _)
        · cases prepared

theorem sameDesire_onConnectResult (result : Except TransportError Unit) :
    SameDesire worker.registrations (worker.onConnectResult result).2.registrations := by
  unfold onConnectResult
  split
  · split
    · exact SameDesire.refl _
    · exact SameDesire.refl _
  · split
    · exact sameDesire_markAllTerminal _
    · exact SameDesire.refl _

theorem sameDesire_onClientFailure (epoch : Nat) (error : TransportError) (now : Instant) :
    SameDesire worker.registrations (worker.onClientFailure epoch error now).registrations := by
  unfold onClientFailure
  split
  · exact SameDesire.refl _
  · split
    · exact sameDesire_markAllTerminal _
    · split
      · exact worker.sameDesire_connectionLost now
      · exact SameDesire.refl _

theorem sameDesire_onCompletionError (action : RegistrationAction)
    (error : TransportError) (now : Instant) :
    SameDesire worker.registrations
      (worker.onCompletionError action error now).registrations := by
  unfold onCompletionError
  split
  · split
    · exact sameDesire_markAllTerminal _
    · exact SameDesire.refl _
  · split
    · exact worker.sameDesire_connectionLost now
    · exact SameDesire.refl _

theorem sameDesire_applyEpochScoped (registrations : Registrations)
    (completion : OperationCompletion) (currentEpoch : Option Nat) (now : Instant) :
    SameDesire registrations
      (applyEpochScopedOperationCompletion registrations completion currentEpoch now).2 := by
  unfold applyEpochScopedOperationCompletion
  split
  · dsimp only
    unfold Table.modify
    split
    · rename_i state found
      exact SameDesire.insert found (state.yields_transientFailure _ now).settles
    · exact SameDesire.refl _
  · unfold applyOperationCompletion
    dsimp only
    split
    · exact SameDesire.refl _
    · rename_i state found
      exact SameDesire.insert found (settles_completed state _ _ now)

theorem sameDesire_onOperationCompletion (completion : OperationCompletion) (now : Instant) :
    SameDesire worker.registrations
      (worker.onOperationCompletion completion now).registrations := by
  have applied := sameDesire_applyEpochScoped worker.registrations completion
    worker.connected now
  unfold onOperationCompletion
  dsimp only
  split
  · exact applied.trans (sameDesire_prune { worker with registrations := _ })
  · exact (applied.trans (sameDesire_onCompletionError
      { worker with registrations := _ } _ _ now)).trans (sameDesire_prune _)

end ShardWorker

/-! ## Reconciling -/

/-- A registration that a reconciliation publishes to carries what it is given if
that is newer. -/
theorem carried_reconcileChanged (shardId : ShardId) (gatewayId : GatewayId)
    (retryInitial retryMax : Duration) (now : Instant) {registrations : Registrations}
    {change : RelaySessionId × Nat × BindingSnapshot}
    (newer : ∀ state, registrations.get change.1 = some state →
      state.desiredVersion < change.2.1) :
    ∃ state, (reconcileChanged shardId gatewayId retryInitial retryMax now
        registrations change).get change.1 = some state ∧
      state.desiredVersion = change.2.1 ∧ state.snapshot = some change.2.2 := by
  unfold reconcileChanged
  cases found : registrations.get change.1 with
  | none =>
    exact ⟨_, get_insert_self _ _ _, rfl, rfl⟩
  | some state =>
    have published := state.published_publish (newer state found)
      (some change.2.2) now
    exact ⟨_, get_insert_self _ _ _, published.version, published.snapshot⟩

theorem get_reconcileChanged_of_ne (shardId : ShardId) (gatewayId : GatewayId)
    (retryInitial retryMax : Duration) (now : Instant) (registrations : Registrations)
    (change : RelaySessionId × Nat × BindingSnapshot) (apart : other ≠ change.1) :
    (reconcileChanged shardId gatewayId retryInitial retryMax now registrations
      change).get other = registrations.get other := by
  unfold reconcileChanged
  split <;> exact get_insert_of_ne _ _ apart

theorem get_reconcileRemoved_of_ne (now : Instant) (registrations : Registrations)
    (removal : RelaySessionId × Nat) (apart : other ≠ removal.1) :
    (reconcileRemoved now registrations removal).get other = registrations.get other := by
  rw [reconcileRemoved, get_modify, if_neg apart]

/-- What a worker makes of a view whose handouts are newer than everything it
holds. -/
structure Reconciled (before after : Registrations) (view : ShardDesiredView) :
    Prop where
  changed : ∀ change ∈ view.changed, ∃ state,
    after.get change.1 = some state ∧ state.desiredVersion = change.2.1 ∧
      state.snapshot = some change.2.2
  removed : ∀ removal ∈ view.removed, ∀ state,
    after.get removal.1 = some state →
      state.desiredVersion = removal.2 ∧ state.snapshot = none
  apart : ∀ sessionId, sessionId ∉ view.changed.map Prod.fst →
    sessionId ∉ view.removed.map Prod.fst →
      after.get sessionId = before.get sessionId

/-- A view names each session once. -/
structure ShardDesiredView.Distinct (view : ShardDesiredView) : Prop where
  changed : (view.changed.map Prod.fst).Nodup
  removed : (view.removed.map Prod.fst).Nodup
  disjoint : ∀ sessionId ∈ view.changed.map Prod.fst,
    sessionId ∉ view.removed.map Prod.fst

theorem ShardWorker.reconciled (worker : ShardWorker) {view : ShardDesiredView}
    (distinct : view.Distinct) (now : Instant)
    (newer : ∀ handout ∈ view.handouts, ∀ state,
      worker.registrations.get handout.sessionId = some state →
        state.desiredVersion < handout.version) :
    Reconciled worker.registrations (worker.reconcile view now).registrations view := by
  obtain ⟨unchanged, changed⟩ := foldl_local Prod.fst Table.get
    (fun registrations change _ => get_reconcileChanged_of_ne worker.shardId
      worker.gatewayId worker.reconnectInitial worker.reconnectMax now registrations
      change)
    view.changed distinct.changed worker.registrations
  obtain ⟨unremoved, removed⟩ := foldl_local Prod.fst Table.get
    (fun registrations removal _ => get_reconcileRemoved_of_ne now registrations removal)
    view.removed distinct.removed
    (view.changed.foldl (reconcileChanged worker.shardId worker.gatewayId
      worker.reconnectInitial worker.reconnectMax now) worker.registrations)
  constructor
  · intro change member
    have listed := List.mem_map_of_mem (f := Prod.fst) member
    obtain ⟨registrations, same, result⟩ := changed change member
    have older : ∀ state, registrations.get change.1 = some state →
        state.desiredVersion < change.2.1 := by
      intro state found
      refine newer ⟨change.1, change.2.1, some change.2.2⟩ ?_ state
        (same.symm.trans found)
      exact List.mem_append_left _ (List.mem_map_of_mem member)
    obtain ⟨state, stored, rest⟩ := carried_reconcileChanged worker.shardId
      worker.gatewayId worker.reconnectInitial worker.reconnectMax now older
    refine ⟨state, ?_, rest⟩
    exact (unremoved _ (distinct.disjoint _ listed)).trans (result.trans stored)
  · intro removal member state found
    have listed := List.mem_map_of_mem (f := Prod.fst) member
    obtain ⟨registrations, same, result⟩ := removed removal member
    have before : registrations.get removal.1 =
        worker.registrations.get removal.1 :=
      same.trans (unchanged _ fun here => distinct.disjoint _ here listed)
    have published := result.symm.trans found
    rw [reconcileRemoved, get_modify, if_pos rfl, Option.map_eq_some_iff]
      at published
    obtain ⟨old, stored, rfl⟩ := published
    have fresh := old.published_publish (newer ⟨removal.1, removal.2, none⟩
      (List.mem_append_right _ (List.mem_map_of_mem member)) old
      (before.symm.trans stored)) none now
    exact ⟨fresh.version, fresh.snapshot⟩
  · intro sessionId notChanged notRemoved
    exact (unremoved _ notRemoved).trans (unchanged _ notChanged)

/-! ## The invariant -/

/-- A worker tracks its shard of the store: what it has not observed yet is still
there to be handed out, newer than everything it holds. -/
structure Tracks (shard : DesiredShard) (version : Nat)
    (desired : RelaySessionId → Option (Nat × BindingSnapshot))
    (follower : Follower) : Prop where
  entries : ∀ sessionId, (shard.sessions.get sessionId).map
    (fun entry => (entry.version, entry.snapshot)) = desired sessionId
  recent : ∀ sessionId entry, shard.sessions.get sessionId = some entry →
    entry.version ≤ version
  removals : ∀ sessionId removal, shard.removed.get sessionId = some removal →
    shard.sessions.get sessionId = none ∧ follower.observedVersion < removal ∧
      removal ≤ version
  observed : follower.observedVersion ≤ version
  held : ∀ sessionId state,
    follower.worker.registrations.get sessionId = some state →
      state.desiredVersion ≤ follower.observedVersion
  current : ∀ sessionId entry, shard.sessions.get sessionId = some entry →
    entry.version ≤ follower.observedVersion →
      follower.worker.registrations.carried sessionId =
        some (entry.version, entry.snapshot)
  stale : ∀ sessionId, shard.sessions.get sessionId = none →
    follower.worker.registrations.carried sessionId ≠ none →
      ∃ removal, shard.removed.get sessionId = some removal
  handed : ∀ handout ∈ follower.handed, handout.version ≤ follower.observedVersion
  ordered : follower.handed.Pairwise fun earlier later =>
    earlier.sessionId = later.sessionId → earlier.version < later.version

namespace Tracks

variable {shard : DesiredShard} {version : Nat} {follower : Follower}
  {desired : RelaySessionId → Option (Nat × BindingSnapshot)}
  (tracks : Tracks shard version desired follower)
include tracks

/-- The store moves on to a later version. -/
theorem mono {later : Nat} (after : version ≤ later) : Tracks shard later desired follower :=
  { tracks with
    recent := fun sessionId entry found =>
      (tracks.recent sessionId entry found).trans after
    removals := fun sessionId removal found =>
      have ⟨gone, newer, known⟩ := tracks.removals sessionId removal found
      ⟨gone, newer, known.trans after⟩
    observed := tracks.observed.trans after }

/-- A commit under a version the worker has not observed. -/
theorem note (unseen : follower.observedVersion < version) (sessionId : RelaySessionId)
    (snapshot : Option BindingSnapshot) :
    Tracks (shard.note sessionId version snapshot) version
      (fun other => if other = sessionId then
        snapshot.map fun snapshot => (version, snapshot) else desired other)
      follower := by
  cases snapshot with
  | some =>
    refine ⟨?_, ?_, ?_, tracks.observed, tracks.held, ?_, ?_, tracks.handed, tracks.ordered⟩
    · intro other
      simp only [DesiredShard.note, get_insert]
      split
      · rfl
      · exact tracks.entries other
    · intro other entry found
      rcases get_insert_eq_some_iff.mp found with ⟨rfl, rfl⟩ | ⟨-, old⟩
      · exact Nat.le_refl version
      · exact tracks.recent other entry old
    · intro other removal found
      obtain ⟨apart, old⟩ := get_remove_eq_some_iff.mp found
      obtain ⟨gone, rest⟩ := tracks.removals other removal old
      exact ⟨(get_insert_of_ne _ _ apart).trans gone, rest⟩
    · intro other entry found seen
      rcases get_insert_eq_some_iff.mp found with ⟨rfl, rfl⟩ | ⟨-, old⟩
      · exact absurd seen (Nat.not_le.mpr unseen)
      · exact tracks.current other entry old seen
    · intro other gone carried
      have apart : other ≠ sessionId := by
        rintro rfl
        rw [DesiredShard.note, get_insert_self] at gone
        cases gone
      rw [DesiredShard.note, get_insert_of_ne _ _ apart] at gone
      obtain ⟨removal, found⟩ := tracks.stale other gone carried
      exact ⟨removal, (get_remove_of_ne _ apart).trans found⟩
  | none =>
    unfold DesiredShard.note
    dsimp only
    split
    · refine ⟨?_, ?_, ?_, tracks.observed, tracks.held, ?_, ?_, tracks.handed,
        tracks.ordered⟩
      · intro other
        rw [get_remove]
        split
        · rfl
        · exact tracks.entries other
      · intro other entry found
        exact tracks.recent other entry (get_remove_eq_some_iff.mp found).2
      · intro other removal found
        rcases get_insert_eq_some_iff.mp found with ⟨rfl, rfl⟩ | ⟨apart, old⟩
        · exact ⟨get_remove_self _ _, unseen, Nat.le_refl _⟩
        · obtain ⟨gone, rest⟩ := tracks.removals other removal old
          exact ⟨(get_remove_of_ne _ apart).trans gone, rest⟩
      · intro other entry found
        exact tracks.current other entry (get_remove_eq_some_iff.mp found).2
      · intro other gone carried
        by_cases same : other = sessionId
        · exact ⟨version, same ▸ get_insert_self _ _ _⟩
        · rw [get_remove_of_ne _ same] at gone
          obtain ⟨removal, found⟩ := tracks.stale other gone carried
          exact ⟨removal, (get_insert_of_ne _ _ same).trans found⟩
    · rename_i absent
      refine { tracks with entries := ?_ }
      intro other
      split
      · rename_i same
        rw [same, Option.not_isSome_iff_eq_none.mp absent]
        rfl
      · exact tracks.entries other

/-- A step of the worker that leaves what its registrations carry. -/
theorem work {worker : ShardWorker}
    (same : SameDesire follower.worker.registrations worker.registrations) :
    Tracks shard version desired { follower with worker := worker } := by
  refine { tracks with held := ?_, current := ?_, stale := ?_ }
  · intro sessionId state found
    obtain ⟨old, before, equal⟩ := same.version sessionId state found
    exact equal ▸ tracks.held sessionId old before
  · intro sessionId entry found seen
    exact (same.carried sessionId).trans (tracks.current sessionId entry found seen)
  · intro sessionId gone carried
    exact tracks.stale sessionId gone ((same.carried sessionId) ▸ carried)

/-- What a worker that has observed everything carries. -/
theorem carried_eq (seen : version ≤ follower.observedVersion) (sessionId : RelaySessionId) :
    follower.worker.registrations.carried sessionId = desired sessionId := by
  rw [← tracks.entries sessionId]
  cases found : shard.sessions.get sessionId with
  | some entry =>
    exact tracks.current sessionId entry found
      ((tracks.recent sessionId entry found).trans seen)
  | none =>
    by_contra carried
    obtain ⟨removal, listed⟩ := tracks.stale sessionId found carried
    obtain ⟨-, newer, known⟩ := tracks.removals sessionId removal listed
    exact absurd (newer.trans_le (known.trans seen)) (Nat.lt_irrefl _)

end Tracks

namespace DesiredStore

theorem mem_changedAfter {shard : DesiredShard} {observed : Nat}
    {change : RelaySessionId × Nat × BindingSnapshot} :
    change ∈ changedAfter shard observed ↔
      shard.sessions.get change.1 = some ⟨change.2.1, change.2.2⟩ ∧ observed < change.2.1 := by
  obtain ⟨sessionId, version, snapshot⟩ := change
  simp only [changedAfter, List.mem_map, List.mem_filter, decide_eq_true_eq]
  constructor
  · rintro ⟨⟨other, entry⟩, ⟨member, newer⟩, same⟩
    cases same
    exact ⟨mem_toList.mp member, newer⟩
  · rintro ⟨found, newer⟩
    exact ⟨(sessionId, ⟨version, snapshot⟩), ⟨mem_toList.mpr found, newer⟩, rfl⟩

/-- What a worker that has fallen behind is handed. -/
def viewAfter (shard : DesiredShard) (observed : Nat) : ShardDesiredView :=
  ⟨changedAfter shard observed, shard.removed.toList⟩

theorem distinct_viewAfter {shard : DesiredShard} {version : Nat}
    {desired : RelaySessionId → Option (Nat × BindingSnapshot)}
    {follower : Follower} (tracks : Tracks shard version desired follower) :
    (viewAfter shard follower.observedVersion).Distinct := by
  have changed : (changedAfter shard follower.observedVersion).map Prod.fst =
      (shard.sessions.toList.filter fun entry =>
        follower.observedVersion < entry.2.version).map Prod.fst := by
    simp [changedAfter, Function.comp_def]
  refine ⟨?_, shard.removed.nodup_keys, ?_⟩
  · rw [viewAfter, changed]
    exact shard.sessions.nodup_keys.sublist (List.filter_sublist.map Prod.fst)
  · intro sessionId listed removed
    obtain ⟨change, member, rfl⟩ := List.mem_map.mp listed
    obtain ⟨removal, inside, same⟩ := List.mem_map.mp removed
    have gone := (tracks.removals removal.1 removal.2 (mem_toList.mp inside)).1
    rw [same, (mem_changedAfter.mp member).1] at gone
    cases gone

/-- A worker looks at the store: it has observed everything, or it is handed what
its shard holds for it. -/
theorem shardViewAfter_cases (store : DesiredStore) (shardId : ShardId) (observed : Nat) :
    (store.shardViewAfter shardId observed = (none, store) ∧
        store.version ≤ observed) ∨
      ∃ target, store.shardViewAfter shardId observed =
          (some (store.version, viewAfter (store.shard shardId) observed), target) ∧
        observed < store.version ∧ target.version = store.version ∧
        (target.shard shardId).sessions = (store.shard shardId).sessions ∧
        (target.shard shardId).removed = ∅ ∧
        ∀ other, other ≠ shardId → target.shard other = store.shard other := by
  unfold shardViewAfter
  split
  · rename_i seen
    exact Or.inl ⟨rfl, seen⟩
  · rename_i behind
    refine Or.inr ?_
    cases found : store.byShard.get shardId with
    | none =>
      have empty : store.shard shardId = DesiredShard.empty := by
        simp [shard, found]
      rw [empty]
      exact ⟨store, rfl, Nat.not_le.mp behind, rfl, by rw [empty], by rw [empty]; rfl,
        fun _ _ => rfl⟩
    | some here =>
      have stored : store.shard shardId = here := by simp [shard, found]
      rw [stored]
      refine ⟨_, rfl, Nat.not_le.mp behind, rfl, ?_, ?_, ?_⟩
      · simp [shard, get_insert_self]
      · simp [shard, get_insert_self]
      · intro other apart
        simp [shard, get_insert_of_ne _ _ apart]

end DesiredStore

/-- Every session is changed, removed or left alone by what a worker is handed. -/
theorem Reconciled.cases {shard : DesiredShard} {observed : Nat} {before after : Registrations}
    (reconciled : Reconciled before after (DesiredStore.viewAfter shard observed))
    (sessionId : RelaySessionId) :
    (∃ entry, shard.sessions.get sessionId = some entry ∧
      ∃ state, after.get sessionId = some state ∧
        state.desiredVersion = entry.version ∧
        state.snapshot = some entry.snapshot) ∨
    (∃ removal, shard.removed.get sessionId = some removal ∧
      ∀ state, after.get sessionId = some state →
        state.desiredVersion = removal ∧ state.snapshot = none) ∨
    ((∀ entry, shard.sessions.get sessionId = some entry →
        entry.version ≤ observed) ∧
      shard.removed.get sessionId = none ∧
      after.get sessionId = before.get sessionId) := by
  by_cases changed : sessionId ∈
      (DesiredStore.changedAfter shard observed).map Prod.fst
  · obtain ⟨change, inside, rfl⟩ := List.mem_map.mp changed
    exact Or.inl ⟨_, (DesiredStore.mem_changedAfter.mp inside).1,
      reconciled.changed change inside⟩
  · by_cases removed : sessionId ∈ shard.removed.toList.map Prod.fst
    · obtain ⟨removal, inside, rfl⟩ := List.mem_map.mp removed
      exact Or.inr (Or.inl ⟨_, mem_toList.mp inside, reconciled.removed removal inside⟩)
    · refine Or.inr (Or.inr ⟨?_, ?_, reconciled.apart sessionId changed removed⟩)
      · intro entry found
        by_contra late
        exact changed (List.mem_map.mpr ⟨(sessionId, entry.version, entry.snapshot),
          DesiredStore.mem_changedAfter.mpr ⟨found, Nat.not_le.mp late⟩, rfl⟩)
      · cases found : shard.removed.get sessionId with
        | none => rfl
        | some removal =>
          exact absurd (List.mem_map.mpr ⟨(sessionId, removal),
            mem_toList.mpr found, rfl⟩) removed

/-- No two handouts of a view are for one session. -/
theorem ShardDesiredView.Distinct.nodup_handouts {view : ShardDesiredView}
    (distinct : view.Distinct) : (view.handouts.map Handout.sessionId).Nodup := by
  simp only [ShardDesiredView.handouts, List.map_append, List.map_map]
  exact List.nodup_append'.mpr ⟨distinct.changed, distinct.removed,
    fun sessionId changed removed => distinct.disjoint sessionId changed removed⟩

/-- What a shard holds for a worker is newer than what the worker has observed. -/
theorem Tracks.newer {shard : DesiredShard} {version : Nat}
    {desired : RelaySessionId → Option (Nat × BindingSnapshot)}
    {follower : Follower} (tracks : Tracks shard version desired follower) {handout : Handout}
    (member : handout ∈ (DesiredStore.viewAfter shard follower.observedVersion).handouts) :
    follower.observedVersion < handout.version ∧ handout.version ≤ version := by
  rcases List.mem_append.mp member with changed | removed
  · obtain ⟨change, inside, rfl⟩ := List.mem_map.mp changed
    obtain ⟨found, late⟩ := DesiredStore.mem_changedAfter.mp inside
    exact ⟨late, tracks.recent _ _ found⟩
  · obtain ⟨removal, inside, rfl⟩ := List.mem_map.mp removed
    exact (tracks.removals _ _ (mem_toList.mp inside)).2

/-- A worker that has fallen behind takes what its shard holds for it. -/
theorem Tracks.reconcile {shard after : DesiredShard} {version : Nat}
    {desired : RelaySessionId → Option (Nat × BindingSnapshot)}
    {follower : Follower} (tracks : Tracks shard version desired follower)
    (behind : follower.observedVersion < version)
    (sessions : after.sessions = shard.sessions) (drained : after.removed = ∅) (now : Instant) :
    Tracks after version desired (follower.reconcile version
      (DesiredStore.viewAfter shard follower.observedVersion) now) := by
  have distinct := DesiredStore.distinct_viewAfter tracks
  have reconciled := follower.worker.reconciled distinct now
    fun handout member state found =>
      (tracks.held _ state found).trans_lt (tracks.newer member).1
  have cases := reconciled.cases
  constructor
  · rw [sessions]
    exact tracks.entries
  · rw [sessions]
    exact tracks.recent
  · intro sessionId removal found
    rw [drained, get_empty] at found
    cases found
  · exact Nat.le_refl version
  · intro sessionId state found
    rcases cases sessionId with ⟨entry, stored, other, here, equal, -⟩ |
      ⟨removal, stored, exact⟩ | ⟨-, -, same⟩
    · rw [Follower.reconcile, here] at found
      cases found
      exact equal ▸ tracks.recent sessionId entry stored
    · exact (exact state found).1 ▸ (tracks.removals sessionId removal stored).2.2
    · exact (tracks.held sessionId state (same.symm.trans found)).trans behind.le
  · intro sessionId entry found _
    rw [sessions] at found
    unfold Registrations.carried Follower.reconcile
    rcases cases sessionId with ⟨other, stored, state, here, equal, content⟩ |
      ⟨removal, stored, -⟩ | ⟨seen, -, same⟩
    · rw [found] at stored
      cases stored
      simp [here, equal, content]
    · rw [(tracks.removals sessionId removal stored).1] at found
      cases found
    · simp only [same]
      exact tracks.current sessionId entry found (seen entry found)
  · intro sessionId gone carried
    rw [sessions] at gone
    refine absurd ?_ carried
    unfold Registrations.carried Follower.reconcile
    rcases cases sessionId with ⟨entry, stored, -⟩ | ⟨removal, stored, exact⟩ |
      ⟨-, unremoved, same⟩
    · rw [gone] at stored
      cases stored
    · cases found : (follower.worker.reconcile (DesiredStore.viewAfter shard
          follower.observedVersion) now).registrations.get sessionId with
      | none => rfl
      | some state => simp [(exact state found).2]
    · simp only [same]
      by_contra held
      obtain ⟨removal, listed⟩ := tracks.stale sessionId gone held
      rw [unremoved] at listed
      cases listed
  · intro handout member
    rcases List.mem_append.mp member with early | late
    · exact (tracks.handed handout early).trans behind.le
    · exact (tracks.newer late).2
  · refine List.pairwise_append.mpr ⟨tracks.ordered, ?_, ?_⟩
    · exact (List.pairwise_map.mp distinct.nodup_handouts).imp
        fun apart same => absurd same apart
    · intro earlier early later late _
      exact (tracks.handed earlier early).trans_lt (tracks.newer late).1

/-! ## Runs -/

/-- Every worker tracks its shard, whose entries are those of the plain map. -/
structure Fleet.Follows (fleet : Fleet) (latest : Latest) : Prop where
  version : fleet.store.version = latest.version
  tracks : ∀ shardId, Tracks (fleet.store.shard shardId) fleet.store.version
    (latest.desired shardId) (fleet.follower shardId)

namespace Fleet

variable {fleet : Fleet} {latest : Latest}

theorem follows_initial (generation : ShardDirectoryGeneration)
    (gatewayId : GatewayId) (reconnectInitial reconnectMax : Duration) :
    (initial generation gatewayId reconnectInitial reconnectMax).Follows Latest.initial := by
  refine ⟨rfl, fun shardId => ?_⟩
  constructor
  · exact fun _ => rfl
  · exact fun _ _ found => by cases found
  · exact fun _ _ found => by cases found
  · exact Nat.le_refl 0
  · exact fun _ _ found => by cases found
  · exact fun _ _ found => by cases found
  · exact fun _ _ carried => absurd rfl carried
  · exact nofun
  · exact List.Pairwise.nil

/-- One projected shard of a commit. -/
theorem Follows.note (follows : fleet.Follows latest)
    (unseen : ∀ shardId, (fleet.follower shardId).observedVersion <
      fleet.store.version) (sessionId : RelaySessionId)
    (projected : ProjectedShardSnapshot) :
    { fleet with store :=
        fleet.store.note sessionId fleet.store.version projected }.Follows
      (latest.note sessionId fleet.store.version projected) := by
  refine ⟨follows.version, fun shardId => ?_⟩
  have before := follows.tracks shardId
  by_cases same : shardId = projected.shardId
  · subst same
    have noted := before.note (unseen _) sessionId projected.snapshot
    have stored : (fleet.store.note sessionId fleet.store.version projected).shard
        projected.shardId = (fleet.store.shard projected.shardId).note sessionId
          fleet.store.version projected.snapshot := by
      simp [DesiredStore.shard, DesiredStore.note, get_insert_self]
    have wanted : (latest.note sessionId fleet.store.version projected).desired
        projected.shardId = fun other => if other = sessionId then
          projected.snapshot.map fun snapshot => (fleet.store.version, snapshot)
          else latest.desired projected.shardId other := by
      funext other
      simp only [Latest.desired, Latest.note, true_and]
      split <;> rfl
    rw [stored, wanted]
    exact noted
  · have stored : (fleet.store.note sessionId fleet.store.version projected).shard
        shardId = fleet.store.shard shardId := by
      simp [DesiredStore.shard, DesiredStore.note, get_insert_of_ne _ _ same]
    have wanted : (latest.note sessionId fleet.store.version projected).desired
        shardId = latest.desired shardId := by
      funext other
      simp [Latest.desired, Latest.note, same]
    rw [stored, wanted]
    exact before

theorem Follows.foldl_note (sessionId : RelaySessionId) (version : Nat)
    (projected : List ProjectedShardSnapshot)
    (follows : fleet.Follows latest) (current : fleet.store.version = version)
    (unseen : ∀ shardId, (fleet.follower shardId).observedVersion < version) :
    { fleet with store :=
        projected.foldl (DesiredStore.note sessionId version) fleet.store }.Follows
      (projected.foldl (Latest.note sessionId version) latest) := by
  induction projected generalizing fleet latest with
  | nil => exact follows
  | cons first rest ih =>
    subst current
    exact ih (follows.note unseen sessionId first) rfl unseen

section

variable (follows : fleet.Follows latest)
include follows

theorem Follows.commit (sessionId : RelaySessionId) (projected : List ProjectedShardSnapshot) :
    { fleet with store := (fleet.store.commit sessionId projected).2 }.Follows
      (latest.commit sessionId projected) := by
  unfold DesiredStore.commit Latest.commit
  rw [follows.version]
  cases next : checkedSucc latest.version with
  | none => exact follows
  | some version =>
    have later : fleet.store.version < version := by
      rw [follows.version]
      unfold checkedSucc at next
      split at next
      · cases next
        exact Nat.lt_succ_self _
      · cases next
    have bumped : { fleet with store := { fleet.store with
        version := version } }.Follows { latest with version := version } :=
      ⟨rfl, fun shardId => (follows.tracks shardId).mono later.le⟩
    exact bumped.foldl_note sessionId version projected rfl
      fun shardId => (follows.tracks shardId).observed.trans_lt later

theorem Follows.work (shardId : ShardId) {step : ShardWorker → ShardWorker}
    (same : ∀ worker, SameDesire worker.registrations (step worker).registrations) :
    (fleet.work shardId step).Follows latest := by
  refine ⟨follows.version, fun other => ?_⟩
  by_cases here : other = shardId
  · subst here
    simp only [Fleet.work, Function.update_self]
    exact (follows.tracks other).work (same _)
  · simp only [Fleet.work, Function.update_of_ne here]
    exact follows.tracks other

/-- Looking at the store keeps the invariant, and the worker has then observed all
of it. -/
theorem Follows.reconcile (shardId : ShardId) (now : Instant) :
    (fleet.apply (.reconcile shardId now)).Follows latest ∧
      (fleet.apply (.reconcile shardId now)).store.version ≤
        ((fleet.apply (.reconcile shardId now)).follower shardId).observedVersion := by
  rcases fleet.store.shardViewAfter_cases shardId
      (fleet.follower shardId).observedVersion with
    ⟨nothing, seen⟩ | ⟨target, handed, behind, version, sessions, drained, others⟩
  · simp only [Fleet.apply, nothing]
    exact ⟨follows, seen⟩
  · simp only [Fleet.apply, handed]
    refine ⟨⟨version.trans follows.version, fun other => ?_⟩, ?_⟩
    · dsimp only
      rw [version]
      by_cases here : other = shardId
      · subst here
        rw [Function.update_self]
        exact (follows.tracks other).reconcile behind sessions drained now
      · rw [Function.update_of_ne here, others other here]
        exact follows.tracks other
    · rw [Function.update_self, version]
      exact Nat.le_refl _

theorem Follows.step {event : FleetEvent} {target : Fleet}
    (taken : fleet.Step event target) : target.Follows (latest.apply event) := by
  rw [Fleet.Step] at taken
  subst taken
  cases event with
  | commit sessionId projected => exact follows.commit sessionId projected
  | reconcile shardId now => exact (follows.reconcile shardId now).1
  | prune shardId => exact follows.work shardId ShardWorker.sameDesire_prune
  | prepare shardId now =>
    exact follows.work shardId fun worker =>
      worker.sameDesire_prepareRegistrations now
  | connected shardId result =>
    exact follows.work shardId fun worker =>
      worker.sameDesire_onConnectResult result
  | clientFailure shardId epoch error now =>
    exact follows.work shardId fun worker =>
      worker.sameDesire_onClientFailure epoch error now
  | completion shardId completion now =>
    exact follows.work shardId fun worker =>
      worker.sameDesire_onOperationCompletion completion now

end

theorem Follows.run {start : Fleet} {events : List FleetEvent}
    (run : Execution Step start events fleet) (initially : start.Follows latest) :
    fleet.Follows (events.foldl Latest.apply latest) := by
  induction run with
  | refl => exact initially
  | tail _ last ih =>
    rw [List.foldl_append]
    exact ih.step last

/-- However commits and the steps of the workers interleave, right after a worker
has looked at the store its registrations carry the last snapshot committed for each
session of its shard, under the version of that commit, and none for a session that
the last commit removed.  What a worker is handed for a session is newer each
time. -/
theorem registrations_follow_latest (generation : ShardDirectoryGeneration)
    (gatewayId : GatewayId) (reconnectInitial reconnectMax : Duration)
    {events : List FleetEvent} {target : Fleet}
    (run : Execution Step
      (initial generation gatewayId reconnectInitial reconnectMax) events fleet)
    {shardId : ShardId} {now : Instant}
    (looked : fleet.Step (.reconcile shardId now) target) :
    (∀ sessionId, match (Latest.after events).value shardId sessionId with
      | some (version, some snapshot) => ∃ state,
          (target.follower shardId).worker.registrations.get sessionId =
            some state ∧
          state.desiredVersion = version ∧ state.snapshot = some snapshot
      | some (_, none) | none => ∀ state,
          (target.follower shardId).worker.registrations.get sessionId =
            some state → state.snapshot = none) ∧
      (target.follower shardId).handed.Pairwise fun earlier later =>
        earlier.sessionId = later.sessionId → earlier.version < later.version := by
  have follows := Follows.run run
    (follows_initial generation gatewayId reconnectInitial reconnectMax)
  rw [Fleet.Step] at looked
  subst looked
  obtain ⟨after, seen⟩ := follows.reconcile shardId now
  refine ⟨fun sessionId => ?_, (after.tracks shardId).ordered⟩
  have carried := (after.tracks shardId).carried_eq seen sessionId
  rw [Registrations.carried, Latest.desired] at carried
  change match (events.foldl Latest.apply Latest.initial).value shardId sessionId with
    | some (version, some snapshot) => _
    | some (_, none) | none => _
  cases last : (events.foldl Latest.apply Latest.initial).value shardId sessionId with
  | none =>
      intro state found
      simpa [last, found] using carried
  | some value =>
      obtain ⟨version, snapshot⟩ := value
      cases snapshot with
      | none =>
          intro state found
          simpa [last, found] using carried
      | some =>
          rw [last, Option.bind_some, Option.map_some, Option.bind_eq_some_iff]
            at carried
          obtain ⟨state, found, content⟩ := carried
          obtain ⟨held, same, equal⟩ := Option.map_eq_some_iff.mp content
          cases equal
          exact ⟨state, found, rfl, same⟩

end Fleet

namespace Scenario

/-- A session is published, removed and published again before the worker looks. -/
def recommitted : List FleetEvent :=
  [.commit session [⟨shardId, some snapshot⟩], .reconcile shardId 0,
    .commit session [⟨shardId, none⟩], .commit session [⟨shardId, some snapshot⟩]]

end Scenario

open Scenario in
theorem Fleet.follows_recommitted :
    (Latest.after recommitted).value shardId session = some (3, some snapshot) ∧
      ∃ state, (((recommitted.foldl Fleet.apply
          (Fleet.initial ⟨7⟩ ⟨1⟩ 10 40)).apply (.reconcile shardId 1)).follower
          shardId).worker.registrations.get session = some state ∧
        state.desiredVersion = 3 ∧ state.snapshot = some snapshot := by
  have run : Execution Fleet.Step (Fleet.initial ⟨7⟩ ⟨1⟩ 10 40) recommitted
      (recommitted.foldl Fleet.apply (Fleet.initial ⟨7⟩ ⟨1⟩ 10 40)) :=
    Execution.head rfl (Execution.head rfl (Execution.head rfl (Execution.single rfl)))
  have last : (Latest.after recommitted).value shardId session = some (3, some snapshot) := rfl
  have looked : (recommitted.foldl Fleet.apply
      (Fleet.initial ⟨7⟩ ⟨1⟩ 10 40)).Step (.reconcile shardId 1) _ := rfl
  have carried := (Fleet.registrations_follow_latest ⟨7⟩ ⟨1⟩ 10 40 run looked).1 session
  rw [last] at carried
  exact ⟨last, carried⟩

end RelayGate.Routing
