import RelayGate.RouteTable.Leases

/-!
# The Updates of one lease

From its Register to its end a lease accepts Updates in the order of their
revisions.  A tenure is any run of calls that a lease outlives, with the Updates
accepted under it; the other calls of the run may be anything.
-/

namespace RelayGate.RouteTable.RouteTableShard

open Library

variable {registration : RegistrationState} {revision : RegistrationRevision}
  {shard : RouteTableShard} {accepted : List (RegistrationRevision × BindingSnapshot)}
  {leaseId : LeaseId}

/-! ## What an Update does -/

theorem revision_of_repeated {snapshot : BindingSnapshot}
    (repeats : checkRevision registration revision snapshot = .repeated) :
    registration.revision = some revision ∧
      Table.SameEntries registration.bindings snapshot.entries := by
  unfold checkRevision at repeats
  split at repeats
  · split at repeats <;> cases repeats
  · rename_i current accepted
    split at repeats
    · rename_i same
      split at repeats
      · rename_i equal
        exact ⟨accepted.trans (congrArg some same.symm), equal⟩
      · cases repeats
    · split at repeats <;> cases repeats

theorem revision_of_advances {snapshot : BindingSnapshot}
    (advances : checkRevision registration revision snapshot = .advances) :
    registration.revision = none ∧ revision = RegistrationRevision.first ∨
      ∃ current, registration.revision = some current ∧ current.number < revision.number := by
  unfold checkRevision at advances
  split at advances
  · rename_i unset
    split at advances
    · cases advances
    · rename_i first
      exact Or.inl ⟨unset, not_not.mp first⟩
  · rename_i current accepted
    split at advances
    · split at advances <;> cases advances
    · rename_i different
      split at advances
      · cases advances
      · rename_i notLower
        refine Or.inr ⟨current, accepted, lt_of_le_of_ne (Nat.le_of_not_lt notLower) ?_⟩
        exact fun same => different (RegistrationRevision.eq_of_number same.symm)

/-- Two maps of bindings agree wherever both have a binding. -/
def Stable (before after : BindingMap) : Prop :=
  ∀ identity first second, before.get identity = some first →
    after.get identity = some second → first = second

theorem stable_of_validate {snapshot : BindingSnapshot}
    (stable : validateCurrentBindingIdentityStability registration snapshot = .ok ()) :
    Stable registration.bindings snapshot.entries := by
  intro identity first second current next
  unfold validateCurrentBindingIdentityStability at stable
  split at stable
  · cases stable
  · rename_i unchanged
    by_contra changed
    apply unchanged
    rw [List.any_eq_true]
    refine ⟨(identity, second), Table.mem_toList.mpr next, ?_⟩
    rw [current]
    simpa using changed

/-- An Update fails and does at most what expiry does, repeats the current
revision, or advances it. -/
theorem update_cases (shard : RouteTableShard) (context : RequestContext)
    (generation : ShardDirectoryGeneration) (key : RegistrationKey)
    (leaseId : LeaseId) (revision : RegistrationRevision)
    (snapshot : BindingSnapshot) (now : Instant) :
    let outcome :=
      shard.update context generation key leaseId revision snapshot now
    (∃ error, outcome.1 = .error error ∧
      (outcome.2 = shard ∨ outcome.2 = (shard.expireDue now).2)) ∨
    shard.validateSnapshot key snapshot = .ok () ∧
      ∃ registration,
        (shard.expireDue now).2.registrationIndex.get key = some registration ∧
        registration.leaseId = leaseId ∧
        (checkRevision registration revision snapshot = .repeated ∧
            outcome = (.ok (ack registration now), (shard.expireDue now).2) ∨
          checkRevision registration revision snapshot = .advances ∧
            outcome = (.ok ⟨leaseId, some revision, registration.deadline - now⟩,
              (shard.expireDue now).2.replaceBindings key registration revision
                snapshot.entries)) := by
  dsimp only
  unfold RouteTableShard.update
  split
  · rename_i error invalid
    exact Or.inl ⟨error, rfl, Or.inl rfl⟩
  · rename_i valid
    dsimp only
    split
    · rename_i error refused
      exact Or.inl ⟨error, rfl, Or.inr rfl⟩
    · rename_i registration current
      obtain ⟨found, lease⟩ := currentRegistration_eq_ok current
      split
      · rename_i error refused
        exact Or.inl ⟨error, rfl, Or.inr rfl⟩
      · rename_i repeats
        exact Or.inr ⟨(bind_eq_ok valid).2, registration, found, lease, Or.inl ⟨repeats, rfl⟩⟩
      · rename_i advances
        split
        · rename_i error unstable
          exact Or.inl ⟨error, rfl, Or.inr rfl⟩
        · exact Or.inr ⟨(bind_eq_ok valid).2, registration, found, lease, Or.inr ⟨advances, rfl⟩⟩

/-- What a snapshot is checked against does not change. -/
theorem validateSnapshot_answer (shard : RouteTableShard) (call : Call)
    (key : RegistrationKey) (snapshot : BindingSnapshot) :
    (shard.answer call).2.validateSnapshot key snapshot =
      shard.validateSnapshot key snapshot := by
  have same := shard.setting_answer call
  have directory : (shard.answer call).2.directory = shard.directory :=
    congrArg (fun setting => setting.1) same
  have shardId : (shard.answer call).2.shardId = shard.shardId :=
    congrArg (fun setting => setting.2.1) same
  unfold validateSnapshot validateBinding validateDestinationAuthority
  rw [directory, shardId]

/-! ## Tenures -/

/-- The lease is the current one of its key. -/
def HoldsLease (shard : RouteTableShard) (key : RegistrationKey)
    (leaseId : LeaseId) : Prop :=
  ∃ registration, shard.registrationIndex.get key = some registration ∧
    registration.leaseId = leaseId

/-- Neither the expiry a call starts with nor the call itself ends the lease. -/
def Survives (shard : RouteTableShard) (call : Call) (key : RegistrationKey)
    (leaseId : LeaseId) : Prop :=
  (shard.validate call = .ok () →
      (shard.expireDue call.now).2.HoldsLease key leaseId) ∧
    (shard.answer call).2.HoldsLease key leaseId

/-- The Update a call has accepted under a lease. -/
def acceptedUpdate (shard : RouteTableShard) (key : RegistrationKey)
    (leaseId : LeaseId) : Call → Option (RegistrationRevision × BindingSnapshot)
  | .update context generation target named revision snapshot now =>
      if target = key ∧ named = leaseId ∧
          (shard.update context generation target named revision snapshot
            now).1.isOk then
        some (revision, snapshot)
      else
        none
  | _ => none

/-- A lease from its Register on, through any calls that it outlives, with the
Updates accepted under it. -/
inductive Tenure (key : RegistrationKey) (leaseId : LeaseId) :
    RouteTableShard → List (RegistrationRevision × BindingSnapshot) → Prop
  | granted {shard : RouteTableShard} {deadline : Instant}
      (filed : shard.registrationIndex.get key =
        some ⟨leaseId, none, deadline, ∅⟩) :
      Tenure key leaseId shard []
  | call {shard : RouteTableShard}
      {accepted : List (RegistrationRevision × BindingSnapshot)}
      (tenure : Tenure key leaseId shard accepted) (call : Call)
      (survives : shard.Survives call key leaseId) :
      Tenure key leaseId (shard.answer call).2
        (accepted ++ (shard.acceptedUpdate key leaseId call).toList)

/-- The Updates a registration has accepted, in order: the first revision is one,
revisions do not decrease, each stands for one snapshot that passes the checks of
the shard, and the registration has what the last one brought. -/
structure Ledger (shard : RouteTableShard) (key : RegistrationKey)
    (registration : RegistrationState)
    (accepted : List (RegistrationRevision × BindingSnapshot)) : Prop where
  first : ∀ entry, accepted.head? = some entry →
    entry.1 = RegistrationRevision.first
  ordered : accepted.Pairwise fun earlier later =>
    earlier.1.number ≤ later.1.number
  single : ∀ earlier ∈ accepted, ∀ later ∈ accepted, earlier.1 = later.1 →
    Table.SameEntries earlier.2.entries later.2.entries
  valid : ∀ entry ∈ accepted, shard.validateSnapshot key entry.2 = .ok ()
  unset : accepted = [] → registration.revision = none
  latest : ∀ entry, accepted.getLast? = some entry →
    registration.revision = some entry.1 ∧
      Table.SameEntries registration.bindings entry.2.entries

namespace Ledger

variable {shard : RouteTableShard} {key : RegistrationKey}
  {registration later : RegistrationState}
  {accepted : List (RegistrationRevision × BindingSnapshot)}
  {entry : RegistrationRevision × BindingSnapshot} {revision : RegistrationRevision}
  (ledger : Ledger shard key registration accepted)
include ledger

/-- No accepted revision is above the current one. -/
theorem le_current (member : entry ∈ accepted) :
    ∃ top ∈ accepted, registration.revision = some top.1 ∧ entry.1.number ≤ top.1.number := by
  rcases List.eq_nil_or_concat' accepted with
    empty | ⟨earlier, last, rfl⟩
  · rw [empty] at member
    cases member
  · refine ⟨last, by simp, (ledger.latest last (by simp)).1, ?_⟩
    rcases List.mem_append.mp member with old | new
    · exact (List.pairwise_append.mp ledger.ordered).2.2 entry old last
        List.mem_cons_self
    · cases List.mem_singleton.mp new
      exact Nat.le_refl _

/-- The snapshot of the current revision is the stored one. -/
theorem stored_of_current (member : entry ∈ accepted)
    (current : registration.revision = some entry.1) :
    Table.SameEntries registration.bindings entry.2.entries := by
  rcases List.eq_nil_or_concat' accepted with
    empty | ⟨earlier, last, rfl⟩
  · rw [empty] at member
    cases member
  · obtain ⟨revision, stored⟩ := ledger.latest last (by simp)
    rw [current] at revision
    exact stored.trans (ledger.single last (by simp) entry member
      (Option.some.inj revision).symm)

section

variable {snapshot : BindingSnapshot}
  (valid : shard.validateSnapshot key snapshot = .ok ())
include valid

/-- One more accepted Update: no earlier revision is higher, and an equal one has
the same snapshot. -/
theorem extended (starts : accepted = [] → revision = RegistrationRevision.first)
    (above : ∀ entry ∈ accepted, entry.1.number ≤ revision.number)
    (agrees : ∀ entry ∈ accepted, entry.1 = revision →
      Table.SameEntries entry.2.entries snapshot.entries)
    (current : later.revision = some revision)
    (stored : Table.SameEntries later.bindings snapshot.entries) :
    Ledger shard key later (accepted ++ [(revision, snapshot)]) where
  first entry head := by
    cases accepted with
    | nil =>
      cases head
      exact starts rfl
    | cons => exact ledger.first entry head
  ordered := by
    refine List.pairwise_append.mpr
      ⟨ledger.ordered, List.pairwise_singleton _ _, ?_⟩
    intro earlier member entry new
    cases List.mem_singleton.mp new
    exact above earlier member
  single := by
    intro first firstIn second secondIn equal
    rcases List.mem_append.mp firstIn with old | new
    · rcases List.mem_append.mp secondIn with other | added
      · exact ledger.single first old second other equal
      · cases List.mem_singleton.mp added
        exact agrees first old equal
    · cases List.mem_singleton.mp new
      rcases List.mem_append.mp secondIn with other | added
      · exact (agrees second other equal.symm).symm
      · cases List.mem_singleton.mp added
        exact Table.SameEntries.refl _
  valid entry member := by
    rcases List.mem_append.mp member with old | new
    · exact ledger.valid entry old
    · cases List.mem_singleton.mp new
      exact valid
  unset none := by simp at none
  latest entry last := by
    rw [List.getLast?_concat] at last
    cases last
    exact ⟨current, stored⟩

/-- An Update of the current revision with the stored snapshot. -/
theorem repeated (current : registration.revision = some revision)
    (same : Table.SameEntries registration.bindings snapshot.entries) :
    Ledger shard key registration (accepted ++ [(revision, snapshot)]) := by
  apply ledger.extended valid _ _ _ current same
  · intro empty
    rw [ledger.unset empty] at current
    cases current
  · intro entry member
    obtain ⟨top, -, stored, below⟩ := ledger.le_current member
    cases current.symm.trans stored
    exact below
  · rintro entry member rfl
    exact (ledger.stored_of_current member current).symm.trans same

/-- An Update that advances the revision. -/
theorem advanced (advances : registration.revision = none ∧
        revision = RegistrationRevision.first ∨
      ∃ current, registration.revision = some current ∧
        current.number < revision.number) :
    Ledger shard key
      { registration with
        bindings := snapshot.entries
        revision := some revision }
      (accepted ++ [(revision, snapshot)]) := by
  have below : ∀ entry ∈ accepted, entry.1.number < revision.number := by
    intro entry member
    obtain ⟨top, -, stored, le⟩ := ledger.le_current member
    rcases advances with ⟨unset, -⟩ | ⟨current, set, higher⟩
    · cases unset.symm.trans stored
    · cases set.symm.trans stored
      exact Nat.lt_of_le_of_lt le higher
  apply ledger.extended valid _ _ _ rfl (Table.SameEntries.refl _)
  · intro empty
    rcases advances with ⟨-, first⟩ | ⟨current, set, -⟩
    · exact first
    · rw [ledger.unset empty] at set
      cases set
  · exact fun entry member => Nat.le_of_lt (below entry member)
  · intro entry member equal
    exact absurd (congrArg RegistrationRevision.number equal)
      (Nat.ne_of_lt (below entry member))

end

/-- A ledger speaks of the revision and the bindings only. -/
theorem congr (revision : later.revision = registration.revision)
    (bindings : later.bindings = registration.bindings) : Ledger shard key later accepted where
  __ := ledger
  unset empty := revision.trans (ledger.unset empty)
  latest entry last := by
    rw [revision, bindings]
    exact ledger.latest entry last

theorem answer (call : Call) : Ledger (shard.answer call).2 key registration accepted where
  __ := ledger
  valid entry member :=
    (shard.validateSnapshot_answer call key entry.2).trans
      (ledger.valid entry member)

end Ledger

/-! ## The step -/

/-- What an Update under the lease makes of its ledger. -/
theorem Ledger.update {key : RegistrationKey} (ledger : Ledger shard key registration accepted)
    (found : shard.registrationIndex.get key = some registration)
    (context : RequestContext) (generation : ShardDirectoryGeneration)
    (revision : RegistrationRevision) (snapshot : BindingSnapshot) (now : Instant)
    (survives : shard.Survives (.update context generation key registration.leaseId
      revision snapshot now) key registration.leaseId) :
    ∃ later,
      (shard.update context generation key registration.leaseId revision snapshot
        now).2.registrationIndex.get key = some later ∧
      Ledger shard key later
        (accepted ++ (shard.acceptedUpdate key registration.leaseId
          (.update context generation key registration.leaseId revision snapshot
            now)).toList) := by
  obtain ⟨later, stored, -⟩ := survives.2
  change (shard.update context generation key registration.leaseId revision snapshot
    now).2.registrationIndex.get key = some later at stored
  rcases shard.update_cases context generation key registration.leaseId revision
    snapshot now with
    ⟨error, failed, unchanged⟩ | ⟨valid, current, left, -, outcome⟩
  · refine ⟨registration, ?_, ?_⟩
    · rcases unchanged with same | swept
      · rw [same]
        exact found
      · rw [swept] at stored ⊢
        rw [stored, lease_after_expireDue found stored]
    · simpa [acceptedUpdate, failed, Except.isOk, Except.toBool] using ledger
  · cases lease_after_expireDue found left
    rcases outcome with ⟨repeats, outcome⟩ | ⟨advances, outcome⟩
    · obtain ⟨same, entries⟩ := revision_of_repeated repeats
      refine ⟨registration, by rw [outcome]; exact left, ?_⟩
      simpa [acceptedUpdate, outcome, Except.isOk, Except.toBool] using
        ledger.repeated valid same entries
    · refine ⟨{ registration with
          bindings := snapshot.entries
          revision := some revision }, ?_, ?_⟩
      · rw [outcome]
        exact Table.get_insert_self _ _ _
      · simpa [acceptedUpdate, outcome, Except.isOk, Except.toBool] using
          ledger.advanced valid (revision_of_advances advances)

theorem acceptedUpdate_eq_none (shard : RouteTableShard) {key : RegistrationKey} {call : Call}
    (other : ∀ context generation revision snapshot now,
      call ≠ .update context generation key leaseId revision snapshot now) :
    shard.acceptedUpdate key leaseId call = none := by
  cases call with
  | update context generation target named revision snapshot now =>
    apply if_neg
    rintro ⟨rfl, rfl, -⟩
    exact other context generation revision snapshot now rfl
  | register | keepAlive | deregister | resolve | expireDue => rfl

/-- Any call that the lease outlives. -/
theorem Ledger.call {key : RegistrationKey} (ledger : Ledger shard key registration accepted)
    (found : shard.registrationIndex.get key = some registration) (call : Call)
    (survives : shard.Survives call key registration.leaseId) :
    ∃ later, (shard.answer call).2.registrationIndex.get key = some later ∧
      Ledger shard key later
        (accepted ++ (shard.acceptedUpdate key registration.leaseId call).toList) := by
  by_cases updates : ∃ context generation revision snapshot now,
      call = .update context generation key registration.leaseId revision snapshot
        now
  · obtain ⟨context, generation, revision, snapshot, now, rfl⟩ := updates
    exact ledger.update found context generation revision snapshot now survives
  · simp only [not_exists] at updates
    rw [shard.acceptedUpdate_eq_none updates, Option.toList_none, List.append_nil]
    obtain ⟨later, stored, -⟩ := survives.2
    have effect := shard.effect_answer call key
    rw [found, stored] at effect
    refine ⟨later, stored, ?_⟩
    cases effect with
    | kept => exact ledger
    | filed registers owner valid free =>
      subst registers
      obtain ⟨kept, held, -⟩ := survives.1 valid
      cases free.symm.trans held
    | renewed => exact ledger.congr rfl rfl
    | replaced replaces => exact absurd replaces (updates _ _ _ _ _)

/-- Every state of a tenure has the lease and its ledger. -/
theorem Tenure.ledger {key : RegistrationKey} (tenure : Tenure key leaseId shard accepted) :
    ∃ registration, shard.registrationIndex.get key = some registration ∧
      registration.leaseId = leaseId ∧
      Ledger shard key registration accepted := by
  induction tenure with
  | granted filed =>
    refine ⟨_, filed, rfl, ?_⟩
    constructor <;> simp
  | call tenure call survives ih =>
    obtain ⟨registration, found, rfl, ledger⟩ := ih
    obtain ⟨later, stored, next⟩ := ledger.call found call survives
    obtain ⟨held, current, same⟩ := survives.2
    rw [stored] at current
    cases current
    exact ⟨later, stored, same, next.answer call⟩

/-! ## What a lease accepts -/

/-- A lower revision, or the current one with another snapshot. -/
def Outdated (registration : RegistrationState) (revision : RegistrationRevision)
    (snapshot : BindingSnapshot) : Prop :=
  ∃ current, registration.revision = some current ∧
    (revision.number < current.number ∨
      revision = current ∧
        ¬ Table.SameEntries registration.bindings snapshot.entries)

section

variable {key : RegistrationKey}
  (found : shard.registrationIndex.get key = some registration)
include found

theorem update_of_outdated (context : RequestContext)
    (generation : ShardDirectoryGeneration) {snapshot : BindingSnapshot} (now : Instant)
    (outdated : Outdated registration revision snapshot) :
    ∃ error,
      (shard.update context generation key registration.leaseId revision snapshot
        now).1 = .error error ∧
      ((shard.update context generation key registration.leaseId revision snapshot
          now).2 = shard ∨
        (shard.update context generation key registration.leaseId revision snapshot
          now).2 = (shard.expireDue now).2) := by
  rcases shard.update_cases context generation key registration.leaseId revision
    snapshot now with
    refused | ⟨-, current, left, -, outcome⟩
  · exact refused
  · cases lease_after_expireDue found left
    obtain ⟨top, stored, lower⟩ := outdated
    rcases outcome with ⟨repeats, -⟩ | ⟨advances, -⟩
    · obtain ⟨same, entries⟩ := revision_of_repeated repeats
      cases stored.symm.trans same
      rcases lower with below | ⟨-, different⟩
      · exact absurd below (Nat.lt_irrefl _)
      · exact absurd entries different
    · rcases revision_of_advances advances with ⟨unset, -⟩ | ⟨other, set, above⟩
      · cases stored.symm.trans unset
      · cases stored.symm.trans set
        rcases lower with below | ⟨rfl, -⟩
        · exact absurd above (Nat.lt_asymm below)
        · exact absurd above (Nat.lt_irrefl _)

theorem update_of_current {context : RequestContext}
    {generation : ShardDirectoryGeneration} {snapshot : BindingSnapshot} {now : Instant}
    (live : now < registration.deadline)
    (request : shard.validateRequest context generation key = .ok ())
    (valid : shard.validateSnapshot key snapshot = .ok ())
    (current : registration.revision = some revision)
    (same : Table.SameEntries registration.bindings snapshot.entries) :
    shard.update context generation key registration.leaseId revision snapshot now =
        (.ok (ack registration now), (shard.expireDue now).2) ∧
      (shard.expireDue now).2.registrationIndex.get key = some registration := by
  have left : (shard.expireDue now).2.registrationIndex.get key =
      some registration := by
    rcases (shard.swept_expireDue now).removed key registration found with
      kept | past
    · exact kept
    · exact absurd live (Nat.not_lt.mpr past)
  have checked : (do
      shard.validateRequest context generation key
      shard.validateSnapshot key snapshot) = Except.ok () := by
    rw [request]
    exact valid
  have lease : (shard.expireDue now).2.currentRegistration key
      registration.leaseId = .ok registration := by
    simp [currentRegistration, left]
  have repeats : checkRevision registration revision snapshot = .repeated := by
    simp [checkRevision, current, same]
  refine ⟨?_, left⟩
  simp only [RouteTableShard.update, checked, lease, repeats]

/-- The bindings of a registration after any call agree with those before it. -/
theorem stable_answer {call : Call} {later : RegistrationState}
    (stored : (shard.answer call).2.registrationIndex.get key = some later) :
    Stable registration.bindings later.bindings := by
  have effect := shard.effect_answer call key
  rw [found, stored] at effect
  have unchanged : Stable registration.bindings registration.bindings := by
    intro identity first second before after
    exact Option.some.inj (before.symm.trans after)
  cases effect with
  | kept => exact unchanged
  | filed =>
    intro identity first second before after
    cases after
  | renewed => exact unchanged
  | replaced _ _ _ stable => exact stable_of_validate stable

end

/-- However its Updates are delivered: a lease accepts them from revision one on
in the order of their revisions, one snapshot for each; it has the snapshot of the
highest; it accepts its current Update again and refuses outdated ones, both
without any change; and no binding changes while it stays. -/
theorem updates_of_lease {shard : RouteTableShard} {key : RegistrationKey}
    {leaseId : LeaseId}
    {accepted : List (RegistrationRevision × BindingSnapshot)}
    (tenure : Tenure key leaseId shard accepted) :
    ∃ registration, shard.registrationIndex.get key = some registration ∧
      registration.leaseId = leaseId ∧
      (∀ entry, accepted.head? = some entry →
        entry.1 = RegistrationRevision.first) ∧
      (accepted.Pairwise fun earlier later =>
        earlier.1.number ≤ later.1.number) ∧
      (∀ earlier ∈ accepted, ∀ later ∈ accepted, earlier.1 = later.1 →
        Table.SameEntries earlier.2.entries later.2.entries) ∧
      (∀ entry ∈ accepted,
        (∀ other ∈ accepted, other.1.number ≤ entry.1.number) →
          registration.revision = some entry.1 ∧
            Table.SameEntries registration.bindings entry.2.entries) ∧
      (∀ entry ∈ accepted, registration.revision = some entry.1 →
        ∀ context generation now, now < registration.deadline →
          shard.validateRequest context generation key = .ok () →
          shard.update context generation key leaseId entry.1 entry.2 now =
              (.ok (ack registration now), (shard.expireDue now).2) ∧
            (shard.expireDue now).2.registrationIndex.get key =
              some registration) ∧
      (∀ revision snapshot, Outdated registration revision snapshot →
        ∀ context generation now, ∃ error,
          (shard.update context generation key leaseId revision snapshot
            now).1 = .error error ∧
          ((shard.update context generation key leaseId revision snapshot
              now).2 = shard ∨
            (shard.update context generation key leaseId revision snapshot
              now).2 = (shard.expireDue now).2)) ∧
      ∀ call later,
        (shard.answer call).2.registrationIndex.get key = some later →
          Stable registration.bindings later.bindings := by
  obtain ⟨registration, found, rfl, ledger⟩ := tenure.ledger
  refine ⟨registration, found, rfl, ledger.first, ledger.ordered, ledger.single,
    ?_, ?_, ?_, ?_⟩
  · intro entry member highest
    obtain ⟨top, among, stored, below⟩ := ledger.le_current member
    have same : top.1 = entry.1 := RegistrationRevision.eq_of_number
      (Nat.le_antisymm (highest top among) below)
    rw [same] at stored
    exact ⟨stored, ledger.stored_of_current member stored⟩
  · intro entry member current context generation now live request
    exact update_of_current found live request (ledger.valid entry member) current
      (ledger.stored_of_current member current)
  · intro revision snapshot outdated context generation now
    exact update_of_outdated found context generation now outdated
  · exact fun call later => stable_answer found

/-! ## A lease with two revisions -/

namespace Scenario

def binding (number : Nat) : BindingProjection where
  destination := ⟨⟨[97], validateNamespace_a⟩, ⟨[98], validateDestinationName_b⟩⟩
  identity := ⟨⟨1⟩, ⟨2⟩, ⟨number⟩⟩
  gatewayLocator := ⟨"gateway-0", by decide⟩

def snapshot (number : Nat) : BindingSnapshot where
  entries := Table.insert ∅ (binding number).identity (binding number)
  collected := ⟨[binding number], rfl⟩
  nonempty := rfl

def second : RegistrationRevision := ⟨2, by decide⟩

def updating (revision : RegistrationRevision) (number : Nat) : Call :=
  .update ⟨⟨1⟩⟩ ⟨7⟩ (keyOf 1) ⟨0⟩ revision (snapshot number) 1

/-- The first Update comes twice, and a third Gateway registers before the second. -/
def updated : RouteTableShard :=
  [updating .first 3, updating .first 3, registering 3, updating second 4].foldl
    (fun shard call => (shard.answer call).2) granted

/-- The lease outlives the calls, and its Updates are accepted. -/
theorem tenure : Tenure (keyOf 1) ⟨0⟩ updated
    [(.first, snapshot 3), (.first, snapshot 3), (second, snapshot 4)] := by
  have started : Tenure (keyOf 1) ⟨0⟩ granted [] := Tenure.granted rfl
  have once := started.call (updating .first 3) ⟨fun _ => ⟨_, rfl, rfl⟩, ⟨_, rfl, rfl⟩⟩
  have twice := once.call (updating .first 3) ⟨fun _ => ⟨_, rfl, rfl⟩, ⟨_, rfl, rfl⟩⟩
  have joined := twice.call (registering 3) ⟨fun _ => ⟨_, rfl, rfl⟩, ⟨_, rfl, rfl⟩⟩
  exact joined.call (updating second 4) ⟨fun _ => ⟨_, rfl, rfl⟩, ⟨_, rfl, rfl⟩⟩

end Scenario

open Scenario in
/-- The registration has what the Update of the second revision brought. -/
theorem updates_of_second_revision :
    ∃ registration, updated.registrationIndex.get (keyOf 1) = some registration ∧
      registration.revision = some second ∧
      Table.SameEntries registration.bindings (snapshot 4).entries := by
  obtain ⟨registration, found, -, -, -, -, highest, -⟩ := updates_of_lease tenure
  exact ⟨registration, found, highest (second, snapshot 4) (by simp)
    (by simp [second, RegistrationRevision.first])⟩

end RelayGate.RouteTable.RouteTableShard
