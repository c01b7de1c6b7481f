import RelayGate.Routing.Worker

/-!
# What a registration claims

A registration claims a snapshot under a lease while its synchronized version
is its desired version.  A claim is gained only by the acknowledgement of an
Update for the current version; every other transition keeps it, moves it to an
equal snapshot, or gives it up.
-/

namespace RelayGate.Routing

open Library
open RouteTable

namespace RegistrationState

variable {state after before : RegistrationState} {ticket : OperationTicket}
  {desiredVersion : Nat}

/-- The registration takes the shard to hold `snapshot` under `leaseId`. -/
structure Claims (state : RegistrationState) (leaseId : LeaseId)
    (snapshot : BindingSnapshot) : Prop where
  lease : state.currentLeaseId = some leaseId
  snapshot : state.snapshot = some snapshot
  synced : state.syncedVersion = some state.desiredVersion

/-- A synchronized registration claims its snapshot. -/
theorem claims_of_synced (synced : state.phase = .synced) :
    ∃ lease snapshot, state.lease = some lease ∧ state.Claims lease.id snapshot := by
  unfold phase at synced
  split at synced
  · cases synced
  · split at synced
    · split at synced
      · cases synced
      · cases synced
    · rename_i desired
      split at synced
      · cases synced
      · rename_i lease leased
        split at synced
        · rename_i current
          obtain ⟨snapshot, held⟩ : ∃ snapshot, state.snapshot = some snapshot :=
            Option.ne_none_iff_exists'.mp fun absent =>
              desired (Option.isNone_iff_eq_none.mpr absent)
          exact ⟨lease, snapshot, leased,
            by rw [currentLeaseId, leased, Option.map_some], held, current.2⟩
        · split at synced
          · cases synced
          · cases synced

/-- Every claim of `after` was, up to equality of snapshots, one of `before`. -/
def ClaimsFrom (before after : RegistrationState) : Prop :=
  ∀ leaseId snapshot, after.Claims leaseId snapshot →
    ∃ earlier, before.Claims leaseId earlier ∧
      Table.SameEntries earlier.entries snapshot.entries

theorem ClaimsFrom.of_unsynced
    (unsynced : after.syncedVersion = none) : ClaimsFrom before after := by
  intro leaseId snapshot claims
  have synced := claims.synced
  rw [unsynced] at synced
  cases synced

/-! ## Taking a ticket -/

section

variable (state : RegistrationState) (ticket : OperationTicket)

/-- A ticket is taken at most once, and only if it is the pending one. -/
theorem takePending_cases :
    state.takePending ticket = (false, state) ∨
      ∃ pending, state.pending = some pending ∧ pending.Same ticket ∧
        state.takePending ticket =
          (decide (state.currentLeaseId = ticket.action.leaseId),
            { state with pending := none }) := by
  unfold takePending
  cases waiting : state.pending with
  | none => exact Or.inl rfl
  | some pending =>
    dsimp only
    split
    · rename_i same
      exact Or.inr ⟨pending, rfl, same, rfl⟩
    · exact Or.inl rfl

/-- Taking a ticket changes nothing but the pending ticket. -/
theorem takePending_snd :
    (state.takePending ticket).2 = state ∨
      (state.takePending ticket).2 = { state with pending := none } := by
  rcases state.takePending_cases ticket with kept | ⟨_, _, _, taken⟩
  · rw [kept]
    exact Or.inl rfl
  · rw [taken]
    exact Or.inr rfl

theorem takeCurrent_snd : (state.takeCurrent ticket).2 = (state.takePending ticket).2 :=
  rfl

end

/-- A taken ticket was the pending one and is for the current lease. -/
theorem takePending_fst (taken : (state.takePending ticket).1 = true) :
    ∃ pending, state.pending = some pending ∧ pending.Same ticket ∧
      state.currentLeaseId = ticket.action.leaseId ∧
      (state.takePending ticket).2 = { state with pending := none } := by
  rcases state.takePending_cases ticket with kept | ⟨pending, waiting, same, eq⟩
  · rw [kept] at taken
    cases taken
  · rw [eq] at taken ⊢
    exact ⟨pending, waiting, same, of_decide_eq_true taken, rfl⟩

/-- A current ticket is also for the current desired version. -/
theorem takeCurrent_fst (current : (state.takeCurrent ticket).1 = true) :
    (state.takePending ticket).1 = true ∧ state.desiredVersion = ticket.desiredVersion := by
  have both : ((state.takePending ticket).1 &&
      decide ((state.takePending ticket).2.desiredVersion =
        ticket.desiredVersion)) = true := current
  rw [Bool.and_eq_true, decide_eq_true_eq] at both
  obtain ⟨taken, version⟩ := both
  refine ⟨taken, ?_⟩
  rcases state.takePending_snd ticket with same | same
  · rw [same] at version
    exact version
  · rw [same] at version
    exact version

/-! ## Transitions that gain no claim -/

/-- An answer or a failure: the desired state stays, the pending ticket stays
or goes, and no claim is gained. -/
structure Settles (before after : RegistrationState) : Prop where
  key : after.key = before.key
  version : after.desiredVersion = before.desiredVersion
  snapshot : after.snapshot = before.snapshot
  pending : after.pending = none ∨ after.pending = before.pending

section

variable (state : RegistrationState)

theorem settles_refl : Settles state state :=
  ⟨rfl, rfl, rfl, Or.inr rfl⟩

theorem settles_takePending (ticket : OperationTicket) :
    Settles state (state.takePending ticket).2 := by
  rcases state.takePending_snd ticket with same | same
  · rw [same]
    exact settles_refl state
  · rw [same]
    exact ⟨rfl, rfl, rfl, Or.inl rfl⟩

theorem claimsFrom_refl : ClaimsFrom state state :=
  fun _ snapshot claims => ⟨snapshot, claims, Table.SameEntries.refl _⟩

theorem claimsFrom_takePending (ticket : OperationTicket) :
    ClaimsFrom state (state.takePending ticket).2 := by
  rcases state.takePending_snd ticket with same | same
  · rw [same]
    exact claimsFrom_refl state
  · rw [same]
    intro leaseId snapshot claims
    exact ⟨snapshot, ⟨claims.lease, claims.snapshot, claims.synced⟩, Table.SameEntries.refl _⟩

end

/-- A transition that settles and gains no claim. -/
structure Yields (before after : RegistrationState) : Prop where
  settles : Settles before after
  claims : ClaimsFrom before after

section

variable (state : RegistrationState)

section

variable (ticket : OperationTicket)

theorem yields_takePending : Yields state (state.takePending ticket).2 :=
  ⟨settles_takePending state ticket, claimsFrom_takePending state ticket⟩

/-- After taking a ticket, a transition that keeps the desired state and is not
synchronized yields. -/
theorem yields_of_unsynced (key : after.key = (state.takePending ticket).2.key)
    (version : after.desiredVersion = (state.takePending ticket).2.desiredVersion)
    (snapshot : after.snapshot = (state.takePending ticket).2.snapshot)
    (pending : after.pending = (state.takePending ticket).2.pending)
    (unsynced : after.syncedVersion = none) : Yields state after := by
  have settles := settles_takePending state ticket
  refine ⟨⟨key.trans settles.key, version.trans settles.version,
    snapshot.trans settles.snapshot, ?_⟩, ClaimsFrom.of_unsynced unsynced⟩
  rw [pending]
  exact settles.pending

variable (ack : RegistrationAck) (now : Instant)

theorem yields_registerSucceeded : Yields state (state.registerSucceeded ticket ack now) := by
  unfold registerSucceeded
  dsimp only
  split
  · exact yields_of_unsynced state ticket rfl rfl rfl rfl rfl
  · exact yields_takePending state ticket

theorem yields_terminalFailure : Yields state (state.terminalFailure ticket) := by
  unfold terminalFailure
  dsimp only
  split
  · exact yields_of_unsynced state ticket rfl rfl rfl rfl rfl
  · exact yields_takePending state ticket

theorem yields_transientFailure : Yields state (state.transientFailure ticket now) := by
  unfold transientFailure
  dsimp only
  split
  · exact yields_of_unsynced state ticket rfl rfl rfl rfl rfl
  · exact yields_takePending state ticket

theorem yields_finishDeregister : Yields state (state.finishDeregister ticket) := by
  unfold finishDeregister
  dsimp only
  split
  · exact yields_of_unsynced state ticket rfl rfl rfl rfl rfl
  · exact yields_takePending state ticket

theorem yields_preconditionFailed : Yields state (state.preconditionFailed ticket now) := by
  unfold preconditionFailed
  split
  · exact yields_terminalFailure state ticket
  · dsimp only
    split
    · split
      · exact yields_of_unsynced state ticket rfl rfl rfl rfl rfl
      · split
        · exact yields_of_unsynced state ticket rfl rfl rfl rfl rfl
        · exact yields_takePending state ticket
    · exact yields_takePending state ticket

/-- A KeepAlive moves the deadlines of the lease and nothing else it claims. -/
theorem yields_keepAliveSucceeded : Yields state (state.keepAliveSucceeded ticket ack now) := by
  have taken := yields_takePending state ticket
  unfold keepAliveSucceeded
  split
  · dsimp only
    rw [takeCurrent_snd]
    split
    · split
      · exact taken
      · rename_i lease leased
        split
        · exact taken
        · refine ⟨{ taken.settles with }, ?_⟩
          intro leaseId snapshot claims
          refine taken.claims leaseId snapshot
            ⟨?_, claims.snapshot, claims.synced⟩
          rw [currentLeaseId, leased]
          exact claims.lease
    · exact taken
  · exact ⟨settles_refl state, claimsFrom_refl state⟩

end

theorem yields_connectionLost (now : Instant) : Yields state (state.connectionLost now) :=
  ⟨⟨rfl, rfl, rfl, Or.inr rfl⟩, fun _ snapshot claims =>
    ⟨snapshot, ⟨claims.lease, claims.snapshot, claims.synced⟩, Table.SameEntries.refl _⟩⟩

theorem yields_markTerminal : Yields state state.markTerminal := by
  unfold markTerminal
  dsimp only
  split
  · exact ⟨⟨rfl, rfl, rfl, Or.inl rfl⟩, ClaimsFrom.of_unsynced rfl⟩
  · exact ⟨⟨rfl, rfl, rfl, Or.inl rfl⟩, ClaimsFrom.of_unsynced rfl⟩

end

/-! ## Publication -/

/-- What a newer publication makes of a registration. -/
structure Published (before after : RegistrationState) (desiredVersion : Nat)
    (desired : Option BindingSnapshot) : Prop where
  key : after.key = before.key
  version : after.desiredVersion = desiredVersion
  snapshot : after.snapshot = desired
  synced : after.syncedVersion =
    if SameSnapshot before.snapshot desired ∧ before.phase = .synced then
      some desiredVersion
    else
      none
  pending : after.pending = none ∨ after.pending = before.pending
  lease : after.lease = none ∨ after.lease = before.lease
  terminal : after.terminal = before.terminal
  probe : after.preconditionProbeActive = before.preconditionProbeActive

theorem published_publish (state : RegistrationState)
    (newer : state.desiredVersion < desiredVersion)
    (snapshot : Option BindingSnapshot) (now : Instant) :
    Published state (state.publish desiredVersion snapshot now) desiredVersion snapshot := by
  have synced : (if (decide (SameSnapshot state.snapshot snapshot) &&
        state.isSynced) = true then some desiredVersion else none) =
      if SameSnapshot state.snapshot snapshot ∧ state.phase = .synced then
        some desiredVersion
      else
        none := by
    simp only [isSynced, Bool.and_eq_true, decide_eq_true_eq]
  unfold publish
  rw [if_neg (Nat.not_le.mpr newer)]
  dsimp only
  split
  · split
    · exact ⟨rfl, rfl, rfl, synced, Or.inl rfl, Or.inl rfl, rfl, rfl⟩
    · exact ⟨rfl, rfl, rfl, synced, Or.inr rfl, Or.inr rfl, rfl, rfl⟩
  · split
    · exact ⟨rfl, rfl, rfl, synced, Or.inl rfl, Or.inl rfl, rfl, rfl⟩
    · exact ⟨rfl, rfl, rfl, synced, Or.inr rfl, Or.inr rfl, rfl, rfl⟩

theorem publish_of_old (state : RegistrationState) (old : desiredVersion ≤ state.desiredVersion)
    (snapshot : Option BindingSnapshot) (now : Instant) :
    state.publish desiredVersion snapshot now = state := by
  unfold publish
  rw [if_pos old]

/-- Publishing keeps a claim only for an equal snapshot. -/
theorem Published.claimsFrom {snapshot : Option BindingSnapshot}
    (published : Published before after desiredVersion snapshot) : ClaimsFrom before after := by
  intro leaseId current claims
  have synced := claims.synced
  rw [published.synced] at synced
  split at synced
  · rename_i unchanged
    obtain ⟨lease, earlier, leased, old⟩ := claims_of_synced unchanged.2
    have sameLease : some lease.id = some leaseId := by
      rw [← claims.lease, ← old.lease, currentLeaseId, currentLeaseId]
      rcases published.lease with dropped | kept
      · have held := claims.lease
        rw [currentLeaseId, dropped] at held
        cases held
      · rw [kept]
    cases sameLease
    refine ⟨earlier, old, ?_⟩
    have equal := unchanged.1
    rw [old.snapshot, ← published.snapshot, claims.snapshot] at equal
    exact equal
  · cases synced

/-! ## The acknowledgement of an Update -/

theorem settles_updateSucceeded (state : RegistrationState)
    (ticket : OperationTicket) (ack : RegistrationAck) (now : Instant) :
    Settles state (state.updateSucceeded ticket ack now) := by
  have taken := settles_takePending state ticket
  unfold updateSucceeded
  split
  · dsimp only
    split
    · split
      · exact taken
      · split
        · exact taken
        · exact { taken with }
    · exact taken
  · exact settles_refl state

/-- An Update gains a claim only for its own lease, by a taken ticket of the
current desired version. -/
theorem claims_updateSucceeded {ack : RegistrationAck} {now : Instant}
    {leaseId : LeaseId} {snapshot : BindingSnapshot}
    (claims : (state.updateSucceeded ticket ack now).Claims leaseId snapshot) :
    state.Claims leaseId snapshot ∨
      ∃ key revision updated pending,
        ticket.action = .update key leaseId revision updated ∧
        state.pending = some pending ∧ pending.Same ticket ∧
        state.desiredVersion = ticket.desiredVersion := by
  have kept : (state.takePending ticket).2.Claims leaseId snapshot →
      state.Claims leaseId snapshot := by
    intro held
    rcases state.takePending_snd ticket with same | same
    · rw [same] at held
      exact held
    · rw [same] at held
      exact { held with }
  unfold updateSucceeded at claims
  split at claims
  · rename_i key updateLease revision updated action
    dsimp only at claims
    split at claims
    · rename_i accepted
      rw [Bool.and_eq_true] at accepted
      obtain ⟨pending, waiting, same, -, emptied⟩ := takePending_fst accepted.1
      rw [emptied] at claims
      dsimp only at claims
      split at claims
      · exact Or.inl { claims with }
      · rename_i lease leased
        split at claims
        · exact Or.inl { claims with }
        · rename_i sameLease
          have held : some lease.id = some leaseId := claims.lease
          have updatedLease : updateLease = leaseId :=
            (not_not.mp sameLease).symm.trans (Option.some.inj held)
          by_cases version : state.desiredVersion = ticket.desiredVersion
          · right
            exact ⟨key, revision, updated, pending, by rw [action, updatedLease],
              waiting, same, version⟩
          · left
            have synced := claims.synced
            change (if state.desiredVersion = ticket.desiredVersion then _
              else state.syncedVersion) = some state.desiredVersion at synced
            rw [if_neg version] at synced
            refine ⟨?_, claims.snapshot, synced⟩
            rw [currentLeaseId, leased]
            exact held
    · exact Or.inl (kept claims)
  · exact Or.inl claims

end RegistrationState

end RelayGate.Routing
