import RelayGate.Routing.Claims

/-!
# The registration pass

What beginning an operation does to a registration, and what one pass over all
of them does: it prunes some, begins an operation for at most one, and leaves
the others as they are.
-/

namespace RelayGate.Routing

open Library Table
open RouteTable

variable {state after : RegistrationState} {now : Instant} {action : RegistrationAction}
  {before : Registrations} {progress : PassProgress} {ticket : OperationTicket}

/-! ## Beginning an operation -/

/-- When each operation is due. -/
inductive Due (state : RegistrationState) : RegistrationAction → Prop
  | deregister (lease : LeaseState) (undesired : state.snapshot = none)
      (leased : state.lease = some lease) :
      Due state (.deregister state.key lease.id)
  | register (snapshot : BindingSnapshot)
      (desired : state.snapshot = some snapshot)
      (unleased : state.lease = none) : Due state (.register state.key)
  | keepAlive (snapshot : BindingSnapshot) (lease : LeaseState)
      (desired : state.snapshot = some snapshot)
      (leased : state.lease = some lease) :
      Due state (.keepAlive state.key lease.id)
  | update (snapshot : BindingSnapshot) (lease : LeaseState)
      (revision : RegistrationRevision)
      (desired : state.snapshot = some snapshot)
      (leased : state.lease = some lease)
      (unsynced : state.syncedVersion ≠ some state.desiredVersion) :
      Due state (.update state.key lease.id revision snapshot)

theorem due_of_nextAction
    (chosen : state.nextAction now = .ok (some action)) : Due state action := by
  unfold RegistrationState.nextAction at chosen
  cases desired : state.snapshot with
  | none =>
    cases leased : state.lease with
    | none =>
      rw [desired, leased] at chosen
      cases chosen
    | some lease =>
      rw [desired, leased] at chosen
      cases chosen
      exact Due.deregister lease desired leased
  | some snapshot =>
    cases leased : state.lease with
    | none =>
      rw [desired, leased] at chosen
      cases chosen
      exact Due.register snapshot desired leased
    | some lease =>
      rw [desired, leased] at chosen
      dsimp only at chosen
      split at chosen
      · cases chosen
        exact Due.keepAlive snapshot lease desired leased
      · split at chosen
        · rename_i unsynced
          split at chosen
          · cases chosen
          · cases chosen
            exact Due.update snapshot lease _ desired leased unsynced
        · split at chosen
          · cases chosen
            exact Due.keepAlive snapshot lease desired leased
          · cases chosen

theorem Due.key_eq (due : Due state action) : action.key = state.key := by
  cases due with
  | deregister | register | keepAlive | update => rfl

/-- A registration that claims its snapshot only renews its lease. -/
theorem Due.isKeepAlive_of_claims (due : Due state action)
    {leaseId : LeaseId} {snapshot : BindingSnapshot}
    (claims : state.Claims leaseId snapshot) : action.isKeepAlive = true := by
  cases due with
  | deregister lease undesired =>
    have held := claims.snapshot
    rw [undesired] at held
    cases held
  | register desired held unleased =>
    have lease := claims.lease
    rw [RegistrationState.currentLeaseId, unleased] at lease
    cases lease
  | keepAlive => rfl
  | update desired lease revision held leased unsynced =>
    exact absurd claims.synced unsynced

/-- `after` is `before` with the operation `ticket` pending. -/
structure Begun (now : Instant) (before after : RegistrationState)
    (ticket : OperationTicket) : Prop where
  idle : before.pending = none
  live : before.terminal = false
  chosen : before.nextAction now = .ok (some ticket.action)
  version : ticket.desiredVersion = before.desiredVersion
  result : ∃ nextAttemptId, after =
    { before with nextAttemptId := nextAttemptId, pending := some ticket }

theorem begun_of_beginNext (begun : state.beginNext now = .ok (some ticket, after)) :
    Begun now state after ticket := by
  unfold RegistrationState.beginNext at begun
  split at begun
  · cases begun
  · rename_i ready
    rw [Bool.or_eq_true, Bool.or_eq_true, not_or, not_or] at ready
    obtain ⟨⟨idle, live⟩, -⟩ := ready
    split at begun
    · cases begun
    · cases begun
    · rename_i action chosen
      split at begun
      · cases begun
      · rename_i nextAttemptId fits
        cases begun
        exact ⟨Option.not_isSome_iff_eq_none.mp idle,
          Bool.eq_false_iff.mpr live, chosen, rfl, nextAttemptId, rfl⟩

theorem eq_of_beginNext_none
    (nothing : state.beginNext now = .ok (none, after)) : after = state := by
  unfold RegistrationState.beginNext at nothing
  split at nothing
  · cases nothing
    rfl
  · split at nothing
    · cases nothing
    · cases nothing
      rfl
    · split at nothing
      · cases nothing
      · cases nothing

namespace Begun

variable {now : Instant} {before after : RegistrationState} {ticket : OperationTicket}
  (begun : Begun now before after ticket)
include begun

theorem key_eq : after.key = before.key := by
  obtain ⟨_, same⟩ := begun.result
  rw [same]

theorem version_eq : after.desiredVersion = before.desiredVersion := by
  obtain ⟨_, same⟩ := begun.result
  rw [same]

theorem snapshot_eq : after.snapshot = before.snapshot := by
  obtain ⟨_, same⟩ := begun.result
  rw [same]

theorem pending_eq : after.pending = some ticket := by
  obtain ⟨_, same⟩ := begun.result
  rw [same]

theorem claimsFrom : RegistrationState.ClaimsFrom before after := by
  obtain ⟨_, same⟩ := begun.result
  rw [same]
  intro leaseId snapshot claims
  exact ⟨snapshot, ⟨claims.lease, claims.snapshot, claims.synced⟩, Table.SameEntries.refl _⟩

theorem due : Due before ticket.action :=
  due_of_nextAction begun.chosen

end Begun

/-! ## One pass -/

/-- What a pass has made of the registrations so far: each one left was there
before, unchanged or with the selected operation begun, and the selected
operation was begun by one of them. -/
structure Passed (now : Instant) (before : Registrations)
    (progress : PassProgress) : Prop where
  kept : ∀ sessionId after, progress.registrations.get sessionId = some after →
    ∃ state, before.get sessionId = some state ∧
      (after = state ∨ ∃ ticket, progress.pass.ticket = some ticket ∧
        Begun now state after ticket)
  selected : ∀ ticket, progress.pass.ticket = some ticket →
    ∃ sessionId state after, before.get sessionId = some state ∧
      progress.registrations.get sessionId = some after ∧
      Begun now state after ticket

theorem passed_start (now : Instant) (registrations : Registrations) :
    Passed now registrations ⟨registrations, ⟨none, none, RegistrationCounts.zero⟩, none⟩ where
  kept _ after found := ⟨after, found, Or.inl rfl⟩
  selected _ selected := by cases selected

/-- What selecting at one registration can do. -/
theorem selectNext_cases (progress : PassProgress) (state : RegistrationState) (now : Instant) :
    ((selectNext progress state now).1 = progress.pass.ticket ∧
        (selectNext progress state now).2.2 = state) ∨
      ∃ ticket, progress.pass.ticket = none ∧
        (selectNext progress state now).1 = some ticket ∧
        Begun now state (selectNext progress state now).2.2 ticket := by
  unfold selectNext
  split
  · rename_i unselected
    rw [Bool.and_eq_true, Option.isNone_iff_eq_none, Option.isNone_iff_eq_none] at unselected
    rw [unselected.2]
    cases begun : state.beginNext now with
    | error => exact Or.inl ⟨rfl, rfl⟩
    | ok result =>
      obtain ⟨ticket, after⟩ := result
      cases ticket with
      | none => exact Or.inl ⟨rfl, eq_of_beginNext_none begun⟩
      | some ticket =>
        exact Or.inr ⟨ticket, rfl, rfl, begun_of_beginNext begun⟩
  · exact Or.inl ⟨rfl, rfl⟩

/-- A registration that is still as it was did not begin the operation. -/
theorem Passed.selected_elsewhere (passed : Passed now before progress)
    {sessionId : RelaySessionId} (stored : before.get sessionId = some state)
    (unvisited : progress.registrations.get sessionId = some state)
    (selected : progress.pass.ticket = some ticket) :
    ∃ other earlier after, other ≠ sessionId ∧
      before.get other = some earlier ∧
      progress.registrations.get other = some after ∧
      Begun now earlier after ticket := by
  obtain ⟨other, earlier, after, found, left, begun⟩ := passed.selected ticket selected
  refine ⟨other, earlier, after, ?_, found, left, begun⟩
  rintro rfl
  rw [stored] at found
  rw [unvisited] at left
  cases found
  cases left
  have idle := begun.idle
  rw [begun.pending_eq] at idle
  cases idle

theorem Passed.visit (passed : Passed now before progress)
    {entry : RelaySessionId × RegistrationState} (stored : before.get entry.1 = some entry.2)
    (unvisited : progress.registrations.get entry.1 = some entry.2) :
    Passed now before (visitRegistration now progress entry) := by
  obtain ⟨sessionId, state⟩ := entry
  unfold visitRegistration
  split
  · constructor
    · intro other after found
      rw [get_remove] at found
      split at found
      · cases found
      · exact passed.kept other after found
    · intro ticket selected
      obtain ⟨other, earlier, after, distinct, found, left, begun⟩ :=
        passed.selected_elsewhere stored unvisited selected
      exact ⟨other, earlier, after, found, by rw [get_remove_of_ne _ distinct]; exact left, begun⟩
  · dsimp only
    rcases selectNext_cases progress state now with
      ⟨sameTicket, sameState⟩ | ⟨ticket, unselected, chosen, begun⟩
    · rw [sameTicket, sameState]
      constructor
      · intro other after found
        rw [get_insert] at found
        split at found
        · rename_i here
          cases found
          exact ⟨state, by rw [here]; exact stored, Or.inl rfl⟩
        · exact passed.kept other after found
      · intro ticket selected
        obtain ⟨other, earlier, after, distinct, found, left, begun⟩ :=
          passed.selected_elsewhere stored unvisited selected
        exact ⟨other, earlier, after, found,
          by rw [get_insert_of_ne _ _ distinct]; exact left, begun⟩
    · constructor
      · intro other after found
        rw [get_insert] at found
        split at found
        · rename_i here
          cases found
          exact ⟨state, by rw [here]; exact stored,
            Or.inr ⟨ticket, chosen, begun⟩⟩
        · obtain ⟨earlier, there, same | ⟨other, selected, -⟩⟩ :=
            passed.kept other after found
          · exact ⟨earlier, there, Or.inl same⟩
          · rw [unselected] at selected
            cases selected
      · intro other selected
        rw [chosen] at selected
        cases selected
        exact ⟨sessionId, state, _, stored, get_insert_self _ _ _, begun⟩

/-- A visit leaves the other registrations alone. -/
theorem get_visitRegistration_of_ne (now : Instant) (progress : PassProgress)
    (entry : RelaySessionId × RegistrationState) {other : RelaySessionId}
    (distinct : other ≠ entry.1) :
    (visitRegistration now progress entry).registrations.get other =
      progress.registrations.get other := by
  unfold visitRegistration
  split
  · exact get_remove_of_ne _ distinct
  · exact get_insert_of_ne _ _ distinct

theorem passed_foldl (entries : List (RelaySessionId × RegistrationState))
    (distinct : (entries.map Prod.fst).Nodup)
    (stored : ∀ entry ∈ entries, before.get entry.1 = some entry.2)
    (passed : Passed now before progress)
    (unvisited : ∀ entry ∈ entries, progress.registrations.get entry.1 = some entry.2) :
    Passed now before (entries.foldl (visitRegistration now) progress) := by
  induction entries generalizing progress with
  | nil => exact passed
  | cons entry entries ih =>
    rw [List.map_cons, List.nodup_cons] at distinct
    refine ih distinct.2
      (fun later member => stored later (List.mem_cons_of_mem _ member))
      (passed.visit (stored entry List.mem_cons_self) (unvisited entry List.mem_cons_self)) ?_
    intro later member
    rw [get_visitRegistration_of_ne]
    · exact unvisited later (List.mem_cons_of_mem _ member)
    · intro same
      exact distinct.1 (same ▸ List.mem_map_of_mem member)

/-- A whole pass over the registrations. -/
theorem passed_all (now : Instant) (registrations : Registrations) :
    Passed now registrations
      ((orderedRegistrations registrations).foldl (visitRegistration now)
        ⟨registrations, ⟨none, none, RegistrationCounts.zero⟩, none⟩) := by
  have perm : (orderedRegistrations registrations).Perm registrations.toList :=
    List.perm_insertionSort _ _
  have stored : ∀ entry ∈ orderedRegistrations registrations,
      registrations.get entry.1 = some entry.2 := by
    intro entry member
    exact mem_toList.mp (perm.mem_iff.mp member)
  refine passed_foldl _ ?_ stored (passed_start now registrations) stored
  exact (perm.map Prod.fst).nodup_iff.mpr registrations.nodup_keys

end RelayGate.Routing
