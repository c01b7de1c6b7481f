import RelayGate.Routing.Coherence

/-!
# Replies to lease operations

What a shard can answer when generation, identity and authority match, and what
each answer does to the terminality of a registration.  Only a lease-bound
FAILED_PRECONDITION moves it: the first one starts a probe, the second one in a
row is terminal, and an acknowledged Update or KeepAlive starts over.
-/

namespace RelayGate.Routing

open Library
open RouteTable
open RouteTable.RouteTableShard (Framed)

variable {error : RouteTableError} {registration : RouteTable.RegistrationState}
  {snapshot : BindingSnapshot}

/-! ## The answers of a matching shard -/

/-- The answers an operation can get when everything matches: a Register is
never refused, and only a lease-bound operation fails its precondition. -/
def Acceptable : RegistrationAction → OperationResult → Prop
  | .deregister _ _, .deregister _ => True
  | .register _, .registration (.ok _) => True
  | .update _ _ _ _, .registration (.ok _) => True
  | .keepAlive _ _, .registration (.ok _) => True
  | .register _, .registration (.error error) =>
      isConnectionError error.code = true
  | .update _ _ _ _, .registration (.error error) =>
      error.code = .failedPrecondition ∨ isConnectionError error.code = true
  | .keepAlive _ _, .registration (.error error) =>
      error.code = .failedPrecondition ∨ isConnectionError error.code = true
  | _, _ => False

theorem acceptable_failureOf (action : RegistrationAction)
    {error : TransportError} (connection : isConnectionError error.code = true) :
    Acceptable action (failureOf action error) := by
  cases action with
  | register => exact connection
  | update | keepAlive => exact Or.inr connection
  | deregister => exact trivial

/-- A request the shard does not reject for what it is. -/
structure Admissible (gatewayId : GatewayId)
    (generation : ShardDirectoryGeneration) (shard : RouteTableShard)
    (action : RegistrationAction) : Prop where
  request : shard.validateRequest ⟨gatewayId⟩ generation action.key = .ok ()
  snapshot : ∀ key leaseId revision snapshot,
    action = .update key leaseId revision snapshot →
      shard.validateSnapshot key snapshot = .ok ()

/-- A revision is refused only with a failed precondition. -/
theorem failedPrecondition_of_refused {revision : RegistrationRevision}
    (refused : RouteTableShard.checkRevision registration revision snapshot =
      .refused error) : errorCode error = .failedPrecondition := by
  unfold RouteTableShard.checkRevision at refused
  split at refused
  · split at refused
    · cases refused
      rfl
    · cases refused
  · split at refused
    · split at refused
      · cases refused
      · cases refused
        rfl
    · split at refused
      · cases refused
        rfl
      · cases refused

theorem failedPrecondition_of_unstable
    (unstable : RouteTableShard.validateCurrentBindingIdentityStability
      registration snapshot = .error error) :
    errorCode error = .failedPrecondition := by
  unfold RouteTableShard.validateCurrentBindingIdentityStability at unstable
  split at unstable
  · cases unstable
    rfl
  · cases unstable

theorem failedPrecondition_of_currentRegistration {shard : RouteTableShard}
    {key : RegistrationKey} {leaseId : LeaseId}
    (missing : shard.currentRegistration key leaseId = .error error) :
    errorCode error = .failedPrecondition := by
  unfold RouteTableShard.currentRegistration at missing
  split at missing
  · cases missing
    rfl
  · split at missing
    · cases missing
      rfl
    · cases missing

section Answers

variable {key : RegistrationKey} {now : Instant} {error : RouteTableError}
  {shard : RouteTableShard} {gatewayId : GatewayId}
  {generation : ShardDirectoryGeneration} {leaseId : LeaseId}

section

variable (valid : shard.validateRequest ⟨gatewayId⟩ generation key = .ok ())
include valid

theorem errorCode_of_register {draws : LeaseDraws}
    (failed : (shard.register draws ⟨gatewayId⟩ generation key now).1 = .error error) :
    isConnectionError (errorCode error) = true := by
  unfold RouteTableShard.register at failed
  rw [valid] at failed
  dsimp only at failed
  split at failed
  · cases failed
  · split at failed
    · cases failed
      rfl
    · cases failed

theorem errorCode_of_update {revision : RegistrationRevision} {snapshot : BindingSnapshot}
    (authorized : shard.validateSnapshot key snapshot = .ok ())
    (failed : (shard.update ⟨gatewayId⟩ generation key leaseId revision snapshot
      now).1 = .error error) : errorCode error = .failedPrecondition := by
  have checked : (do
      shard.validateRequest ⟨gatewayId⟩ generation key
      shard.validateSnapshot key snapshot) = Except.ok () := by
    rw [valid]
    exact authorized
  unfold RouteTableShard.update at failed
  rw [checked] at failed
  dsimp only at failed
  split at failed
  · rename_i missing
    cases failed
    exact failedPrecondition_of_currentRegistration missing
  · split at failed
    · rename_i refused
      cases failed
      exact failedPrecondition_of_refused refused
    · cases failed
    · split at failed
      · rename_i unstable
        cases failed
        exact failedPrecondition_of_unstable unstable
      · cases failed

theorem errorCode_of_keepAlive
    (failed : (shard.keepAlive ⟨gatewayId⟩ generation key leaseId now).1 = .error error) :
    errorCode error = .failedPrecondition ∨ isConnectionError (errorCode error) = true := by
  unfold RouteTableShard.keepAlive at failed
  rw [valid] at failed
  dsimp only at failed
  split at failed
  · rename_i missing
    cases failed
    exact Or.inl (failedPrecondition_of_currentRegistration missing)
  · split at failed
    · cases failed
      exact Or.inr rfl
    · cases failed

end

/-- A shard gives an admissible request an acceptable answer. -/
theorem acceptable_applyAction {action : RegistrationAction}
    (admissible : Admissible gatewayId generation shard action)
    (draws : LeaseDraws) (now : Instant) :
    Acceptable action (applyAction shard draws gatewayId generation action now).1 := by
  cases action with
  | register key =>
    unfold applyAction
    dsimp only
    cases answer : (shard.register draws ⟨gatewayId⟩ generation key now).1 with
    | ok => exact trivial
    | error =>
      exact errorCode_of_register admissible.request answer
  | update key leaseId revision snapshot =>
    unfold applyAction
    dsimp only
    cases answer : (shard.update ⟨gatewayId⟩ generation key leaseId revision snapshot now).1 with
    | ok => exact trivial
    | error =>
      exact Or.inl (errorCode_of_update admissible.request
        (admissible.snapshot _ _ _ _ rfl) answer)
  | keepAlive key leaseId =>
    unfold applyAction
    dsimp only
    cases answer : (shard.keepAlive ⟨gatewayId⟩ generation key leaseId now).1 with
    | ok => exact trivial
    | error => exact errorCode_of_keepAlive admissible.request answer
  | deregister => exact trivial

end Answers

/-! ## The journal of a registration -/

/-- Two refused lease operations in a row. -/
def RefusedTwice (journal : List LeaseReply) : Prop :=
  [LeaseReply.refused, LeaseReply.refused] <:+: journal

theorem refusedTwice_concat (journal : List LeaseReply) (reply : LeaseReply) :
    RefusedTwice (journal ++ [reply]) ↔
      RefusedTwice journal ∨ (journal.getLast? = some .refused ∧ reply = .refused) := by
  unfold RefusedTwice
  rw [List.infix_concat_iff, or_comm]
  apply or_congr Iff.rfl
  constructor
  · rintro ⟨earlier, same⟩
    have split : (earlier ++ [LeaseReply.refused]) ++ [LeaseReply.refused] =
        journal ++ [reply] := by
      rw [← same]
      simp
    obtain ⟨front, last⟩ := List.append_inj' split rfl
    cases last
    rw [← front]
    exact ⟨by simp, rfl⟩
  · rintro ⟨last, rfl⟩
    obtain ⟨earlier, same⟩ := List.getLast?_eq_some_iff.mp last
    exact ⟨earlier, by rw [same]; simp⟩

namespace RegistrationState

variable {journal : List LeaseReply} {state after : RegistrationState}
  {ticket : OperationTicket} {leaseId : LeaseId} {error : TransportError}
  {key : RegistrationKey}

/-- A registration is terminal exactly when its journal has two refusals in a
row, and probes exactly when the last reply was a refusal. -/
structure Recorded (journal : List LeaseReply) (state : RegistrationState) :
    Prop where
  terminal : state.terminal = true ↔ RefusedTwice journal
  probe : state.preconditionProbeActive = true ↔
    journal.getLast? = some .refused
  idle : state.terminal = true → state.pending = none

/-- A transition that decides nothing about terminality. -/
structure SameFate (before after : RegistrationState) : Prop where
  terminal : after.terminal = before.terminal
  probe : after.preconditionProbeActive = before.preconditionProbeActive
  pending : after.pending = none ∨ after.pending = before.pending

theorem Recorded.of_sameFate (recorded : Recorded journal state)
    (same : SameFate state after) : Recorded journal after where
  terminal := by
    rw [same.terminal]
    exact recorded.terminal
  probe := by
    rw [same.probe]
    exact recorded.probe
  idle := by
    rw [same.terminal]
    intro ended
    rcases same.pending with dropped | kept
    · exact dropped
    · rw [kept]
      exact recorded.idle ended

section

variable (state : RegistrationState)

theorem sameFate_refl : SameFate state state :=
  ⟨rfl, rfl, Or.inr rfl⟩

section

variable (ticket : OperationTicket)

theorem sameFate_takePending : SameFate state (state.takePending ticket).2 := by
  rcases state.takePending_snd ticket with same | same
  · rw [same]
    exact sameFate_refl state
  · rw [same]
    exact ⟨rfl, rfl, Or.inl rfl⟩

theorem sameFate_registerSucceeded (ack : RegistrationAck) (now : Instant) :
    SameFate state (state.registerSucceeded ticket ack now) := by
  have taken := state.sameFate_takePending ticket
  unfold registerSucceeded
  dsimp only
  split
  · exact { taken with }
  · exact taken

theorem sameFate_transientFailure (now : Instant) :
    SameFate state (state.transientFailure ticket now) := by
  have taken := state.sameFate_takePending ticket
  unfold transientFailure
  dsimp only
  split
  · exact { taken with }
  · exact taken

theorem sameFate_finishDeregister : SameFate state (state.finishDeregister ticket) := by
  have taken := state.sameFate_takePending ticket
  unfold finishDeregister
  dsimp only
  split
  · exact { taken with }
  · exact taken

theorem sameFate_deregisterCompleted (result : Except TransportError Unit)
    (now : Instant) : SameFate state (state.deregisterCompleted ticket result now) := by
  unfold deregisterCompleted
  split
  · exact sameFate_finishDeregister state ticket
  · split
    · exact sameFate_transientFailure state ticket now
    · exact sameFate_finishDeregister state ticket

end

theorem sameFate_connectionLost (now : Instant) : SameFate state (state.connectionLost now) :=
  ⟨rfl, rfl, Or.inr rfl⟩

theorem sameFate_publish (desiredVersion : Nat) (snapshot : Option BindingSnapshot)
    (now : Instant) : SameFate state (state.publish desiredVersion snapshot now) := by
  by_cases newer : state.desiredVersion < desiredVersion
  · have published := state.published_publish newer snapshot now
    exact { published with }
  · rw [state.publish_of_old (Nat.le_of_not_lt newer)]
    exact sameFate_refl state

end

theorem recorded_new (key : RegistrationKey) (desiredVersion : Nat)
    (snapshot : Option BindingSnapshot) (now : Instant) (retryInitial retryMax : Duration) :
    Recorded [] (RegistrationState.new key desiredVersion snapshot now
      retryInitial retryMax) where
  terminal := by simp [RegistrationState.new, RefusedTwice]
  probe := by simp [RegistrationState.new]
  idle ended := by cases ended

section

variable (recorded : Recorded journal state)
include recorded

theorem Recorded.begun {now : Instant} (begun : Begun now state after ticket) :
    Recorded journal after := by
  obtain ⟨nextAttemptId, same⟩ := begun.result
  subst same
  refine ⟨recorded.terminal, recorded.probe, ?_⟩
  intro ended
  have live := begun.live
  rw [show state.terminal = true from ended] at live
  cases live

/-! ## Replies -/

/-- A registration with a taken ticket is not terminal. -/
theorem Recorded.live (taken : (state.takePending ticket).1 = true) : state.terminal = false := by
  cases ended : state.terminal with
  | false => rfl
  | true =>
    obtain ⟨pending, waiting, -⟩ := takePending_fst taken
    rw [recorded.idle ended] at waiting
    cases waiting

/-- An acknowledged lease operation ends the probe. -/
theorem Recorded.acknowledged (live : state.terminal = false)
    (terminal : after.terminal = false) (probe : after.preconditionProbeActive = false) :
    Recorded (journal ++ [.acknowledged]) after where
  terminal := by
    rw [refusedTwice_concat, ← recorded.terminal, live, terminal]
    simp
  probe := by
    rw [probe]
    simp
  idle ended := by
    rw [terminal] at ended
    cases ended

theorem Recorded.updateSucceeded {revision : RegistrationRevision} {snapshot : BindingSnapshot}
    (action : ticket.action = .update key leaseId revision snapshot)
    (ack : RegistrationAck) (now : Instant) :
    Recorded
      (journal ++ (state.leaseReply ticket (.registration (.ok ack))).toList)
      (state.updateSucceeded ticket ack now) := by
  unfold leaseReply RegistrationState.updateSucceeded
  rw [action]
  dsimp only
  split
  · rename_i accepted
    rw [Bool.and_eq_true] at accepted
    obtain ⟨pending, waiting, same, lease, emptied⟩ := takePending_fst accepted.1
    have live := recorded.live accepted.1
    rw [emptied]
    dsimp only
    rw [action] at lease
    cases leased : state.lease with
    | none =>
      rw [currentLeaseId, leased] at lease
      cases lease
    | some =>
      rw [currentLeaseId, leased] at lease
      dsimp only
      rw [if_neg (not_not.mpr (Option.some.inj lease))]
      exact recorded.acknowledged live live rfl
  · rw [Option.toList_none, List.append_nil]
    exact recorded.of_sameFate (sameFate_takePending state ticket)

theorem Recorded.keepAliveSucceeded (action : ticket.action = .keepAlive key leaseId)
    (ack : RegistrationAck) (now : Instant) :
    Recorded
      (journal ++ (state.leaseReply ticket (.registration (.ok ack))).toList)
      (state.keepAliveSucceeded ticket ack now) := by
  unfold leaseReply RegistrationState.keepAliveSucceeded
  rw [action]
  dsimp only
  split
  · rename_i accepted
    rw [Bool.and_eq_true] at accepted
    have taken := (takeCurrent_fst accepted.1).1
    obtain ⟨pending, waiting, same, lease, emptied⟩ := takePending_fst taken
    have live := recorded.live taken
    rw [takeCurrent_snd, emptied]
    dsimp only
    rw [action] at lease
    cases leased : state.lease with
    | none =>
      rw [currentLeaseId, leased] at lease
      cases lease
    | some =>
      rw [currentLeaseId, leased] at lease
      dsimp only
      rw [if_neg (not_not.mpr (Option.some.inj lease))]
      exact recorded.acknowledged live live rfl
  · rw [Option.toList_none, List.append_nil]
    exact recorded.of_sameFate (sameFate_takePending state ticket)

/-- A failed precondition that takes effect is recorded as a refusal: the first
one starts the probe, the second one in a row is terminal. -/
theorem Recorded.preconditionFailed (bound : ticket.action.leaseId = some leaseId)
    (now : Instant) :
    Recorded
      (journal ++ if (state.takeCurrent ticket).1 then [LeaseReply.refused] else [])
      (state.preconditionFailed ticket now) := by
  unfold RegistrationState.preconditionFailed
  rw [bound]
  dsimp only
  rw [takeCurrent_snd]
  split
  · rename_i current
    have taken := (takeCurrent_fst current).1
    obtain ⟨pending, waiting, same, lease, emptied⟩ := takePending_fst taken
    have live := recorded.live taken
    rw [bound] at lease
    rw [emptied]
    dsimp only
    split
    · rename_i probing
      refine ⟨?_, ?_, fun _ => rfl⟩
      · rw [refusedTwice_concat]
        simp [recorded.probe.mp probing]
      · simp [probing]
    · rename_i quiet
      have fresh : ¬ journal.getLast? = some .refused :=
        fun last => quiet (recorded.probe.mpr last)
      rw [if_pos (by exact lease)]
      refine ⟨?_, ?_, fun _ => rfl⟩
      · change state.terminal = true ↔ _
        rw [refusedTwice_concat, ← recorded.terminal, live]
        simp [fresh]
      · simp [resetRetry]
  · rw [List.append_nil]
    exact recorded.of_sameFate (sameFate_takePending state ticket)

end

theorem leaseReply_of_error (bound : ticket.action.leaseId = some leaseId)
    (lasting : ticket.action.isDeregister = false) :
    (state.leaseReply ticket (.registration (.error error))).toList =
      if error.code = .failedPrecondition then
        if (state.takeCurrent ticket).1 then [LeaseReply.refused] else []
      else [] := by
  unfold leaseReply
  cases action : ticket.action with
  | register =>
    rw [action] at bound
    cases bound
  | deregister =>
    rw [action] at lasting
    cases lasting
  | update | keepAlive =>
    dsimp only
    by_cases refused : error.code = .failedPrecondition
    · cases current : (state.takeCurrent ticket).1 <;> simp [refused]
    · simp [refused]

theorem registrationFailed_of_connection (state : RegistrationState)
    (ticket : OperationTicket) (now : Instant)
    (connection : isConnectionError error.code = true) :
    state.registrationFailed ticket error now = state.transientFailure ticket now := by
  unfold registrationFailed
  cases code : error.code <;> rw [code] at connection <;>
    first | rfl | cases connection

/-- A refused or failed lease operation is recorded. -/
theorem Recorded.registrationFailed (recorded : Recorded journal state)
    (bound : ticket.action.leaseId = some leaseId) (lasting : ticket.action.isDeregister = false)
    (failed : error.code = .failedPrecondition ∨
      isConnectionError error.code = true) (now : Instant) :
    Recorded
      (journal ++ (state.leaseReply ticket (.registration (.error error))).toList)
      (state.registrationFailed ticket error now) := by
  rw [leaseReply_of_error bound lasting]
  rcases failed with refused | connection
  · rw [if_pos refused]
    unfold RegistrationState.registrationFailed
    rw [refused]
    exact recorded.preconditionFailed bound now
  · have other : error.code ≠ .failedPrecondition := by
      intro refused
      rw [refused] at connection
      cases connection
    rw [if_neg other, List.append_nil,
      state.registrationFailed_of_connection ticket now connection]
    exact recorded.of_sameFate (sameFate_transientFailure state ticket now)

/-- Every acceptable completion is recorded. -/
theorem Recorded.completed (recorded : Recorded journal state) {result : OperationResult}
    (acceptable : Acceptable ticket.action result) (now : Instant) :
    Recorded (journal ++ (state.leaseReply ticket result).toList)
      (state.completed ticket result now).2 := by
  cases action : ticket.action with
  | register =>
    have silent : state.leaseReply ticket result = none := by
      unfold leaseReply
      rw [action]
    rw [silent, Option.toList_none, List.append_nil]
    rw [action] at acceptable
    unfold RegistrationState.completed
    rw [action]
    cases result with
    | deregister => cases acceptable
    | registration result =>
      cases result with
      | ok ack =>
        exact recorded.of_sameFate
          (sameFate_registerSucceeded state ticket ack now)
      | error error =>
        change Recorded journal (state.registrationFailed ticket error now)
        rw [state.registrationFailed_of_connection ticket now acceptable]
        exact recorded.of_sameFate
          (sameFate_transientFailure state ticket now)
  | update key leaseId =>
    have bound : ticket.action.leaseId = some leaseId := by
      rw [action]
      rfl
    have lasting : ticket.action.isDeregister = false := by
      rw [action]
      rfl
    rw [action] at acceptable
    unfold RegistrationState.completed
    rw [action]
    cases result with
    | deregister => cases acceptable
    | registration result =>
      cases result with
      | ok ack => exact recorded.updateSucceeded action ack now
      | error =>
        exact recorded.registrationFailed bound lasting acceptable now
  | keepAlive key leaseId =>
    have bound : ticket.action.leaseId = some leaseId := by
      rw [action]
      rfl
    have lasting : ticket.action.isDeregister = false := by
      rw [action]
      rfl
    rw [action] at acceptable
    unfold RegistrationState.completed
    rw [action]
    cases result with
    | deregister => cases acceptable
    | registration result =>
      cases result with
      | ok ack => exact recorded.keepAliveSucceeded action ack now
      | error =>
        exact recorded.registrationFailed bound lasting acceptable now
  | deregister =>
    have silent : state.leaseReply ticket result = none := by
      unfold leaseReply
      rw [action]
    rw [silent, Option.toList_none, List.append_nil]
    rw [action] at acceptable
    unfold RegistrationState.completed
    rw [action]
    cases result with
    | registration result => cases result <;> cases acceptable
    | deregister result =>
      exact recorded.of_sameFate
        (sameFate_deregisterCompleted state ticket result now)

/-- A completion keeps the desired state. -/
theorem settles_completed (state : RegistrationState) (ticket : OperationTicket)
    (result : OperationResult) (now : Instant) :
    Settles state (state.completed ticket result now).2 := by
  rcases state.completed_cases ticket result now with
    yields | ⟨ack, _, _, _, _, _, _, same⟩
  · exact yields.settles
  · rw [same]
    exact state.settles_updateSucceeded ticket ack now

end RegistrationState

end RelayGate.Routing
