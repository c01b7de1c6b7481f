import RelayGate.RouteTable.Leases
import RelayGate.Routing.Coherence
import RelayGate.Routing.Turns

/-!
# Renewing a lease in time

One desired registration and its shard on a common clock.  The connection stays
up, every request is applied and acknowledged within a fixed delay, and the
worker issues an operation as soon as one is offered.

Only a KeepAlive moves the lease forward; the acknowledgement of an Update sets
the next renewal to half of what is left of the lease.  The lease is renewed in
time when four delays fit into the TTL and, whenever another operation than a
KeepAlive is issued, into the rest of the lease.
-/

namespace RelayGate.Routing

open Library
open RouteTable
open RouteTableShard (checkedAdd_eq_some currentRegistration_eq_ok)

variable {now : Instant} {state : RegistrationState} {ticket : OperationTicket}

/-! ## Acknowledgements of the shard -/

/-- The deadline an acknowledged operation leaves: a new one, or the one before
for an operation that is no KeepAlive.  The acknowledgement tells what is left. -/
def LeavesDeadline (shard after : RouteTableShard) (action : RegistrationAction)
    (now : Instant) (ack : RegistrationAck) : Prop :=
  after.config = shard.config ∧ ∃ registration,
    after.registrationIndex.get action.key = some registration ∧
    now + ack.expiresIn = registration.deadline ∧
    (registration.deadline = now + shard.config.leaseTtl ∧
        registration.deadline < instantLimit ∨
      action.isKeepAlive = false ∧ ∃ earlier,
        shard.registrationIndex.get action.key = some earlier ∧
        earlier.deadline = registration.deadline)

section Acknowledged

variable {shard : RouteTableShard} {draws : LeaseDraws} {context : RequestContext}
  {generation : ShardDirectoryGeneration} {key : RegistrationKey} {now : Instant}
  {ack : RegistrationAck} {leaseId : LeaseId}

theorem checkedAdd_lt {span deadline : Nat}
    (fits : checkedAdd now span = some deadline) : deadline < instantLimit := by
  unfold checkedAdd at fits
  split at fits
  · cases fits
    assumption
  · cases fits

theorem leavesDeadline_register
    (live : ∀ registration, shard.registrationIndex.get key = some registration →
      now < registration.deadline)
    (accepted : (shard.register draws context generation key now).1 = .ok ack) :
    LeavesDeadline shard (shard.register draws context generation key now).2
      (.register key) now ack := by
  have swept := shard.swept_expireDue now
  cases valid : shard.validateRequest context generation key with
  | error => simp [RouteTableShard.register, valid] at accepted
  | ok _ =>
    cases found : (shard.expireDue now).2.registrationIndex.get key with
    | some registration =>
      have before := swept.kept key registration found
      simp only [RouteTableShard.register, valid, found, Except.ok.injEq] at accepted ⊢
      subst accepted
      exact ⟨swept.config, registration, found,
        Nat.add_sub_cancel' (live registration before).le,
        Or.inr ⟨rfl, registration, before, rfl⟩⟩
    | none =>
      cases fits : checkedAdd now (shard.expireDue now).2.config.leaseTtl with
      | none => simp [RouteTableShard.register, valid, found, fits] at accepted
      | some =>
        simp only [RouteTableShard.register, valid, found, fits,
          Except.ok.injEq] at accepted ⊢
        subst accepted
        refine ⟨swept.config, _, Table.get_insert_self _ _ _,
          (checkedAdd_eq_some fits).symm, Or.inl ⟨?_, checkedAdd_lt fits⟩⟩
        rw [← swept.config]
        exact checkedAdd_eq_some fits

theorem leavesDeadline_update {revision : RegistrationRevision} {snapshot : BindingSnapshot}
    (live : ∀ registration, shard.registrationIndex.get key = some registration →
      now < registration.deadline)
    (accepted : (shard.update context generation key leaseId revision snapshot now).1 = .ok ack) :
    LeavesDeadline shard (shard.update context generation key leaseId revision
      snapshot now).2 (.update key leaseId revision snapshot) now ack := by
  have swept := shard.swept_expireDue now
  unfold RouteTableShard.update at accepted ⊢
  split at accepted
  · cases accepted
  · dsimp only at accepted ⊢
    cases current : (shard.expireDue now).2.currentRegistration key leaseId with
    | error => simp [current] at accepted
    | ok registration =>
      obtain ⟨found, -⟩ := currentRegistration_eq_ok current
      have before := swept.kept key registration found
      have left := Nat.add_sub_cancel' (live registration before).le
      simp only [current] at accepted ⊢
      split at accepted
      · cases accepted
      · cases accepted
        exact ⟨swept.config, registration, found, left, Or.inr ⟨rfl, registration, before, rfl⟩⟩
      · split at accepted
        · cases accepted
        · cases accepted
          exact ⟨swept.config, _, Table.get_insert_self _ _ _, left,
            Or.inr ⟨rfl, registration, before, rfl⟩⟩

theorem leavesDeadline_keepAlive
    (accepted : (shard.keepAlive context generation key leaseId now).1 = .ok ack) :
    LeavesDeadline shard (shard.keepAlive context generation key leaseId now).2
      (.keepAlive key leaseId) now ack := by
  have swept := shard.swept_expireDue now
  unfold RouteTableShard.keepAlive at accepted ⊢
  split at accepted
  · cases accepted
  · dsimp only at accepted ⊢
    split at accepted
    · cases accepted
    · split at accepted
      · cases accepted
      · rename_i registration current deadline fits
        cases accepted
        refine ⟨swept.config, _, Table.get_insert_self _ _ _,
          (checkedAdd_eq_some fits).symm, Or.inl ⟨?_, checkedAdd_lt fits⟩⟩
        rw [← swept.config]
        exact checkedAdd_eq_some fits

end Acknowledged

/-- An acknowledged lease operation leaves the registration in place. -/
theorem leavesDeadline_applyAction {shard : RouteTableShard} {draws : LeaseDraws}
    {gatewayId : GatewayId} {generation : ShardDirectoryGeneration}
    {action : RegistrationAction} {ack : RegistrationAck}
    (live : ∀ registration,
      shard.registrationIndex.get action.key = some registration → now < registration.deadline)
    (accepted : (applyAction shard draws gatewayId generation action now).1 =
      .registration (.ok ack)) :
    LeavesDeadline shard
      (applyAction shard draws gatewayId generation action now).2 action now
      ack := by
  cases action with
  | register =>
    exact leavesDeadline_register live
      (reported_eq_ok (OperationResult.registration.inj accepted))
  | update =>
    exact leavesDeadline_update live
      (reported_eq_ok (OperationResult.registration.inj accepted))
  | keepAlive =>
    exact leavesDeadline_keepAlive
      (reported_eq_ok (OperationResult.registration.inj accepted))
  | deregister => cases accepted

/-! ## A registration on the clock of its shard -/

/-- An operation in flight. -/
structure Flight where
  ticket : OperationTicket
  sentAt : Instant
  answer : Option OperationResult

structure Renewal where
  now : Instant
  registration : RegistrationState
  shard : RouteTableShard
  generation : ShardDirectoryGeneration
  flight : Option Flight

inductive RenewalEvent
  | publish (version : Nat) (snapshot : BindingSnapshot)
  | issue
  | serve (draws : LeaseDraws)
  | respond
  | wait (span : Duration)
  | foreign (call : RouteTableShard.Call)

/-- `begin_next` has nothing to do and does not fail. -/
def RegistrationState.rests (state : RegistrationState) (now : Instant) : Bool :=
  match state.beginNext now with
  | .ok (none, _) => true
  | _ => false

namespace Renewal

/-- The shard's registration. -/
def stored (world : Renewal) : Option RouteTable.RegistrationState :=
  world.shard.registrationIndex.get world.registration.key

/-- What the shard makes of an operation. -/
def applied (world : Renewal) (draws : LeaseDraws) (action : RegistrationAction) :
    OperationResult × RouteTableShard :=
  applyAction world.shard draws world.registration.key.gatewayId world.generation
    action world.now

def apply (world : Renewal) : RenewalEvent → Renewal
  | .publish version snapshot =>
      { world with
        registration :=
          world.registration.publish version (some snapshot) world.now }
  | .issue =>
      match world.registration.beginNext world.now with
      | .ok (some ticket, registration) =>
          { world with
            registration := registration
            flight := some ⟨ticket, world.now, none⟩ }
      | _ => world
  | .serve draws =>
      match world.flight with
      | some flight =>
          let (result, shard) := world.applied draws flight.ticket.action
          { world with
            shard := shard
            flight := some { flight with answer := some result } }
      | none => world
  | .respond =>
      match world.flight with
      | some ⟨ticket, _, some result⟩ =>
          { world with
            registration :=
              (world.registration.completed ticket result world.now).2
            flight := none }
      | _ => world
  | .wait span => { world with now := world.now + span }
  | .foreign call => { world with shard := (world.shard.answer call).2 }

/-- Requests are applied once, with success, and answered within the delay; time
passes only while `begin_next` has nothing to do; nobody else acts for the
Gateway. -/
def Possible (delay : Duration) (world : Renewal) : RenewalEvent → Prop
  | .publish _ _ | .respond => True
  | .issue => world.flight.isNone = true
  | .serve draws =>
      ∃ flight, world.flight = some flight ∧ flight.answer.isNone = true ∧
        ∃ ack, (world.applied draws flight.ticket.action).1 =
          .registration (.ok ack)
  | .wait span =>
      (∀ offset < span, world.registration.rests (world.now + offset) = true) ∧
        ∀ flight, world.flight = some flight →
          world.now + span ≤ flight.sentAt + delay
  | .foreign call =>
      call.caller ≠ some world.registration.key.gatewayId ∧ call.now = world.now

def Step (delay : Duration) (world : Renewal) (event : RenewalEvent)
    (target : Renewal) : Prop :=
  world.Possible delay event ∧ target = world.apply event

/-- A new desired registration that the shard does not know. -/
structure Fresh (world : Renewal) : Prop where
  unflown : world.flight = none
  unstored : world.stored = none
  registration : ∃ key version snapshot retryInitial retryMax,
    world.registration = RegistrationState.new key version (some snapshot)
      world.now retryInitial retryMax

/-- Four delays fit into the rest of the lease, if an operation is to be issued
that does not renew it. -/
def ample (delay : Duration) (world : Renewal) : Bool :=
  match world.registration.beginNext world.now with
  | .ok (some ticket, _) =>
      ticket.action.isKeepAlive || world.stored.all fun registration =>
        world.now + 4 * delay < registration.deadline
  | _ => true

/-- The shard's lease, if there is one, has not expired. -/
def Live (world : Renewal) : Prop :=
  ∀ registration, world.stored = some registration →
    world.now < registration.deadline

end Renewal

/-! ## What the registration keeps -/

/-- `after` is still desired and to be synchronized; its lease is the one before,
and no more synchronized, or a renewed one. -/
structure Continues (now : Instant) (Renewed : LeaseState → Prop)
    (before after : RegistrationState) : Prop where
  key : after.key = before.key
  desired : before.snapshot.isSome = true → after.snapshot.isSome = true
  active : after.terminal = before.terminal
  valid : before.validateLease = false → after.validateLease = false
  ready : after.retryAt = before.retryAt ∨ after.retryAt = now
  lease : (after.lease = before.lease ∧
      (after.syncedVersion = some after.desiredVersion →
        before.syncedVersion = some before.desiredVersion)) ∨
    ∃ lease, after.lease = some lease ∧ Renewed lease

theorem continues_publish (active : state.terminal = false) (version : Nat)
    (snapshot : BindingSnapshot) :
    Continues now (fun _ => False) state
        (state.publish version (some snapshot) now) ∧
      (state.publish version (some snapshot) now).pending = state.pending := by
  have synced : state.isSynced = true →
      state.syncedVersion = some state.desiredVersion := by
    intro phase
    simp only [RegistrationState.isSynced, RegistrationState.phase] at phase
    grind
  unfold RegistrationState.publish
  split
  · exact ⟨⟨rfl, id, rfl, id, Or.inl rfl, Or.inl ⟨rfl, id⟩⟩, rfl⟩
  · simp only [active, Bool.false_and, Bool.false_eq_true, if_false]
    split
    · refine ⟨⟨rfl, fun _ => rfl, active.symm ▸ rfl, id, Or.inl rfl,
        Or.inl ⟨rfl, ?_⟩⟩, rfl⟩
      simp only
      grind
    · refine ⟨⟨rfl, fun _ => rfl, active.symm ▸ rfl, id, Or.inr rfl,
        Or.inl ⟨rfl, ?_⟩⟩, rfl⟩
      simp only [RegistrationState.resetRetry]
      grind

theorem continues_begun {before after : RegistrationState}
    (begun : Begun now before after ticket) : Continues now (fun _ => False) before after := by
  obtain ⟨_, same⟩ := begun.result
  subst same
  exact ⟨rfl, id, rfl, id, Or.inl rfl, Or.inl ⟨rfl, id⟩⟩

theorem OperationTicket.same_self (ticket : OperationTicket) : ticket.Same ticket := by
  refine ⟨rfl, rfl, ?_⟩
  cases ticket.action with
  | register => rfl
  | update => exact ⟨rfl, rfl, rfl, Table.SameEntries.refl _⟩
  | keepAlive | deregister => exact ⟨rfl, rfl⟩

/-- An acknowledgement sets the next renewal by what is left of the lease, or
is ignored. -/
theorem continues_completed (pending : state.pending = some ticket)
    (lasting : ticket.action.isDeregister = false) (ack : RegistrationAck) (now : Instant) :
    Continues now (fun lease => lease.keepAliveAt = nextKeepAlive now ack.expiresIn)
        state (state.completed ticket (.registration (.ok ack)) now).2 ∧
      (state.completed ticket (.registration (.ok ack)) now).2.pending = none := by
  have taken : (state.takePending ticket).2 = { state with pending := none } := by
    simp [RegistrationState.takePending, pending, ticket.same_self]
  have ignored : Continues now
      (fun lease => lease.keepAliveAt = nextKeepAlive now ack.expiresIn) state
      { state with pending := none } :=
    ⟨rfl, id, rfl, id, Or.inl rfl, Or.inl ⟨rfl, id⟩⟩
  cases chosen : ticket.action with
  | register =>
    simp only [RegistrationState.completed, chosen,
      RegistrationState.registerSucceeded, RegistrationState.takeCurrent, taken]
    split
    · exact ⟨⟨rfl, id, rfl, fun _ => rfl, Or.inr rfl, Or.inr ⟨_, rfl, rfl⟩⟩, rfl⟩
    · exact ⟨ignored, rfl⟩
  | update =>
    simp only [RegistrationState.completed, chosen, RegistrationState.updateSucceeded, taken]
    split
    · split
      · exact ⟨ignored, rfl⟩
      · split
        · exact ⟨ignored, rfl⟩
        · exact ⟨⟨rfl, id, rfl, fun _ => rfl, Or.inr rfl, Or.inr ⟨_, rfl, rfl⟩⟩, rfl⟩
    · exact ⟨ignored, rfl⟩
  | keepAlive =>
    simp only [RegistrationState.completed, chosen,
      RegistrationState.keepAliveSucceeded, RegistrationState.takeCurrent, taken]
    split
    · split
      · exact ⟨ignored, rfl⟩
      · split
        · exact ⟨ignored, rfl⟩
        · exact ⟨⟨rfl, id, rfl, fun _ => rfl, Or.inr rfl, Or.inr ⟨_, rfl, rfl⟩⟩, rfl⟩
    · exact ⟨ignored, rfl⟩
  | deregister =>
    rw [chosen] at lasting
    cases lasting

/-! ## The invariant -/

namespace Renewal

/-- Where the operation stands, and what is left of the lease there: one delay
when nothing is in flight or a KeepAlive is, four delays from the issue of any
other operation and from the issue of an acknowledged one. -/
inductive Timely (delay : Duration) (world : Renewal) : Prop
  | idle (unflown : world.flight = none)
      (unpending : world.registration.pending = none)
      (left : ∀ registration, world.stored = some registration →
        world.now + delay < registration.deadline)
  | asked {ticket : OperationTicket} {sentAt : Instant}
      (flown : world.flight = some ⟨ticket, sentAt, none⟩)
      (pending : world.registration.pending = some ticket)
      (key : ticket.action.key = world.registration.key)
      (since : sentAt ≤ world.now) (inTime : world.now ≤ sentAt + delay)
      (left : ∀ registration, world.stored = some registration →
        sentAt + delay < registration.deadline ∧
          (ticket.action.isKeepAlive = false →
            sentAt + 4 * delay < registration.deadline))
  | answered {ticket : OperationTicket} {sentAt appliedAt : Instant}
      {ack : RegistrationAck} {registration : RouteTable.RegistrationState}
      (flown : world.flight =
        some ⟨ticket, sentAt, some (.registration (.ok ack))⟩)
      (pending : world.registration.pending = some ticket)
      (lasting : ticket.action.isDeregister = false)
      (inTime : world.now ≤ sentAt + delay)
      (held : world.stored = some registration) (since : sentAt ≤ appliedAt)
      (before : appliedAt ≤ world.now)
      (told : appliedAt + ack.expiresIn = registration.deadline)
      (left : sentAt + 4 * delay < registration.deadline)

structure Renewing (delay : Duration) (world : Renewal) : Prop where
  desired : world.registration.snapshot.isSome = true
  active : world.registration.terminal = false
  valid : world.registration.validateLease = false
  ready : world.registration.retryAt ≤ world.now
  quarter : 4 * delay < world.shard.config.leaseTtl
  held : world.registration.lease.isSome = true → world.stored.isSome = true
  bounded : ∀ registration, world.stored = some registration →
    registration.deadline < instantLimit ∧
      registration.deadline ≤ world.now + world.shard.config.leaseTtl
  renews : ∀ lease registration, world.registration.lease = some lease →
    world.registration.syncedVersion = some world.registration.desiredVersion →
    world.stored = some registration →
      lease.keepAliveAt + delay < registration.deadline
  timely : world.Timely delay

section Steps

variable {delay : Duration} {world : Renewal} {draws : LeaseDraws} {now : Instant}

theorem Timely.live (timely : world.Timely delay) : world.Live := by
  intro registration found
  cases timely with
  | idle unflown unpending left =>
    have bound := left registration found
    lia
  | asked flown pending key since inTime left =>
    have bound := (left registration found).1
    lia
  | answered flown pending lasting inTime held =>
    rw [held] at found
    cases found
    lia

/-- A step of the registration alone. -/
theorem Renewing.continues (renewing : world.Renewing delay)
    {Renewed : LeaseState → Prop} {registration : RegistrationState} {flight : Option Flight}
    (continues : Continues world.now Renewed world.registration registration)
    (renewed : ∀ lease, Renewed lease → ∃ stored, world.stored = some stored ∧
      lease.keepAliveAt + delay < stored.deadline)
    (timely : Timely delay { world with registration := registration, flight := flight }) :
    Renewing delay
        { world with registration := registration, flight := flight } ∧
      Renewal.stored
        { world with registration := registration, flight := flight } =
      world.stored := by
  have same : Renewal.stored { world with
      registration := registration, flight := flight } = world.stored := by
    unfold Renewal.stored
    rw [continues.key]
  refine ⟨⟨continues.desired renewing.desired,
    continues.active.trans renewing.active, continues.valid renewing.valid, ?_,
    renewing.quarter, ?_, ?_, ?_, timely⟩, same⟩
  · rcases continues.ready with kept | reset
    · exact kept.le.trans renewing.ready
    · exact reset.le
  · intro leased
    rw [same]
    rcases continues.lease with ⟨kept, -⟩ | ⟨lease, -, fresh⟩
    · exact renewing.held (kept ▸ leased)
    · obtain ⟨stored, found, -⟩ := renewed lease fresh
      rw [found]
      rfl
  · rw [same]
    exact renewing.bounded
  · intro lease stored leased synced found
    rw [same] at found
    rcases continues.lease with ⟨kept, before⟩ | ⟨_, changed, fresh⟩
    · exact renewing.renews lease stored (kept ▸ leased) (before synced) found
    · dsimp only at leased
      rw [changed] at leased
      cases leased
      obtain ⟨_, held, bound⟩ := renewed _ fresh
      rw [held] at found
      cases found
      exact bound

theorem Renewing.publish (renewing : world.Renewing delay) (version : Nat)
    (snapshot : BindingSnapshot) :
    Renewing delay (world.apply (.publish version snapshot)) ∧
      (world.apply (.publish version snapshot)).stored = world.stored := by
  obtain ⟨continues, pending⟩ := continues_publish renewing.active version snapshot
  have same : Renewal.stored (world.apply (.publish version snapshot)) =
      world.stored := by
    unfold Renewal.stored
    rw [← continues.key]
    rfl
  refine renewing.continues continues (fun _ => False.elim) ?_
  cases renewing.timely with
  | idle unflown unpending left =>
    exact .idle unflown (pending.trans unpending) (same ▸ left)
  | asked flown waiting key since inTime left =>
    exact .asked flown (pending.trans waiting) (key.trans continues.key.symm)
      since inTime (same ▸ left)
  | answered flown waiting lasting inTime held since before told left =>
    exact .answered flown (pending.trans waiting) lasting inTime
      (same.trans held) since before told left

theorem Renewing.issue (renewing : world.Renewing delay)
    (ample : world.ample delay = true) (free : world.flight.isNone = true) :
    Renewing delay (world.apply .issue) ∧ (world.apply .issue).stored = world.stored := by
  cases offered : world.registration.beginNext world.now with
  | error => simpa [Renewal.apply, offered] using renewing
  | ok result =>
    obtain ⟨ticket, after⟩ := result
    cases ticket with
    | none => simpa [Renewal.apply, offered] using renewing
    | some ticket =>
      have begun := begun_of_beginNext offered
      have same : Renewal.stored { world with
          registration := after, flight := some ⟨ticket, world.now, none⟩ } =
          world.stored := by
        unfold Renewal.stored
        rw [begun.key_eq]
      simp only [Renewal.apply, offered]
      refine renewing.continues (continues_begun begun)
        (fun _ => False.elim) ?_
      cases renewing.timely with
      | idle unflown unpending left =>
        refine .asked rfl begun.pending_eq
          (begun.due.key_eq.trans begun.key_eq.symm) le_rfl
          (Nat.le_add_right _ _) ?_
        intro registration found
        rw [same] at found
        refine ⟨left registration found, fun plain => ?_⟩
        simpa [Renewal.ample, offered, plain, found] using ample
      | asked flown => simp [flown] at free
      | answered flown => simp [flown] at free

theorem isDeregister_of_applied {action : RegistrationAction} {ack : RegistrationAck}
    (accepted : (world.applied draws action).1 = .registration (.ok ack)) :
    action.isDeregister = false := by
  cases action with
  | register | update | keepAlive => rfl
  | deregister => cases accepted

theorem Renewing.serve (renewing : world.Renewing delay)
    (possible : world.Possible delay (.serve draws)) :
    Renewing delay (world.apply (.serve draws)) ∧
      (world.apply (.serve draws)).stored.isSome = true := by
  obtain ⟨flight, flying, unanswered, ack, accepted⟩ := possible
  have live := renewing.timely.live
  cases renewing.timely with
  | idle unflown => simp [unflown] at flying
  | answered flown =>
    rw [flown] at flying
    cases flying
    cases unanswered
  | @asked ticket sentAt flown pending key since inTime left =>
    rw [flown] at flying
    cases flying
    obtain ⟨config, registration, found, told, outcome⟩ :=
      leavesDeadline_applyAction (key ▸ live) accepted
    rw [key] at found outcome
    have step : world.apply (.serve draws) =
        { world with
          shard := (world.applied draws ticket.action).2
          flight :=
            some ⟨ticket, sentAt, some (.registration (.ok ack))⟩ } := by
      simp [Renewal.apply, flown, accepted]
    have later : (world.apply (.serve draws)).stored = some registration := by
      rw [step]
      exact found
    -- the deadline does not move back
    have forward : ∀ earlier, world.stored = some earlier →
        earlier.deadline ≤ registration.deadline := by
      intro earlier stored
      rcases outcome with ⟨fresh, -⟩ | ⟨-, _, before, same⟩
      · rw [fresh]
        exact (renewing.bounded earlier stored).2
      · cases stored.symm.trans before
        exact same.le
    have quarter := renewing.quarter
    have ample : sentAt + 4 * delay < registration.deadline := by
      rcases outcome with ⟨fresh, -⟩ | ⟨plain, earlier, before, same⟩
      · lia
      · rw [← same]
        exact (left earlier before).2 plain
    refine ⟨?_, by rw [later]; rfl⟩
    rw [step] at later ⊢
    refine { renewing with
      quarter := config.symm ▸ quarter, held := fun _ => by rw [later]; rfl
      bounded := ?_, renews := ?_, timely := ?_ }
    · intro stored same
      cases later.symm.trans same
      rw [show (world.applied draws ticket.action).2.config = world.shard.config from config]
      rcases outcome with ⟨fresh, fits⟩ | ⟨-, earlier, before, same⟩
      · exact ⟨fits, fresh.le⟩
      · rw [← same]
        exact renewing.bounded earlier before
    · intro lease stored leased synced same
      cases later.symm.trans same
      obtain ⟨earlier, before⟩ := Option.isSome_iff_exists.mp
        (renewing.held (leased.symm ▸ rfl))
      exact (renewing.renews lease earlier leased synced before).trans_le
        (forward earlier before)
    · exact .answered rfl pending (isDeregister_of_applied accepted) inTime later
        since le_rfl told ample

theorem nextKeepAlive_lt {sentAt appliedAt deadline : Instant}
    {expiresIn : Duration} (positive : 0 < delay) (inTime : now ≤ sentAt + delay)
    (since : sentAt ≤ appliedAt) (before : appliedAt ≤ now)
    (told : appliedAt + expiresIn = deadline)
    (left : sentAt + 4 * delay < deadline) (fits : deadline < instantLimit) :
    nextKeepAlive now expiresIn + delay < deadline := by
  have half : expiresIn / 2 ≠ 0 := by
    have : 2 ≤ expiresIn := by lia
    lia
  have sooner : now + expiresIn / 2 + delay < deadline := by lia
  have small : now + expiresIn / 2 < instantLimit := by lia
  simp only [nextKeepAlive, half, if_false, checkedAdd, small, if_true, Option.getD_some]
  exact sooner

theorem Renewing.respond (renewing : world.Renewing delay) (positive : 0 < delay) :
    Renewing delay (world.apply .respond) ∧ (world.apply .respond).stored = world.stored := by
  cases renewing.timely with
  | idle unflown => simpa [Renewal.apply, unflown] using renewing
  | asked flown => simpa [Renewal.apply, flown] using renewing
  | @answered ticket sentAt appliedAt ack registration flown pending lasting
      inTime held since before told left =>
      obtain ⟨continues, unpending⟩ := continues_completed pending lasting ack world.now
      simp only [Renewal.apply, flown]
      refine renewing.continues continues ?_ (.idle rfl unpending ?_)
      · intro lease next
        refine ⟨registration, held, ?_⟩
        rw [next]
        exact nextKeepAlive_lt positive inTime since before told left
          (renewing.bounded registration held).1
      · intro stored found
        rw [Renewal.stored, continues.key] at found
        cases held.symm.trans found
        show world.now + delay < registration.deadline
        lia

/-- A registration without an operation to begin waits for its next renewal. -/
theorem lt_keepAliveAt_of_rests {state : RegistrationState}
    (rests : state.rests now = true) (unpending : state.pending = none)
    (active : state.terminal = false) (ready : state.retryAt ≤ now)
    (desired : state.snapshot.isSome = true) (valid : state.validateLease = false) :
    ∃ lease, state.lease = some lease ∧
      state.syncedVersion = some state.desiredVersion ∧
      now < lease.keepAliveAt := by
  obtain ⟨snapshot, wanted⟩ := Option.isSome_iff_exists.mp desired
  have started : ¬now < state.retryAt := Nat.not_lt.mpr ready
  have nothing : state.nextAction now = .ok none := by
    simp only [RegistrationState.rests, RegistrationState.beginNext, unpending, active, started,
      Option.isSome_none, Bool.or_self, decide_false, Bool.false_eq_true, if_false] at rests
    grind
  simp only [RegistrationState.nextAction, wanted, valid, Bool.false_eq_true, if_false] at nothing
  cases leased : state.lease with
  | none => simp [leased] at nothing
  | some lease =>
    simp only [leased] at nothing
    refine ⟨lease, rfl, ?_⟩
    grind

theorem Renewing.wait (renewing : world.Renewing delay) {span : Duration}
    (possible : world.Possible delay (.wait span)) :
    Renewing delay (world.apply (.wait span)) := by
  obtain ⟨rests, waits⟩ := possible
  refine { renewing with
    ready := renewing.ready.trans (Nat.le_add_right _ _), bounded := ?_, timely := ?_ }
  · intro registration found
    obtain ⟨fits, bound⟩ := renewing.bounded registration found
    exact ⟨fits, bound.trans (Nat.add_le_add_right (Nat.le_add_right _ _) _)⟩
  · cases renewing.timely with
    | idle unflown unpending left =>
      refine .idle unflown unpending ?_
      intro registration found
      show world.now + span + delay < registration.deadline
      cases span with
      | zero => exact left registration found
      | succ span =>
        obtain ⟨lease, leased, synced, later⟩ := lt_keepAliveAt_of_rests
          (rests span (Nat.lt_succ_self span)) unpending renewing.active
          (renewing.ready.trans (Nat.le_add_right _ _)) renewing.desired
          renewing.valid
        have bound := renewing.renews lease registration leased synced found
        lia
    | asked flown pending key since inTime left =>
      exact .asked flown pending key (since.trans (Nat.le_add_right _ _))
        (waits _ flown) left
    | answered flown pending lasting inTime held since before told left =>
      exact .answered flown pending lasting (waits _ flown) held since
        (before.trans (Nat.le_add_right _ _)) told left

theorem Renewing.foreign (renewing : world.Renewing delay)
    {call : RouteTableShard.Call} (possible : world.Possible delay (.foreign call)) :
    Renewing delay (world.apply (.foreign call)) ∧
      (world.apply (.foreign call)).stored = world.stored := by
  obtain ⟨foreign, clock⟩ := possible
  have same : (world.apply (.foreign call)).stored = world.stored := by
    rcases world.shard.get_answer_of_foreign foreign with
      kept | ⟨-, registration, found, past⟩
    · exact kept
    · have late := renewing.timely.live registration found
      lia
  have config : (world.shard.answer call).2.config = world.shard.config :=
    world.shard.config_answer call
  refine ⟨{ renewing with
    quarter := config.symm ▸ renewing.quarter, held := same.symm ▸ renewing.held
    bounded := ?_, renews := same.symm ▸ renewing.renews, timely := ?_ }, same⟩
  · rw [same]
    show ∀ registration, _ → _ ∧ _ ≤ world.now +
      (world.shard.answer call).2.config.leaseTtl
    rw [config]
    exact renewing.bounded
  · cases renewing.timely with
    | idle unflown unpending left =>
      exact .idle unflown unpending (same.symm ▸ left)
    | asked flown pending key since inTime left =>
      exact .asked flown pending key since inTime (same.symm ▸ left)
    | answered flown pending lasting inTime held since before told left =>
      exact .answered flown pending lasting inTime (same.trans held) since before
        told left

theorem Renewing.step (renewing : world.Renewing delay) (positive : 0 < delay)
    {event : RenewalEvent} (possible : world.Possible delay event)
    (ample : event = .issue → world.ample delay = true) :
    Renewing delay (world.apply event) ∧ (world.stored.isSome = true →
      (world.apply event).stored.isSome = true) := by
  cases event with
  | publish version snapshot =>
    obtain ⟨kept, same⟩ := renewing.publish version snapshot
    exact ⟨kept, fun found => same ▸ found⟩
  | issue =>
    obtain ⟨kept, same⟩ := renewing.issue (ample rfl) possible
    exact ⟨kept, fun found => same ▸ found⟩
  | serve =>
    obtain ⟨kept, found⟩ := renewing.serve possible
    exact ⟨kept, fun _ => found⟩
  | respond =>
    obtain ⟨kept, same⟩ := renewing.respond positive
    exact ⟨kept, fun found => same ▸ found⟩
  | wait => exact ⟨renewing.wait possible, id⟩
  | foreign =>
    obtain ⟨kept, same⟩ := renewing.foreign possible
    exact ⟨kept, fun found => same ▸ found⟩

theorem Fresh.renewing (fresh : world.Fresh)
    (quarter : 4 * delay < world.shard.config.leaseTtl) : world.Renewing delay := by
  obtain ⟨key, version, snapshot, retryInitial, retryMax, same⟩ := fresh.registration
  have unstored := fresh.unstored
  refine ⟨by rw [same]; rfl, by rw [same]; rfl, by rw [same]; rfl,
    by rw [same]; exact le_rfl, quarter, by simp [same, RegistrationState.new],
    by simp [unstored], by simp [unstored], ?_⟩
  exact .idle fresh.unflown (by rw [same]; rfl) (by simp [unstored])

end Steps

/-- Whatever snapshots are published: if four delays fit into the TTL and, at the
issue of every operation that is no KeepAlive, into the rest of the lease, the
shard's lease never expires and its registration is never removed. -/
theorem lease_renewed_in_time {delay : Duration} {start world : Renewal}
    {past : List (Renewal × RenewalEvent)} (positive : 0 < delay)
    (fresh : start.Fresh) (quarter : 4 * delay < start.shard.config.leaseTtl)
    (run : History (Renewal.Step delay) start past world)
    (ample : ∀ entry ∈ past, entry.2 = .issue → entry.1.ample delay = true) :
    (∀ entry ∈ past, entry.1.Live ∧ (entry.1.stored.isSome = true →
      (entry.1.apply entry.2).stored.isSome = true)) ∧ world.Live := by
  have renewing : (∀ entry ∈ past, entry.1.Live ∧
      (entry.1.stored.isSome = true →
        (entry.1.apply entry.2).stored.isSome = true)) ∧
      world.Renewing delay := by
    induction run with
    | refl => exact ⟨by simp, fresh.renewing quarter⟩
    | @tail middle target past event run last ih =>
        obtain ⟨possible, rfl⟩ := last
        obtain ⟨lives, renewing⟩ := ih fun entry member =>
          ample entry (List.mem_append_left _ member)
        obtain ⟨kept, stays⟩ := renewing.step positive possible
          (ample (middle, event) (by simp))
        refine ⟨?_, kept⟩
        intro entry member
        rcases List.mem_append.mp member with earlier | newest
        · exact lives entry earlier
        · cases List.mem_singleton.mp newest
          exact ⟨renewing.timely.live, stays⟩
  exact ⟨renewing.1, renewing.2.timely.live⟩

end Renewal

namespace Scenario

/-- A fresh registration and a shard with leases of 20. -/
def leasing : Renewal where
  now := 0
  registration := RegistrationState.new ⟨⟨1⟩, session, shardId⟩ 1 (some snapshot)
    0 10 40
  shard := RouteTableShard.empty directory shardId ⟨20, by decide⟩
  generation := ⟨7⟩
  flight := none

/-- Register and Update are answered at once, the KeepAlive after 3. -/
def renewed : List RenewalEvent :=
  [.issue, .serve (draws 0), .respond, .issue, .serve (draws 0), .respond,
    .wait 10, .issue, .wait 3, .serve (draws 0), .respond]

/-- Register and Update are each applied at once and answered after 4; the
KeepAlive, issued at 16, has not reached the shard at 20. -/
def expiring : List RenewalEvent :=
  [.issue, .serve (draws 0), .wait 4, .respond, .issue, .serve (draws 0),
    .wait 4, .respond, .wait 8, .issue, .wait 4]

end Scenario

namespace Renewal

open Scenario

theorem lease_renewed_in_time_at_thirteen :
    (renewed.foldl Renewal.apply leasing).now = 13 ∧
      (renewed.foldl Renewal.apply leasing).Live := by
  have run : History (Renewal.Step 3) leasing (trail Renewal.apply leasing renewed)
      (renewed.foldl Renewal.apply leasing) :=
    History.of_allowed renewed ⟨rfl, ⟨_, rfl, rfl, _, rfl⟩, trivial, rfl,
      ⟨_, rfl, rfl, _, rfl⟩, trivial, ⟨by decide, by nofun⟩, rfl,
      ⟨by decide, by decide⟩, ⟨_, rfl, rfl, _, rfl⟩, trivial, trivial⟩
  have ample : ∀ entry ∈ trail Renewal.apply leasing renewed,
      entry.1.ample 3 = true := by decide
  exact ⟨by decide, (lease_renewed_in_time (by decide)
    ⟨rfl, rfl, _, _, _, _, _, rfl⟩ (by decide) run
    (fun entry member _ => ample entry member)).2⟩

theorem lease_expires_before_keepAlive :
    (leasing.Fresh ∧ 4 * 4 < leasing.shard.config.leaseTtl) ∧
    History (Renewal.Step 4) leasing (trail Renewal.apply leasing expiring)
      (expiring.foldl Renewal.apply leasing) ∧
    ¬(expiring.foldl Renewal.apply leasing).Live := by
  refine ⟨⟨⟨rfl, rfl, _, _, _, _, _, rfl⟩, by decide⟩, ?_, ?_⟩
  · exact History.of_allowed expiring ⟨rfl, ⟨_, rfl, rfl, _, rfl⟩,
      ⟨by decide, by decide⟩, trivial, rfl, ⟨_, rfl, rfl, _, rfl⟩,
      ⟨by decide, by decide⟩, trivial, ⟨by decide, by decide⟩, rfl,
      ⟨by decide, by decide⟩, trivial⟩
  · intro live
    have expired : (expiring.foldl Renewal.apply leasing).stored.any
        (fun registration => registration.deadline ≤
          (expiring.foldl Renewal.apply leasing).now) = true := by
      decide
    obtain ⟨registration, found, past⟩ := (Option.any_eq_true _ _).mp expired
    exact absurd (live registration found)
      (Nat.not_lt.mpr (of_decide_eq_true past))

end Renewal

end RelayGate.Routing
