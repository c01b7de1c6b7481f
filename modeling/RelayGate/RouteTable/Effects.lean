import RelayGate.RouteTable.Consistency

/-!
# What a call does to one registration

Every call checks its arguments first, then expires what is due, and only then
does its own work.  For the registration of one key there are six outcomes, of
which a call that fails only has the first two.  Nothing here depends on the
indexes being consistent.
-/

namespace RelayGate.RouteTable.RouteTableShard

open Library

variable {shard : RouteTableShard} {call : Call}

/-! ## Expiry of an arbitrary shard -/

theorem swept_expireCandidate (now : Instant) (progress : Nat × RouteTableShard)
    (candidate : ExpiryKey) :
    Swept now progress.2 (expireCandidate now progress candidate).2 := by
  unfold expireCandidate
  split
  · exact Swept.refl now progress.2
  · rename_i registration found
    split
    · rename_i due
      exact swept_removeRegistration found due.2
    · exact Swept.refl now progress.2

theorem swept_foldl_expireCandidate (now : Instant) (pending : List ExpiryKey)
    (progress : Nat × RouteTableShard) :
    Swept now progress.2 (pending.foldl (expireCandidate now) progress).2 := by
  induction pending generalizing progress with
  | nil => exact Swept.refl now progress.2
  | cons candidate pending ih =>
    exact (swept_expireCandidate now progress candidate).trans
      (ih (expireCandidate now progress candidate))

theorem swept_popBucket (now : Instant) (shard : RouteTableShard)
    (deadline : Instant) (candidates : Table ExpiryKey Unit) :
    Swept now shard (shard.popBucket deadline candidates) :=
  ⟨rfl, rfl, rfl, fun _ _ found => found, fun _ _ found => Or.inl found⟩

theorem swept_expireLoop (now : Instant) (rounds : Nat) (progress : Nat × RouteTableShard) :
    Swept now progress.2 (expireLoop now rounds progress).2 := by
  induction rounds generalizing progress with
  | zero => exact Swept.refl now progress.2
  | succ rounds ih =>
    unfold expireLoop
    split
    · exact Swept.refl now progress.2
    · rename_i deadline next
      split
      · split
        · exact Swept.refl now progress.2
        · rename_i candidates stored
          have popped := swept_popBucket now progress.2 deadline candidates
          exact (popped.trans (swept_foldl_expireCandidate now candidates.keys
            (progress.1, _))).trans (ih _)
      · exact Swept.refl now progress.2

/-- Expiry removes registrations that are due, and changes nothing else about
any of them. -/
theorem swept_expireDue (shard : RouteTableShard) (now : Instant) :
    Swept now shard (shard.expireDue now).2 :=
  swept_expireLoop now shard.expiryIndex.len (0, shard)

/-! ## The checks a call starts with -/

/-- Caller ownership, directory generation, shard scope, snapshot and
destination authority: what a call checks before it expires anything. -/
def validate (shard : RouteTableShard) : Call → Except RouteTableError Unit
  | .register _ context generation key _ =>
      shard.validateRequest context generation key
  | .update context generation key _ _ snapshot _ => do
      shard.validateRequest context generation key
      shard.validateSnapshot key snapshot
  | .keepAlive context generation key _ _ =>
      shard.validateRequest context generation key
  | .deregister context generation key _ _ =>
      shard.validateRequest context generation key
  | .resolve generation destination _ => do
      shard.validateGeneration generation
      shard.validateDestinationAuthority destination
  | .expireDue _ => .ok ()

/-- The error a call was answered with. -/
def Answer.error? : Answer → Option RouteTableError
  | .acknowledged (.error error) => some error
  | .deregistered (.error error) => some error
  | .resolved (.error error) => some error
  | .acknowledged (.ok _) | .deregistered (.ok _) | .resolved (.ok _)
  | .expired _ => none

/-- A call that fails its checks changes nothing. -/
theorem answer_of_invalid
    {error : RouteTableError} (invalid : shard.validate call = .error error) :
    (shard.answer call).1.error? = some error ∧ (shard.answer call).2 = shard := by
  cases call with
  | expireDue => cases invalid
  | register =>
    simp only [validate] at invalid
    simp only [answer, RouteTableShard.register, invalid, Answer.error?, and_self]
  | update =>
    simp only [validate] at invalid
    simp only [answer, RouteTableShard.update, invalid, Answer.error?, and_self]
  | keepAlive =>
    simp only [validate] at invalid
    simp only [answer, RouteTableShard.keepAlive, invalid, Answer.error?, and_self]
  | deregister =>
    simp only [validate] at invalid
    simp only [answer, RouteTableShard.deregister, invalid, Answer.error?, and_self]
  | resolve =>
    simp only [validate] at invalid
    simp only [answer, RouteTableShard.resolve, invalid, Answer.error?, and_self]

/-- A call whose checks passed and that fails later leaves what expiry leaves. -/
theorem answer_of_failed (valid : shard.validate call = .ok ()) {error : RouteTableError}
    (failed : (shard.answer call).1.error? = some error) :
    (shard.answer call).2 = (shard.expireDue call.now).2 := by
  cases call with
  | expireDue => rfl
  | register =>
    simp only [validate] at valid
    simp only [answer, RouteTableShard.register, valid] at failed ⊢
    split
    · rfl
    · split
      · rfl
      · simp_all [Answer.error?]
  | update =>
    simp only [validate] at valid
    simp only [answer, RouteTableShard.update, valid] at failed ⊢
    split
    · rfl
    · split
      · rfl
      · rfl
      · split
        · rfl
        · simp_all [Answer.error?]
  | keepAlive =>
    simp only [validate] at valid
    simp only [answer, RouteTableShard.keepAlive, valid] at failed ⊢
    split
    · rfl
    · split
      · rfl
      · simp_all [Answer.error?]
  | deregister =>
    simp only [validate] at valid
    simp only [answer, RouteTableShard.deregister, valid] at failed ⊢
    split
    · rfl
    · split
      · rfl
      · simp_all [Answer.error?]
  | resolve =>
    simp only [validate] at valid
    simp only [answer, RouteTableShard.resolve, valid]
    split
    · rfl
    · split
      · rfl
      · rfl

/-! ## The registration of one key -/

/-- What a call can make of the registration of a key.  Whoever renews, updates
or ends a registration owns its key and names its current lease; a registration
is filed by its owner, under a key that was free or whose registration was due. -/
inductive Effect (shard : RouteTableShard) (call : Call) (key : RegistrationKey) :
    Option RegistrationState → Option RegistrationState → Prop
  | kept (state : Option RegistrationState) : Effect shard call key state state
  | expired {registration : RegistrationState}
      (past : registration.deadline ≤ call.now) :
      Effect shard call key (some registration) none
  | filed {before : Option RegistrationState} {draws : LeaseDraws}
      {context : RequestContext} {generation : ShardDirectoryGeneration}
      {now : Instant} {leaseId : LeaseId}
      (registers : call = .register draws context generation key now)
      (owner : context.authenticatedGatewayId = key.gatewayId)
      (valid : shard.validate call = .ok ())
      (free : (shard.expireDue now).2.registrationIndex.get key = none)
      (past : ∀ registration, before = some registration →
        registration.deadline ≤ now) :
      Effect shard call key before
        (some ⟨leaseId, none, now + shard.config.leaseTtl, ∅⟩)
  | renewed {registration : RegistrationState} {context : RequestContext}
      {generation : ShardDirectoryGeneration} {now : Instant}
      (renews : call =
        .keepAlive context generation key registration.leaseId now)
      (owner : context.authenticatedGatewayId = key.gatewayId) :
      Effect shard call key (some registration)
        (some { registration with deadline := now + shard.config.leaseTtl })
  | replaced {registration : RegistrationState} {context : RequestContext}
      {generation : ShardDirectoryGeneration} {revision : RegistrationRevision}
      {snapshot : BindingSnapshot} {now : Instant}
      (updates : call = .update context generation key registration.leaseId
        revision snapshot now)
      (owner : context.authenticatedGatewayId = key.gatewayId)
      (advances : checkRevision registration revision snapshot = .advances)
      (stable : validateCurrentBindingIdentityStability registration snapshot =
        .ok ()) :
      Effect shard call key (some registration)
        (some { registration with
          bindings := snapshot.entries
          revision := some revision })
  | ended {registration : RegistrationState} {context : RequestContext}
      {generation : ShardDirectoryGeneration} {now : Instant}
      (ends : call =
        .deregister context generation key registration.leaseId now)
      (owner : context.authenticatedGatewayId = key.gatewayId) :
      Effect shard call key (some registration) none

/-- Expiry alone keeps or removes. -/
theorem effect_expireDue (shard : RouteTableShard) (call : Call) (key : RegistrationKey) :
    Effect shard call key (shard.registrationIndex.get key)
      ((shard.expireDue call.now).2.registrationIndex.get key) := by
  have swept := shard.swept_expireDue call.now
  cases left : (shard.expireDue call.now).2.registrationIndex.get key with
  | some registration =>
    rw [swept.kept key registration left]
    exact Effect.kept (some registration)
  | none =>
    cases found : shard.registrationIndex.get key with
    | none => exact Effect.kept none
    | some registration =>
      rcases swept.removed key registration found with kept | past
      · rw [kept] at left
        cases left
      · exact Effect.expired past

theorem checkedAdd_eq_some {now span deadline : Nat}
    (fits : checkedAdd now span = some deadline) : deadline = now + span := by
  unfold checkedAdd at fits
  split at fits
  · exact (Option.some.inj fits).symm
  · cases fits

section

variable (shard : RouteTableShard)

theorem effect_register (draws : LeaseDraws) (context : RequestContext)
    (generation : ShardDirectoryGeneration) (target key : RegistrationKey) (now : Instant) :
    Effect shard (.register draws context generation target now) key
      (shard.registrationIndex.get key)
      ((shard.register draws context generation target now).2.registrationIndex.get key) := by
  have swept := shard.effect_expireDue
    (.register draws context generation target now) key
  have config := (shard.swept_expireDue now).config
  unfold RouteTableShard.register
  split
  · exact Effect.kept _
  · rename_i valid
    dsimp only
    split
    · exact swept
    · rename_i free
      split
      · exact swept
      · rename_i deadline fits
        change Effect _ _ _ _ ((Table.insert _ target _).get key)
        rw [Table.get_insert]
        split
        · rename_i same
          subst same
          rw [checkedAdd_eq_some fits, config]
          apply Effect.filed rfl (validateRequest_eq_ok valid).1 valid free
          intro registration found
          rcases (shard.swept_expireDue now).removed key registration found with
            kept | past
          · rw [kept] at free
            cases free
          · exact past
        · exact swept

section

variable (context : RequestContext) (generation : ShardDirectoryGeneration)

/-- An Update of another key, or one that is refused or repeated, changes
nothing that expiry does not change. -/
theorem effect_update (target key : RegistrationKey) (leaseId : LeaseId)
    (revision : RegistrationRevision) (snapshot : BindingSnapshot) (now : Instant) :
    Effect shard
      (.update context generation target leaseId revision snapshot now) key
      (shard.registrationIndex.get key)
      ((shard.update context generation target leaseId revision snapshot
        now).2.registrationIndex.get key) := by
  have expiry := shard.swept_expireDue now
  have swept := shard.effect_expireDue
    (.update context generation target leaseId revision snapshot now) key
  unfold RouteTableShard.update
  split
  · exact Effect.kept _
  · rename_i valid
    dsimp only
    split
    · exact swept
    · rename_i registration current
      obtain ⟨found, rfl⟩ := currentRegistration_eq_ok current
      split
      · exact swept
      · exact swept
      · rename_i advances
        split
        · exact swept
        · rename_i stable
          change Effect _ _ _ _ ((Table.insert _ target _).get key)
          rw [Table.get_insert]
          split
          · rename_i same
            subst same
            rw [expiry.kept key registration found]
            exact Effect.replaced rfl
              (validateRequest_eq_ok (bind_eq_ok valid).1).1 advances stable
          · exact swept

theorem effect_keepAlive (target key : RegistrationKey) (leaseId : LeaseId) (now : Instant) :
    Effect shard (.keepAlive context generation target leaseId now) key
      (shard.registrationIndex.get key)
      ((shard.keepAlive context generation target leaseId now).2.registrationIndex.get key) := by
  have expiry := shard.swept_expireDue now
  have swept := shard.effect_expireDue
    (.keepAlive context generation target leaseId now) key
  unfold RouteTableShard.keepAlive
  split
  · exact Effect.kept _
  · rename_i valid
    dsimp only
    split
    · exact swept
    · rename_i registration current
      obtain ⟨found, rfl⟩ := currentRegistration_eq_ok current
      split
      · exact swept
      · rename_i deadline fits
        change Effect _ _ _ _ ((Table.insert _ target _).get key)
        rw [Table.get_insert]
        split
        · rename_i same
          subst same
          rw [expiry.kept key registration found, checkedAdd_eq_some fits, expiry.config]
          exact Effect.renewed rfl (validateRequest_eq_ok valid).1
        · exact swept

theorem effect_deregister (target key : RegistrationKey) (leaseId : LeaseId) (now : Instant) :
    Effect shard (.deregister context generation target leaseId now) key
      (shard.registrationIndex.get key)
      ((shard.deregister context generation target leaseId now).2.registrationIndex.get key) := by
  have expiry := shard.swept_expireDue now
  have swept := shard.effect_expireDue
    (.deregister context generation target leaseId now) key
  unfold RouteTableShard.deregister
  split
  · exact Effect.kept _
  · rename_i valid
    dsimp only
    split
    · exact swept
    · rename_i registration found
      split
      · exact swept
      · rename_i current
        rw [get_removeRegistration]
        split
        · rename_i same
          subst same
          rw [expiry.kept key registration found]
          rw [← not_not.mp current]
          exact Effect.ended rfl (validateRequest_eq_ok valid).1
        · exact swept

theorem effect_resolve (destination : Destination) (now : Instant) (key : RegistrationKey) :
    Effect shard (.resolve generation destination now) key
      (shard.registrationIndex.get key)
      ((shard.resolve generation destination now).2.registrationIndex.get key) := by
  have swept := shard.effect_expireDue (.resolve generation destination now) key
  unfold RouteTableShard.resolve
  split
  · exact Effect.kept _
  · dsimp only
    split
    · exact swept
    · split
      · exact swept
      · exact swept

end

/-- The six outcomes of a call for the registration of any key. -/
theorem effect_answer (call : Call) (key : RegistrationKey) :
    Effect shard call key (shard.registrationIndex.get key)
      ((shard.answer call).2.registrationIndex.get key) := by
  cases call with
  | register draws context generation target now =>
    exact effect_register shard draws context generation target key now
  | update context generation target leaseId revision snapshot now =>
    exact effect_update shard context generation target key leaseId revision
      snapshot now
  | keepAlive context generation target leaseId now =>
    exact effect_keepAlive shard context generation target key leaseId now
  | deregister context generation target leaseId now =>
    exact effect_deregister shard context generation target key leaseId now
  | resolve generation destination now =>
    exact effect_resolve shard generation destination now key
  | expireDue now => exact shard.effect_expireDue (.expireDue now) key

end

/-- What a shard was made with. -/
def setting (shard : RouteTableShard) :
    ShardDirectory × ShardId × RouteTableConfig :=
  (shard.directory, shard.shardId, shard.config)

theorem Swept.setting {now : Instant} {before after : RouteTableShard}
    (swept : Swept now before after) : after.setting = before.setting := by
  simp only [RouteTableShard.setting, swept.directory, swept.shardId, swept.config]

theorem setting_removeRegistration (shard : RouteTableShard) (key : RegistrationKey) :
    (shard.removeRegistration key).setting = shard.setting := by
  unfold removeRegistration
  split
  · rfl
  · rfl

/-- No call changes the directory, the identity or the lease time of its
shard. -/
theorem setting_answer (shard : RouteTableShard) (call : Call) :
    (shard.answer call).2.setting = shard.setting := by
  have swept := (shard.swept_expireDue call.now).setting
  cases call with
  | register =>
    simp only [answer, RouteTableShard.register]
    split
    · rfl
    · split
      · exact swept
      · split
        · exact swept
        · exact swept
  | update =>
    simp only [answer, RouteTableShard.update]
    split
    · rfl
    · split
      · exact swept
      · split
        · exact swept
        · exact swept
        · split
          · exact swept
          · exact swept
  | keepAlive =>
    simp only [answer, RouteTableShard.keepAlive]
    split
    · rfl
    · split
      · exact swept
      · split
        · exact swept
        · exact swept
  | deregister =>
    simp only [answer, RouteTableShard.deregister]
    split
    · rfl
    · split
      · exact swept
      · split
        · exact swept
        · rw [setting_removeRegistration]
          exact swept
  | resolve =>
    simp only [answer, RouteTableShard.resolve]
    split
    · rfl
    · split
      · exact swept
      · split
        · exact swept
        · exact swept
  | expireDue => exact swept

end RelayGate.RouteTable.RouteTableShard
