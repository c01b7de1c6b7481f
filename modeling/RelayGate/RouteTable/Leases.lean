import RelayGate.RouteTable.Effects

/-!
# Leases

What a lease is good for: a call that fails is atomic, a lease that is not the
current one reaches nothing, the registrations of different Gateways do not
interfere, and the Updates of one lease are ordered by their revisions.
-/

namespace RelayGate.RouteTable.RouteTableShard

open Library

variable {shard : RouteTableShard} {key : RegistrationKey}
  {registration later : RegistrationState} {call : Call} {leaseId : LeaseId}

/-! ## Failed calls -/

/-- The lease a call names. -/
def Call.lease? : Call → Option (RegistrationKey × LeaseId)
  | .update _ _ key leaseId _ _ _ => some (key, leaseId)
  | .keepAlive _ _ key leaseId _ => some (key, leaseId)
  | .deregister _ _ key leaseId _ => some (key, leaseId)
  | .register _ _ _ _ _ | .resolve _ _ _ | .expireDue _ => none

/-- An expired registration aside, the registration of a key keeps its lease
through expiry. -/
theorem lease_after_expireDue {now : Instant}
    (found : shard.registrationIndex.get key = some registration)
    (left : (shard.expireDue now).2.registrationIndex.get key = some later) :
    later = registration := by
  have kept := (shard.swept_expireDue now).kept key later left
  rw [found] at kept
  exact (Option.some.inj kept).symm

/-- A lease that is not the current one is not current after expiry either. -/
theorem currentRegistration_of_stale (now : Instant)
    (found : shard.registrationIndex.get key = some registration)
    (stale : registration.leaseId ≠ leaseId) :
    ∃ error, (shard.expireDue now).2.currentRegistration key leaseId = .error error := by
  cases current : (shard.expireDue now).2.currentRegistration key leaseId with
  | error error => exact ⟨error, rfl⟩
  | ok =>
    obtain ⟨left, same⟩ := currentRegistration_eq_ok current
    rw [lease_after_expireDue found left] at same
    exact absurd same stale

/-- A call that names a lease which is not the current one does at most what
expiry does. -/
theorem answer_of_stale (names : call.lease? = some (key, leaseId))
    (found : shard.registrationIndex.get key = some registration)
    (stale : registration.leaseId ≠ leaseId) :
    (shard.answer call).2 = shard ∨ (shard.answer call).2 = (shard.expireDue call.now).2 := by
  cases valid : shard.validate call with
  | error => exact Or.inl (answer_of_invalid valid).2
  | ok =>
    apply Or.inr
    cases call with
    | update context generation target named revision snapshot now =>
      cases names
      obtain ⟨error, refused⟩ := currentRegistration_of_stale now found stale
      simp only [validate] at valid
      simp only [answer, RouteTableShard.update, valid, refused]
      rfl
    | keepAlive context generation target named now =>
      cases names
      obtain ⟨error, refused⟩ := currentRegistration_of_stale now found stale
      simp only [validate] at valid
      simp only [answer, RouteTableShard.keepAlive, valid, refused]
      rfl
    | deregister =>
      cases names
      simp only [validate] at valid
      simp only [answer, RouteTableShard.deregister, valid]
      split
      · rfl
      · rename_i later left
        rw [lease_after_expireDue found left, if_pos stale]
        rfl
    | register | resolve | expireDue => cases names

/-- A call that fails its checks changes nothing, one that fails later leaves
exactly what expiry leaves, and no call under a lease that is not the current one
touches a registration that is not due. -/
theorem failed_call_is_atomic (shard : RouteTableShard) (call : Call) :
    (∀ error, shard.validate call = .error error →
      (shard.answer call).1.error? = some error ∧
        (shard.answer call).2 = shard) ∧
    (shard.validate call = .ok () →
      ∀ error, (shard.answer call).1.error? = some error →
        (shard.answer call).2 = (shard.expireDue call.now).2) ∧
    ∀ key leaseId registration, call.lease? = some (key, leaseId) →
      shard.registrationIndex.get key = some registration →
      registration.leaseId ≠ leaseId →
      ((shard.answer call).2 = shard ∨
        (shard.answer call).2 = (shard.expireDue call.now).2) ∧
      (call.now < registration.deadline →
        (shard.answer call).2.registrationIndex.get key =
          some registration) := by
  refine ⟨fun error => answer_of_invalid, fun valid error => answer_of_failed valid,
    ?_⟩
  intro key leaseId registration names found stale
  have outcome := answer_of_stale names found stale
  refine ⟨outcome, fun live => ?_⟩
  rcases outcome with same | swept
  · rw [same]
    exact found
  · rw [swept]
    rcases (shard.swept_expireDue call.now).removed key registration found with
      kept | past
    · exact kept
    · exact absurd live (Nat.not_lt.mpr past)

namespace Scenario

def shardId : ShardId := ⟨"shard-0", by decide⟩

def directory : ShardDirectory where
  generation := ⟨7⟩
  shards := [⟨shardId⟩]
  nonempty := by decide
  distinct := by decide
  sha256Prefix := fun _ => 0

def keyOf (gateway : Nat) : RegistrationKey := ⟨⟨gateway⟩, ⟨2⟩, shardId⟩

def draws : LeaseDraws := ⟨LeaseId.mk, fun _ _ same => LeaseId.mk.inj same⟩

def registering (gateway : Nat) : Call := .register draws ⟨⟨gateway⟩⟩ ⟨7⟩ (keyOf gateway) 0

def keeping (generation lease now : Nat) : Call :=
  .keepAlive ⟨⟨1⟩⟩ ⟨generation⟩ (keyOf 1) ⟨lease⟩ now

/-- Gateways 1 and 2 hold the leases 0 and 1. -/
def granted : RouteTableShard :=
  [registering 1, registering 2].foldl (fun shard call => (shard.answer call).2)
    (empty directory shardId ⟨10, by decide⟩)

end Scenario

open Scenario in
/-- A KeepAlive of another generation, one that comes too late, and one under the lease
of the other Gateway. -/
theorem failed_keepAlive_is_atomic :
    (granted.answer (keeping 8 0 1)).2 = granted ∧
      (granted.answer (keeping 7 0 10)).2 = (granted.expireDue 10).2 ∧
      (granted.answer (keeping 7 1 1)).2.registrationIndex.get (keyOf 1) =
        some ⟨⟨0⟩, none, 10, ∅⟩ :=
  ⟨((failed_call_is_atomic _ _).1 _ rfl).2, (failed_call_is_atomic _ _).2.1 rfl _ rfl,
    ((failed_call_is_atomic _ _).2.2 _ _ _ rfl rfl (by decide)).2 (by decide)⟩

/-! ## Different Gateways -/

/-- The Gateway a call is authenticated as, where that matters. -/
def Call.caller : Call → Option GatewayId
  | .register _ context _ _ _ => some context.authenticatedGatewayId
  | .update context _ _ _ _ _ _ => some context.authenticatedGatewayId
  | .keepAlive context _ _ _ _ => some context.authenticatedGatewayId
  | .deregister context _ _ _ _ => some context.authenticatedGatewayId
  | .resolve _ _ _ | .expireDue _ => none

/-- The shard after a list of calls. -/
def afterCalls (directory : ShardDirectory) (shardId : ShardId)
    (config : RouteTableConfig) (calls : List Call) : RouteTableShard :=
  runCalls answer (empty directory shardId config) calls

variable (directory : ShardDirectory) (shardId : ShardId) (config : RouteTableConfig)
  (calls : List Call)

theorem indexed_afterCalls : (afterCalls directory shardId config calls).Indexed :=
  runCalls_invariant (fun _ call indexed => indexed.answer call) calls
    (indexed_empty directory shardId config)

theorem config_answer (shard : RouteTableShard) (call : Call) :
    (shard.answer call).2.config = shard.config :=
  congrArg (fun setting => setting.2.2) (shard.setting_answer call)

theorem config_afterCalls : (afterCalls directory shardId config calls).config = config := by
  have kept : ∀ (shard : RouteTableShard) (call : Call),
      shard.config = config → (shard.answer call).2.config = config :=
    fun shard call same => (shard.config_answer call).trans same
  exact runCalls_invariant kept calls rfl

/-- A call of another Gateway only expires. -/
theorem get_answer_of_foreign (shard : RouteTableShard)
    (foreign : call.caller ≠ some key.gatewayId) :
    (shard.answer call).2.registrationIndex.get key =
        shard.registrationIndex.get key ∨
      (shard.answer call).2.registrationIndex.get key = none ∧
        ∃ registration, shard.registrationIndex.get key = some registration ∧
          registration.deadline ≤ call.now := by
  have effect := shard.effect_answer call key
  generalize before : shard.registrationIndex.get key = state at effect
  generalize after : (shard.answer call).2.registrationIndex.get key = later
    at effect
  cases effect with
  | kept => exact Or.inl rfl
  | expired past => exact Or.inr ⟨rfl, _, rfl, past⟩
  | filed registers owner =>
    subst registers
    exact absurd (congrArg some owner) foreign
  | renewed renews owner =>
    subst renews
    exact absurd (congrArg some owner) foreign
  | replaced updates owner =>
    subst updates
    exact absurd (congrArg some owner) foreign
  | ended ends owner =>
    subst ends
    exact absurd (congrArg some owner) foreign

/-- Every deadline was set by a call, one lease time ahead. -/
theorem deadline_of_afterCalls {config : RouteTableConfig} (seen : List Call)
    (ttl : shard.config = config)
    (set : ∀ key registration,
      shard.registrationIndex.get key = some registration →
        ∃ call ∈ seen, registration.deadline = call.now + config.leaseTtl)
    (found : (runCalls answer shard calls).registrationIndex.get key = some registration) :
    ∃ call ∈ seen ++ calls, registration.deadline = call.now + config.leaseTtl := by
  induction calls generalizing shard seen with
  | nil =>
    rw [List.append_nil]
    exact set key registration found
  | cons call calls ih =>
    have config' := (shard.config_answer call).trans ttl
    rw [List.append_cons]
    refine ih (seen ++ [call]) config' ?_ found
    intro other later stored
    have effect := shard.effect_answer call other
    rw [stored] at effect
    generalize before : shard.registrationIndex.get other = state at effect
    cases effect with
    | kept =>
      obtain ⟨earlier, member, same⟩ := set other later before
      exact ⟨earlier, List.mem_append_left _ member, same⟩
    | filed registers =>
      subst registers
      exact ⟨_, List.mem_append_right _ List.mem_cons_self, by rw [ttl]; rfl⟩
    | renewed renews =>
      subst renews
      exact ⟨_, List.mem_append_right _ List.mem_cons_self, by rw [ttl]; rfl⟩
    | @replaced registration =>
      obtain ⟨earlier, member, same⟩ := set other registration before
      exact ⟨earlier, List.mem_append_left _ member, same⟩

/-- With clocks that do not run backwards no deadline moves earlier. -/
theorem deadline_le_of_answer {calls : List Call}
    (clocks : (calls ++ [call]).Pairwise fun first second => first.now ≤ second.now)
    (found : (afterCalls directory shardId config
      calls).registrationIndex.get key = some registration)
    (stored : ((afterCalls directory shardId config calls).answer
      call).2.registrationIndex.get key = some later) :
    registration.deadline ≤ later.deadline := by
  obtain ⟨setter, member, set⟩ := deadline_of_afterCalls calls [] rfl
    (fun key registration found => by cases found) found
  have earlier : setter.now ≤ call.now :=
    (List.pairwise_append.mp clocks).2.2 setter member call List.mem_cons_self
  have ahead : registration.deadline ≤ call.now + config.leaseTtl := by
    rw [set]
    exact Nat.add_le_add_right earlier _
  have effect := (afterCalls directory shardId config calls).effect_answer call key
  rw [found, stored] at effect
  have ttl := config_afterCalls directory shardId config calls
  cases effect with
  | kept => exact Nat.le_refl _
  | filed registers =>
    subst registers
    rw [ttl]
    exact ahead
  | renewed renews =>
    subst renews
    rw [ttl]
    exact ahead
  | replaced => exact Nat.le_refl _

/-- A call of another Gateway changes no published binding, unless its
registration is due. -/
theorem find_answer_of_foreign (indexed : shard.Indexed) {identity : BindingIdentity}
    (foreign : call.caller ≠ some identity.gatewayId) (destination : Destination)
    (binding : BindingProjection) :
    ((shard.answer call).2.destinationIndex.find destination identity =
        some binding →
      shard.destinationIndex.find destination identity = some binding) ∧
    (shard.destinationIndex.find destination identity = some binding →
      (shard.answer call).2.destinationIndex.find destination identity =
          some binding ∨
        ∃ key registration,
          shard.registrationIndex.get key = some registration ∧
            registration.bindings.get identity = some binding ∧
            registration.deadline ≤ call.now) := by
  have after := indexed.answer call
  rw [indexed.bindings.destinations, after.bindings.destinations]
  constructor
  · rintro ⟨key, registration, stored, published, filed⟩
    have owner := (after.bindings.owned key registration stored identity binding published).1
    rw [owner] at foreign
    rcases shard.get_answer_of_foreign foreign with same | ⟨gone, -⟩
    · rw [same] at stored
      exact ⟨key, registration, stored, published, filed⟩
    · rw [gone] at stored
      cases stored
  · rintro ⟨key, registration, stored, published, filed⟩
    have owner := (indexed.bindings.owned key registration stored identity binding published).1
    rw [owner] at foreign
    rcases shard.get_answer_of_foreign foreign with same | ⟨-, other, found, past⟩
    · rw [stored] at same
      exact Or.inl ⟨key, registration, same, published, filed⟩
    · rw [stored] at found
      cases found
      exact Or.inr ⟨key, registration, stored, published, past⟩

/-- Calls authenticated as one Gateway change nothing of another one, except that
registrations which are due go; a registration changes in no other ways than
`Effect` lists; and with clocks that do not run backwards no deadline moves
earlier. -/
theorem gateways_are_separate (directory : ShardDirectory) (shardId : ShardId)
    (config : RouteTableConfig) (calls : List Call) (call : Call) :
    let shard := afterCalls directory shardId config calls
    let after := (shard.answer call).2
    (∀ key, call.caller ≠ some key.gatewayId →
      after.registrationIndex.get key = shard.registrationIndex.get key ∨
        after.registrationIndex.get key = none ∧
          ∃ registration,
            shard.registrationIndex.get key = some registration ∧
              registration.deadline ≤ call.now) ∧
    (∀ identity, call.caller ≠ some identity.gatewayId →
      ∀ destination binding,
        (after.destinationIndex.find destination identity = some binding →
          shard.destinationIndex.find destination identity = some binding) ∧
        (shard.destinationIndex.find destination identity = some binding →
          after.destinationIndex.find destination identity = some binding ∨
            ∃ key registration,
              shard.registrationIndex.get key = some registration ∧
                registration.bindings.get identity = some binding ∧
                registration.deadline ≤ call.now)) ∧
    (∀ key, Effect shard call key (shard.registrationIndex.get key)
      (after.registrationIndex.get key)) ∧
    (((calls ++ [call]).Pairwise fun first second => first.now ≤ second.now) →
      ∀ key registration later,
        shard.registrationIndex.get key = some registration →
        after.registrationIndex.get key = some later →
          registration.deadline ≤ later.deadline) := by
  intro shard after
  have indexed := indexed_afterCalls directory shardId config calls
  refine ⟨fun key => get_answer_of_foreign shard,
    fun identity foreign => find_answer_of_foreign indexed foreign,
    fun key => effect_answer shard call key, ?_⟩
  intro clocks key registration later found stored
  exact deadline_le_of_answer directory shardId config clocks found stored

open Scenario in
/-- A KeepAlive of the first Gateway, whose deadline moves from 10 to 15. -/
theorem gateways_separate_in_keepAlive :
    let shard := afterCalls Scenario.directory Scenario.shardId ⟨10, by decide⟩
      [registering 1, registering 2]
    let after := (shard.answer (keeping 7 0 5)).2
    after.registrationIndex.get (keyOf 2) = shard.registrationIndex.get (keyOf 2) ∧
      ∃ registration later, shard.registrationIndex.get (keyOf 1) = some registration ∧
        after.registrationIndex.get (keyOf 1) = some later ∧
        registration.deadline ≤ later.deadline := by
  intro shard after
  obtain ⟨separate, -, -, ordered⟩ := gateways_are_separate Scenario.directory
    Scenario.shardId ⟨10, by decide⟩ [registering 1, registering 2] (keeping 7 0 5)
  refine ⟨?_, _, _, rfl, rfl, ordered (by decide) (keyOf 1) _ _ rfl rfl⟩
  rcases separate (keyOf 2) (by decide) with same | ⟨gone, -⟩
  · exact same
  · cases gone

end RelayGate.RouteTable.RouteTableShard
