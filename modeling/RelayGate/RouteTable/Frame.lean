import RelayGate.RouteTable.Effects

/-!
# What a shard call leaves alone

Every call keeps the directory and the identity of its shard.  For a
registration other than the one a call names, a call can only expire it; for
the named one, each operation says what it may become.
-/

namespace RelayGate.RouteTable.RouteTableShard

open Library

variable {after shard before : RouteTableShard} {context : RequestContext}
  {key : RegistrationKey} {registration : RegistrationState}
  {Touched : RegistrationKey → Prop} {generation : ShardDirectoryGeneration}
  {leaseId : LeaseId} {now : Instant} {revision : RegistrationRevision}
  {snapshot : BindingSnapshot}

/-- `after` has the identity of `before`, and each of its registrations that
`Touched` does not exempt was there before. -/
structure Framed (Touched : RegistrationKey → Prop)
    (before after : RouteTableShard) : Prop where
  directory : after.directory = before.directory
  shardId : after.shardId = before.shardId
  kept : ∀ key registration, ¬ Touched key →
    after.registrationIndex.get key = some registration →
      before.registrationIndex.get key = some registration

theorem Framed.mono {Other : RegistrationKey → Prop} (framed : Framed Touched before after)
    (wider : ∀ key, Touched key → Other key) : Framed Other before after where
  __ := framed
  kept key registration untouched :=
    framed.kept key registration fun touched => untouched (wider key touched)

/-! ## Calls -/

/-- The call may file or change the registration of a key: it is the key the call
names, and the calling Gateway owns it. -/
def Call.Writes : Call → RegistrationKey → Prop
  | .register _ context _ target _, key | .update context _ target _ _ _ _, key
  | .keepAlive context _ target _ _, key =>
      target = key ∧ context.authenticatedGatewayId = key.gatewayId
  | _, _ => False

/-- Every call leaves the registrations alone that it does not write. -/
theorem framed_answer (shard : RouteTableShard) (call : Call) :
    Framed call.Writes shard (shard.answer call).2 where
  directory := congrArg Prod.fst (shard.setting_answer call)
  shardId := congrArg (fun setting => setting.2.1) (shard.setting_answer call)
  kept key registration untouched found := by
    have effect := shard.effect_answer call key
    rw [found] at effect
    generalize shard.registrationIndex.get key = before at effect
    cases effect with
    | kept => rfl
    | filed registers owner =>
      subst registers
      exact absurd ⟨rfl, owner⟩ untouched
    | renewed renews owner =>
      subst renews
      exact absurd ⟨rfl, owner⟩ untouched
    | replaced updates owner =>
      subst updates
      exact absurd ⟨rfl, owner⟩ untouched

/-! ## The named registration -/

/-- A KeepAlive changes neither the lease nor the bindings. -/
theorem get_keepAlive
    (found : (shard.keepAlive context generation key leaseId
      now).2.registrationIndex.get key = some registration) :
    ∃ earlier, shard.registrationIndex.get key = some earlier ∧
      registration.leaseId = earlier.leaseId ∧
      registration.bindings = earlier.bindings := by
  have effect := shard.effect_keepAlive context generation key key leaseId now
  rw [found] at effect
  generalize shard.registrationIndex.get key = before at effect
  cases effect with
  | kept => exact ⟨registration, rfl, rfl, rfl⟩
  | filed registers => cases registers
  | @renewed earlier => exact ⟨earlier, rfl, rfl, rfl⟩
  | replaced updates => cases updates

/-- A repeated revision carries the snapshot the shard already has. -/
theorem sameEntries_of_repeated
    (repeats : checkRevision registration revision snapshot = .repeated) :
    Table.SameEntries registration.bindings snapshot.entries := by
  unfold checkRevision at repeats
  split at repeats
  · split at repeats
    · cases repeats
    · cases repeats
  · split at repeats
    · split at repeats
      · assumption
      · cases repeats
    · split at repeats
      · cases repeats
      · cases repeats

/-- After an accepted Update the shard holds its snapshot. -/
theorem bindings_of_update_eq_ok {ack : RegistrationAck}
    (accepted : (shard.update context generation key leaseId revision snapshot now).1 = .ok ack)
    (found : (shard.update context generation key leaseId revision snapshot
      now).2.registrationIndex.get key = some registration) :
    Table.SameEntries registration.bindings snapshot.entries := by
  unfold RouteTableShard.update at accepted found
  split at accepted
  · cases accepted
  · rename_i valid
    rw [valid] at found
    dsimp only at accepted found
    split at accepted
    · cases accepted
    · rename_i current holds
      rw [holds] at found
      dsimp only at found
      have stored := (currentRegistration_eq_ok holds).1
      split at accepted
      · cases accepted
      · rename_i repeats
        rw [repeats] at found
        dsimp only at found
        rw [stored] at found
        cases found
        exact sameEntries_of_repeated repeats
      · rename_i advances
        rw [advances] at found
        dsimp only at found
        split at accepted
        · cases accepted
        · rename_i stable
          rw [stable] at found
          change (Table.insert _ key _).get key = some registration at found
          rw [Table.get_insert_self] at found
          cases found
          exact Table.sameEntries_iff.mpr fun _ => rfl

end RelayGate.RouteTable.RouteTableShard
