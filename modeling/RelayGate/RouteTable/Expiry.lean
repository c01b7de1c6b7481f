import RelayGate.RouteTable.Indexes

/-!
# Expiry of leases

The expiry half of the index invariant through every helper, and the meaning of
`expire_due`: it removes exactly the registrations whose deadline has passed,
counts them, and keeps both halves of the invariant.
-/

namespace RelayGate.RouteTable

open Library BucketIndex Table

namespace RouteTableShard

variable {due deadline now : Instant} {shard : RouteTableShard} {pending : List ExpiryKey}
  {key : RegistrationKey} {registration : RegistrationState}
  {candidates : Table ExpiryKey Unit} {progress : Nat × RouteTableShard}

/-! ## The expiry half -/

theorem get_removeRegistration (shard : RouteTableShard) (key other : RegistrationKey) :
    (shard.removeRegistration key).registrationIndex.get other =
      if other = key then none else shard.registrationIndex.get other := by
  unfold removeRegistration
  cases found : shard.registrationIndex.get key with
  | none =>
    by_cases same : other = key
    · rw [if_pos same, same]
      exact found
    · rw [if_neg same]
  | some => exact get_remove _ key other

theorem expiriesIndexed_empty (directory : ShardDirectory) (shardId : ShardId)
    (config : RouteTableConfig) (due : Instant) :
    ExpiriesIndexed [] due (empty directory shardId config) where
  records deadline record := by
    constructor
    · rintro (found | ⟨-, member⟩)
      · cases found
      · cases member
    · rintro ⟨registration, found, -⟩
      cases found
  taken present := absurd rfl present
  distinct := List.nodup_nil
  occupied := noEmptyBucket_empty
  counted := Counter.exact_zero

/-- With nothing pending the bucket parameter is irrelevant. -/
theorem ExpiriesIndexed.anyDue (indexed : ExpiriesIndexed [] due shard) (other : Instant) :
    ExpiriesIndexed [] other shard where
  __ := indexed
  records deadline record := by simpa using indexed.records deadline record
  taken present := absurd rfl present
  distinct := List.nodup_nil

/-- The record of a registration is the only one under its key. -/
theorem ExpiriesIndexed.record_eq (indexed : ExpiriesIndexed pending due shard)
    (found : shard.registrationIndex.get key = some registration) {record : ExpiryKey}
    (present : shard.expiryIndex.find deadline record = some () ∨
      (deadline = due ∧ record ∈ pending))
    (same : record.registrationKey = key) :
    deadline = registration.deadline ∧ record = ⟨key, registration.leaseId⟩ := by
  obtain ⟨stored, storedFound, sameLease, sameDeadline⟩ :=
    (indexed.records deadline record).mp present
  rw [same, found] at storedFound
  cases storedFound
  cases record
  simp_all

theorem ExpiriesIndexed.removeRegistration (indexed : ExpiriesIndexed pending due shard)
    (found : shard.registrationIndex.get key = some registration) :
    ExpiriesIndexed (pending.erase ⟨key, registration.leaseId⟩) due
      (shard.removeRegistration key) := by
  have index : (shard.removeRegistration key).expiryIndex =
      shard.expiryIndex.drop registration.deadline
        ⟨key, registration.leaseId⟩ := by
    simp only [RouteTableShard.removeRegistration, found]
    rfl
  have counter : (shard.removeRegistration key).expiryRecordCount =
      if (shard.expiryIndex.find registration.deadline
          ⟨key, registration.leaseId⟩).isSome then
        shard.expiryRecordCount.sub 1
      else shard.expiryRecordCount := by
    simp only [RouteTableShard.removeRegistration, found]
    rfl
  constructor
  · intro deadline record
    rw [index, find_drop, indexed.distinct.mem_erase_iff]
    simp only [get_removeRegistration]
    constructor
    · rintro (present | ⟨sameDue, different, member⟩)
      · split at present
        · cases present
        · rename_i elsewhere
          have apart : record.registrationKey ≠ key := by
            intro same
            exact elsewhere (indexed.record_eq found (Or.inl present) same)
          simpa [apart] using (indexed.records deadline record).mp (Or.inl present)
      · have present : shard.expiryIndex.find deadline record = some () ∨
            (deadline = due ∧ record ∈ pending) := Or.inr ⟨sameDue, member⟩
        have apart : record.registrationKey ≠ key := by
          intro same
          exact different (indexed.record_eq found present same).2
        simpa [apart] using (indexed.records deadline record).mp present
    · rintro ⟨stored, kept, sameLease, sameDeadline⟩
      split at kept
      · cases kept
      · rename_i apart
        have different : record ≠ ⟨key, registration.leaseId⟩ := by
          rintro rfl
          exact apart rfl
        rw [if_neg fun same => different same.2]
        rcases (indexed.records deadline record).mpr
            ⟨stored, kept, sameLease, sameDeadline⟩ with present | waiting
        · exact Or.inl present
        · exact Or.inr ⟨waiting.1, different, waiting.2⟩
  · intro present
    rw [index]
    apply get_drop_of_none
    apply indexed.taken
    rintro rfl
    exact present rfl
  · exact indexed.distinct.erase _
  · rw [index]
    exact indexed.occupied.drop _ _
  · rw [index, counter]
    cases stored : shard.expiryIndex.find registration.deadline
        ⟨key, registration.leaseId⟩ with
    | none =>
      rw [size_drop_of_none stored]
      exact indexed.counted
    | some value =>
      exact indexed.counted.sub (size_drop_of_some stored)

section

variable (indexed : ExpiriesIndexed [] due shard)
include indexed

/-- Taking a bucket out of the index makes its records pending. -/
theorem ExpiriesIndexed.popBucket (stored : shard.expiryIndex.get deadline = some candidates) :
    ExpiriesIndexed candidates.keys deadline (shard.popBucket deadline candidates) where
  records time record := by
    have before := indexed.records time record
    simp only [List.not_mem_nil, and_false, or_false] at before
    refine Iff.trans ?_ before
    change BucketIndex.find (shard.expiryIndex.remove deadline) time record = some () ∨ _ ↔ _
    rw [find_remove]
    by_cases same : time = deadline
    · subst time
      simp only [if_true, true_and, mem_keys, BucketIndex.find, stored,
        Option.bind_some, reduceCtorEq, false_or]
      constructor
      · rintro ⟨_, member⟩
        exact member
      · intro member
        exact ⟨(), member⟩
    · simp [same]
  taken _ := get_remove_self _ _
  distinct := candidates.nodup_keys
  occupied := indexed.occupied.remove _
  counted := indexed.counted.sub (size_remove_of_some stored)

theorem ExpiriesIndexed.fileRegistration (leaseId : LeaseId) (deadline : Instant)
    (free : shard.registrationIndex.get key = none) :
    ExpiriesIndexed [] due (shard.fileRegistration key leaseId deadline) := by
  have unfiled : ∀ time record, record.registrationKey = key →
      shard.expiryIndex.find time record = none := by
    intro time record same
    cases present : shard.expiryIndex.find time record with
    | none => rfl
    | some =>
      obtain ⟨registration, found, -⟩ := (indexed.records time record).mp (Or.inl present)
      rw [same, free] at found
      cases found
  constructor
  · intro time record
    change BucketIndex.find (shard.expiryIndex.put deadline ⟨key, leaseId⟩ ())
      time record = some () ∨ _ ↔ ∃ registration, (shard.registrationIndex.insert
        key ⟨leaseId, none, deadline, ∅⟩).get record.registrationKey = some registration ∧ _
    have before := indexed.records time record
    simp only [List.not_mem_nil, and_false, or_false] at before ⊢
    rw [find_put, get_insert]
    by_cases same : record.registrationKey = key
    · rw [if_pos same, unfiled time record same]
      constructor
      · intro present
        split at present
        · rename_i here
          obtain ⟨rfl, rfl⟩ := here
          exact ⟨_, rfl, rfl, rfl⟩
        · cases present
      · rintro ⟨registration, stored, sameLease, sameDeadline⟩
        cases stored
        rw [if_pos]
        exact ⟨sameDeadline.symm, by cases record; simp_all⟩
    · rw [if_neg same, if_neg, before]
      rintro ⟨-, rfl⟩
      exact same rfl
  · intro present
    exact absurd rfl present
  · exact List.nodup_nil
  · exact indexed.occupied.put _ _ _
  · have fresh := unfiled deadline ⟨key, leaseId⟩ rfl
    have counter : (shard.fileRegistration key leaseId
        deadline).expiryRecordCount = shard.expiryRecordCount.add 1 := by
      simp [RouteTableShard.fileRegistration, insertExpiry, fresh]
    rw [counter]
    exact (indexed.counted.add 1).of_eq
      (size_put_of_none () fresh).symm

/-- A new deadline moves the record of its registration. -/
theorem ExpiriesIndexed.moveDeadline (deadline : Instant)
    (found : shard.registrationIndex.get key = some registration) :
    ExpiriesIndexed [] due (shard.moveDeadline key registration deadline) := by
  have own : shard.expiryIndex.find registration.deadline
      ⟨key, registration.leaseId⟩ = some () := by
    simpa using (indexed.records registration.deadline
      ⟨key, registration.leaseId⟩).mpr ⟨registration, found, rfl, rfl⟩
  have dropped : ∀ time record, record.registrationKey = key →
      (shard.expiryIndex.drop registration.deadline
        ⟨key, registration.leaseId⟩).find time record = none := by
    intro time record same
    rw [find_drop]
    split
    · rfl
    · rename_i elsewhere
      cases present : shard.expiryIndex.find time record with
      | none => rfl
      | some =>
        exact absurd (indexed.record_eq found (Or.inl present) same) elsewhere
  constructor
  · intro time record
    change BucketIndex.find ((shard.expiryIndex.drop registration.deadline
        ⟨key, registration.leaseId⟩).put deadline ⟨key, registration.leaseId⟩ ())
      time record = some () ∨ _ ↔ ∃ moved, (shard.registrationIndex.insert
        key { registration with deadline := deadline }).get
          record.registrationKey = some moved ∧ _
    have before := indexed.records time record
    simp only [List.not_mem_nil, and_false, or_false] at before ⊢
    rw [find_put, get_insert]
    by_cases same : record.registrationKey = key
    · rw [if_pos same, dropped time record same]
      constructor
      · intro present
        split at present
        · rename_i here
          obtain ⟨rfl, rfl⟩ := here
          exact ⟨_, rfl, rfl, rfl⟩
        · cases present
      · rintro ⟨moved, stored, sameLease, sameDeadline⟩
        cases stored
        rw [if_pos]
        exact ⟨sameDeadline.symm, by cases record; simp_all⟩
    · have different : record ≠ ⟨key, registration.leaseId⟩ := by
        rintro rfl
        exact same rfl
      rw [if_neg same, if_neg fun here => different here.2,
        find_drop, if_neg fun here => different here.2, before]
  · intro present
    exact absurd rfl present
  · exact List.nodup_nil
  · exact (indexed.occupied.drop _ _).put _ _ _
  · have fresh := dropped deadline ⟨key, registration.leaseId⟩ rfl
    have counter : (shard.moveDeadline key registration
        deadline).expiryRecordCount =
          (shard.expiryRecordCount.sub 1).add 1 := by
      simp [RouteTableShard.moveDeadline, removeExpiry, insertExpiry, own, fresh]
    rw [counter]
    exact ((indexed.counted.sub (size_drop_of_some own)).add
      1).of_eq (size_put_of_none () fresh).symm

/-- New bindings leave the lease and the deadline of a registration alone. -/
theorem ExpiriesIndexed.replaceBindings (revision : RegistrationRevision) (bindings : BindingMap)
    (found : shard.registrationIndex.get key = some registration) :
    ExpiriesIndexed [] due (shard.replaceBindings key registration revision bindings) where
  __ := indexed
  records time record := by
    refine (indexed.records time record).trans ?_
    change _ ↔ ∃ replaced, (shard.registrationIndex.insert key
      { registration with bindings := bindings, revision := some revision }).get
        record.registrationKey = some replaced ∧ _
    rw [get_insert]
    by_cases same : record.registrationKey = key
    · rw [if_pos same, same, found]
      simp
    · rw [if_neg same]
  taken present := absurd rfl present
  distinct := List.nodup_nil

end

/-! ## The expiry loop -/

/-- `after` has the configuration of `before` and differs from it only by the
removal of registrations that are due at `now`. -/
structure Swept (now : Instant) (before after : RouteTableShard) : Prop where
  directory : after.directory = before.directory
  shardId : after.shardId = before.shardId
  config : after.config = before.config
  kept : ∀ key registration,
    after.registrationIndex.get key = some registration →
      before.registrationIndex.get key = some registration
  removed : ∀ key registration,
    before.registrationIndex.get key = some registration →
      after.registrationIndex.get key = some registration ∨
        registration.deadline ≤ now

theorem Swept.refl (now : Instant) (shard : RouteTableShard) : Swept now shard shard :=
  ⟨rfl, rfl, rfl, fun _ _ found => found, fun _ _ found => Or.inl found⟩

theorem Swept.trans {before middle after : RouteTableShard}
    (first : Swept now before middle) (second : Swept now middle after) :
    Swept now before after where
  directory := second.directory.trans first.directory
  shardId := second.shardId.trans first.shardId
  config := second.config.trans first.config
  kept key registration found :=
    first.kept key registration (second.kept key registration found)
  removed key registration found := by
    rcases first.removed key registration found with kept | past
    · exact second.removed key registration kept
    · exact Or.inr past

theorem swept_removeRegistration (found : shard.registrationIndex.get key = some registration)
    (past : registration.deadline ≤ now) : Swept now shard (shard.removeRegistration key) where
  directory := by simp [RouteTableShard.removeRegistration, found, removeExpiry]
  shardId := by simp [RouteTableShard.removeRegistration, found, removeExpiry]
  config := by simp [RouteTableShard.removeRegistration, found, removeExpiry]
  kept other stored kept := by
    rw [get_removeRegistration] at kept
    split at kept
    · cases kept
    · exact kept
  removed other stored kept := by
    rw [get_removeRegistration]
    by_cases same : other = key
    · subst other
      rw [found] at kept
      cases kept
      exact Or.inr past
    · rw [if_neg same]
      exact Or.inl kept

theorem len_removeRegistration (found : shard.registrationIndex.get key = some registration) :
    (shard.removeRegistration key).registrationIndex.len + 1 = shard.registrationIndex.len := by
  have index : (shard.removeRegistration key).registrationIndex =
      shard.registrationIndex.remove key := by
    simp [RouteTableShard.removeRegistration, found, removeExpiry]
  rw [index]
  exact len_remove_of_some found

/-- What one round of the loop has established: both halves of the invariant,
only due registrations removed, and every removal counted. -/
structure Progressed (now : Instant) (pending : List ExpiryKey) (due : Instant)
    (before after : Nat × RouteTableShard) : Prop where
  bindings : after.2.BindingsIndexed
  expiries : ExpiriesIndexed pending due after.2
  swept : Swept now before.2 after.2
  count : after.1 + after.2.registrationIndex.len =
    before.1 + before.2.registrationIndex.len

/-- The candidate at the head of the pending records names a registration that
is due, and the step removes it. -/
theorem expireCandidate_progressed (past : due ≤ now) {candidate : ExpiryKey}
    (bindings : progress.2.BindingsIndexed)
    (expiries : ExpiriesIndexed (candidate :: pending) due progress.2) :
    Progressed now pending due progress (expireCandidate now progress candidate) ∧
    (expireCandidate now progress candidate).2.expiryIndex = progress.2.expiryIndex := by
  obtain ⟨registration, found, sameLease, sameDeadline⟩ :=
    (expiries.records due candidate).mp (Or.inr ⟨rfl, List.mem_cons_self⟩)
  have current : registration.leaseId = candidate.leaseId ∧
      registration.deadline ≤ now := ⟨sameLease, sameDeadline ▸ past⟩
  have step : expireCandidate now progress candidate =
      (progress.1 + 1,
        progress.2.removeRegistration candidate.registrationKey) := by
    simp [expireCandidate, found, current]
  have removed := expiries.removeRegistration found
  have record : (⟨candidate.registrationKey, registration.leaseId⟩ : ExpiryKey) =
      candidate := by
    rw [sameLease]
  rw [record, List.erase_cons_head] at removed
  rw [step]
  refine ⟨⟨bindings.removeRegistration _, removed,
    swept_removeRegistration found current.2, ?_⟩, ?_⟩
  · have shrunk := len_removeRegistration found
    dsimp only
    omega
  · have absent := expiries.taken (List.cons_ne_nil _ _)
    simp [removeRegistration, found, removeExpiry, sameDeadline, BucketIndex.drop, absent]

theorem foldl_expireCandidate_progressed (past : due ≤ now) (pending : List ExpiryKey)
    (progress : Nat × RouteTableShard) (bindings : progress.2.BindingsIndexed)
    (expiries : ExpiriesIndexed pending due progress.2) :
    Progressed now [] due progress (pending.foldl (expireCandidate now) progress) ∧
    (pending.foldl (expireCandidate now) progress).2.expiryIndex = progress.2.expiryIndex := by
  induction pending generalizing progress with
  | nil =>
    exact ⟨⟨bindings, expiries, Swept.refl now progress.2, rfl⟩, rfl⟩
  | cons candidate pending ih =>
    obtain ⟨stepped, sameIndex⟩ := expireCandidate_progressed past bindings expiries
    obtain ⟨rest, restIndex⟩ := ih _ stepped.bindings stepped.expiries
    exact ⟨{ rest with
      swept := stepped.swept.trans rest.swept, count := rest.count.trans stepped.count },
      restIndex.trans sameIndex⟩

/-- One round of the loop: a due bucket goes with all its registrations. -/
theorem expireBucket_progressed (past : deadline ≤ now) (bindings : progress.2.BindingsIndexed)
    (expiries : ExpiriesIndexed [] deadline progress.2)
    (stored : progress.2.expiryIndex.get deadline = some candidates) :
    Progressed now [] deadline progress
      (candidates.keys.foldl (expireCandidate now)
        (progress.1, progress.2.popBucket deadline candidates)) ∧
    (candidates.keys.foldl (expireCandidate now)
        (progress.1, progress.2.popBucket deadline candidates)).2.expiryIndex =
      progress.2.expiryIndex.remove deadline := by
  have popped : Swept now progress.2
      (progress.2.popBucket deadline candidates) :=
    ⟨rfl, rfl, rfl, fun _ _ found => found, fun _ _ found => Or.inl found⟩
  obtain ⟨folded, index⟩ := foldl_expireCandidate_progressed past
    candidates.keys
    (progress.1, progress.2.popBucket deadline candidates)
    (bindings.popBucket deadline candidates) (expiries.popBucket stored)
  exact ⟨{ folded with swept := popped.trans folded.swept }, index⟩

/-- A registration whose record is in no due bucket is not due. -/
theorem not_due_of_buckets (expiries : ExpiriesIndexed [] due shard)
    (later : ∀ deadline ∈ shard.expiryIndex.keys, now < deadline)
    (found : shard.registrationIndex.get key = some registration) :
    now < registration.deadline := by
  rcases (expiries.records registration.deadline
      ⟨key, registration.leaseId⟩).mpr ⟨registration, found, rfl, rfl⟩ with
    present | ⟨-, member⟩
  · obtain ⟨bucket, stored, -⟩ := Option.bind_eq_some_iff.mp present
    exact later registration.deadline (mem_keys.mpr ⟨bucket, stored⟩)
  · cases member

/-- The loop with enough rounds: afterwards no registration is due. -/
theorem expireLoop_progressed (now due : Instant) (rounds : Nat)
    (progress : Nat × RouteTableShard) (bindings : progress.2.BindingsIndexed)
    (expiries : ExpiriesIndexed [] due progress.2)
    (enough : progress.2.expiryIndex.len ≤ rounds) :
    Progressed now [] due progress (expireLoop now rounds progress) ∧
      ∀ key registration,
        (expireLoop now rounds progress).2.registrationIndex.get key =
          some registration → now < registration.deadline := by
  induction rounds generalizing progress with
  | zero =>
    refine ⟨⟨bindings, expiries, Swept.refl now _, rfl⟩, ?_⟩
    intro key registration found
    refine not_due_of_buckets expiries ?_ found
    have none : progress.2.expiryIndex.toList = [] :=
      List.length_eq_zero_iff.mp (Nat.le_zero.mp enough)
    intro deadline member
    rw [Table.keys, none] at member
    cases member
  | succ rounds ih =>
    unfold expireLoop
    cases first : progress.2.nextExpiryDeadline with
    | none =>
      refine ⟨⟨bindings, expiries, Swept.refl now _, rfl⟩, ?_⟩
      intro key registration found
      refine not_due_of_buckets expiries ?_ found
      intro deadline member
      rw [List.min?_eq_none_iff.mp first] at member
      cases member
    | some deadline =>
      obtain ⟨member, least⟩ := List.min?_eq_some_iff.mp first
      dsimp only
      by_cases past : deadline ≤ now
      · obtain ⟨candidates, stored⟩ := mem_keys.mp member
        obtain ⟨round, index⟩ := expireBucket_progressed past bindings
          (expiries.anyDue deadline) stored
        rw [if_pos past, stored]
        dsimp only
        have fewer := len_remove_of_some stored
        obtain ⟨rest, clean⟩ := ih _ round.bindings
          (round.expiries.anyDue due) (by rw [index]; omega)
        exact ⟨⟨rest.bindings, rest.expiries, round.swept.trans rest.swept,
          rest.count.trans round.count⟩, clean⟩
      · rw [if_neg past]
        refine ⟨⟨bindings, expiries, Swept.refl now _, rfl⟩, ?_⟩
        intro key registration found
        refine not_due_of_buckets expiries ?_ found
        intro other listed
        exact Nat.lt_of_lt_of_le (Nat.not_le.mp past) (least other listed)

/-- `expire_due` keeps the invariant, keeps exactly the registrations that are
still live, and counts the others. -/
theorem expireDue_spec (bindings : shard.BindingsIndexed)
    (expiries : ExpiriesIndexed [] due shard) (now : Instant) :
    Progressed now [] due (0, shard) (shard.expireDue now) ∧
      ∀ key, (shard.expireDue now).2.registrationIndex.get key =
        (shard.registrationIndex.get key).filter
          fun registration => now < registration.deadline := by
  obtain ⟨progressed, clean⟩ := expireLoop_progressed now due
    shard.expiryIndex.len (0, shard) bindings expiries (Nat.le_refl _)
  refine ⟨progressed, ?_⟩
  intro key
  apply Option.ext
  intro registration
  rw [Option.filter_eq_some_iff, decide_eq_true_eq]
  constructor
  · intro found
    exact ⟨progressed.swept.kept key registration found, clean key registration found⟩
  · rintro ⟨found, live⟩
    rcases progressed.swept.removed key registration found with kept | past
    · exact kept
    · exact absurd past (Nat.not_le.mpr live)

end RouteTableShard

end RelayGate.RouteTable
