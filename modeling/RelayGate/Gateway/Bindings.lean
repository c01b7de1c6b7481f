import RelayGate.Gateway.Invariant

/-!
# The files of the registry

The indexes of the registry name the same bindings, and no session publishes a
destination twice.  Every operation on a registry keeps its files in order, and the
transitions on Pipes and attempts leave the registry alone.
-/

namespace RelayGate.Gateway

open Library

namespace LocalRegistry

variable {bindingId : BindingId} {binding : Binding} {target registry : LocalRegistry}
  {destination : Destination} {sessionId : SessionId}

/-- Bindings are stored under their own identity, listed for their session and for
no other, differ in session or destination, and a destination lists bindings of
its own only. -/
structure Filed (registry : LocalRegistry) : Prop where
  keyed : ∀ bindingId binding,
    registry.byId.get bindingId = some binding → binding.id = bindingId
  listed : ∀ sessionId bindingId,
    registry.bySession.find sessionId bindingId = some () ↔
      ∃ binding, registry.byId.get bindingId = some binding ∧
        binding.sessionId = sessionId
  single : ∀ first second, registry.byId.get first.id = some first →
    registry.byId.get second.id = some second →
    first.sessionId = second.sessionId →
    first.destination = second.destination → first = second
  advertised : ∀ destination bindingIds,
    registry.byDestination.get destination = some bindingIds →
      ∀ bindingId ∈ bindingIds, ∃ binding,
        registry.byId.get bindingId = some binding ∧
          binding.destination = destination

theorem filed_empty : empty.Filed where
  keyed := by
    intro bindingId binding found
    cases found
  listed := by
    intro sessionId bindingId
    constructor
    · intro found
      cases found
    · rintro ⟨binding, found, -⟩
      cases found
  single := by
    intro first second found
    cases found
  advertised := by
    intro destination bindingIds found
    cases found

/-! ## Each operation keeps the files -/

theorem find_bySession_remove (stored : registry.byId.get bindingId = some binding)
    (sessionId : SessionId) (other : BindingId) :
    (registry.remove bindingId).2.bySession.find sessionId other =
      if sessionId = binding.sessionId ∧ other = bindingId then none
      else registry.bySession.find sessionId other := by
  unfold remove
  rw [stored]
  simp only [bySession_unlinkDestination]
  exact BucketIndex.find_drop _ _ _ _ _

theorem get_byId_remove_eq_some_iff {other : BindingId} :
    (registry.remove bindingId).2.byId.get other = some binding ↔
      other ≠ bindingId ∧ registry.byId.get other = some binding := by
  rw [get_byId_remove]
  by_cases same : other = bindingId
  · simp [same]
  · simp [same]

/-- What a destination lists after a removal was listed before. -/
theorem mem_byDestination_remove {removed : Binding}
    (stored : registry.byId.get bindingId = some removed) {bindingIds : List BindingId}
    (found : (registry.remove bindingId).2.byDestination.get destination = some bindingIds) :
    ∃ earlier, registry.byDestination.get destination = some earlier ∧
      ∀ other ∈ bindingIds, other ∈ earlier ∧
        (destination = removed.destination → other ≠ bindingId) := by
  unfold remove at found
  rw [stored] at found
  simp only [unlinkDestination] at found
  by_cases here : destination = removed.destination
  · subst destination
    split at found
    · rename_i absent
      rw [absent] at found
      cases found
    · rename_i earlier listed
      refine ⟨earlier, listed, ?_⟩
      split at found
      · rw [Table.get_remove_self] at found
        cases found
      · rw [Table.get_insert_self] at found
        cases found
        intro other member
        obtain ⟨listed, different⟩ := List.mem_filter.mp member
        exact ⟨listed, fun _ => of_decide_eq_true different⟩
  · refine ⟨bindingIds, ?_, fun other member =>
      ⟨member, fun same => absurd same here⟩⟩
    split at found
    · exact found
    · split at found
      · rwa [Table.get_remove_of_ne _ here] at found
      · rwa [Table.get_insert_of_ne _ _ here] at found

theorem remove_of_none (missing : registry.byId.get bindingId = none) :
    (registry.remove bindingId).2 = registry := by
  unfold remove
  rw [missing]

section

variable (filed : registry.Filed)
include filed

theorem Filed.remove (bindingId : BindingId) : (registry.remove bindingId).2.Filed := by
  cases stored : registry.byId.get bindingId with
  | none =>
    rw [remove_of_none stored]
    exact filed
  | some =>
    constructor
    · intro other binding found
      exact filed.keyed _ _ (get_byId_remove_eq_some_iff.mp found).2
    · intro sessionId other
      rw [find_bySession_remove stored]
      simp only [get_byId_remove_eq_some_iff]
      by_cases same : other = bindingId
      · subst other
        simp only [and_true, ne_eq, not_true_eq_false, false_and, exists_false, iff_false]
        split
        · simp
        · rename_i elsewhere
          rw [filed.listed]
          rintro ⟨binding, found, owner⟩
          obtain rfl := Option.some.inj (stored.symm.trans found)
          exact elsewhere owner.symm
      · rw [if_neg fun both => same both.2, filed.listed]
        simp [same]
    · intro first second firstFound secondFound
      exact filed.single _ _ (get_byId_remove_eq_some_iff.mp firstFound).2
        (get_byId_remove_eq_some_iff.mp secondFound).2
    · intro destination bindingIds found other member
      obtain ⟨earlier, listed, old⟩ := mem_byDestination_remove stored found
      obtain ⟨binding, kept, same⟩ := filed.advertised _ _ listed other (old other member).1
      refine ⟨binding, get_byId_remove_eq_some_iff.mpr ⟨?_, kept⟩, same⟩
      rintro rfl
      obtain rfl := Option.some.inj (stored.symm.trans kept)
      exact (old other member).2 same.symm rfl

theorem Filed.removeOwned (sessionId : SessionId) (bindingId : BindingId) :
    (registry.removeOwned sessionId bindingId).2.Filed := by
  unfold LocalRegistry.removeOwned
  split
  · exact filed
  · split
    · exact filed
    · exact filed.remove bindingId

theorem Filed.removeSession (sessionId : SessionId) :
    (registry.removeSession sessionId).2.Filed :=
  kept_removeSession (fun _ bindingId kept => kept.remove bindingId) filed sessionId

theorem bindingForSessionDestination_eq_none
    (missing : registry.bindingForSessionDestination sessionId destination = none)
    (stored : registry.byId.get binding.id = some binding)
    (owner : binding.sessionId = sessionId) : binding.destination ≠ destination := by
  intro same
  unfold bindingForSessionDestination at missing
  rw [List.findSome?_eq_none_iff] at missing
  have listed : binding.id ∈ registry.sessionBindingIds sessionId :=
    mem_sessionBindingIds.mpr
      ((filed.listed _ _).mpr ⟨binding, stored, owner⟩)
  have unmatched := missing _ listed
  rw [stored] at unmatched
  simp [Option.filter, same] at unmatched

theorem Filed.insert (unused : registry.byId.get binding.id = none)
    (new : ∀ other, registry.byId.get other.id = some other →
      other.sessionId = binding.sessionId → other.destination ≠ binding.destination) :
    (registry.insert binding).Filed := by
  have stored : ∀ bindingId found,
      (registry.insert binding).byId.get bindingId = some found ↔
        (binding.id = bindingId ∧ binding = found) ∨
          (bindingId ≠ binding.id ∧
            registry.byId.get bindingId = some found) := by
    intro bindingId found
    change (registry.byId.insert binding.id binding).get bindingId = _ ↔ _
    rw [Table.get_insert_eq_some_iff]
    simp only [eq_comm]
  constructor
  · intro bindingId found present
    rcases (stored _ _).mp present with ⟨rfl, rfl⟩ | ⟨-, old⟩
    · rfl
    · exact filed.keyed _ _ old
  · intro sessionId bindingId
    change (registry.bySession.put binding.sessionId binding.id ()).find sessionId
      bindingId = _ ↔ _
    rw [BucketIndex.find_put]
    simp only [stored]
    by_cases same : bindingId = binding.id
    · subst bindingId
      by_cases owner : sessionId = binding.sessionId
      · subst sessionId
        simp
      · rw [if_neg fun both => owner both.1, filed.listed, unused]
        simp only [true_and, ne_eq, not_true_eq_false, false_and, or_false, exists_eq_left']
        constructor
        · rintro ⟨found, impossible, -⟩
          cases impossible
        · intro matching
          exact absurd matching.symm owner
    · rw [if_neg fun both => same both.2, filed.listed]
      simp [same, Ne.symm same]
  · intro first second firstFound secondFound sameSession sameDestination
    rcases (stored _ _).mp firstFound with ⟨-, rfl⟩ | ⟨-, firstOld⟩
    · rcases (stored _ _).mp secondFound with ⟨-, rfl⟩ | ⟨-, secondOld⟩
      · rfl
      · exact absurd sameDestination.symm
          (new second secondOld sameSession.symm)
    · rcases (stored _ _).mp secondFound with ⟨-, rfl⟩ | ⟨-, secondOld⟩
      · exact absurd sameDestination (new first firstOld sameSession)
      · exact filed.single _ _ firstOld secondOld sameSession sameDestination
  · intro destination bindingIds found bindingId member
    have old : ∀ earlier, registry.byDestination.get destination = some earlier →
        bindingId ∈ earlier → ∃ other,
          (registry.insert binding).byId.get bindingId = some other ∧
            other.destination = destination := by
      intro earlier listed listedId
      obtain ⟨other, kept, same⟩ := filed.advertised _ _ listed bindingId listedId
      refine ⟨other, (stored _ _).mpr (Or.inr ⟨?_, kept⟩), same⟩
      rintro rfl
      rw [unused] at kept
      cases kept
    change (registry.byDestination.insert binding.destination _).get destination = _ at found
    rcases Table.get_insert_eq_some_iff.mp found with ⟨rfl, rfl⟩ | ⟨-, listed⟩
    · rcases List.mem_append.mp member with earlier | last
      · cases listed : registry.byDestination.get binding.destination with
        | none =>
          rw [listed] at earlier
          cases earlier
        | some ids =>
          rw [listed] at earlier
          exact old ids listed earlier
      · exact ⟨binding, (stored _ _).mpr (Or.inl ⟨(List.mem_singleton.mp last).symm, rfl⟩), rfl⟩
    · exact old bindingIds listed member

theorem Filed.register (draws : Draws BindingId) (sessionId : SessionId)
    (destination : Destination) : (registry.register draws sessionId destination).2.Filed := by
  unfold LocalRegistry.register
  split
  · exact filed
  · rename_i missing
    apply filed.insert
    · by_contra used
      obtain ⟨binding, found⟩ := Option.ne_none_iff_exists'.mp used
      exact draws.unique_notMem registry.byId.keys.toFinset
        (List.mem_toFinset.mpr (Table.mem_keys.mpr ⟨binding, found⟩))
    · intro other stored owner
      exact bindingForSessionDestination_eq_none filed missing stored owner

end

section

variable (registry : LocalRegistry) (destination : Destination) (excluded : SessionId)

@[simp]
theorem byId_selectExcluding :
    (registry.selectExcluding destination excluded).2.byId = registry.byId := by
  unfold selectExcluding
  split
  · rfl
  · dsimp only
    split <;> rfl

@[simp]
theorem bySession_selectExcluding :
    (registry.selectExcluding destination excluded).2.bySession = registry.bySession := by
  unfold selectExcluding
  split
  · rfl
  · dsimp only
    split <;> rfl

@[simp]
theorem byDestination_selectExcluding :
    (registry.selectExcluding destination excluded).2.byDestination = registry.byDestination := by
  unfold selectExcluding
  split
  · rfl
  · dsimp only
    split <;> rfl

end

/-- The files depend on the indexes as maps only. -/
theorem Filed.congr (filed : registry.Filed)
    (byId : ∀ key, target.byId.get key = registry.byId.get key)
    (byDestination : ∀ key, target.byDestination.get key = registry.byDestination.get key)
    (bySession : ∀ bucket key, target.bySession.find bucket key =
      registry.bySession.find bucket key) : target.Filed where
  keyed := by
    intro bindingId binding found
    exact filed.keyed _ _ ((byId bindingId).symm.trans found)
  listed := by
    intro sessionId bindingId
    rw [bySession, byId]
    exact filed.listed sessionId bindingId
  single := by
    intro first second firstFound secondFound
    exact filed.single _ _ ((byId _).symm.trans firstFound)
      ((byId _).symm.trans secondFound)
  advertised := by
    intro destination bindingIds found bindingId member
    rw [byId]
    exact filed.advertised _ _ ((byDestination _).symm.trans found) bindingId
      member

/-! ## The bindings of a session -/

theorem Filed.mem_bindingsForSession (filed : registry.Filed) :
    binding ∈ registry.bindingsForSession sessionId ↔
      registry.byId.get binding.id = some binding ∧ binding.sessionId = sessionId := by
  unfold bindingsForSession
  rw [List.mem_insertionSort, List.mem_filterMap]
  constructor
  · rintro ⟨bindingId, listed, found⟩
    obtain ⟨other, stored, owner⟩ := (filed.listed _ _).mp (mem_sessionBindingIds.mp listed)
    obtain rfl := Option.some.inj (stored.symm.trans found)
    rw [filed.keyed _ _ found]
    exact ⟨found, owner⟩
  · rintro ⟨stored, owner⟩
    exact ⟨binding.id, mem_sessionBindingIds.mpr
      ((filed.listed _ _).mpr ⟨binding, stored, owner⟩), stored⟩

theorem Filed.nodup_bindingsForSession (filed : registry.Filed) (sessionId : SessionId) :
    (registry.bindingsForSession sessionId).Nodup := by
  unfold bindingsForSession
  rw [(List.perm_insertionSort _ _).nodup_iff]
  apply List.Nodup.filterMap
  · intro first second binding firstFound secondFound
    exact (filed.keyed _ _ firstFound).symm.trans
      (filed.keyed _ _ secondFound)
  · unfold sessionBindingIds
    cases registry.bySession.get sessionId with
    | none => exact List.nodup_nil
    | some bucket => exact bucket.nodup_keys

/-! ## Operations on a registry -/

/-- The operations through which events edit a registry, in any order. -/
inductive Evolves (registry : LocalRegistry) : LocalRegistry → Prop
  | refl : Evolves registry registry
  | register {target : LocalRegistry} (earlier : Evolves registry target)
      (draws : Draws BindingId) (sessionId : SessionId)
      (destination : Destination) :
      Evolves registry (target.register draws sessionId destination).2
  | removeOwned {target : LocalRegistry} (earlier : Evolves registry target)
      (sessionId : SessionId) (bindingId : BindingId) :
      Evolves registry (target.removeOwned sessionId bindingId).2
  | removeSession {target : LocalRegistry} (earlier : Evolves registry target)
      (sessionId : SessionId) :
      Evolves registry (target.removeSession sessionId).2
  | select {target : LocalRegistry} (earlier : Evolves registry target)
      (destination : Destination) (excluded : SessionId) :
      Evolves registry (target.selectExcluding destination excluded).2
  | rehash {target final : LocalRegistry} (earlier : Evolves registry target)
      (byId : ∀ key, final.byId.get key = target.byId.get key)
      (byDestination : ∀ key,
        final.byDestination.get key = target.byDestination.get key)
      (bySession : ∀ bucket key, final.bySession.find bucket key =
        target.bySession.find bucket key) :
      Evolves registry final

theorem Filed.evolves (filed : registry.Filed)
    (evolves : registry.Evolves target) : target.Filed := by
  induction evolves with
  | refl => exact filed
  | register _ draws sessionId destination ih =>
    exact ih.register draws sessionId destination
  | removeOwned _ sessionId bindingId ih =>
    exact ih.removeOwned sessionId bindingId
  | removeSession _ sessionId ih => exact ih.removeSession sessionId
  | select _ destination excluded ih =>
    apply ih.congr
    · intro key
      rw [byId_selectExcluding]
    · intro key
      rw [byDestination_selectExcluding]
    · intro bucket key
      rw [bySession_selectExcluding]
  | rehash _ byId byDestination bySession ih =>
    exact ih.congr byId byDestination bySession

end LocalRegistry

/-! ## Transitions that leave the registry alone -/

namespace GatewayState

variable (state : GatewayState) (pipeId : PipeId) (pipe : PipeEntry)

@[simp, grind =]
theorem registry_removePipe : (state.removePipe pipeId).2.registry = state.registry := by
  unfold removePipe
  split <;> rfl

@[simp, grind =]
theorem registry_promoteOffer : (state.promoteOffer pipeId).2.registry = state.registry := by
  unfold promoteOffer
  split
  · rfl
  · split <;> rfl

@[simp, grind =]
theorem registry_takeRemoteAttempt (openIdentity : OpenIdentity) :
    (state.takeRemoteAttempt openIdentity).2.registry = state.registry := by
  unfold takeRemoteAttempt
  split <;> rfl

@[simp, grind =]
theorem registry_insertOffer : (state.insertOffer pipeId pipe).registry = state.registry :=
  registry_indexPeerPipe state pipeId pipe

@[simp, grind =]
theorem registry_insertOpen : (state.insertOpen pipeId pipe).registry = state.registry :=
  registry_indexPeerPipe state pipeId pipe

end GatewayState

end RelayGate.Gateway
