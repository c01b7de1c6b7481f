import RelayGate.Gateway.Registry

/-!
# Ownership of bindings

Every binding of a registry belongs to a session that is present and is filed
under that session, so that removing a session finds all its bindings.
-/

namespace RelayGate.Gateway

open Library

namespace LocalRegistry

variable {binding : Binding} {sessionId : SessionId} {bindingId : BindingId}
  {destination : Destination}

/-- The owners of the bindings are present and have their bindings filed. -/
def Owned (present : SessionId → Prop) (registry : LocalRegistry) : Prop :=
  ∀ bindingId binding, registry.byId.get bindingId = some binding →
    present binding.sessionId ∧
      registry.bySession.find binding.sessionId bindingId = some ()

variable {present : SessionId → Prop} {registry : LocalRegistry}

theorem owned_empty (present : SessionId → Prop) : empty.Owned present := by
  intro bindingId binding found
  exact absurd found.symm (Option.some_ne_none _)

theorem Owned.imp {remaining : SessionId → Prop} (owned : registry.Owned present)
    (kept : ∀ bindingId binding,
      registry.byId.get bindingId = some binding → remaining binding.sessionId) :
    registry.Owned remaining :=
  fun _ _ found => ⟨kept _ _ found, (owned _ _ found).2⟩

/-! ## Removal -/

section

variable (registry : LocalRegistry) (destination : Destination) (bindingId : BindingId)

@[simp]
theorem byId_unlinkDestination :
    (registry.unlinkDestination destination bindingId).byId = registry.byId := by
  simp only [unlinkDestination]
  split
  · rfl
  · split <;> rfl

@[simp]
theorem bySession_unlinkDestination :
    (registry.unlinkDestination destination bindingId).bySession = registry.bySession := by
  simp only [unlinkDestination]
  split
  · rfl
  · split <;> rfl

theorem get_byId_remove (bindingId other : BindingId) :
    (registry.remove bindingId).2.byId.get other =
      if other = bindingId then none else registry.byId.get other := by
  unfold remove
  cases found : registry.byId.get bindingId with
  | none =>
    by_cases same : other = bindingId
    · rw [if_pos same, same]
      exact found
    · rw [if_neg same]
  | some =>
    simp only [byId_unlinkDestination]
    exact Table.get_remove _ _ _

end

theorem Owned.remove (owned : registry.Owned present)
    (bindingId : BindingId) : (registry.remove bindingId).2.Owned present := by
  intro other binding remaining
  rw [get_byId_remove] at remaining
  by_cases same : other = bindingId
  · rw [if_pos same] at remaining
    exact absurd remaining.symm (Option.some_ne_none _)
  · rw [if_neg same] at remaining
    obtain ⟨owner, filed⟩ := owned _ _ remaining
    refine ⟨owner, ?_⟩
    unfold LocalRegistry.remove
    split
    · exact filed
    · simp only [bySession_unlinkDestination]
      rw [BucketIndex.find_drop, if_neg fun both => same both.2]
      exact filed

theorem Owned.removeOwned (owned : registry.Owned present)
    (sessionId : SessionId) (bindingId : BindingId) :
    (registry.removeOwned sessionId bindingId).2.Owned present := by
  unfold LocalRegistry.removeOwned
  split
  · exact owned
  · split
    · exact owned
    · exact owned.remove bindingId

theorem removeNext_snd (progress : List Binding × LocalRegistry) (bindingId : BindingId) :
    (removeNext progress bindingId).2 = (progress.2.remove bindingId).2 := by
  unfold removeNext
  split <;> rename_i outcome <;> rw [outcome]

/-- What every removal of a binding keeps, the removal of a session keeps. -/
theorem kept_removeSession {Kept : LocalRegistry → Prop}
    (remove : ∀ registry bindingId, Kept registry → Kept (registry.remove bindingId).2)
    (kept : Kept registry) (sessionId : SessionId) :
    Kept (registry.removeSession sessionId).2 := by
  have loop : ∀ (bindingIds : List BindingId)
      (progress : List Binding × LocalRegistry), Kept progress.2 →
        Kept (bindingIds.foldl removeNext progress).2 := by
    intro bindingIds
    induction bindingIds with
    | nil => exact fun _ kept => kept
    | cons bindingId bindingIds ih =>
      intro progress kept
      apply ih
      rw [removeNext_snd]
      exact remove _ bindingId kept
  exact loop _ _ kept

theorem get_byId_foldl_removeNext (bindingIds : List BindingId)
    (progress : List Binding × LocalRegistry) {other : BindingId}
    (remaining : (bindingIds.foldl removeNext progress).2.byId.get other = some binding) :
    other ∉ bindingIds ∧ progress.2.byId.get other = some binding := by
  induction bindingIds generalizing progress with
  | nil => exact ⟨List.not_mem_nil, remaining⟩
  | cons bindingId bindingIds ih =>
    obtain ⟨notLater, found⟩ := ih _ remaining
    rw [removeNext_snd, get_byId_remove] at found
    by_cases same : other = bindingId
    · rw [if_pos same] at found
      exact absurd found.symm (Option.some_ne_none _)
    · rw [if_neg same] at found
      exact ⟨List.not_mem_cons_of_ne_of_not_mem same notLater, found⟩

theorem mem_sessionBindingIds :
    bindingId ∈ registry.sessionBindingIds sessionId ↔
      registry.bySession.find sessionId bindingId = some () := by
  unfold sessionBindingIds BucketIndex.find
  cases registry.bySession.get sessionId with
  | none => simp
  | some =>
    simp only [Option.map_some, Option.getD_some, Option.bind_some, Table.mem_keys]
    exact ⟨fun ⟨_, found⟩ => found, fun found => ⟨(), found⟩⟩

variable (owned : registry.Owned present)
include owned

theorem Owned.removeSession (sessionId : SessionId) :
    (registry.removeSession sessionId).2.Owned
      fun other => present other ∧ other ≠ sessionId := by
  refine (kept_removeSession (fun _ bindingId kept => kept.remove bindingId) owned
    sessionId).imp ?_
  intro bindingId binding remaining
  obtain ⟨notListed, found⟩ := get_byId_foldl_removeNext _ _ remaining
  obtain ⟨owner, filed⟩ := owned _ _ found
  refine ⟨owner, ?_⟩
  rintro rfl
  exact notListed (mem_sessionBindingIds.mpr filed)

/-! ## Registration and selection -/

theorem Owned.register (draws : Draws BindingId) (owner : present sessionId)
    (destination : Destination) :
    (registry.register draws sessionId destination).2.Owned present := by
  unfold LocalRegistry.register
  split
  · exact owned
  · intro bindingId binding found
    simp only [LocalRegistry.insert] at found ⊢
    rcases Table.get_insert_eq_some_iff.mp found with
      ⟨rfl, rfl⟩ | ⟨different, old⟩
    · exact ⟨owner, by rw [BucketIndex.find_put, if_pos ⟨rfl, rfl⟩]⟩
    · obtain ⟨oldOwner, filed⟩ := owned _ _ old
      refine ⟨oldOwner, ?_⟩
      rw [BucketIndex.find_put, if_neg fun both => different both.2]
      exact filed

theorem Owned.selectExcluding (destination : Destination) (excluded : SessionId) :
    (registry.selectExcluding destination excluded).2.Owned present := by
  unfold LocalRegistry.selectExcluding
  split
  · exact owned
  · dsimp only
    split <;> exact owned

/-- The binding of an exact lookup is the session's own. -/
theorem Owned.exact (found : registry.exact sessionId bindingId destination = some binding) :
    present binding.sessionId ∧ binding.sessionId = sessionId := by
  unfold LocalRegistry.exact at found
  rw [Option.filter_eq_some_iff] at found
  obtain ⟨stored, matching⟩ := found
  simp only [decide_eq_true_eq] at matching
  exact ⟨(owned _ _ stored).1, matching.1⟩

/-- A selected binding belongs to another session that is present. -/
theorem Owned.selected {excluded : SessionId}
    (found : (registry.selectExcluding destination excluded).1 = some binding) :
    present binding.sessionId ∧ binding.sessionId ≠ excluded := by
  unfold LocalRegistry.selectExcluding at found
  split at found
  · exact absurd found.symm (Option.some_ne_none _)
  · dsimp only at found
    split at found
    · exact absurd found.symm (Option.some_ne_none _)
    · have member := List.mem_of_getElem? found
      unfold eligible at member
      rw [List.mem_filter, List.mem_filterMap] at member
      obtain ⟨⟨bindingId, -, stored⟩, different⟩ := member
      exact ⟨(owned _ _ stored).1, of_decide_eq_true different⟩

end LocalRegistry

end RelayGate.Gateway
