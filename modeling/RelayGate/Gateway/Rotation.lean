import RelayGate.Gateway.Bindings
import RelayGate.Gateway.Safety

/-!
# Rotation among the bindings of a destination

Over any calls on a registry its indexes describe the same bindings and keep nothing
empty.  While the bindings stay as they are, the selections for a destination go
round those of the other sessions.
-/

namespace RelayGate.Gateway

open Library Table

namespace LocalRegistry

variable {registry : LocalRegistry} {bindingId : BindingId} {binding : Binding}
  {destination : Destination} {bindingIds : List BindingId}

/-! ## Calls -/

/-- A call that may change a registry. -/
inductive Call
  | register (draws : Draws BindingId) (sessionId : SessionId)
      (destination : Destination)
  | removeOwned (sessionId : SessionId) (bindingId : BindingId)
  | removeSession (sessionId : SessionId)
  | selectExcluding (destination : Destination) (excluded : SessionId)

def apply (registry : LocalRegistry) : Call → LocalRegistry
  | .register draws sessionId destination =>
      (registry.register draws sessionId destination).2
  | .removeOwned sessionId bindingId => (registry.removeOwned sessionId bindingId).2
  | .removeSession sessionId => (registry.removeSession sessionId).2
  | .selectExcluding destination excluded =>
      (registry.selectExcluding destination excluded).2

/-! ## The indexes -/

/-- The three indexes describe the same bindings, no list or bucket is empty, and a
cursor is kept only for a destination with bindings. -/
structure Indexed (registry : LocalRegistry) : Prop where
  filed : registry.Filed
  covered : ∀ bindingId binding, registry.byId.get bindingId = some binding →
    ∃ bindingIds, registry.byDestination.get binding.destination = some bindingIds ∧
      bindingId ∈ bindingIds
  occupied : ∀ destination bindingIds,
    registry.byDestination.get destination = some bindingIds →
      bindingIds ≠ [] ∧ bindingIds.Nodup
  buckets : registry.bySession.NoEmptyBucket
  cursors : ∀ destination cursor,
    registry.nextSelection.get destination = some cursor →
      ∃ bindingIds, registry.byDestination.get destination = some bindingIds

theorem indexed_empty : empty.Indexed where
  filed := filed_empty
  covered bindingId binding found := by cases found
  occupied destination bindingIds found := by cases found
  buckets := BucketIndex.noEmptyBucket_empty
  cursors destination cursor found := by cases found

namespace Indexed

theorem insert (indexed : registry.Indexed) (filed : (registry.insert binding).Filed)
    (unused : registry.byId.get binding.id = none) : (registry.insert binding).Indexed where
  filed := filed
  covered bindingId other found := by
    simp only [LocalRegistry.insert] at found ⊢
    rcases get_insert_eq_some_iff.mp found with ⟨rfl, rfl⟩ | ⟨-, old⟩
    · exact ⟨_, get_insert_self _ _ _, by simp⟩
    · obtain ⟨bindingIds, listed, member⟩ := indexed.covered _ _ old
      rw [get_insert]
      split
      · rename_i same
        rw [same] at listed
        exact ⟨_, rfl, by simp [listed, member]⟩
      · exact ⟨bindingIds, listed, member⟩
  occupied destination bindingIds found := by
    simp only [LocalRegistry.insert] at found
    rcases get_insert_eq_some_iff.mp found with ⟨rfl, rfl⟩ | ⟨-, old⟩
    · refine ⟨by simp, ?_⟩
      cases listed : registry.byDestination.get binding.destination with
      | none => simp
      | some earlier =>
        -- an identity that is listed is stored, and the new one was not
        have new : binding.id ∉ earlier := by
          intro member
          obtain ⟨other, stored, -⟩ := indexed.filed.advertised _ _ listed _ member
          rw [unused] at stored
          cases stored
        rw [Option.getD_some, ← List.concat_eq_append]
        exact (indexed.occupied _ _ listed).2.concat new
    · exact indexed.occupied _ _ old
  buckets := indexed.buckets.put _ _ _
  cursors destination cursor found := by
    obtain ⟨bindingIds, listed⟩ := indexed.cursors _ _ found
    simp only [LocalRegistry.insert]
    rw [get_insert]
    split
    · exact ⟨_, rfl⟩
    · exact ⟨bindingIds, listed⟩

theorem register (indexed : registry.Indexed) (draws : Draws BindingId)
    (sessionId : SessionId) (destination : Destination) :
    (registry.register draws sessionId destination).2.Indexed := by
  have filed := indexed.filed.register draws sessionId destination
  unfold LocalRegistry.register at filed ⊢
  split
  · exact indexed
  · rename_i missing
    rw [missing] at filed
    refine indexed.insert filed ?_
    by_contra used
    obtain ⟨binding, found⟩ := Option.ne_none_iff_exists'.mp used
    exact draws.unique_notMem registry.byId.keys.toFinset
      (List.mem_toFinset.mpr (mem_keys.mpr ⟨binding, found⟩))

end Indexed

/-- The list of a destination after a binding has left it, and its cursor. -/
theorem unlinkDestination_cases (registry : LocalRegistry) (bindingId : BindingId)
    (listed : registry.byDestination.get destination = some bindingIds) :
    ((∀ other ∈ bindingIds, other = bindingId) ∧
      registry.unlinkDestination destination bindingId =
        { registry with
          byDestination := registry.byDestination.remove destination
          nextSelection := registry.nextSelection.remove destination }) ∨
    ((∃ other ∈ bindingIds, other ≠ bindingId) ∧
      registry.unlinkDestination destination bindingId =
        { registry with
          byDestination := registry.byDestination.insert destination
            (bindingIds.filter fun id => id ≠ bindingId) }) := by
  unfold unlinkDestination
  rw [listed]
  dsimp only
  split
  · rename_i emptied
    exact Or.inl ⟨by simpa using emptied, rfl⟩
  · rename_i remaining
    exact Or.inr ⟨by simpa using remaining, rfl⟩

theorem remove_of_some (stored : registry.byId.get bindingId = some binding) :
    (registry.remove bindingId).2 =
      { { registry with byId := registry.byId.remove bindingId }.unlinkDestination
          binding.destination bindingId with
        bySession := registry.bySession.drop binding.sessionId bindingId } := by
  unfold remove
  rw [stored]
  simp

namespace Indexed

section

variable (indexed : registry.Indexed)
include indexed

theorem remove (bindingId : BindingId) : (registry.remove bindingId).2.Indexed := by
  cases stored : registry.byId.get bindingId with
  | none =>
    rw [remove_of_none stored]
    exact indexed
  | some removed =>
    have filed := indexed.filed.remove bindingId
    obtain ⟨bindingIds, listed, -⟩ := indexed.covered _ _ stored
    have kept : ∀ other binding,
        (registry.byId.remove bindingId).get other = some binding →
          other ≠ bindingId ∧ ∃ ids,
            registry.byDestination.get binding.destination = some ids ∧
              other ∈ ids := by
      intro other binding found
      obtain ⟨different, old⟩ := get_remove_eq_some_iff.mp found
      exact ⟨different, indexed.covered _ _ old⟩
    have buckets := indexed.buckets.drop removed.sessionId bindingId
    rw [remove_of_some stored] at filed ⊢
    rcases unlinkDestination_cases
        { registry with byId := registry.byId.remove bindingId } bindingId listed with
      ⟨single, emptied⟩ | ⟨⟨remaining, member, apart⟩, shortened⟩
    · rw [emptied] at filed ⊢
      refine ⟨filed, ?_, ?_, buckets, ?_⟩
      · intro other binding found
        obtain ⟨different, ids, here, member⟩ := kept other binding found
        have elsewhere : binding.destination ≠ removed.destination := by
          intro same
          rw [same, listed] at here
          cases here
          exact different (single other member)
        exact ⟨ids, (get_remove_of_ne _ elsewhere).trans here, member⟩
      · intro destination ids found
        exact indexed.occupied _ _ (get_remove_eq_some_iff.mp found).2
      · intro destination cursor found
        obtain ⟨elsewhere, old⟩ := get_remove_eq_some_iff.mp found
        obtain ⟨ids, here⟩ := indexed.cursors _ _ old
        exact ⟨ids, (get_remove_of_ne _ elsewhere).trans here⟩
    · rw [shortened] at filed ⊢
      refine ⟨filed, ?_, ?_, buckets, ?_⟩
      · intro other binding found
        obtain ⟨different, ids, here, member⟩ := kept other binding found
        dsimp only
        rw [get_insert]
        split
        · rename_i same
          rw [same, listed] at here
          cases here
          exact ⟨_, rfl, List.mem_filter.mpr ⟨member, by simpa using different⟩⟩
        · exact ⟨ids, here, member⟩
      · intro destination ids found
        rcases get_insert_eq_some_iff.mp found with ⟨rfl, rfl⟩ | ⟨-, old⟩
        · refine ⟨?_, (indexed.occupied _ _ listed).2.filter _⟩
          exact List.ne_nil_of_mem
            (List.mem_filter.mpr ⟨member, by simpa using apart⟩)
        · exact indexed.occupied _ _ old
      · intro destination cursor found
        obtain ⟨ids, here⟩ := indexed.cursors _ _ found
        dsimp only
        rw [get_insert]
        split
        · exact ⟨_, rfl⟩
        · exact ⟨ids, here⟩

theorem removeOwned (sessionId : SessionId) (bindingId : BindingId) :
    (registry.removeOwned sessionId bindingId).2.Indexed := by
  unfold LocalRegistry.removeOwned
  split
  · exact indexed
  · split
    · exact indexed
    · exact indexed.remove bindingId

theorem selectExcluding (destination : Destination) (excluded : SessionId) :
    (registry.selectExcluding destination excluded).2.Indexed := by
  have filed := indexed.filed.evolves (Evolves.refl.select destination excluded)
  unfold LocalRegistry.selectExcluding at filed ⊢
  cases listed : registry.byDestination.get destination with
  | none => exact indexed
  | some bindingIds =>
    rw [listed] at filed
    dsimp only at filed ⊢
    split at filed
    · rename_i none
      rw [if_pos none]
      exact indexed
    · rename_i some
      rw [if_neg some]
      refine { indexed with filed := filed, cursors := ?_ }
      intro other cursor found
      rcases get_insert_eq_some_iff.mp found with ⟨rfl, rfl⟩ | ⟨-, old⟩
      · exact ⟨bindingIds, listed⟩
      · exact indexed.cursors _ _ old

theorem apply (call : Call) : (registry.apply call).Indexed := by
  cases call with
  | register draws sessionId destination =>
    exact indexed.register draws sessionId destination
  | removeOwned sessionId bindingId => exact indexed.removeOwned sessionId bindingId
  | removeSession sessionId =>
    exact kept_removeSession (fun _ bindingId kept => kept.remove bindingId) indexed
      sessionId
  | selectExcluding destination excluded =>
    exact indexed.selectExcluding destination excluded

end

theorem foldl_apply (calls : List Call) (indexed : registry.Indexed) :
    (calls.foldl LocalRegistry.apply registry).Indexed := by
  induction calls generalizing registry with
  | nil => exact indexed
  | cons call calls ih => exact ih (indexed.apply call)

end Indexed

/-! ## Selections -/

/-- The bindings of a destination that belong to other sessions. -/
def others (registry : LocalRegistry) (destination : Destination)
    (excluded : SessionId) : List Binding :=
  registry.byId.values.filter fun binding =>
    binding.destination = destination ∧ binding.sessionId ≠ excluded

/-- The cursor of a destination. -/
def cursor (registry : LocalRegistry) (destination : Destination) : Nat :=
  (registry.nextSelection.get destination).getD 0

/-- What some selections answer to the callers that want one destination. -/
def answers (destination : Destination) :
    LocalRegistry → List (Destination × SessionId) → List (Option Binding)
  | _, [] => []
  | registry, (wanted, excluded) :: rest =>
      let rest := answers destination (registry.selectExcluding wanted excluded).2 rest
      if wanted = destination then
        (registry.selectExcluding wanted excluded).1 :: rest
      else rest

/-- The candidates of a selection, in their order. -/
def candidates (registry : LocalRegistry) (destination : Destination)
    (excluded : SessionId) : List Binding :=
  registry.eligible ((registry.byDestination.get destination).getD []) excluded

theorem candidates_selectExcluding (registry : LocalRegistry)
    (wanted destination : Destination) (caller excluded : SessionId) :
    (registry.selectExcluding wanted caller).2.candidates destination excluded =
      registry.candidates destination excluded := by
  unfold candidates eligible
  rw [byDestination_selectExcluding, byId_selectExcluding]

theorem selectExcluding_of_candidates {excluded : SessionId}
    (present : 0 < (registry.candidates destination excluded).length) :
    registry.selectExcluding destination excluded =
      ((registry.candidates destination excluded)[registry.cursor destination %
          (registry.candidates destination excluded).length]?,
        { registry with
          nextSelection := registry.nextSelection.insert destination
            ((registry.cursor destination + 1) % 2 ^ 64) }) := by
  unfold selectExcluding
  cases listed : registry.byDestination.get destination with
  | none => simp [candidates, listed, eligible] at present
  | some bindingIds =>
    have same : registry.eligible bindingIds excluded =
        registry.candidates destination excluded := by
      unfold candidates
      rw [listed, Option.getD_some]
    dsimp only
    rw [same, if_neg present.ne']
    rfl

theorem cursor_selectExcluding_of_ne {wanted : Destination} (caller : SessionId)
    (different : wanted ≠ destination) :
    (registry.selectExcluding wanted caller).2.cursor destination =
      registry.cursor destination := by
  unfold selectExcluding
  split
  · rfl
  · dsimp only
    split
    · rfl
    · unfold cursor
      rw [get_insert_of_ne _ _ different.symm]

/-- Selections for one destination by callers that exclude one session go through its
candidates from the cursor on, whatever is selected for other destinations. -/
theorem answers_eq (excluded : SessionId) (selections : List (Destination × SessionId))
    (count : Nat)
    (consecutive : selections.filter (fun selection => selection.1 = destination) =
      List.replicate count (destination, excluded))
    (present : count ≠ 0 → 0 < (registry.candidates destination excluded).length)
    (unwrapped : registry.cursor destination + count ≤ 2 ^ 64) :
    answers destination registry selections =
      (List.range count).map fun index =>
        (registry.candidates destination excluded)[(index + registry.cursor destination) %
          (registry.candidates destination excluded).length]? := by
  induction selections generalizing registry count with
  | nil =>
    cases count with
    | zero => rfl
    | succ => cases consecutive
  | cons selection selections ih =>
    obtain ⟨wanted, caller⟩ := selection
    unfold answers
    dsimp only
    by_cases same : wanted = destination
    · subst same
      rw [List.filter_cons_of_pos (by simp)] at consecutive
      cases count with
      | zero => cases consecutive
      | succ count =>
        rw [List.replicate_succ, List.cons.injEq, Prod.mk.injEq] at consecutive
        obtain ⟨⟨-, rfl⟩, later⟩ := consecutive
        have some := present (Nat.succ_ne_zero count)
        have advanced : count ≠ 0 →
            (registry.selectExcluding wanted caller).2.cursor wanted =
              registry.cursor wanted + 1 := by
          intro more
          rw [selectExcluding_of_candidates some, cursor, get_insert_self,
            Option.getD_some, Nat.mod_eq_of_lt (by omega)]
        have bounded :
            (registry.selectExcluding wanted caller).2.cursor wanted + count ≤
              2 ^ 64 := by
          cases count with
          | zero =>
            rw [selectExcluding_of_candidates some, cursor, get_insert_self,
              Option.getD_some, Nat.add_zero]
            exact (Nat.mod_lt _ (Nat.two_pow_pos 64)).le
          | succ count =>
            rw [advanced (Nat.succ_ne_zero count)]
            omega
        rw [if_pos rfl, ih count later (fun _ => ?_) bounded, List.range_succ_eq_map,
          List.map_cons, List.map_map, candidates_selectExcluding]
        · congr 1
          · rw [selectExcluding_of_candidates some, Nat.zero_add]
          · apply List.map_congr_left
            intro index inside
            have more := Nat.ne_zero_of_lt (List.mem_range.mp inside)
            simp only [Function.comp_apply, advanced more]
            congr 2
            omega
        · rw [candidates_selectExcluding]
          exact some
    · rw [List.filter_cons_of_neg (by simpa using same)] at consecutive
      rw [if_neg same, ih count consecutive]
      · rw [candidates_selectExcluding, cursor_selectExcluding_of_ne caller same]
      · rw [candidates_selectExcluding]
        exact present
      · rw [cursor_selectExcluding_of_ne caller same]
        exact unwrapped

/-- A full round answers with every candidate, from the cursor on. -/
theorem answers_eq_rotate (excluded : SessionId) (selections : List (Destination × SessionId))
    (consecutive : selections.filter (fun selection => selection.1 = destination) =
      List.replicate (registry.candidates destination excluded).length (destination, excluded))
    (unwrapped : registry.cursor destination +
      (registry.candidates destination excluded).length ≤ 2 ^ 64) :
    answers destination registry selections =
      ((registry.candidates destination excluded).rotate
        (registry.cursor destination)).map some := by
  rw [answers_eq excluded selections _ consecutive Nat.pos_of_ne_zero unwrapped]
  apply List.ext_getElem
  · simp
  · intro index inside _
    simp only [List.length_map, List.length_range] at inside
    simp only [List.getElem_map, List.getElem_range, List.getElem_rotate]
    exact List.getElem?_eq_getElem _

namespace Indexed

variable (indexed : registry.Indexed)
include indexed

theorem nodup_candidates (destination : Destination) (excluded : SessionId) :
    (registry.candidates destination excluded).Nodup := by
  unfold candidates eligible
  apply List.Nodup.filter
  apply List.Nodup.filterMap
  · intro first second binding here there
    exact (indexed.filed.keyed _ _ here).symm.trans (indexed.filed.keyed _ _ there)
  · cases listed : registry.byDestination.get destination with
    | none => exact List.nodup_nil
    | some => exact (indexed.occupied _ _ listed).2

theorem nodup_others (destination : Destination) (excluded : SessionId) :
    (registry.others destination excluded).Nodup := by
  apply List.Nodup.filter
  apply registry.byId.nodup_toList.map_on
  intro first here second there same
  have own := indexed.filed.keyed _ _ (mem_toList.mp here)
  rw [same, indexed.filed.keyed _ _ (mem_toList.mp there)] at own
  exact Prod.ext own.symm same

/-- The list of a destination is complete and holds nothing else. -/
theorem mem_candidates {excluded : SessionId} :
    binding ∈ registry.candidates destination excluded ↔
      binding ∈ registry.others destination excluded := by
  unfold candidates eligible others
  simp only [List.mem_filter, List.mem_filterMap, mem_values, decide_eq_true_eq]
  constructor
  · rintro ⟨⟨bindingId, member, stored⟩, apart⟩
    refine ⟨⟨bindingId, stored⟩, ?_, apart⟩
    cases listed : registry.byDestination.get destination with
    | none =>
      rw [listed] at member
      cases member
    | some =>
      rw [listed] at member
      obtain ⟨other, here, same⟩ := indexed.filed.advertised _ _ listed _ member
      rw [stored] at here
      cases here
      exact same
  · rintro ⟨⟨bindingId, stored⟩, rfl, apart⟩
    obtain ⟨bindingIds, listed, member⟩ := indexed.covered _ _ stored
    rw [listed]
    exact ⟨⟨bindingId, member, stored⟩, apart⟩

theorem candidates_perm (destination : Destination) (excluded : SessionId) :
    (registry.candidates destination excluded).Perm (registry.others destination excluded) :=
  (List.perm_ext_iff_of_nodup (indexed.nodup_candidates destination excluded)
    (indexed.nodup_others destination excluded)).mpr fun _ => indexed.mem_candidates

end Indexed

/-- After any calls the indexes describe the same bindings, with nothing empty and one
binding for a session and destination.  As long as the cursor does not wrap, as many
selections for a destination by callers of one session as there are bindings of
others answer with each of these exactly once. -/
theorem calls_keep_indexes_and_rotate (calls : List Call) :
    (calls.foldl apply empty).Indexed ∧
      ∀ (destination : Destination) (excluded : SessionId)
        (selections : List (Destination × SessionId)),
        selections.filter (fun selection => selection.1 = destination) =
          List.replicate ((calls.foldl apply empty).others destination excluded).length
            (destination, excluded) →
        (calls.foldl apply empty).cursor destination +
          ((calls.foldl apply empty).others destination excluded).length ≤ 2 ^ 64 →
        (answers destination (calls.foldl apply empty) selections).Perm
          (((calls.foldl apply empty).others destination excluded).map some) := by
  have indexed := indexed_empty.foldl_apply calls
  refine ⟨indexed, ?_⟩
  intro destination excluded selections consecutive unwrapped
  have same := indexed.candidates_perm destination excluded
  rw [← same.length_eq] at consecutive unwrapped
  rw [answers_eq_rotate excluded selections consecutive unwrapped]
  exact ((List.rotate_perm _ _).trans same).map some

namespace Scenario

open World.Scenario

/-- Two sessions publish one destination. -/
def publishing : List Call :=
  [.register bindingDraws listener World.Scenario.destination,
    .register bindingDraws dialer World.Scenario.destination]

end Scenario

open World.Scenario Scenario in
/-- Two bindings of one destination are selected in turn by a third session. -/
theorem rotates_between_two_listeners :
    (answers World.Scenario.destination (Scenario.publishing.foldl apply empty)
      [(World.Scenario.destination, ⟨2⟩), (World.Scenario.destination, ⟨2⟩)]).Perm
        [some ⟨⟨0⟩, World.Scenario.destination, listener⟩,
          some ⟨⟨1⟩, World.Scenario.destination, dialer⟩] := by
  have rotated := (calls_keep_indexes_and_rotate Scenario.publishing).2
    World.Scenario.destination ⟨2⟩
    [(World.Scenario.destination, ⟨2⟩), (World.Scenario.destination, ⟨2⟩)]
    (by decide) (by decide)
  exact rotated.trans (by decide)

end LocalRegistry

end RelayGate.Gateway
