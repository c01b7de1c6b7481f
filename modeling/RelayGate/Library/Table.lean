import Mathlib

/-!
# Finite tables

A `Table K V` is a finite map from keys to values, kept as an association list
with distinct keys.  It stands for the hash maps and ordered maps of an
implementation: lookup, insertion and removal are executable, and iteration is
over `toList`.  Statements about a table go through `get`, which does not
depend on the order of the list; counts and sums over a table go through
`tally`, whose value is determined by `get` as well.
-/

namespace RelayGate.Library

universe u v

/-- A finite map from `K` to `V`. -/
def Table (K : Type u) (V : Type v) : Type (max u v) :=
  AList (fun _ : K => V)

namespace Table

variable {K : Type u} {V : Type v} {first second : Table K V}

instance : EmptyCollection (Table K V) :=
  ⟨(∅ : AList (fun _ : K => V))⟩

instance [DecidableEq K] [DecidableEq V] : DecidableEq (Table K V) :=
  inferInstanceAs (DecidableEq (AList (fun _ : K => V)))

/-- The key-value pairs in iteration order. -/
def toList (table : Table K V) : List (K × V) :=
  (AList.entries table).map fun entry => (entry.1, entry.2)

/-- The keys in iteration order. -/
def keys (table : Table K V) : List K :=
  table.toList.map Prod.fst

/-- The values in iteration order. -/
def values (table : Table K V) : List V :=
  table.toList.map Prod.snd

/-- The number of entries. -/
def len (table : Table K V) : Nat :=
  table.toList.length

/-- Whether the table has no entry. -/
def isEmpty (table : Table K V) : Bool :=
  table.toList.isEmpty

/-- The sum of a weight over all entries. -/
def tally (weight : K → V → Nat) (table : Table K V) : Nat :=
  (table.toList.map fun entry => weight entry.1 entry.2).sum

/-- The number of entries that satisfy a test. -/
def countWhere (test : K → V → Bool) (table : Table K V) : Nat :=
  table.toList.countP fun entry => test entry.1 entry.2

/-- Two tables have the same entries, possibly in a different order. -/
def Reordered (first second : Table K V) : Prop :=
  (AList.entries first).Perm (AList.entries second)

section Operations

variable [DecidableEq K]

/-- The value stored under a key. -/
def get (table : Table K V) (key : K) : Option V :=
  AList.lookup key table

/-- Store a value under a key, replacing what was there. -/
def insert (table : Table K V) (key : K) (value : V) : Table K V :=
  AList.insert key value table

/-- Remove a key. -/
def remove (table : Table K V) (key : K) : Table K V :=
  AList.erase key table

/-- Whether a key is present. -/
def contains (table : Table K V) (key : K) : Bool :=
  (table.get key).isSome

/-- Replace the value under a key that is present; other keys are kept. -/
def modify (table : Table K V) (key : K) (update : V → V) : Table K V :=
  match table.get key with
  | some value => table.insert key (update value)
  | none => table

/-- Keep the entries that satisfy a test. -/
def retain (test : K → V → Bool) (table : Table K V) : Table K V :=
  ⟨(AList.entries table).filter fun entry => test entry.1 entry.2,
    (AList.nodupKeys table).sublist List.filter_sublist⟩

/-- Apply a transition to every value. -/
def mapValues (transition : V → V) (table : Table K V) : Table K V :=
  ⟨(AList.entries table).map fun entry => ⟨entry.1, transition entry.2⟩, by
    rw [List.nodupKeys_iff_pairwise]
    refine List.pairwise_map.mpr ?_
    exact List.nodupKeys_iff_pairwise.mp (AList.nodupKeys table)⟩

/-- Equality of maps: as many entries, and each entry of the first is an entry
of the second. -/
def SameEntries (first second : Table K V) : Prop :=
  first.len = second.len ∧
    ∀ entry ∈ first.toList, second.get entry.1 = some entry.2

instance [DecidableEq V] (first second : Table K V) :
    Decidable (SameEntries first second) :=
  inferInstanceAs (Decidable (_ ∧ _))

end Operations

/-! ## Lookup -/

section Lookup

variable [DecidableEq K] {key other : K} {table : Table K V} {value found : V}

@[simp]
theorem get_empty (key : K) : (∅ : Table K V).get key = none :=
  rfl

section

variable (table : Table K V)

@[grind =]
theorem get_insert (key : K) (value : V) (other : K) :
    (table.insert key value).get other = if other = key then some value else table.get other := by
  by_cases equal : other = key
  · subst other
    rw [if_pos rfl]
    exact AList.lookup_insert table
  · rw [if_neg equal]
    exact AList.lookup_insert_ne equal

@[grind =]
theorem get_remove (key other : K) :
    (table.remove key).get other = if other = key then none else table.get other := by
  by_cases equal : other = key
  · subst other
    rw [if_pos rfl]
    exact AList.lookup_erase key table
  · rw [if_neg equal]
    exact AList.lookup_erase_ne equal

@[simp]
theorem get_insert_self (key : K) (value : V) :
    (table.insert key value).get key = some value := by
  rw [get_insert, if_pos rfl]

@[simp]
theorem get_remove_self (key : K) : (table.remove key).get key = none := by
  rw [get_remove, if_pos rfl]

theorem get_insert_of_ne (value : V) (different : other ≠ key) :
    (table.insert key value).get other = table.get other := by
  rw [get_insert, if_neg different]

theorem get_remove_of_ne (different : other ≠ key) :
    (table.remove key).get other = table.get other := by
  rw [get_remove, if_neg different]

end

theorem remove_of_get_eq_none (absent : table.get key = none) : table.remove key = table := by
  apply AList.ext
  exact List.kerase_of_notMem_keys (AList.lookup_eq_none.mp absent)

theorem remove_insert_self (table : Table K V) (key : K) (value : V) :
    (table.insert key value).remove key = table.remove key := by
  apply AList.ext
  exact List.kerase_cons_eq rfl

theorem remove_modify_self (table : Table K V) (key : K) (update : V → V) :
    (table.modify key update).remove key = table.remove key := by
  unfold modify
  cases table.get key with
  | none => rfl
  | some => exact remove_insert_self table key _

theorem get_insert_eq_some_iff :
    (table.insert key value).get other = some found ↔
      (other = key ∧ found = value) ∨ (other ≠ key ∧ table.get other = some found) := by
  rw [get_insert]
  by_cases same : other = key
  · simp [same, eq_comm]
  · simp [same]

theorem get_remove_eq_some_iff :
    (table.remove key).get other = some found ↔ other ≠ key ∧ table.get other = some found := by
  rw [get_remove]
  by_cases same : other = key
  · simp [same]
  · simp [same]

@[simp, grind =]
theorem contains_eq (table : Table K V) (key : K) : table.contains key = (table.get key).isSome :=
  rfl

@[grind =]
theorem get_modify (table : Table K V) (key : K) (update : V → V) (other : K) :
    (table.modify key update).get other =
      if other = key then (table.get key).map update else table.get other := by
  unfold modify
  cases found : table.get key with
  | none =>
    by_cases equal : other = key
    · subst other
      simpa using found
    · rw [if_neg equal]
  | some => rw [get_insert, Option.map_some]

theorem modify_insert_self (table : Table K V) (key : K) (value : V) (update : V → V) :
    (table.insert key value).modify key update = table.insert key (update value) := by
  unfold modify
  rw [get_insert_self]
  exact AList.insert_insert table

/-- The entries of a table are exactly what lookup finds. -/
@[grind =]
theorem mem_toList : (key, value) ∈ table.toList ↔ table.get key = some value := by
  have lookup : table.get key = some value ↔
      (⟨key, value⟩ : Sigma fun _ : K => V) ∈ AList.entries table :=
    AList.mem_lookup_iff
  rw [lookup]
  constructor
  · intro listed
    obtain ⟨⟨key', value'⟩, member, equal⟩ := List.mem_map.mp listed
    simp only [Prod.mk.injEq] at equal
    obtain ⟨rfl, rfl⟩ := equal
    exact member
  · intro member
    exact List.mem_map.mpr ⟨_, member, rfl⟩

theorem mem_values : value ∈ table.values ↔ ∃ key, table.get key = some value := by
  simp [values, ← mem_toList]

theorem mem_keys : key ∈ table.keys ↔ ∃ value, table.get key = some value := by
  simp [keys, ← mem_toList]

theorem isEmpty_iff : table.isEmpty = true ↔ ∀ key, table.get key = none := by
  unfold isEmpty
  rw [List.isEmpty_iff]
  constructor
  · intro empty key
    cases found : table.get key with
    | none => rfl
    | some =>
      rw [← mem_toList, empty] at found
      cases found
  · intro absent
    rw [List.eq_nil_iff_forall_not_mem]
    rintro ⟨key, value⟩ member
    rw [mem_toList, absent key] at member
    cases member

@[grind =]
theorem get_retain (test : K → V → Bool) (table : Table K V) (key : K) :
    (table.retain test).get key = (table.get key).filter (test key) := by
  apply Option.ext
  intro value
  simp only [← mem_toList, Option.filter_eq_some_iff]
  simp only [toList, retain, List.mem_map, List.mem_filter, Prod.mk.injEq]
  constructor
  · rintro ⟨⟨key', value'⟩, ⟨member, passes⟩, rfl, rfl⟩
    exact ⟨⟨_, member, rfl, rfl⟩, passes⟩
  · rintro ⟨⟨⟨key', value'⟩, member, rfl, rfl⟩, passes⟩
    exact ⟨_, ⟨member, passes⟩, rfl, rfl⟩

@[grind =]
theorem get_mapValues (transition : V → V) (table : Table K V) (key : K) :
    (table.mapValues transition).get key = (table.get key).map transition := by
  apply Option.ext
  intro value
  simp only [← mem_toList, Option.map_eq_some_iff]
  simp only [toList, mapValues, List.mem_map, Prod.mk.injEq]
  constructor
  · rintro ⟨_, ⟨⟨key', value'⟩, member, rfl⟩, rfl, rfl⟩
    exact ⟨value', ⟨_, member, rfl, rfl⟩, rfl⟩
  · rintro ⟨_, ⟨⟨key', value'⟩, member, rfl, rfl⟩, rfl⟩
    exact ⟨_, ⟨_, member, rfl⟩, rfl, rfl⟩

/-- What is left without the listed entries that pass a test. -/
theorem get_unless_listed (table : Table K V) (Passes : V → Prop) [DecidablePred Passes]
    (key : K) :
    (if key ∈ (table.toList.filter fun entry => Passes entry.2).map Prod.fst then none
      else table.get key) = (table.get key).filter (¬ Passes ·) := by
  have listed : key ∈ (table.toList.filter fun entry => Passes entry.2).map Prod.fst ↔
      ∃ value, table.get key = some value ∧ Passes value := by
    simp [mem_toList]
  rw [if_congr listed rfl rfl]
  cases table.get key with
  | none => simp
  | some value => by_cases passes : Passes value <;> simp [Option.filter, passes]

end Lookup

/-! ## Properties of every entry -/

section Every

variable [DecidableEq K] {transition : V → V}

/-- Every entry of the table has the property. -/
def Every (Holds : K → V → Prop) (table : Table K V) : Prop :=
  ∀ key value, table.get key = some value → Holds key value

variable {Holds : K → V → Prop} {table : Table K V}

theorem every_empty : Every Holds (∅ : Table K V) := by
  intro key value found
  cases found

variable (every : Every Holds table)
include every

theorem Every.insert {key : K} {value : V} (inserted : Holds key value) :
    Every Holds (table.insert key value) := by
  intro other found stored
  rw [get_insert] at stored
  split at stored
  · rename_i same
    cases stored
    rw [same]
    exact inserted
  · exact every other found stored

theorem Every.modify (key : K)
    (preserves : ∀ value, Holds key value → Holds key (transition value)) :
    Every Holds (table.modify key transition) := by
  unfold Table.modify
  cases found : table.get key with
  | none => exact every
  | some value => exact every.insert (preserves value (every key value found))

theorem Every.mapValues
    (preserves : ∀ key value, Holds key value → Holds key (transition value)) :
    Every Holds (table.mapValues transition) := by
  intro key found stored
  rw [get_mapValues, Option.map_eq_some_iff] at stored
  obtain ⟨value, there, rfl⟩ := stored
  exact preserves key value (every key value there)

theorem Every.retain (test : K → V → Bool) : Every Holds (table.retain test) := by
  intro key value found
  rw [get_retain, Option.filter_eq_some_iff] at found
  exact every key value found.1

end Every

/-! ## Distinct keys and order -/

theorem nodup_keys (table : Table K V) : table.keys.Nodup := by
  have distinct : (AList.keys table).Nodup := AList.keys_nodup table
  simpa [keys, toList, AList.keys, List.keys, Function.comp_def] using distinct

theorem nodup_toList (table : Table K V) : table.toList.Nodup :=
  List.Nodup.of_map Prod.fst table.nodup_keys

theorem Reordered.toList_perm (reordered : Reordered first second) :
    first.toList.Perm second.toList :=
  reordered.map _

theorem Reordered.tally_eq (reordered : Reordered first second) (weight : K → V → Nat) :
    first.tally weight = second.tally weight :=
  (reordered.toList_perm.map _).sum_eq

theorem countWhere_eq_tally (test : K → V → Bool) (table : Table K V) :
    table.countWhere test = table.tally fun key value => if test key value then 1 else 0 := by
  unfold countWhere tally
  induction table.toList with
  | nil => rfl
  | cons entry rest ih =>
    rw [List.countP_cons, List.map_cons, List.sum_cons, ih, Nat.add_comm]

theorem len_eq_tally (table : Table K V) : table.len = table.tally fun _ _ => 1 := by
  simp [len, tally]

theorem len_eq_zero_of_isEmpty {table : Table K V}
    (emptied : table.isEmpty = true) : table.len = 0 :=
  List.length_eq_zero_iff.mpr (List.isEmpty_iff.mp emptied)

theorem toList_retain (test : K → V → Bool) (table : Table K V) :
    (table.retain test).toList = table.toList.filter fun entry => test entry.1 entry.2 := by
  unfold toList retain
  rw [List.filter_map]
  rfl

theorem len_retain_add_countWhere (test : K → V → Bool) (table : Table K V) :
    (table.retain test).len + table.countWhere (fun key value => !test key value) =
      table.len := by
  unfold len countWhere
  rw [toList_retain, ← List.countP_eq_length_filter,
    List.length_eq_countP_add_countP fun entry : K × V => test entry.1 entry.2]
  simp

section Tally

variable [DecidableEq K] {first second table : Table K V} {key : K} {value old : V}

/-- Lookup determines the entries up to their order. -/
theorem reordered_of_get_eq (agree : ∀ key, first.get key = second.get key) :
    Reordered first second := by
  refine List.lookup_ext first.nodupKeys second.nodupKeys ?_
  intro key value
  have lookup : List.dlookup key first.entries = List.dlookup key second.entries := agree key
  rw [lookup]

/-- Two tables are equal as maps exactly when lookup agrees. -/
theorem sameEntries_iff : SameEntries first second ↔ ∀ key, first.get key = second.get key := by
  constructor
  · rintro ⟨sameLength, included⟩
    have subset : first.toList ⊆ second.toList := by
      rintro ⟨key, value⟩ member
      exact mem_toList.mpr (included _ member)
    have perm : first.toList.Perm second.toList :=
      (List.subperm_of_subset first.nodup_toList subset).perm_of_length_le
        (Nat.le_of_eq sameLength.symm)
    intro key
    apply Option.ext
    intro value
    rw [← mem_toList, ← mem_toList, perm.mem_iff]
  · intro agree
    have perm := (reordered_of_get_eq agree).toList_perm
    refine ⟨perm.length_eq, ?_⟩
    rintro ⟨key, value⟩ member
    exact mem_toList.mp (perm.mem_iff.mp member)

theorem SameEntries.refl (table : Table K V) : SameEntries table table :=
  sameEntries_iff.mpr fun _ => rfl

theorem SameEntries.symm (same : SameEntries first second) : SameEntries second first :=
  sameEntries_iff.mpr fun key => (sameEntries_iff.mp same key).symm

theorem SameEntries.trans {third : Table K V}
    (left : SameEntries first second) (right : SameEntries second third) :
    SameEntries first third :=
  sameEntries_iff.mpr fun key =>
    (sameEntries_iff.mp left key).trans (sameEntries_iff.mp right key)

theorem toList_insert_of_none (value : V) (fresh : table.get key = none) :
    (table.insert key value).toList = (key, value) :: table.toList := by
  have entries := AList.entries_insert_of_notMem (b := value) (AList.lookup_eq_none.mp fresh)
  unfold toList
  exact congrArg _ entries

theorem reordered_insert_remove (table : Table K V) (key : K) (value : V)
    (found : table.get key = some value) :
    Reordered ((table.remove key).insert key value) table := by
  apply reordered_of_get_eq
  intro other
  rw [get_insert, get_remove]
  by_cases equal : other = key
  · rw [if_pos equal, equal, found]
  · rw [if_neg equal, if_neg equal]

theorem tally_congr (agree : ∀ key, first.get key = second.get key) (weight : K → V → Nat) :
    first.tally weight = second.tally weight :=
  (reordered_of_get_eq agree).tally_eq weight

theorem tally_insert_of_none (value : V) (fresh : table.get key = none) (weight : K → V → Nat) :
    (table.insert key value).tally weight = table.tally weight + weight key value := by
  unfold tally
  rw [toList_insert_of_none value fresh, List.map_cons, List.sum_cons, Nat.add_comm]

theorem tally_remove_of_some (found : table.get key = some value) (weight : K → V → Nat) :
    (table.remove key).tally weight + weight key value = table.tally weight := by
  have restored := (reordered_insert_remove table key value found).tally_eq weight
  rw [tally_insert_of_none value (get_remove_self table key)] at restored
  exact restored

theorem tally_insert_of_some
    (value : V) (found : table.get key = some old) (weight : K → V → Nat) :
    (table.insert key value).tally weight + weight key old =
      table.tally weight + weight key value := by
  have same : (table.insert key value).tally weight =
      ((table.remove key).insert key value).tally weight := by
    apply tally_congr
    intro other
    rw [get_insert, get_insert, get_remove]
    by_cases equal : other = key
    · rw [if_pos equal, if_pos equal]
    · rw [if_neg equal, if_neg equal, if_neg equal]
  have removed := tally_remove_of_some found weight
  rw [same, tally_insert_of_none value (get_remove_self table key)]
  omega

theorem tally_remove_of_none (absent : table.get key = none) (weight : K → V → Nat) :
    (table.remove key).tally weight = table.tally weight := by
  apply tally_congr
  intro other
  rw [get_remove]
  by_cases equal : other = key
  · rw [if_pos equal, equal, absent]
  · rw [if_neg equal]

theorem weight_le_tally (found : table.get key = some value) (weight : K → V → Nat) :
    weight key value ≤ table.tally weight := by
  have removed := tally_remove_of_some found weight
  omega

theorem countWhere_insert_of_none (value : V)
    (fresh : table.get key = none) (test : K → V → Bool) :
    (table.insert key value).countWhere test =
      table.countWhere test + if test key value then 1 else 0 := by
  rw [countWhere_eq_tally, countWhere_eq_tally, tally_insert_of_none value fresh]

theorem countWhere_remove_of_some (found : table.get key = some value) (test : K → V → Bool) :
    ((table.remove key).countWhere test + if test key value then 1 else 0) =
      table.countWhere test := by
  rw [countWhere_eq_tally, countWhere_eq_tally]
  exact tally_remove_of_some found _

theorem countWhere_insert_of_some
    (value : V) (found : table.get key = some old) (test : K → V → Bool) :
    ((table.insert key value).countWhere test +
        if test key old then 1 else 0) =
      table.countWhere test + if test key value then 1 else 0 := by
  rw [countWhere_eq_tally, countWhere_eq_tally]
  exact tally_insert_of_some value found _

theorem len_congr (agree : ∀ key, first.get key = second.get key) : first.len = second.len :=
  (reordered_of_get_eq agree).toList_perm.length_eq

theorem len_le_of_get
    (sub : ∀ key value, first.get key = some value → second.get key = some value) :
    first.len ≤ second.len := by
  have subset : first.toList ⊆ second.toList := fun _ member =>
    mem_toList.mpr (sub _ _ (mem_toList.mp member))
  exact (List.subperm_of_subset first.nodup_toList subset).length_le

theorem len_insert_of_none (value : V) (fresh : table.get key = none) :
    (table.insert key value).len = table.len + 1 := by
  rw [len_eq_tally, len_eq_tally, tally_insert_of_none value fresh]

theorem len_remove_of_some (found : table.get key = some value) :
    (table.remove key).len + 1 = table.len := by
  rw [len_eq_tally, len_eq_tally]
  exact tally_remove_of_some found fun _ _ => 1

/-- Storing an entry that does not count adds nothing, one that does at most one. -/
theorem countWhere_insert_le (table : Table K V) (key : K) (value : V) (test : K → V → Bool) :
    (table.insert key value).countWhere test ≤
      table.countWhere test + if test key value then 1 else 0 := by
  cases found : table.get key with
  | none => exact (countWhere_insert_of_none value found test).le
  | some =>
    have exchanged := countWhere_insert_of_some value found test
    omega

theorem len_insert_of_some (value : V) (found : table.get key = some old) :
    (table.insert key value).len = table.len := by
  rw [len_eq_tally, len_eq_tally]
  exact Nat.add_right_cancel (tally_insert_of_some value found fun _ _ => 1)

variable (table : Table K V) (key : K)

theorem len_insert_le (value : V) : (table.insert key value).len ≤ table.len + 1 := by
  cases found : table.get key with
  | none => exact (len_insert_of_none value found).le
  | some =>
    rw [len_insert_of_some value found]
    exact Nat.le_succ _

theorem len_remove_le : (table.remove key).len ≤ table.len := by
  cases found : table.get key with
  | none => rw [remove_of_get_eq_none found]
  | some =>
    rw [← len_remove_of_some found]
    exact Nat.le_succ _

theorem len_modify (update : V → V) : (table.modify key update).len = table.len := by
  unfold modify
  split
  · rename_i value found
    exact len_insert_of_some _ found
  · rfl

end Tally

end Table

end RelayGate.Library
