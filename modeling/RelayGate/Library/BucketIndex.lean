import RelayGate.Library.Table

/-!
# Bucketed indexes

A `BucketIndex A B V` files values first under a bucket key and then under an
entry key, like a map of maps from which a bucket is dropped when its last
entry goes.  The lemmas describe the two operations by two-level lookup
(`find`), by the absence of empty buckets and by the number of filed entries.
-/

namespace RelayGate.Library

open Table

universe u v w

/-- A map of maps. -/
abbrev BucketIndex (A : Type u) (B : Type v) (V : Type w) :=
  Table A (Table B V)

namespace BucketIndex

variable {A : Type u} {B : Type v} {V : Type w}
variable [DecidableEq A] [DecidableEq B] {entries : Table B V} {index : BucketIndex A B V}
  {bucket : A} {key : B}

/-- Two-level lookup. -/
def find (index : BucketIndex A B V) (bucket : A) (key : B) : Option V :=
  (index.get bucket).bind fun entries => entries.get key

/-- File an entry, creating its bucket when needed. -/
def put (index : BucketIndex A B V) (bucket : A) (key : B) (value : V) :
    BucketIndex A B V :=
  index.insert bucket (((index.get bucket).getD ∅).insert key value)

/-- Remove an entry, and its bucket when nothing is left in it. -/
def drop (index : BucketIndex A B V) (bucket : A) (key : B) :
    BucketIndex A B V :=
  match index.get bucket with
  | none => index
  | some entries =>
      if (entries.remove key).isEmpty then index.remove bucket
      else index.insert bucket (entries.remove key)

/-- No bucket is empty. -/
def NoEmptyBucket (index : BucketIndex A B V) : Prop :=
  ∀ bucket entries, index.get bucket = some entries →
    ∃ key value, entries.get key = some value

/-- The number of filed entries. -/
def size (index : BucketIndex A B V) : Nat :=
  index.tally fun _ entries => entries.len

theorem isEmpty_eq_false_iff :
    entries.isEmpty = false ↔ ∃ key value, entries.get key = some value := by
  rw [← Bool.not_eq_true, Table.isEmpty_iff]
  simp only [not_forall, Option.ne_none_iff_exists', ← ne_eq]

section

variable (index : BucketIndex A B V) (bucket : A) (key : B)

/-- What a filed entry changes. -/
@[grind =]
theorem find_put (value : V) (bucket' : A) (key' : B) :
    (index.put bucket key value).find bucket' key' =
      if bucket' = bucket ∧ key' = key then some value
      else index.find bucket' key' := by
  unfold find put
  rw [get_insert]
  by_cases sameBucket : bucket' = bucket
  · subst bucket'
    simp only [if_true, true_and, Option.bind_some, get_insert]
    by_cases sameKey : key' = key
    · rw [if_pos sameKey, if_pos sameKey]
    · rw [if_neg sameKey, if_neg sameKey]
      cases index.get bucket <;> simp
  · simp only [sameBucket, if_false, false_and]

/-- What a removed entry changes. -/
@[grind =]
theorem find_drop (bucket' : A) (key' : B) :
    (index.drop bucket key).find bucket' key' =
      if bucket' = bucket ∧ key' = key then none
      else index.find bucket' key' := by
  unfold drop
  cases found : index.get bucket with
  | none =>
    by_cases same : bucket' = bucket ∧ key' = key
    · obtain ⟨rfl, rfl⟩ := same
      simp [find, found]
    · rw [if_neg same]
  | some entries =>
    by_cases sameBucket : bucket' = bucket
    · subst bucket'
      have stored : index.find bucket key' = entries.get key' := by
        simp [find, found]
      rw [stored]
      simp only [true_and]
      split
      · rename_i emptied
        have absent := Table.isEmpty_iff.mp emptied key'
        rw [get_remove] at absent
        simp only [find, get_remove_self, Option.bind_none]
        split
        · rfl
        · rename_i different
          rw [if_neg different] at absent
          exact absent.symm
      · simp only [find, get_insert_self, Option.bind_some]
        rw [get_remove]
    · have kept : (if (entries.remove key).isEmpty then index.remove bucket
          else index.insert bucket (entries.remove key)).get bucket' =
            index.get bucket' := by
        split
        · exact get_remove_of_ne index sameBucket
        · exact get_insert_of_ne index _ sameBucket
      simp only [find, kept, sameBucket, false_and, if_false]

end

theorem noEmptyBucket_empty : NoEmptyBucket (∅ : BucketIndex A B V) := by
  intro bucket entries found
  cases found

theorem NoEmptyBucket.put (occupied : NoEmptyBucket index) (bucket : A) (key : B) (value : V) :
    NoEmptyBucket (index.put bucket key value) := by
  intro bucket' entries found
  unfold BucketIndex.put at found
  rw [get_insert] at found
  split at found
  · cases found
    exact ⟨key, value, get_insert_self _ key value⟩
  · exact occupied bucket' entries found

theorem NoEmptyBucket.drop (occupied : NoEmptyBucket index) (bucket : A) (key : B) :
    NoEmptyBucket (index.drop bucket key) := by
  unfold BucketIndex.drop
  cases stored : index.get bucket with
  | none => exact occupied
  | some entries =>
    intro bucket' entries' found
    by_cases emptied : (entries.remove key).isEmpty
    · simp only [emptied, if_true, get_remove] at found
      split at found
      · cases found
      · exact occupied bucket' entries' found
    · simp only [emptied, Bool.false_eq_true, if_false, get_insert] at found
      split at found
      · cases found
        exact isEmpty_eq_false_iff.mp (Bool.not_eq_true _ ▸ emptied)
      · exact occupied bucket' entries' found

theorem NoEmptyBucket.remove (occupied : NoEmptyBucket index) (bucket : A) :
    NoEmptyBucket (index.remove bucket) := by
  intro bucket' entries found
  rw [get_remove] at found
  split at found
  · cases found
  · exact occupied bucket' entries found

theorem find_remove (index : BucketIndex A B V) (bucket bucket' : A) (key : B) :
    find (index.remove bucket) bucket' key =
      if bucket' = bucket then none else index.find bucket' key := by
  unfold find
  rw [get_remove]
  split <;> rfl

/-! ## Number of entries -/

theorem size_put_of_none (value : V) (fresh : index.find bucket key = none) :
    (index.put bucket key value).size = index.size + 1 := by
  unfold size put
  cases stored : index.get bucket with
  | none =>
    rw [tally_insert_of_none _ stored]
    rfl
  | some entries =>
    have absent : entries.get key = none := by
      simpa [find, stored] using fresh
    have exchanged := tally_insert_of_some
      (entries.insert key value) stored fun _ entries => entries.len
    have grown := len_insert_of_none value absent
    simp only [Option.getD_some]
    omega

theorem size_drop_of_some {value : V} (found : index.find bucket key = some value) :
    (index.drop bucket key).size + 1 = index.size := by
  obtain ⟨entries, stored, inBucket⟩ := Option.bind_eq_some_iff.mp found
  have shrunk := len_remove_of_some inBucket
  unfold size drop
  simp only [stored]
  split
  · rename_i emptied
    have removed := tally_remove_of_some stored fun _ entries => entries.len
    have zero := len_eq_zero_of_isEmpty emptied
    omega
  · have exchanged := tally_insert_of_some
      (entries.remove key) stored fun _ entries => entries.len
    omega

theorem size_drop_of_none (absent : index.find bucket key = none) :
    (index.drop bucket key).size = index.size := by
  unfold size drop
  cases stored : index.get bucket with
  | none => rfl
  | some entries =>
    have missing : entries.get key = none := by
      simpa [find, stored] using absent
    have same : (entries.remove key).len = entries.len := by
      rw [len_eq_tally, len_eq_tally, tally_remove_of_none missing]
    dsimp only
    split
    · rename_i emptied
      have removed := tally_remove_of_some stored fun _ entries => entries.len
      have zero := len_eq_zero_of_isEmpty emptied
      omega
    · have exchanged := tally_insert_of_some
        (entries.remove key) stored fun _ entries => entries.len
      omega

theorem get_drop_of_none (absent : index.get bucket = none) (other : A) (key : B) :
    (index.drop other key).get bucket = none := by
  unfold drop
  cases stored : index.get other with
  | none => exact absent
  | some =>
    have different : bucket ≠ other := by
      rintro rfl
      rw [absent] at stored
      cases stored
    dsimp only
    split
    · rw [get_remove_of_ne _ different, absent]
    · rw [get_insert_of_ne _ _ different, absent]

omit [DecidableEq B] in
theorem size_remove_of_some (stored : index.get bucket = some entries) :
    size (index.remove bucket) + entries.len = index.size :=
  tally_remove_of_some stored fun _ entries => entries.len

end BucketIndex

end RelayGate.Library
