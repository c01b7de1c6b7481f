import Mathlib

/-!
# Counters that remember an underflow

An implementation maintains a count beside the collection it counts.  A
`Counter` holds the maintained value together with the record of whether a
subtraction ever took away more than was there.  `Exact` says that the counter
agrees with a recount and that no subtraction has underflowed so far.
-/

namespace RelayGate.Library

/-- A maintained count and the memory of an underflow. -/
structure Counter where
  value : Nat
  underflowed : Bool
deriving DecidableEq, Repr

namespace Counter

variable {counter : Counter} {count rest amount total : Nat} {counts : Bool}

/-- The counter of an empty collection. -/
def zero : Counter :=
  ⟨0, false⟩

/-- Add to the counter. -/
def add (counter : Counter) (amount : Nat) : Counter :=
  { counter with value := counter.value + amount }

/-- Subtract from the counter; taking away more than its value is recorded. -/
def sub (counter : Counter) (amount : Nat) : Counter :=
  ⟨counter.value - amount,
    counter.underflowed || decide (counter.value < amount)⟩

/-- The counter holds the recounted number and has never underflowed. -/
def Exact (counter : Counter) (count : Nat) : Prop :=
  counter.value = count ∧ counter.underflowed = false

theorem exact_zero : zero.Exact 0 :=
  ⟨rfl, rfl⟩

section

variable (exactly : counter.Exact count)
include exactly

theorem Exact.add (amount : Nat) : (counter.add amount).Exact (count + amount) := by
  refine ⟨?_, exactly.2⟩
  change counter.value + amount = count + amount
  rw [exactly.1]

/-- A subtraction that is covered by the count keeps the counter exact. -/
theorem Exact.sub (covered : rest + amount = count) : (counter.sub amount).Exact rest := by
  obtain ⟨value, noUnderflow⟩ := exactly
  constructor
  · change counter.value - amount = rest
    omega
  · change (counter.underflowed || decide (counter.value < amount)) = false
    rw [noUnderflow, Bool.false_or, decide_eq_false_iff_not]
    omega

theorem Exact.addIf (counted : total = count + if counts then 1 else 0) :
    (if counts then counter.add 1 else counter).Exact total := by
  subst counted
  cases counts with
  | false => exact exactly
  | true => exact exactly.add 1

theorem Exact.subIf (covered : (rest + if counts then 1 else 0) = count) :
    (if counts then counter.sub 1 else counter).Exact rest := by
  subst covered
  cases counts with
  | false => exact exactly
  | true => exact exactly.sub rfl

theorem Exact.of_eq {other : Nat} (equal : count = other) : counter.Exact other :=
  equal ▸ exactly

end

/-! ## Counters that are never below the count -/

/-- The counter is not below the recounted number. -/
def Covers (counter : Counter) (count : Nat) : Prop :=
  count ≤ counter.value

section

variable (covers : counter.Covers count)
include covers

theorem Covers.of_le {fewer : Nat} (le : fewer ≤ count) : counter.Covers fewer :=
  Nat.le_trans le covers

theorem Covers.add (bounded : total ≤ count + amount) : (counter.add amount).Covers total :=
  Nat.le_trans bounded (Nat.add_le_add_right covers amount)

theorem Covers.sub (covered : rest + amount ≤ count) : (counter.sub amount).Covers rest :=
  Nat.le_sub_of_add_le (Nat.le_trans covered covers)

/-- Counting one entry less, if it was one that counted. -/
theorem Covers.subIf (covered : (rest + if counts then 1 else 0) = count) :
    (if counts then counter.sub 1 else counter).Covers rest := by
  subst covered
  cases counts with
  | false => exact covers
  | true => exact covers.sub (Nat.le_refl _)

end

theorem value_subIf_le (counter : Counter) (counts : Bool) :
    (if counts then counter.sub 1 else counter).value ≤ counter.value := by
  cases counts with
  | false => exact Nat.le_refl _
  | true => exact Nat.sub_le _ _

end Counter

end RelayGate.Library
