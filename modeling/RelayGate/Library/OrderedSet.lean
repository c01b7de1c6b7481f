import Mathlib

/-!
# Ordered sets

A finite set kept as its ascending list of elements.  It stands for the ordered
sets of an implementation: insertion and removal are executable, and iteration
is over `elements`.
-/

namespace RelayGate.Library

universe u

/-- A finite set with its elements in ascending order. -/
structure OrderedSet (α : Type u) [LT α] where
  elements : List α
  ascending : elements.Pairwise (· < ·)

namespace OrderedSet

variable {α : Type u} [LinearOrder α]

instance : EmptyCollection (OrderedSet α) :=
  ⟨⟨[], List.Pairwise.nil⟩⟩

/-- Put an element at its place in an ascending list. -/
def place (element : α) : List α → List α
  | [] => [element]
  | head :: tail =>
      if element < head then element :: head :: tail
      else if element = head then head :: tail
      else head :: place element tail

theorem mem_place {element other : α} {list : List α} :
    other ∈ place element list ↔ other = element ∨ other ∈ list := by
  induction list with
  | nil => simp [place]
  | cons head tail ih =>
    unfold place
    split
    · simp
    · split
      · rename_i same
        simp [same]
      · simp only [List.mem_cons, ih]
        exact or_left_comm

theorem pairwise_place {element : α} {list : List α} (ascending : list.Pairwise (· < ·)) :
    (place element list).Pairwise (· < ·) := by
  induction list with
  | nil => simp [place]
  | cons head tail ih =>
    obtain ⟨least, rest⟩ := List.pairwise_cons.mp ascending
    unfold place
    split
    · rename_i below
      refine List.pairwise_cons.mpr ⟨?_, ascending⟩
      intro other member
      rcases List.mem_cons.mp member with same | member
      · exact same ▸ below
      · exact below.trans (least other member)
    · split
      · exact ascending
      · rename_i notBelow different
        refine List.pairwise_cons.mpr ⟨?_, ih rest⟩
        intro other member
        rcases mem_place.mp member with same | member
        · exact same ▸ lt_of_le_of_ne (not_lt.mp notBelow) (Ne.symm different)
        · exact least other member

/-- Add an element. -/
def insert (set : OrderedSet α) (element : α) : OrderedSet α :=
  ⟨place element set.elements, pairwise_place set.ascending⟩

/-- Take an element away. -/
def erase (set : OrderedSet α) (element : α) : OrderedSet α :=
  ⟨set.elements.filter (· ≠ element), set.ascending.filter _⟩

end OrderedSet

end RelayGate.Library
