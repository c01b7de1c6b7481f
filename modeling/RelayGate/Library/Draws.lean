import Mathlib

/-!
# Drawing fresh identifiers

A generator of identifiers, drawn until one outside a finite set of taken
identifiers appears.  Random identifiers do not repeat, so the number of taken
identifiers bounds the number of rejected draws and the search always ends.
-/

namespace RelayGate.Library

universe u

/-- The identifiers one search may draw, in order, without repetition. -/
structure Draws (Id : Type u) where
  draw : Nat → Id
  distinct : Function.Injective draw

namespace Draws

variable {Id : Type u} [DecidableEq Id]

/-- Draw from position `index` on until an identifier outside `taken` appears;
`fuel` bounds the rejected draws. -/
def search (draws : Draws Id) (taken : Finset Id) : Nat → Nat → Id
  | 0, index => draws.draw index
  | fuel + 1, index =>
      if draws.draw index ∈ taken then draws.search taken fuel (index + 1)
      else draws.draw index

/-- The first drawn identifier that is not taken. -/
def unique (draws : Draws Id) (taken : Finset Id) : Id :=
  draws.search taken taken.card 0

theorem search_notMem (draws : Draws Id) (taken : Finset Id) (fuel index : Nat)
    (rejected : ∀ earlier < index, draws.draw earlier ∈ taken)
    (enough : taken.card ≤ index + fuel) : draws.search taken fuel index ∉ taken := by
  induction fuel generalizing index with
  | zero =>
    intro member
    have included : (Finset.range (index + 1)).image draws.draw ⊆ taken := by
      intro identifier drawn
      obtain ⟨earlier, inRange, rfl⟩ := Finset.mem_image.mp drawn
      rcases Nat.lt_succ_iff_lt_or_eq.mp (Finset.mem_range.mp inRange) with
        before | equal
      · exact rejected earlier before
      · exact equal ▸ member
    have bound := Finset.card_le_card included
    rw [Finset.card_image_of_injective _ draws.distinct, Finset.card_range] at bound
    omega
  | succ fuel ih =>
    unfold search
    split
    · rename_i member
      apply ih
      · intro earlier before
        rcases Nat.lt_succ_iff_lt_or_eq.mp before with before | equal
        · exact rejected earlier before
        · exact equal ▸ member
      · omega
    · rename_i free
      exact free

/-- The identifier found is not taken. -/
theorem unique_notMem (draws : Draws Id) (taken : Finset Id) : draws.unique taken ∉ taken := by
  apply search_notMem
  · intro earlier before
    exact absurd before (Nat.not_lt_zero earlier)
  · omega

end Draws

end RelayGate.Library
