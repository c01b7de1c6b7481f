import Mathlib

/-!
# Loops over items with distinct keys

A loop whose every pass touches the entry of one key leaves the entries of all other
keys alone, and treats the entry of each of its keys as a single pass would.
-/

namespace RelayGate.Library

universe u v w x

theorem foldl_local {State : Type u} {Item : Type v} {Key : Type w} {Value : Type x}
    {step : State → Item → State} (key : Item → Key) (look : State → Key → Value)
    (apart : ∀ state item other, other ≠ key item →
      look (step state item) other = look state other)
    (items : List Item) (distinct : (items.map key).Nodup) (start : State) :
    (∀ other, other ∉ items.map key →
        look (items.foldl step start) other = look start other) ∧
      ∀ item ∈ items, ∃ state, look state (key item) = look start (key item) ∧
        look (items.foldl step start) (key item) = look (step state item) (key item) := by
  induction items generalizing start with
  | nil => exact ⟨fun _ _ => rfl, nofun⟩
  | cons first rest ih =>
    rw [List.map_cons, List.nodup_cons] at distinct
    obtain ⟨others, each⟩ := ih distinct.2 (step start first)
    constructor
    · intro other absent
      rw [List.map_cons, List.mem_cons, not_or] at absent
      exact (others other absent.2).trans (apart start first other absent.1)
    · intro item member
      rcases List.mem_cons.mp member with rfl | later
      · exact ⟨start, rfl, others (key item) distinct.1⟩
      · obtain ⟨state, same, result⟩ := each item later
        refine ⟨state, same.trans (apart start first (key item) ?_), result⟩
        intro equal
        exact distinct.1 (equal ▸ List.mem_map_of_mem later)

end RelayGate.Library
