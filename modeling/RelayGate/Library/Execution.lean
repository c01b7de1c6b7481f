import Mathlib

/-!
# Executions of labelled transition systems

A labelled step relation, its finite executions, and the two rules by which the
later modules reason about whole runs: what every step preserves holds in every
state reached, and two machines whose steps match call by call give matching
results for every list of calls.
-/

namespace RelayGate.Library

universe u v w

section Runs

variable {State : Type u} {Event : Type v}

/-- `Execution step source events target`: the events, in order, lead from
`source` to `target`. -/
inductive Execution (step : State → Event → State → Prop) :
    State → List Event → State → Prop
  | refl (state : State) : Execution step state [] state
  | tail {source middle target : State} {events : List Event} {event : Event}
      (run : Execution step source events middle)
      (last : step middle event target) :
      Execution step source (events ++ [event]) target

variable {step : State → Event → State → Prop} {source middle target : State}
  {event : Event} {events : List Event} {Holds : State → Prop}

/-- An invariant of the steps is an invariant of the executions. -/
theorem Execution.invariant
    (preserved : ∀ source event target, Holds source → step source event target → Holds target)
    {source target : State} {events : List Event} (run : Execution step source events target)
    (initially : Holds source) : Holds target := by
  induction run with
  | refl => exact initially
  | tail _ last ih => exact preserved _ _ _ ih last

/-- A single step is an execution. -/
theorem Execution.single (only : step source event target) :
    Execution step source [event] target :=
  Execution.tail (Execution.refl source) only

theorem Execution.head (first : step source event middle)
    (run : Execution step middle events target) :
    Execution step source (event :: events) target := by
  induction run with
  | refl => exact Execution.single first
  | tail _ last ih => exact Execution.tail ih last

/-- The events of a list are possible one after the other. -/
def Allowed (apply : State → Event → State) (Possible : State → Event → Prop) :
    State → List Event → Prop
  | _, [] => True
  | state, event :: events =>
      Possible state event ∧ Allowed apply Possible (apply state event) events

instance decidableAllowed (apply : State → Event → State)
    (Possible : State → Event → Prop)
    [∀ state event, Decidable (Possible state event)] :
    (state : State) → (events : List Event) →
      Decidable (Allowed apply Possible state events)
  | _, [] => inferInstanceAs (Decidable True)
  | state, event :: events =>
      have := decidableAllowed apply Possible (apply state event) events
      inferInstanceAs (Decidable (_ ∧ _))

/-- A list of possible events is an execution to the state it computes. -/
theorem Execution.of_allowed {apply : State → Event → State}
    {Possible : State → Event → Prop} (events : List Event) {state : State}
    (allowed : Allowed apply Possible state events) :
    Execution (fun source event target =>
        Possible source event ∧ target = apply source event)
      state events (events.foldl apply state) := by
  induction events generalizing state with
  | nil => exact Execution.refl state
  | cons event events ih =>
    exact Execution.head ⟨allowed.1, rfl⟩ (ih allowed.2)

/-- `History step source past target`: an execution, with the state in which each
of its events happened. -/
inductive History (step : State → Event → State → Prop) (source : State) :
    List (State × Event) → State → Prop
  | refl : History step source [] source
  | tail {middle target : State} {past : List (State × Event)} {event : Event}
      (run : History step source past middle)
      (last : step middle event target) :
      History step source (past ++ [(middle, event)]) target

/-- A condition relative to a moment, which every step keeps or renews at a marked
event, holds relative to the start or to one of the marked events. -/
theorem History.since {Moment : Type w} {Marks : State → Event → Prop}
    {moment : State → Moment} {Holds : State → Moment → Prop}
    (preserved : ∀ source event target mark,
      Holds source mark → step source event target →
        Holds target mark ∨ Marks source event ∧ Holds target (moment source))
    {source target : State} {past : List (State × Event)}
    (run : History step source past target) (initially : Holds source (moment source)) :
    ∃ mark, (mark = moment source ∨
        ∃ entry ∈ past, Marks entry.1 entry.2 ∧ mark = moment entry.1) ∧
      Holds target mark := by
  induction run with
  | refl => exact ⟨moment source, Or.inl rfl, initially⟩
  | @tail middle target past event _ last ih =>
    obtain ⟨mark, origin, holds⟩ := ih
    rcases preserved middle event target mark holds last with
      kept | ⟨marks, renewed⟩
    · refine ⟨mark, origin.imp_right ?_, kept⟩
      rintro ⟨entry, member, rest⟩
      exact ⟨entry, List.mem_append_left _ member, rest⟩
    · exact ⟨moment middle, Or.inr ⟨(middle, event), by simp, marks, rfl⟩,
        renewed⟩

/-- An invariant of the steps holds wherever a history has been. -/
theorem History.invariant
    (preserved : ∀ source event target, Holds source → step source event target → Holds target)
    {source target : State} {past : List (State × Event)}
    (run : History step source past target) (initially : Holds source) :
    (∀ entry ∈ past, Holds entry.1) ∧ Holds target := by
  induction run with
  | refl => exact ⟨nofun, initially⟩
  | tail _ last ih =>
    refine ⟨?_, preserved _ _ _ ih.2 last⟩
    intro entry member
    rcases List.mem_append.mp member with earlier | newest
    · exact ih.1 entry earlier
    · cases List.mem_singleton.mp newest
      exact ih.2

/-- The events of a list with the states in which they happen. -/
def trail (apply : State → Event → State) :
    State → List Event → List (State × Event)
  | _, [] => []
  | state, event :: events =>
      (state, event) :: trail apply (apply state event) events

theorem map_snd_trail (apply : State → Event → State) (state : State)
    (events : List Event) : (trail apply state events).map Prod.snd = events := by
  induction events generalizing state with
  | nil => rfl
  | cons event events ih => simp [trail, ih]

/-- A step before a history. -/
theorem History.head {past : List (State × Event)} (first : step source event middle)
    (run : History step middle past target) :
    History step source ((source, event) :: past) target := by
  induction run with
  | refl => exact History.tail History.refl first
  | tail _ last ih => exact History.tail ih last

/-- A list of possible events is a history to the state it computes. -/
theorem History.of_allowed {apply : State → Event → State}
    {Possible : State → Event → Prop} (events : List Event) {state : State}
    (allowed : Allowed apply Possible state events) :
    History (fun source event target =>
        Possible source event ∧ target = apply source event)
      state (trail apply state events) (events.foldl apply state) := by
  induction events generalizing state with
  | nil => exact History.refl
  | cons event events ih =>
    exact History.head ⟨allowed.1, rfl⟩ (ih allowed.2)

end Runs

section Machines

variable {State : Type u} {Call : Type v} {Result : Type w}

/-- The states of a machine after a list of calls. -/
def runCalls (step : State → Call → Result × State) :
    State → List Call → State
  | state, [] => state
  | state, call :: calls => runCalls step (step state call).2 calls

/-- The results a machine gives for a list of calls. -/
def results (step : State → Call → Result × State) :
    State → List Call → List Result
  | _, [] => []
  | state, call :: calls =>
      (step state call).1 :: results step (step state call).2 calls

/-- What every call preserves holds after every list of calls. -/
theorem runCalls_invariant {step : State → Call → Result × State} {Holds : State → Prop}
    (preserved : ∀ state call, Holds state → Holds (step state call).2)
    (calls : List Call) {state : State} (initially : Holds state) :
    Holds (runCalls step state calls) := by
  induction calls generalizing state with
  | nil => exact initially
  | cons call calls ih => exact ih (preserved state call initially)

end Machines

section Refinement

variable {Concrete Abstract : Type u} {Call : Type v} {Result : Type w}

/-- Machines whose related states answer every call with matching results, and
move to related states, answer every list of calls with matching results. -/
theorem results_forall₂ {concrete : Concrete → Call → Result × Concrete}
    {abstract : Abstract → Call → Result × Abstract}
    {Related : Concrete → Abstract → Prop} {Matches : Result → Result → Prop}
    (simulates : ∀ left right call, Related left right →
      Matches (concrete left call).1 (abstract right call).1 ∧
        Related (concrete left call).2 (abstract right call).2)
    (calls : List Call) {left : Concrete} {right : Abstract} (initially : Related left right) :
    List.Forall₂ Matches (results concrete left calls) (results abstract right calls) := by
  induction calls generalizing left right with
  | nil => exact List.Forall₂.nil
  | cons call calls ih =>
    obtain ⟨matching, related⟩ := simulates left right call initially
    exact List.Forall₂.cons matching (ih related)

end Refinement

end RelayGate.Library
