import RelayGate.Routing.Passes
import RelayGate.Routing.System

/-!
# Whose turn it is

A pass visits the registrations in the order of their sessions and begins the
first operation that is due.  A registration is therefore passed over only for a
smaller session, and as often as smaller sessions become due again: publications
that arrive while an Update of a small session is in flight keep a larger one
waiting.
-/

namespace RelayGate.Routing

open Library
open RouteTable

variable {state : RegistrationState} {now : Instant} {progress : PassProgress}

/-- `begin_next` would return an operation. -/
def RegistrationState.offers (state : RegistrationState) (now : Instant) : Bool :=
  match state.beginNext now with
  | .ok (some _, _) => true
  | _ => false

theorem RegistrationState.offers_eq_true (offers : state.offers now = true) :
    ∃ ticket after, state.beginNext now = .ok (some ticket, after) := by
  unfold RegistrationState.offers at offers
  split at offers
  · rename_i ticket after begun
    exact ⟨ticket, after, begun⟩
  · cases offers

theorem offers_of_begun {after : RegistrationState} {ticket : OperationTicket}
    (begun : state.beginNext now = .ok (some ticket, after)) : state.offers now = true := by
  unfold RegistrationState.offers
  rw [begun]

/-- A registration with an operation to begin is not pruned. -/
theorem not_isRemovable_of_begun {after : RegistrationState} {ticket : OperationTicket}
    (begun : state.beginNext now = .ok (some ticket, after)) : state.isRemovable = false := by
  cases removable : state.isRemovable with
  | false => rfl
  | true =>
    simp only [RegistrationState.isRemovable, Bool.and_eq_true,
      Option.isNone_iff_eq_none] at removable
    obtain ⟨⟨undesired, unleased⟩, -⟩ := removable
    have chosen := (begun_of_beginNext begun).chosen
    rw [RegistrationState.nextAction, undesired, unleased] at chosen
    cases chosen

/-! ## One pass -/

/-- A failure of a pass is final. -/
theorem error_foldl {message : String}
    (entries : List (RelaySessionId × RegistrationState)) (failed : progress.error = some message) :
    (entries.foldl (visitRegistration now) progress).error = some message := by
  induction entries generalizing progress with
  | nil => exact failed
  | cons entry entries ih =>
    apply ih
    unfold visitRegistration
    split
    · exact failed
    · simp [selectNext, failed]

theorem get_foldl_of_not_mem {sessionId : RelaySessionId}
    (entries : List (RelaySessionId × RegistrationState))
    (absent : sessionId ∉ entries.map Prod.fst) (progress : PassProgress) :
    (entries.foldl (visitRegistration now) progress).registrations.get
        sessionId =
      progress.registrations.get sessionId := by
  induction entries generalizing progress with
  | nil => rfl
  | cons entry entries ih =>
    rw [List.map_cons, List.mem_cons, not_or] at absent
    rw [List.foldl_cons, ih absent.2, get_visitRegistration_of_ne now progress entry absent.1]

/-- A visit that finds no operation selected passes by a registration that is
not due, fails, or begins the operation of this registration. -/
theorem visitRegistration_cases (unselected : progress.pass.ticket = none)
    (unfailed : progress.error = none) (entry : RelaySessionId × RegistrationState) :
    let visited := visitRegistration now progress entry
    (entry.2.offers now = false ∧ visited.pass.ticket = none ∧ visited.error = none) ∨
    (∃ message, visited.error = some message) ∨
    ∃ ticket after, entry.2.beginNext now = .ok (some ticket, after) ∧
      visited.registrations.get entry.1 = some after := by
  intro visited
  by_cases removable : entry.2.isRemovable = true
  · have same : visited = { progress with
        registrations := progress.registrations.remove entry.1 } :=
      if_pos removable
    refine Or.inl ⟨?_, by rw [same]; exact unselected,
      by rw [same]; exact unfailed⟩
    cases offers : entry.2.offers now with
    | false => rfl
    | true =>
      obtain ⟨ticket, after, begun⟩ := RegistrationState.offers_eq_true offers
      rw [not_isRemovable_of_begun begun] at removable
      cases removable
  · cases begun : entry.2.beginNext now with
    | error message =>
      exact Or.inr (Or.inl ⟨message, by simp [visited, visitRegistration,
        removable, selectNext, unfailed, unselected, begun]⟩)
    | ok result =>
      obtain ⟨ticket, after⟩ := result
      cases ticket with
      | none =>
        refine Or.inl ⟨by simp [RegistrationState.offers, begun], ?_, ?_⟩
        · simp [visited, visitRegistration, removable, selectNext, unfailed, unselected, begun]
        · simp [visited, visitRegistration, removable, selectNext, unfailed, unselected, begun]
      | some ticket =>
        refine Or.inr (Or.inr ⟨ticket, after, rfl, ?_⟩)
        simp [visited, visitRegistration, removable, selectNext, unfailed,
          unselected, begun, Table.get_insert_self]

/-- A pass that does not fail serves the first registration that is due. -/
theorem foldl_serves (entries : List (RelaySessionId × RegistrationState))
    (distinct : (entries.map Prod.fst).Nodup)
    (ordered : entries.Pairwise fun first second =>
      first.1.uuid ≤ second.1.uuid) (unselected : progress.pass.ticket = none)
    (unfailed : progress.error = none)
    (succeeds : (entries.foldl (visitRegistration now) progress).error = none)
    {entry : RelaySessionId × RegistrationState} (member : entry ∈ entries)
    (offers : entry.2.offers now = true) :
    ∃ chosen ∈ entries, ∃ ticket after, chosen.1.uuid ≤ entry.1.uuid ∧
      chosen.2.beginNext now = .ok (some ticket, after) ∧
      (entries.foldl (visitRegistration now) progress).registrations.get
        chosen.1 = some after := by
  induction entries generalizing progress with
  | nil => cases member
  | cons first rest ih =>
    rw [List.map_cons, List.nodup_cons] at distinct
    rw [List.pairwise_cons] at ordered
    rw [List.foldl_cons] at succeeds ⊢
    rcases visitRegistration_cases unselected unfailed first with
      ⟨idle, still, fine⟩ | ⟨message, failed⟩ | ⟨ticket, after, begun, stored⟩
    · have later : entry ∈ rest := by
        rcases List.mem_cons.mp member with same | later
        · rw [same, idle] at offers
          cases offers
        · exact later
      obtain ⟨chosen, inside, served⟩ := ih distinct.2 ordered.2 still fine succeeds later
      exact ⟨chosen, List.mem_cons_of_mem first inside, served⟩
    · rw [error_foldl rest failed] at succeeds
      cases succeeds
    · refine ⟨first, List.mem_cons_self, ticket, after, ?_, begun, ?_⟩
      · rcases List.mem_cons.mp member with same | later
        · rw [same]
        · exact ordered.1 entry later
      · rw [get_foldl_of_not_mem rest distinct.1]
        exact stored

/-! ## Turns in a run -/

namespace World

/-- The registration of a session is due at a pass. -/
def Due (world : World) (now : Instant) (sessionId : RelaySessionId) : Prop :=
  (world.worker.registrations.get sessionId).any (·.offers now) = true

/-- The pass begins an operation of a session, which had none pending. -/
def Serves (world : World) (now : Instant) (sessionId : RelaySessionId) : Prop :=
  (world.worker.registrations.get sessionId).any (·.pending.isNone) = true ∧
    ((world.prepare now).worker.registrations.get sessionId).any
      (·.pending.isSome) = true

/-- The worker is connected and no counter is exhausted: the pass is made and
does not end the worker. -/
def Passes (world : World) (now : Instant) : Prop :=
  world.worker.terminal = false ∧ world.worker.connected.isSome = true ∧
    (world.worker.prepareRegistrations now).1.toOption.isSome = true

instance (world : World) (now : Instant) (sessionId : RelaySessionId) :
    Decidable (world.Due now sessionId) :=
  inferInstanceAs (Decidable (_ = true))

instance (world : World) (now : Instant) (sessionId : RelaySessionId) :
    Decidable (world.Serves now sessionId) :=
  inferInstanceAs (Decidable (_ ∧ _))

instance (world : World) (now : Instant) : Decidable (world.Passes now) :=
  inferInstanceAs (Decidable (_ ∧ _))

theorem worker_prepare (world : World) (now : Instant) :
    (world.prepare now).worker = (world.worker.prepareRegistrations now).2 := by
  unfold World.prepare
  split
  · rename_i prepared
    rw [prepared]
  · rename_i prepared
    rw [prepared]

/-- A pass that is made stores what the visits have left. -/
theorem Passes.fold {world : World} {now : Instant} (passes : world.Passes now) :
    let progress := (orderedRegistrations world.worker.registrations).foldl
      (visitRegistration now)
      ⟨world.worker.registrations, ⟨none, none, RegistrationCounts.zero⟩, none⟩
    progress.error = none ∧
      (world.prepare now).worker.registrations = progress.registrations := by
  obtain ⟨live, connected, succeeds⟩ := passes
  obtain ⟨epoch, connected⟩ := Option.isSome_iff_exists.mp connected
  intro progress
  rw [worker_prepare]
  simp only [ShardWorker.prepareRegistrations, live, connected,
    prepareRegistrationPass] at succeeds ⊢
  cases failure : progress.error with
  | some =>
    simp only [progress] at failure
    simp [failure, Except.toOption] at succeeds
  | none =>
    simp only [progress] at failure
    exact ⟨rfl, by simp [progress]⟩

/-- A pass with a due registration serves it, or a due one of a smaller
session. -/
theorem exists_serves {world : World} {now : Instant}
    {sessionId : RelaySessionId} (passes : world.Passes now) (due : world.Due now sessionId) :
    ∃ served, served.uuid ≤ sessionId.uuid ∧ world.Due now served ∧ world.Serves now served := by
  obtain ⟨succeeds, stored⟩ := passes.fold
  obtain ⟨state, found, offers⟩ := (Option.any_eq_true _ _).mp due
  have perm : (orderedRegistrations world.worker.registrations).Perm
      world.worker.registrations.toList :=
    List.perm_insertionSort _ _
  have distinct := (perm.map Prod.fst).nodup_iff.mpr
    world.worker.registrations.nodup_keys
  have ordered : (orderedRegistrations world.worker.registrations).Pairwise
      fun first second => first.1.uuid ≤ second.1.uuid :=
    List.pairwise_insertionSort _ _
  have member : (sessionId, state) ∈
      orderedRegistrations world.worker.registrations :=
    perm.mem_iff.mpr (Table.mem_toList.mpr found)
  obtain ⟨chosen, inside, ticket, after, smaller, begun, left⟩ :=
    foldl_serves _ distinct ordered (by rfl) (by rfl) succeeds member offers
  have here := Table.mem_toList.mp (perm.mem_iff.mp inside)
  have started := begun_of_beginNext begun
  refine ⟨chosen.1, smaller, ?_, ?_, ?_⟩
  · exact (Option.any_eq_true _ _).mpr ⟨_, here, offers_of_begun begun⟩
  · exact (Option.any_eq_true _ _).mpr ⟨_, here, by rw [started.idle]; rfl⟩
  · rw [stored]
    exact (Option.any_eq_true _ _).mpr ⟨_, left, by rw [started.pending_eq]; rfl⟩

/-- The passes of a run, with the world each was made in. -/
def passes (past : List (World × Event)) : List (World × Instant) :=
  past.filterMap fun entry =>
    match entry.2 with
    | .prepare now => some (entry.1, now)
    | _ => none

/-- However publications and completions arrive between the passes, a
registration that is due at every pass of a stretch is passed over only for
registrations of smaller sessions that are due themselves.  If no smaller session
is due again after it was served, each of `n` registrations is served within `n`
passes. -/
theorem passed_over_only_by_smaller {past : List (World × Event)}
    (sessionId : RelaySessionId)
    (waiting : ∀ pass ∈ passes past,
      pass.1.Passes pass.2 ∧ pass.1.Due pass.2 sessionId) :
    (∀ pass ∈ passes past, ∃ served, served.uuid ≤ sessionId.uuid ∧
      pass.1.Due pass.2 served ∧ pass.1.Serves pass.2 served) ∧
    ∀ sessions : Finset RelaySessionId,
      (∀ pass ∈ passes past, ∀ other,
        (pass.1.worker.registrations.get other).isSome = true →
          other ∈ sessions) →
      ((passes past).Pairwise fun earlier later => ∀ other,
        other.uuid < sessionId.uuid → earlier.1.Serves earlier.2 other →
          ¬later.1.Due later.2 other) →
      sessionId ∈ sessions → sessions.card ≤ (passes past).length →
      ∃ pass ∈ passes past, pass.1.Serves pass.2 sessionId := by
  have served : ∀ pass ∈ passes past, ∃ served, served.uuid ≤ sessionId.uuid ∧
      pass.1.Due pass.2 served ∧ pass.1.Serves pass.2 served :=
    fun pass member => exists_serves (waiting pass member).1 (waiting pass member).2
  refine ⟨served, ?_⟩
  intro sessions known once listed enough
  by_contra never
  have : Nonempty RelaySessionId := ⟨sessionId⟩
  choose! turn smaller due serves using served
  have strictly : ∀ pass ∈ passes past, (turn pass).uuid < sessionId.uuid := by
    intro pass member
    rcases Nat.lt_or_eq_of_le (smaller pass member) with less | same
    · exact less
    · have own : turn pass = sessionId := by
        cases hTurn : turn pass
        cases hSession : sessionId
        simp_all
      exact absurd ⟨pass, member, own ▸ serves pass member⟩ never
  -- every pass serves another session, so there are fewer passes than sessions
  have distinct : ((passes past).map turn).Nodup := by
    rw [List.Nodup, List.pairwise_map]
    refine List.Pairwise.imp_of_mem ?_ once
    intro earlier later first second relapse same
    exact relapse (turn earlier) (strictly earlier first) (serves earlier first)
      (same ▸ due later second)
  have inside : ((passes past).map turn).toFinset ⊆ sessions.erase sessionId := by
    intro other member
    obtain ⟨pass, isPass, rfl⟩ := List.mem_map.mp (List.mem_toFinset.mp member)
    refine Finset.mem_erase.mpr ⟨?_, known pass isPass _ ?_⟩
    · intro same
      exact absurd (strictly pass isPass) (by rw [same]; exact Nat.lt_irrefl _)
    · exact Option.isSome_of_any (due pass isPass)
  have bound := Finset.card_le_card inside
  rw [List.toFinset_card_of_nodup distinct, List.length_map,
    Finset.card_erase_of_mem listed] at bound
  have some := Finset.card_pos.mpr ⟨sessionId, listed⟩
  omega

end World

namespace Scenario

/-- A session after the first one in the order of the pass. -/
def largerSession : RelaySessionId := ⟨6⟩

/-- A snapshot with one binding of a session. -/
def snapshotWith (sessionId : RelaySessionId) (registrationId : Nat) :
    BindingSnapshot where
  entries := (∅ : BindingMap).insert ⟨⟨1⟩, sessionId, ⟨registrationId⟩⟩
    { binding with identity := ⟨⟨1⟩, sessionId, ⟨registrationId⟩⟩ }
  collected := ⟨[{ binding with
    identity := ⟨⟨1⟩, sessionId, ⟨registrationId⟩⟩ }], rfl⟩
  nonempty := rfl

/-- Two sessions are synchronized. -/
def twoSessions : List Event :=
  [.reconcile ⟨[(session, 1, snapshot),
    (largerSession, 1, snapshotWith largerSession 4)], []⟩ 0,
    .connected (.ok ())] ++
    operation 0 0 ++ operation 0 0 ++ operation 1 0 ++ operation 1 0

def publish (sessionId : RelaySessionId) (version registrationId : Nat)
    (now : Instant) : Event :=
  .reconcile ⟨[(sessionId, version, snapshotWith sessionId registrationId)], []⟩
    now

/-- Both publish once more and both are served. -/
def takingTurns : List Event :=
  [publish session 2 8 100, publish largerSession 2 9 100] ++
    operation 2 100 ++ operation 2 100

/-- The larger session's lease is to be renewed from 500 on; the other publishes
again while its Update is in flight. -/
def busy : List Event :=
  [publish session 2 8 500, .prepare 500, publish session 3 9 500,
    .serve (draws 2) 500, .respond 500, .prepare 501]

end Scenario

namespace World

open Scenario

theorem larger_session_served_in_turn :
    History World.Step (after twoSessions)
      (trail World.apply (after twoSessions) takingTurns)
      (takingTurns.foldl World.apply (after twoSessions)) ∧
    ∃ pass ∈ passes (trail World.apply (after twoSessions) takingTurns),
      pass.1.Serves pass.2 largerSession := by
  have known : ∀ pass ∈ passes (trail World.apply (after twoSessions) takingTurns),
      ∀ other, (pass.1.worker.registrations.get other).isSome = true →
        other ∈ ({session, largerSession} : Finset RelaySessionId) := by
    intro pass member other registered
    have listed : ∀ pass ∈ passes
        (trail World.apply (after twoSessions) takingTurns),
        ∀ key ∈ pass.1.worker.registrations.keys,
          key ∈ ({session, largerSession} : Finset RelaySessionId) := by
      decide
    exact listed pass member other
      (Table.mem_keys.mpr (Option.isSome_iff_exists.mp registered))
  refine ⟨History.of_allowed takingTurns ⟨trivial, trivial, show _ = true by decide,
    trivial, trivial, show _ = true by decide, trivial, trivial, trivial⟩, ?_⟩
  refine (passed_over_only_by_smaller largerSession (by decide)).2
    {session, largerSession} known ?_ (by decide) (by decide)
  have after : (passes (trail World.apply (after twoSessions)
      takingTurns)).Pairwise fun _ later => ¬later.1.Due later.2 session := by
    decide
  refine after.imp_of_mem ?_
  intro earlier later first _ idle other smaller serves
  have registered := known earlier first other (Option.isSome_of_any serves.1)
  rcases Finset.mem_insert.mp registered with rfl | larger
  · exact idle
  · rw [Finset.mem_singleton.mp larger] at smaller
    exact absurd smaller (Nat.lt_irrefl _)

theorem larger_session_passed_over_twice :
    History World.Step (after twoSessions)
      (trail World.apply (after twoSessions) busy)
      (busy.foldl World.apply (after twoSessions)) ∧
    ∀ pass ∈ passes (trail World.apply (after twoSessions) busy),
      pass.1.Passes pass.2 ∧ pass.1.Due pass.2 largerSession ∧
        pass.1.Serves pass.2 session ∧ ¬pass.1.Serves pass.2 largerSession := by
  refine ⟨History.of_allowed busy ⟨trivial, show _ = true by decide, trivial, trivial,
    trivial, show _ = true by decide, trivial⟩, by decide⟩

end World

end RelayGate.Routing
