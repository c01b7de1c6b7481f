import RelayGate.Gateway.State

/-!
# Terminal batches

When a peer transport is lost, the frames that end Pipes and dials are coalesced: those
of one session share an item of its writer queue, as long as nothing else is sent to
the session in between.
-/

namespace RelayGate.Gateway

open Library

/-- The frames that may travel in a terminal batch. -/
def isTransportTerminalFrame : Frame → Bool
  | .reset _ _ _ | .dialFailed _ _ _ _ => true
  | _ => false

/-- The actions so far, and where the open batch of each session stands. -/
structure Coalescing where
  indexes : Table SessionId Nat
  batched : List GatewayAction

/-- One action of the pass. -/
def Coalescing.add (pass : Coalescing) (action : GatewayAction) : Coalescing :=
  match action with
  | .sendSdkFrame target frame =>
      match pass.indexes.get target with
      | some index =>
          match pass.batched[index]? with
          | some (.sendSdkTerminalBatch owner frames) =>
              -- the batch refuses a frame of another session or one that ends nothing
              if target ≠ owner ∨ isTransportTerminalFrame frame = false then
                ⟨pass.indexes.remove target, pass.batched ++ [action]⟩
              else
                ⟨pass.indexes, pass.batched.set index
                  (.sendSdkTerminalBatch owner (frames ++ [frame]))⟩
          | _ => ⟨pass.indexes, pass.batched ++ [action]⟩
      | none =>
          if isTransportTerminalFrame frame then
            ⟨pass.indexes.insert target pass.batched.length,
              pass.batched ++ [.sendSdkTerminalBatch target [frame]]⟩
          else ⟨pass.indexes, pass.batched ++ [action]⟩
  | _ => ⟨pass.indexes, pass.batched ++ [action]⟩

def batchTransportLostTerminalFrames (actions : List GatewayAction) :
    List GatewayAction :=
  (actions.foldl Coalescing.add ⟨∅, []⟩).batched

/-! ## What a list of actions sends -/

namespace GatewayAction

/-- What an action sends to a session, batches flattened, or does apart from sessions. -/
def sent (session : Option SessionId) : GatewayAction → List GatewayAction
  | .sendSdkFrame target frame =>
      if some target = session then [.sendSdkFrame target frame] else []
  | .sendSdkTerminalBatch target frames =>
      if some target = session then frames.map (.sendSdkFrame target) else []
  | action => if none = session then [action] else []

def isBatch : GatewayAction → Bool
  | .sendSdkTerminalBatch _ _ => true
  | _ => false

theorem eq_of_mem_sent {action other : GatewayAction} {session : Option SessionId}
    (plain : action.isBatch = false) (member : other ∈ action.sent session) : other = action := by
  cases action <;> simp_all [sent, isBatch]

end GatewayAction

/-- All that is sent to a session, or done apart from sessions, in order. -/
def sent (session : Option SessionId) (actions : List GatewayAction) :
    List GatewayAction :=
  actions.flatMap (GatewayAction.sent session)

@[simp]
theorem sent_append (session : Option SessionId) (first second : List GatewayAction) :
    sent session (first ++ second) = sent session first ++ sent session second :=
  List.flatMap_append

@[simp]
theorem sent_cons (session : Option SessionId) (action : GatewayAction)
    (actions : List GatewayAction) :
    sent session (action :: actions) = action.sent session ++ sent session actions :=
  List.flatMap_cons

@[simp]
theorem sent_nil (session : Option SessionId) : sent session [] = [] :=
  rfl

/-! ## The pass -/

/-- What the pass has made of the actions it has seen.  After the open batch of a
session, nothing is sent to that session. -/
structure Coalesced (seen : List GatewayAction) (pass : Coalescing) : Prop where
  same : ∀ session, sent session pass.batched = sent session seen
  rest : (pass.batched.filter fun action => !action.isBatch).Sublist seen
  terminal : ∀ target frames, .sendSdkTerminalBatch target frames ∈ pass.batched →
    frames ≠ [] ∧ ∀ frame ∈ frames, isTransportTerminalFrame frame = true
  final : ∀ target index, pass.indexes.get target = some index →
    (∃ frames, pass.batched[index]? = some (.sendSdkTerminalBatch target frames)) ∧
      ∀ later action, index < later → pass.batched[later]? = some action →
        action.sent (some target) = []

namespace Coalesced

variable {seen : List GatewayAction} {pass : Coalescing} {action : GatewayAction}
  {target : SessionId} {frame : Frame}

/-- A batch stays the last item for its session when the next one is not for it. -/
theorem final_append {index : Nat} {batched : List GatewayAction}
    (final : (∃ frames, batched[index]? = some (.sendSdkTerminalBatch target frames)) ∧
      ∀ later action, index < later → batched[later]? = some action →
        action.sent (some target) = [])
    (silent : action.sent (some target) = []) :
    (∃ frames, (batched ++ [action])[index]? =
        some (.sendSdkTerminalBatch target frames)) ∧
      ∀ later other, index < later → (batched ++ [action])[later]? = some other →
        other.sent (some target) = [] := by
  obtain ⟨⟨frames, there⟩, quiet⟩ := final
  refine ⟨⟨frames, ?_⟩, ?_⟩
  · rw [List.getElem?_append_left (List.getElem?_eq_some_iff.mp there).1, there]
  · intro later other behind found
    by_cases inside : later < batched.length
    · rw [List.getElem?_append_left inside] at found
      exact quiet later other behind found
    · rw [List.getElem?_append_right (Nat.le_of_not_lt inside)] at found
      cases List.mem_singleton.mp (List.mem_of_getElem? found)
      exact silent

variable (coalesced : Coalesced seen pass)
include coalesced

/-- An action that stays as it is, when no batch of its session is open after it. -/
theorem push (plain : action.isBatch = false) {indexes : Table SessionId Nat}
    (closed : ∀ target index, indexes.get target = some index →
      pass.indexes.get target = some index ∧ action.sent (some target) = []) :
    Coalesced (seen ++ [action]) ⟨indexes, pass.batched ++ [action]⟩ where
  same session := by simp [coalesced.same]
  rest := by
    rw [List.filter_append]
    exact coalesced.rest.append List.filter_sublist
  terminal target frames member := by
    rcases List.mem_append.mp member with earlier | last
    · exact coalesced.terminal target frames earlier
    · cases List.mem_singleton.mp last
      cases plain
  final target index found := by
    obtain ⟨stood, silent⟩ := closed target index found
    exact final_append (coalesced.final target index stood) silent

/-- A terminal frame opens a batch for its session. -/
theorem opened (terminal : isTransportTerminalFrame frame = true)
    (none : pass.indexes.get target = none) :
    Coalesced (seen ++ [.sendSdkFrame target frame])
      ⟨pass.indexes.insert target pass.batched.length,
        pass.batched ++ [.sendSdkTerminalBatch target [frame]]⟩ where
  same session := by simp [coalesced.same, GatewayAction.sent]
  rest := by
    simp only [List.filter_append, GatewayAction.isBatch, Bool.not_true,
      List.filter_cons, Bool.false_eq_true, if_false, List.filter_nil, List.append_nil]
    exact coalesced.rest.trans (List.sublist_append_left _ _)
  terminal owner frames member := by
    rcases List.mem_append.mp member with earlier | last
    · exact coalesced.terminal owner frames earlier
    · cases List.mem_singleton.mp last
      simpa using terminal
  final owner index found := by
    rcases Table.get_insert_eq_some_iff.mp found with ⟨rfl, rfl⟩ | ⟨different, stood⟩
    · refine ⟨⟨[frame], by simp⟩, ?_⟩
      intro later action behind there
      have inside := (List.getElem?_eq_some_iff.mp there).1
      simp only [List.length_append, List.length_singleton] at inside
      omega
    · exact final_append (coalesced.final owner index stood)
        (if_neg fun same => different (Option.some.inj same).symm)

/-- A terminal frame joins the open batch of its session. -/
theorem joined (terminal : isTransportTerminalFrame frame = true) {index : Nat}
    (found : pass.indexes.get target = some index) {frames : List Frame}
    (there : pass.batched[index]? = some (.sendSdkTerminalBatch target frames)) :
    Coalesced (seen ++ [.sendSdkFrame target frame])
      ⟨pass.indexes, pass.batched.set index
        (.sendSdkTerminalBatch target (frames ++ [frame]))⟩ := by
  obtain ⟨inside, item⟩ := List.getElem?_eq_some_iff.mp there
  obtain ⟨before, after, shape, place, replaced⟩ :=
    @List.exists_of_set _ _ (.sendSdkTerminalBatch target (frames ++ [frame])) _ inside
  rw [item] at shape
  have quiet : sent (some target) after = [] := by
    refine List.flatMap_eq_nil_iff.mpr fun action member => ?_
    obtain ⟨offset, behind⟩ := List.mem_iff_getElem?.mp member
    refine (coalesced.final target index found).2 (index + (offset + 1)) action
      (by omega) ?_
    rw [shape, ← place, List.getElem?_append_right (by omega), Nat.add_sub_cancel_left]
    exact behind
  obtain ⟨same, rest, terminals, final⟩ := coalesced
  refine ⟨fun session => ?_, ?_, fun owner batch member => ?_, fun owner other stood => ?_⟩
  · rw [replaced, sent_append _ seen, ← same session, shape]
    by_cases own : some target = session
    · subst own
      simp [GatewayAction.sent, quiet]
    · simp [GatewayAction.sent, own]
  · rw [shape] at rest
    rw [replaced]
    simp only [List.filter_append, List.filter_cons, GatewayAction.isBatch] at rest ⊢
    exact rest.trans (List.sublist_append_left _ _)
  · rcases List.mem_or_eq_of_mem_set member with earlier | new
    · exact terminals owner batch earlier
    · cases new
      refine ⟨by simp, fun other inside => ?_⟩
      rcases List.mem_append.mp inside with first | last
      · exact (terminals target frames (List.mem_of_getElem? there)).2 other first
      · cases List.mem_singleton.mp last
        exact terminal
  · obtain ⟨⟨batch, standing⟩, silent⟩ := final owner other stood
    -- the frames behind a batch of another session are not this session's
    refine ⟨?_, fun later action behind stands => ?_⟩
    · by_cases same : index = other
      · subst same
        cases there.symm.trans standing
        exact ⟨frames ++ [frame], List.getElem?_set_self inside⟩
      · exact ⟨batch, (List.getElem?_set_ne same).trans standing⟩
    · by_cases same : index = later
      · subst same
        cases (List.getElem?_set_self inside).symm.trans stands
        refine if_neg fun own => ?_
        cases own
        cases found.symm.trans stood
        exact Nat.lt_irrefl _ behind
      · exact silent later action behind ((List.getElem?_set_ne same).symm.trans stands)

/-- One step of the pass, on an action that is not a batch. -/
theorem add (plain : action.isBatch = false) :
    Coalesced (seen ++ [action]) (pass.add action) := by
  cases action with
  | sendSdkFrame target frame =>
    -- the open batches of the other sessions are not for this frame
    have silent : ∀ other, other ≠ target →
        (GatewayAction.sendSdkFrame target frame).sent (some other) = [] :=
      fun other different => if_neg fun same => different (Option.some.inj same).symm
    simp only [Coalescing.add]
    cases found : pass.indexes.get target with
    | none =>
      simp only
      split
      · rename_i terminal
        exact coalesced.opened terminal found
      · refine coalesced.push plain ?_
        intro other index stood
        refine ⟨stood, silent other ?_⟩
        rintro rfl
        cases found.symm.trans stood
    | some index =>
      obtain ⟨⟨frames, there⟩, -⟩ := coalesced.final target index found
      simp only [there, ne_eq, not_true_eq_false, false_or]
      split
      · refine coalesced.push plain ?_
        intro other index stood
        obtain ⟨different, kept⟩ := Table.get_remove_eq_some_iff.mp stood
        exact ⟨kept, silent other different⟩
      · rename_i terminal
        exact coalesced.joined (by simpa using terminal) found there
  | sendSdkTerminalBatch => cases plain
  | _ => exact coalesced.push plain fun _ _ stood => ⟨stood, rfl⟩

theorem foldl {actions : List GatewayAction}
    (plain : ∀ action ∈ actions, action.isBatch = false) :
    Coalesced (seen ++ actions) (actions.foldl Coalescing.add pass) := by
  induction actions generalizing seen pass with
  | nil => simpa using coalesced
  | cons action actions hypothesis =>
    have step := coalesced.add (plain action List.mem_cons_self)
    have rest := hypothesis step fun other member =>
      plain other (List.mem_cons_of_mem _ member)
    simpa using rest

end Coalesced

/-- Coalescing sends every session the same frames in the same order and keeps all that
is done apart from sessions.  What is not put into a batch keeps its order, and a batch
holds only terminal frames that were sent to its session. -/
theorem batching_keeps_every_frame (actions : List GatewayAction)
    (plain : ∀ action ∈ actions, action.isBatch = false) :
    (∀ session, sent session (batchTransportLostTerminalFrames actions) =
        sent session actions) ∧
      ((batchTransportLostTerminalFrames actions).filter
        fun action => !action.isBatch).Sublist actions ∧
      ∀ target frames,
        .sendSdkTerminalBatch target frames ∈ batchTransportLostTerminalFrames actions →
        frames ≠ [] ∧ ∀ frame ∈ frames, isTransportTerminalFrame frame = true ∧
          .sendSdkFrame target frame ∈ actions := by
  have start : Coalesced [] ⟨∅, []⟩ :=
    ⟨fun _ => rfl, List.Sublist.refl _, by simp, by simp⟩
  have coalesced := start.foldl plain
  rw [List.nil_append] at coalesced
  refine ⟨coalesced.same, coalesced.rest, ?_⟩
  intro target frames batch
  obtain ⟨filled, terminal⟩ := coalesced.terminal target frames batch
  refine ⟨filled, fun frame member => ⟨terminal frame member, ?_⟩⟩
  have found : .sendSdkFrame target frame ∈ sent (some target) actions := by
    rw [← coalesced.same (some target)]
    exact List.mem_flatMap.mpr ⟨_, batch, by simpa [GatewayAction.sent] using member⟩
  obtain ⟨action, listed, carried⟩ := List.mem_flatMap.mp found
  exact GatewayAction.eq_of_mem_sent (plain action listed) carried ▸ listed

namespace Coalescing.Scenario

/-- The reset of a Pipe of one session. -/
def ended (connectionId : Nat) : Frame :=
  .reset ⟨⟨0⟩, connectionId⟩ .unavailable "peer transport lost"

end Coalescing.Scenario

open Coalescing.Scenario

/-- A frame between two resets keeps its place. -/
theorem batching_around_data :
    sent (some ⟨0⟩) (batchTransportLostTerminalFrames [.sendSdkFrame ⟨0⟩ (ended 1),
      .sendSdkFrame ⟨0⟩ (.ping 7), .sendSdkFrame ⟨0⟩ (ended 2)]) =
      [.sendSdkFrame ⟨0⟩ (ended 1), .sendSdkFrame ⟨0⟩ (.ping 7),
        .sendSdkFrame ⟨0⟩ (ended 2)] :=
  (batching_keeps_every_frame [.sendSdkFrame ⟨0⟩ (ended 1),
    .sendSdkFrame ⟨0⟩ (.ping 7), .sendSdkFrame ⟨0⟩ (ended 2)] (by decide)).1 (some ⟨0⟩)

/-- A batch that is already in the list is overtaken by a later terminal frame. -/
theorem batching_overtakes_batch :
    sent (some ⟨0⟩) (batchTransportLostTerminalFrames [.sendSdkFrame ⟨0⟩ (ended 1),
      .sendSdkTerminalBatch ⟨0⟩ [ended 2], .sendSdkFrame ⟨0⟩ (ended 3)]) ≠
    sent (some ⟨0⟩) [.sendSdkFrame ⟨0⟩ (ended 1),
      .sendSdkTerminalBatch ⟨0⟩ [ended 2], .sendSdkFrame ⟨0⟩ (ended 3)] := by
  decide

end RelayGate.Gateway
