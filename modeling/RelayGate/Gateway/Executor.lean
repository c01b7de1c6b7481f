import RelayGate.Gateway.Lookups

/-!
# Executing actions

The runtime executes the actions of a transition from a queue.  What cannot be
delivered is reported to the state core, and the actions of that report join the queue.
Other tasks may change the state between two actions.
The loop ends within a linear number of rounds.
-/

namespace RelayGate.Gateway

open Library

/-! ## Deliveries -/

/-- How the bounded writer queue of a session answers. -/
inductive QueueAnswer
  | accepted
  | full
  | closed
deriving DecidableEq

inductive DeliveryFailure
  | offerQueueFull (acceptor : SessionId) (pipeId : PipeId)
  | sessionUnavailable (sessionId : SessionId)

/-- An OFFER can wait for a full queue; no other frame and no batch can. -/
def GatewayAction.deliver (answer : QueueAnswer) : GatewayAction → Option DeliveryFailure
  | .sendSdkFrame target frame =>
      match answer, frame with
      | .accepted, _ => none
      | .full, .offer pipeId _ _ => some (.offerQueueFull target pipeId)
      | _, _ => some (.sessionUnavailable target)
  | .sendSdkTerminalBatch target _ =>
      if answer = .accepted then none else some (.sessionUnavailable target)
  | _ => none

/-- How the runtime answers an action: the writer queue, the message under which a
control effect is not started, and the error of a peer frame that was not committed. -/
structure EffectAnswer where
  queue : QueueAnswer
  control : Option String
  peer : Option (ErrorCode × String)
deriving DecidableEq

/-! ## The loop -/

/-- The transitions that the executor itself asks for. -/
inductive Cleanup
  | offerDeliveryRejected (acceptor : SessionId) (pipeId : PipeId)
  | removeSession (sessionId : SessionId)
  | routeFailed (openIdentity : OpenIdentity) (message : String)
  | peerOpenCommitFailed (openIdentity : OpenIdentity) (message : String)
  | peerReset (key : PeerStreamKey) (code : ErrorCode) (message : String)
deriving DecidableEq

def Cleanup.apply (state : GatewayState) : Cleanup → List GatewayAction × GatewayState
  | .offerDeliveryRejected acceptor pipeId => state.offerDeliveryRejected acceptor pipeId
  | .removeSession sessionId => state.removeSession sessionId
  | .routeFailed openIdentity message =>
      state.routeFailed openIdentity .resourceExhausted message
  | .peerOpenCommitFailed openIdentity message =>
      state.peerOpenCommitFailed openIdentity .resourceExhausted .notObserved message
  | .peerReset key code message => state.peerReset key code message

/-- A session is cleaned up at its first failure only. -/
def DeliveryFailure.cleanup? (cleaned : List SessionId) :
    DeliveryFailure → Option Cleanup
  | .offerQueueFull acceptor pipeId => some (.offerDeliveryRejected acceptor pipeId)
  | .sessionUnavailable sessionId =>
      if sessionId ∈ cleaned then none else some (.removeSession sessionId)

theorem DeliveryFailure.not_mem_of_removeSession {cleaned : List SessionId}
    {sessionId : SessionId} {failure : DeliveryFailure}
    (asked : failure.cleanup? cleaned = some (.removeSession sessionId)) :
    sessionId ∉ cleaned := by
  cases failure <;> grind [DeliveryFailure.cleanup?]

/-- A peer frame that was not committed resets its stream, unless it ends the stream. -/
def sendPeerDelivery (delivery : PeerDelivery) (answer : Option (ErrorCode × String)) :
    Option Cleanup :=
  match answer, delivery with
  | some (code, message), .opened key
  | some (code, message), .data key _
  | some (code, message), .fin key => some (.peerReset key code message)
  | _, _ => none

def GatewayAction.cleanup? (cleaned : List SessionId) (answer : EffectAnswer) :
    GatewayAction → Option Cleanup
  | .publishRegistration _ _ | .cancelPeerOpen _ => none
  | .resolveRoute openIdentity _ => answer.control.map (.routeFailed openIdentity)
  | .openPeer openIdentity _ _ _ _ _ =>
      answer.control.map (.peerOpenCommitFailed openIdentity)
  | .sendPeerFrame delivery => sendPeerDelivery delivery answer.peer
  | action => (action.deliver answer.queue).bind (DeliveryFailure.cleanup? cleaned)

/-- The loop of `execute_all` between two rounds.  The sessions whose removal it has
asked for are listed, the latest first. -/
structure Executor where
  state : GatewayState
  pending : List GatewayAction
  cleaned : List SessionId

/-- A round of the loop, or a transition of another task. -/
inductive ExecutorMove
  | work (answer : EffectAnswer)
  | other (target : GatewayState)

namespace Executor

/-- What the executor asks the state core for in a move. -/
def cleanup? (executor : Executor) : ExecutorMove → Option Cleanup
  | .work answer => executor.pending.head?.bind
      (GatewayAction.cleanup? executor.cleaned answer)
  | .other _ => none

def step (executor : Executor) (move : ExecutorMove) : Executor :=
  match move with
  | .other target => { executor with state := target }
  | .work _ =>
      match executor.cleanup? move with
      | none => { executor with pending := executor.pending.tail }
      | some cleanup =>
          ⟨(cleanup.apply executor.state).2,
            executor.pending.tail ++ (cleanup.apply executor.state).1,
            match cleanup with
            | .removeSession sessionId => sessionId :: executor.cleaned
            | _ => executor.cleaned⟩

/-- The executor after a number of moves. -/
def run (executor : Executor) (moves : Nat → ExecutorMove) : Nat → Executor
  | 0 => executor
  | count + 1 => (executor.run moves count).step (moves count)

/-- The queue of the session refuses the next action: a batch, a frame other than an
OFFER or, when it is closed, any frame. -/
def Refuses (executor : Executor) (move : ExecutorMove) (sessionId : SessionId) : Prop :=
  ∃ answer action rest, move = .work answer ∧ executor.pending = action :: rest ∧
    action.deliver answer.queue = some (.sessionUnavailable sessionId)

end Executor

/-! ## Every clean-up ends something -/

namespace GatewayState

variable {state : GatewayState} {pipeId : PipeId} {openIdentity : OpenIdentity}

/-- The sessions, Pipes and attempts of a state. -/
def size (state : GatewayState) : Nat :=
  state.sessions.len + state.pipes.len + state.remoteOpenAttempts.len

theorem size_removePipe {pipe : PipeEntry} (stored : state.pipes.get pipeId = some pipe) :
    (state.removePipe pipeId).2.size < state.size := by
  have shorter := Table.len_remove_of_some stored
  rw [removePipe_of_some stored]
  change state.sessions.len + (state.pipes.remove pipeId).len +
    state.remoteOpenAttempts.len < state.size
  unfold size
  omega

theorem size_takeRemoteAttempt {attempt : RemoteOpenAttempt}
    (attempted : state.remoteOpenAttempts.get openIdentity = some attempt) :
    (state.takeRemoteAttempt openIdentity).2.size < state.size := by
  have shorter := Table.len_remove_of_some attempted
  simp only [takeRemoteAttempt, attempted, size]
  omega

/-- The loops of a session removal leave the sessions and add nothing. -/
theorem removal_loops (answer : GatewayState → PipeId → PipeEntry → List GatewayAction)
    (pipeIds : List PipeId) (openIdentities : List OpenIdentity) (state : GatewayState) :
    (removePipes answer pipeIds (abandonAttempts openIdentities state).2).2.sessions =
        state.sessions ∧
      (removePipes answer pipeIds (abandonAttempts openIdentities state).2).2.size ≤
        state.size := by
  obtain ⟨keeps, abandoned, -⟩ := shrunk_abandonAttempts openIdentities state
  have sessions := (keeps_removePipes answer pipeIds _).sessions.trans keeps.sessions
  have shrunk := abandoned.trans (shrunk_removePipes answer pipeIds _).1
  have pipes := Table.len_le_of_get shrunk.pipes
  have attempts := Table.len_le_of_get shrunk.attempts
  refine ⟨sessions, ?_⟩
  unfold size
  rw [sessions]
  omega

theorem removeSession_of_none {sessionId : SessionId}
    (absent : state.sessions.get sessionId = none) :
    state.removeSession sessionId = ([], state) := by
  simp [removeSession, Table.contains, absent]

theorem removeSession_of_some {sessionId : SessionId} {session : SessionEntry}
    (found : state.sessions.get sessionId = some session) :
    (state.removeSession sessionId).2.sessions = state.sessions.remove sessionId ∧
      (state.removeSession sessionId).2.size < state.size := by
  have shorter := Table.len_remove_of_some found
  simp only [removeSession, Table.contains, found]
  refine ⟨(removal_loops _ _ _ _).1, Nat.lt_of_le_of_lt (removal_loops _ _ _ _).2 ?_⟩
  simp only [size]
  omega

/-- A transition does nothing, or leaves fewer sessions, Pipes and attempts. -/
def Diminishes (state : GatewayState) (result : List GatewayAction × GatewayState) :
    Prop :=
  result = ([], state) ∨ result.2.size < state.size

theorem diminishes_offerDeliveryRejected (acceptor : SessionId) (pipeId : PipeId) :
    state.Diminishes (state.offerDeliveryRejected acceptor pipeId) := by
  unfold offerDeliveryRejected
  split
  · rename_i waiting
    obtain ⟨offer, stored, -⟩ := (Option.any_eq_true _ _).mp waiting
    have smaller := size_removePipe stored
    rw [removePipe_of_some stored] at smaller ⊢
    exact Or.inr smaller
  · exact Or.inl rfl

theorem diminishes_peerReset (key : PeerStreamKey) (code : ErrorCode)
    (message : String) : state.Diminishes (state.peerReset key code message) := by
  rcases state.peerReset_cases key code message with
    same | ⟨pipeId, pipe, -, stored, removed⟩
  · exact Or.inl same
  · exact Or.inr (by rw [removed]; exact size_removePipe stored)

theorem diminishes_failRemoteAttempt (openIdentity : OpenIdentity) (code : ErrorCode)
    (observation : PeerObservation) (message : String) :
    state.Diminishes (state.failRemoteAttempt openIdentity code observation message) := by
  unfold failRemoteAttempt
  cases attempted : state.remoteOpenAttempts.get openIdentity with
  | none =>
    simp only [takeRemoteAttempt, attempted]
    exact Or.inl rfl
  | some =>
    rw [takeRemoteAttempt_eq attempted]
    exact Or.inr (size_takeRemoteAttempt attempted)

theorem diminishes_apply (cleanup : Cleanup) : state.Diminishes (cleanup.apply state) := by
  cases cleanup with
  | offerDeliveryRejected acceptor pipeId =>
    exact diminishes_offerDeliveryRejected acceptor pipeId
  | removeSession sessionId =>
    cases found : state.sessions.get sessionId with
    | none => exact Or.inl (removeSession_of_none found)
    | some => exact Or.inr (removeSession_of_some found).2
  | routeFailed =>
    unfold Cleanup.apply routeFailed
    dsimp only
    split
    · exact diminishes_failRemoteAttempt _ _ _ _
    · exact Or.inl rfl
  | peerOpenCommitFailed =>
    unfold Cleanup.apply peerOpenCommitFailed
    dsimp only
    split
    · exact diminishes_failRemoteAttempt _ _ _ _
    · exact Or.inl rfl
  | peerReset key code message => exact diminishes_peerReset key code message

/-- A clean-up admits no session, and removes only the session it names. -/
theorem sessions_apply (cleanup : Cleanup) :
    (cleanup.apply state).2.sessions =
      match cleanup with
      | .removeSession sessionId => state.sessions.remove sessionId
      | _ => state.sessions := by
  cases cleanup with
  | offerDeliveryRejected acceptor pipeId =>
    exact (state.keeps_offerDeliveryRejected acceptor pipeId).sessions
  | removeSession sessionId =>
    change (state.removeSession sessionId).2.sessions = state.sessions.remove sessionId
    cases found : state.sessions.get sessionId with
    | none => rw [removeSession_of_none found, Table.remove_of_get_eq_none found]
    | some => exact (removeSession_of_some found).1
  | routeFailed openIdentity message =>
    exact (state.keeps_routeFailed openIdentity _ message).sessions
  | peerOpenCommitFailed openIdentity message =>
    exact (state.keeps_peerOpenCommitFailed openIdentity _ _ message).sessions
  | peerReset key code message => exact (state.keeps_peerReset key code message).sessions

/-- An offer ends, and nothing else does. -/
structure OfferEnded (acceptor : SessionId) (pipeId : PipeId)
    (state target : GatewayState) : Prop where
  sessions : target.sessions = state.sessions
  registry : target.registry = state.registry
  attempts : target.remoteOpenAttempts = state.remoteOpenAttempts
  pipes : ∀ other pipe, target.pipes.get other = some pipe ↔
    state.pipes.get other = some pipe ∧
      ¬ (other = pipeId ∧ pipe.phase = .offered ∧ pipe.acceptor = .sdk acceptor)

theorem offerEnded_offerDeliveryRejected (state : GatewayState) (acceptor : SessionId)
    (pipeId : PipeId) :
    OfferEnded acceptor pipeId state (state.offerDeliveryRejected acceptor pipeId).2 := by
  unfold offerDeliveryRejected
  split
  · rename_i waiting
    obtain ⟨offer, stored, offered⟩ := (Option.any_eq_true _ _).mp waiting
    rw [removePipe_of_some stored]
    refine ⟨rfl, rfl, rfl, fun other pipe => ?_⟩
    change (state.pipes.remove pipeId).get other = some pipe ↔ _
    rw [Table.get_remove_eq_some_iff]
    grind
  · refine ⟨rfl, rfl, rfl, fun other pipe => ?_⟩
    grind

end GatewayState

/-! ## Whole runs -/

namespace Executor

variable {executor : Executor} {moves : Nat → ExecutorMove} {move : ExecutorMove}
  {sessionId : SessionId}

/-- A round ends something, or shortens the queue. -/
theorem work_progress (executor : Executor) (answer : EffectAnswer)
    (busy : executor.pending ≠ []) :
    (executor.step (.work answer)).state.size < executor.state.size ∨
      (executor.step (.work answer)).state.size = executor.state.size ∧
        (executor.step (.work answer)).pending.length < executor.pending.length := by
  have shorter : executor.pending.tail.length < executor.pending.length := by
    rw [List.length_tail]
    have := List.length_pos_of_ne_nil busy
    omega
  simp only [step]
  cases executor.cleanup? (.work answer) with
  | none => exact Or.inr ⟨rfl, shorter⟩
  | some cleanup =>
    rcases executor.state.diminishes_apply cleanup with idle | smaller
    · exact Or.inr (by simpa [idle] using shorter)
    · exact Or.inl smaller

/-- Once other tasks rest, the queue runs empty. -/
theorem pending_eq_nil {bound : Nat}
    (working : ∀ count, bound ≤ count → ∃ answer, moves count = .work answer) :
    ∃ count, (executor.run moves count).pending = [] := by
  -- the size of the state decreases, or stays while the queue gets shorter
  suffices every : ∀ size length count, bound ≤ count →
      (executor.run moves count).state.size = size →
      (executor.run moves count).pending.length = length →
      ∃ final, (executor.run moves final).pending = [] from
    every _ _ bound (Nat.le_refl _) rfl rfl
  intro size
  induction size using Nat.strong_induction_on with
  | _ size smaller =>
  intro length
  induction length using Nat.strong_induction_on with
  | _ length shorter =>
  intro count late sized long
  by_cases idle : (executor.run moves count).pending = []
  · exact ⟨count, idle⟩
  · obtain ⟨answer, works⟩ := working count late
    have progress := work_progress (executor.run moves count) answer idle
    have next : executor.run moves (count + 1) =
        (executor.run moves count).step (.work answer) := by
      rw [run, works]
    rw [← next, sized, long] at progress
    rcases progress with less | ⟨same, less⟩
    · exact smaller _ less _ (count + 1) (by omega) rfl rfl
    · exact shorter _ less (count + 1) (by omega) same rfl

/-- The executor has asked once for the removal of each session that it has cleaned,
and none of them is there. -/
structure Cleaned (executor : Executor) : Prop where
  once : executor.cleaned.Nodup
  absent : ∀ sessionId ∈ executor.cleaned,
    executor.state.sessions.get sessionId = none

theorem not_mem_cleaned (asked : executor.cleanup? move = some (.removeSession sessionId)) :
    sessionId ∉ executor.cleaned := by
  cases move with
  | other => cases asked
  | work =>
    obtain ⟨action, -, named⟩ := Option.bind_eq_some_iff.mp asked
    cases action with
    | sendPeerFrame =>
      simp only [GatewayAction.cleanup?, sendPeerDelivery] at named
      split at named <;> cases named
    | _ =>
      grind [GatewayAction.cleanup?, DeliveryFailure.not_mem_of_removeSession,
        Option.bind_eq_some_iff, Option.map_eq_some_iff]

theorem Cleaned.step (cleaned : Cleaned executor)
    (fresh : ∀ target, move = .other target → ∀ sessionId ∈ executor.cleaned,
      target.sessions.get sessionId = none) : Cleaned (executor.step move) := by
  cases move with
  | other target => exact ⟨cleaned.once, fresh target rfl⟩
  | work answer =>
    cases asked : executor.cleanup? (.work answer) with
    | none =>
      simp only [Executor.step, asked]
      exact ⟨cleaned.once, cleaned.absent⟩
    | some cleanup =>
      have sessions := executor.state.sessions_apply cleanup
      simp only [Executor.step, asked]
      cases cleanup with
      | removeSession =>
        refine ⟨List.nodup_cons.mpr ⟨not_mem_cleaned asked, cleaned.once⟩, ?_⟩
        intro sessionId member
        have absent := cleaned.absent sessionId
        grind
      | _ => exact ⟨cleaned.once, sessions ▸ cleaned.absent⟩

/-- The loop before its first round. -/
def start (state : GatewayState) (actions : List GatewayAction) : Executor :=
  ⟨state, actions, []⟩

/-- Other tasks bring back no session that the executor has removed. -/
def Fresh (executor : Executor) (moves : Nat → ExecutorMove) : Prop :=
  ∀ count target, moves count = .other target →
    ∀ sessionId ∈ (executor.run moves count).cleaned, target.sessions.get sessionId = none

theorem Cleaned.run (cleaned : Cleaned executor) (fresh : executor.Fresh moves)
    (count : Nat) : Cleaned (executor.run moves count) := by
  induction count with
  | zero => exact cleaned
  | succ count hypothesis => exact hypothesis.step (fresh count)

theorem mem_cleaned_step
    (kept : sessionId ∈ executor.cleaned ∨
      executor.cleanup? move = some (.removeSession sessionId)) :
    sessionId ∈ (executor.step move).cleaned := by
  cases move with
  | other => exact kept.resolve_right (by simp [cleanup?])
  | work answer =>
    simp only [step]
    cases asked : executor.cleanup? (.work answer) with
    | none => simpa [asked] using kept
    | some cleanup => cases cleanup <;> grind

/-- A session that refuses a frame is cleaned from then on. -/
theorem mem_cleaned_of_refuses {index count : Nat}
    (refuses : (executor.run moves index).Refuses (moves index) sessionId)
    (later : index < count) : sessionId ∈ (executor.run moves count).cleaned := by
  induction count, later using Nat.le_induction with
  | base =>
    obtain ⟨answer, action, rest, works, queue, refused⟩ := refuses
    have asked : (executor.run moves index).cleanup? (moves index) =
        (DeliveryFailure.sessionUnavailable sessionId).cleanup?
          (executor.run moves index).cleaned := by
      rw [works, cleanup?, queue]
      cases action <;> simp_all [GatewayAction.cleanup?, GatewayAction.deliver]
    refine mem_cleaned_step ?_
    rw [asked, DeliveryFailure.cleanup?]
    split <;> simp_all
  | succ count later hypothesis => exact mem_cleaned_step (Or.inl hypothesis)

end Executor

/-- While other tasks make finitely many transitions and bring no removed session back,
the executor ends.  It asks once for the removal of every session that refuses a frame
other than an OFFER, which is absent from then on, and an OFFER that a full queue
refuses ends alone. -/
theorem execute_all_ends (state : GatewayState) (actions : List GatewayAction)
    (moves : Nat → ExecutorMove)
    (finite : ∃ bound, ∀ count, bound ≤ count → ∃ answer, moves count = .work answer)
    (fresh : (Executor.start state actions).Fresh moves) :
    (∃ count, ((Executor.start state actions).run moves count).pending = []) ∧
      (∀ index sessionId,
        ((Executor.start state actions).run moves index).Refuses (moves index)
          sessionId →
        ∀ count, index < count →
          ((Executor.start state actions).run moves count).cleaned.count sessionId = 1 ∧
            ((Executor.start state actions).run moves count).state.sessions.get
              sessionId = none) ∧
      ∀ (executor : Executor) answer acceptor pipeId bindingId destination rest,
        executor.pending =
          .sendSdkFrame acceptor (.offer pipeId bindingId destination) :: rest →
        answer.queue = .full →
        GatewayState.OfferEnded acceptor pipeId executor.state
          (executor.step (.work answer)).state := by
  obtain ⟨bound, working⟩ := finite
  refine ⟨Executor.pending_eq_nil working, ?_, ?_⟩
  · intro index sessionId refuses count later
    have member := Executor.mem_cleaned_of_refuses refuses later
    have started : (Executor.start state actions).Cleaned :=
      ⟨List.nodup_nil, fun _ listed => nomatch listed⟩
    have cleaned := started.run fresh count
    exact ⟨List.count_eq_one_of_mem cleaned.once member,
      cleaned.absent sessionId member⟩
  · intro executor answer acceptor pipeId bindingId destination rest queue full
    have asked : executor.cleanup? (.work answer) =
        some (.offerDeliveryRejected acceptor pipeId) := by
      rw [Executor.cleanup?, queue]
      simp [GatewayAction.cleanup?, GatewayAction.deliver, full,
        DeliveryFailure.cleanup?]
    simp only [Executor.step, asked]
    exact executor.state.offerEnded_offerDeliveryRejected acceptor pipeId

open World.Scenario in
/-- A listener whose writer queue is closed is removed once. -/
theorem closed_listener_is_removed :
    ((Executor.start ((GatewayState.build limits none 0).addSession sessionDraws 0).2
        [.sendSdkFrame listener (.ping 1), .sendSdkFrame listener (.ping 2)]).run
      (fun _ => .work ⟨.closed, none, none⟩) 2).cleaned.count listener = 1 :=
  ((execute_all_ends ((GatewayState.build limits none 0).addSession sessionDraws 0).2
    [.sendSdkFrame listener (.ping 1), .sendSdkFrame listener (.ping 2)]
    (fun _ => .work ⟨.closed, none, none⟩) ⟨0, fun _ _ => ⟨_, rfl⟩⟩
    (fun _ _ other => by cases other)).2.1 0 listener
    ⟨_, _, _, rfl, rfl, rfl⟩ 2 (by decide)).1

/-! ## How long the loop runs -/

namespace GatewayState

variable {state : GatewayState}

theorem length_sendTo_le (target : SessionId) (frame : Frame) :
    (state.sendTo target frame).length ≤ 1 := by
  unfold sendTo
  split <;> simp

theorem length_endpointReset_le (target : PipeEndpoint) (pipeId : PipeId)
    (code : ErrorCode) (message : String) :
    (state.endpointReset target pipeId code message).length ≤ 1 := by
  cases target with
  | sdk => exact length_sendTo_le _ _
  | peer => exact Nat.le_refl 1

theorem length_dialerFailure_le (pipe : PipeEntry) (pipeId : PipeId) (code : ErrorCode)
    (observation : PeerObservation) (message : String) :
    (state.dialerFailure pipe pipeId code observation message).length ≤ 1 := by
  unfold dialerFailure
  split
  · exact length_sendTo_le _ _
  · exact Nat.le_refl 1

/-- Every action answers for an entry that goes. -/
theorem length_abandonAttempts (openIdentities : List OpenIdentity) (state : GatewayState) :
    (abandonAttempts openIdentities state).1.length +
      (abandonAttempts openIdentities state).2.size ≤ state.size := by
  induction openIdentities generalizing state with
  | nil => exact (Nat.zero_add _).le
  | cons openIdentity openIdentities ih =>
    cases attempted : state.remoteOpenAttempts.get openIdentity with
    | none =>
      simp only [abandonAttempts, takeRemoteAttempt, attempted]
      exact ih state
    | some attempt =>
      have smaller := size_takeRemoteAttempt attempted
      have rest := ih (state.takeRemoteAttempt openIdentity).2
      have one : (abandonedAttempt openIdentity attempt).length ≤ 1 := by
        unfold abandonedAttempt
        split <;> simp
      rw [abandonAttempts, takeRemoteAttempt_eq attempted]
      simp only [List.length_append]
      omega

theorem length_removePipes (sessionId : SessionId) (pipeIds : List PipeId)
    (state : GatewayState) :
    (removePipes (disconnectedPipe sessionId) pipeIds state).1.length +
      (removePipes (disconnectedPipe sessionId) pipeIds state).2.size ≤ state.size := by
  induction pipeIds generalizing state with
  | nil => exact (Nat.zero_add _).le
  | cons pipeId pipeIds ih =>
    cases stored : state.pipes.get pipeId with
    | none =>
      rw [removePipes, removePipe_of_none stored]
      exact ih state
    | some pipe =>
      have smaller := size_removePipe stored
      have rest := ih (state.removePipe pipeId).2
      have one : (disconnectedPipe sessionId (state.removePipe pipeId).2 pipeId
          pipe).length ≤ 1 := by
        unfold disconnectedPipe
        dsimp only
        split
        · exact length_dialerFailure_le _ _ _ _ _
        · exact length_endpointReset_le _ _ _ _
      rw [removePipe_of_some stored] at smaller rest one
      dsimp only at smaller rest one
      rw [removePipes, removePipe_of_some stored]
      simp only [List.length_append]
      omega

theorem length_removeSession (sessionId : SessionId) :
    (state.removeSession sessionId).1.length + (state.removeSession sessionId).2.size ≤
      state.size := by
  cases found : state.sessions.get sessionId with
  | none =>
    rw [removeSession_of_none found]
    exact (Nat.zero_add _).le
  | some =>
    have shorter := Table.len_remove_of_some found
    have sum {first second last start middle final : Nat}
        (attempts : first + middle ≤ start) (pipes : second + final ≤ middle)
        (publication : last ≤ 1) (removed : start < state.size) :
        first + second + last + final ≤ state.size := by
      omega
    simp only [removeSession, Table.contains, found, Option.isSome_some, Bool.not_true,
      Bool.false_eq_true, if_false, List.length_append]
    refine sum (length_abandonAttempts _ _) (length_removePipes _ _ _) ?_ ?_
    · split <;> simp
    · simp only [size]
      omega

theorem Diminishes.length_add_le {result : List GatewayAction × GatewayState}
    (ends : state.Diminishes result) (short : result.1.length ≤ 2) :
    result.1.length + 2 * result.2.size ≤ 2 * state.size := by
  rcases ends with rfl | smaller
  · exact (Nat.zero_add _).le
  · omega

/-- A clean-up asks for at most two actions for every entry that it ends. -/
theorem length_apply (cleanup : Cleanup) :
    (cleanup.apply state).1.length + 2 * (cleanup.apply state).2.size ≤ 2 * state.size := by
  have ends := state.diminishes_apply cleanup
  cases cleanup with
  | removeSession sessionId =>
    have removed := state.length_removeSession sessionId
    simp only [Cleanup.apply]
    omega
  | _ =>
    -- at most one entry ends, with an answer for either end
    refine ends.length_add_le ?_
    simp only [Cleanup.apply, offerDeliveryRejected, routeFailed, peerOpenCommitFailed,
      failRemoteAttempt, peerReset, fromPeer, relayReset, protocolReset]
    repeat' split
    all_goals grind [openFailed, length_sendTo_le, length_endpointReset_le,
      length_dialerFailure_le]

end GatewayState

namespace Executor

variable {executor : Executor} {moves : Nat → ExecutorMove}

/-- What is left to do: the queue, and two actions for every entry of the state. -/
def rank (executor : Executor) : Nat :=
  executor.pending.length + 2 * executor.state.size

theorem rank_work (answer : EffectAnswer) (busy : executor.pending ≠ []) :
    (executor.step (.work answer)).rank < executor.rank := by
  have filled := List.length_pos_of_ne_nil busy
  simp only [step, rank]
  cases executor.cleanup? (.work answer) with
  | none =>
    simp only [List.length_tail]
    omega
  | some cleanup =>
    have few := executor.state.length_apply cleanup
    simp only [List.length_append, List.length_tail]
    omega

/-- The rounds of the loop among the first moves. -/
def rounds (moves : Nat → ExecutorMove) : Nat → Nat
  | 0 => 0
  | count + 1 => rounds moves count +
      match moves count with
      | .work _ => 1
      | .other _ => 0

/-- The entries that the first moves add. -/
def added (executor : Executor) (moves : Nat → ExecutorMove) : Nat → Nat
  | 0 => 0
  | count + 1 => executor.added moves count +
      ((executor.run moves (count + 1)).state.size - (executor.run moves count).state.size)

/-- What a busy loop has done and what is left for it. -/
theorem rounds_add_rank_le {count : Nat}
    (busy : ∀ index < count, (executor.run moves index).pending ≠ []) :
    rounds moves count + (executor.run moves count).rank ≤
      executor.rank + 2 * executor.added moves count := by
  induction count with
  | zero => exact (Nat.zero_add _).le
  | succ count ih =>
    have earlier := ih fun index before => busy index (Nat.lt_succ_of_lt before)
    rw [rounds, added]
    cases moved : moves count with
    | work answer =>
      have less := rank_work answer (busy count (Nat.lt_succ_self _))
      rw [run, moved]
      dsimp only
      omega
    | other =>
      rw [run, moved]
      simp only [step, rank] at earlier ⊢
      omega

end Executor

/-- While its queue is not empty, the executor has made no more rounds than it had
actions, and two for every session, Pipe and attempt that was there or that other tasks
have added. -/
theorem rounds_bounded {executor : Executor} {moves : Nat → ExecutorMove} {count : Nat}
    (busy : ∀ index < count, (executor.run moves index).pending ≠ []) :
    Executor.rounds moves count ≤ executor.pending.length +
      2 * (executor.state.size + executor.added moves count) := by
  have spent := Executor.rounds_add_rank_le busy
  unfold Executor.rank at spent
  omega

open World.Scenario in
/-- Two frames for a listener whose queue is closed. -/
theorem rounds_bounded_closed :
    Executor.rounds (fun _ => .work ⟨.closed, none, none⟩) 2 ≤ 2 + 2 * (1 + 0) :=
  @rounds_bounded (Executor.start
      ((GatewayState.build limits none 0).addSession sessionDraws 0).2
      [.sendSdkFrame listener (.ping 1), .sendSdkFrame listener (.ping 2)]) _ 2
    fun index small => match index with
      | 0 | 1 => nofun
      | _ + 2 => by omega

end RelayGate.Gateway
