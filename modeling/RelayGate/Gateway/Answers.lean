import RelayGate.Gateway.Safety

/-!
# The commit result and the answer of the peer

The Gateway learns that a peer OPEN was committed from its own peer runtime and
what became of it from the peer, in either order.  Both orders lead to the same
state and to the same frames for the SDK sessions.  What arrives for an OPEN that has
ended changes nothing, and resets at most the stream it names.
-/

namespace RelayGate.Gateway

open Library
open RouteTable (BindingProjection)

/-- What a peer, or the loss of its transport, answers to an OPEN. -/
inductive PeerAnswer
  | opened (now : Instant)
  | failed (code : ErrorCode) (observation : PeerObservation) (message : String)
  | lost (observation : PeerObservation)

/-- What can arrive for an OPEN after it has ended. -/
inductive LateResult
  | routeResolved (bindings : List BindingProjection) (now : Instant)
  | routeFailed (code : ErrorCode) (message : String)
  | committed (key : PeerStreamKey)
  | commitFailed (code : ErrorCode) (observation : PeerObservation) (message : String)
  | answered (key : PeerStreamKey) (answer : PeerAnswer)

def LateResult.key? : LateResult → Option PeerStreamKey
  | .committed key => some key
  | .answered key _ => some key
  | _ => none

/-- The actions an SDK session sees. -/
def GatewayAction.forSdk : GatewayAction → Bool
  | .sendSdkFrame _ _ => true
  | .sendSdkTerminalBatch _ _ => true
  | _ => false

namespace GatewayState

variable {state : GatewayState} {openIdentity : OpenIdentity} {key : PeerStreamKey}
  {attempt : RemoteOpenAttempt} {bindingId : BindingId}

def peerAnswered (state : GatewayState) (openIdentity : OpenIdentity)
    (key : PeerStreamKey) : PeerAnswer → List GatewayAction × GatewayState
  | .opened now => state.peerOpenedAt key openIdentity now
  | .failed code observation message =>
      state.peerOpenFailed key openIdentity code observation message
  | .lost observation => state.peerTransportLostStream key openIdentity observation

def arrives (state : GatewayState) (openIdentity : OpenIdentity) :
    LateResult → List GatewayAction × GatewayState
  | .routeResolved bindings now => state.routeResolved openIdentity bindings now
  | .routeFailed code message => state.routeFailed openIdentity code message
  | .committed key => state.peerOpenCommitted openIdentity key
  | .commitFailed code observation message =>
      state.peerOpenCommitFailed openIdentity code observation message
  | .answered key answer => state.peerAnswered openIdentity key answer

/-- One event after another. -/
def andThen (first : List GatewayAction × GatewayState)
    (second : GatewayState → List GatewayAction × GatewayState) :
    List GatewayAction × GatewayState :=
  (first.1 ++ (second first.2).1, (second first.2).2)

/-- Two results that differ in frames for peers only. -/
def SameForSdk (first second : List GatewayAction × GatewayState) : Prop :=
  first.2 = second.2 ∧
    first.1.filter GatewayAction.forSdk = second.1.filter GatewayAction.forSdk

/-! ## An attempt whose peer OPEN is starting -/

/-- The answer that ends an attempt, whether its commit is known or not. -/
def settleAttempt (state : GatewayState) (openIdentity : OpenIdentity)
    (key : PeerStreamKey) (bindingId : BindingId) :
    PeerAnswer → List GatewayAction × GatewayState
  | .opened now => state.admitPeerOpened key openIdentity bindingId now
  | .failed code observation message =>
      state.failRemoteAttempt openIdentity (sdkDependencyFailure code message).1
        observation (sdkDependencyFailure code message).2
  | .lost observation =>
      state.failRemoteAttempt openIdentity .unavailable observation
        "PeerTransport was lost during remote OPEN"

theorem peerAnswered_of_matches {pipeId : PipeId}
    (phase : state.matchAttempt openIdentity (some key) =
        some (pipeId, .starting bindingId) ∨
      state.matchAttempt openIdentity (some key) =
        some (pipeId, .awaiting bindingId)) (answer : PeerAnswer) :
    state.peerAnswered openIdentity key answer =
      state.settleAttempt openIdentity key bindingId answer := by
  rcases phase with phase | phase
  all_goals
    cases answer with
    | opened => simp only [peerAnswered, peerOpenedAt, phase, settleAttempt]
    | failed =>
      simp only [peerAnswered, peerOpenFailed, peerEventMatchesAttempt, phase,
        if_true, settleAttempt]
    | lost =>
      simp only [peerAnswered, peerTransportLostStream, peerEventMatchesAttempt,
        phase, if_true, settleAttempt]

section

variable (found : state.remoteOpenAttempts.get openIdentity = some attempt)
include found

theorem matchAttempt_of_starting (phase : attempt.phase = .startingPeer bindingId) :
    state.matchAttempt openIdentity (some key) = some (attempt.pipeId, .starting bindingId) := by
  simp only [matchAttempt, found, Option.map_some, phase]

theorem matchAttempt_awaitPeer :
    (state.awaitPeer openIdentity key bindingId).matchAttempt openIdentity (some key) =
      some (attempt.pipeId, .awaiting bindingId) := by
  simp only [matchAttempt, awaitPeer, Table.get_modify, if_true, found, Option.map_some]

/-- The reservation of a commit goes with its attempt. -/
theorem takeRemoteAttempt_awaitPeer (free : state.activePeerOpens.contains openIdentity = false) :
    ((state.awaitPeer openIdentity key bindingId).takeRemoteAttempt
        openIdentity).1.map RemoteOpenAttempt.pipeId =
      (state.takeRemoteAttempt openIdentity).1.map RemoteOpenAttempt.pipeId ∧
    ((state.awaitPeer openIdentity key bindingId).takeRemoteAttempt openIdentity).2 =
      (state.takeRemoteAttempt openIdentity).2 := by
  simp only [takeRemoteAttempt, awaitPeer, Table.get_modify, if_true, found, Option.map_some,
    Table.remove_insert_self, Table.remove_modify_self, free, Bool.or_false, and_self]

end

/-- What an attempt answers depends on its Pipe and on the state it leaves. -/
theorem settleAttempt_congr {first second : GatewayState}
    (pipes : (first.takeRemoteAttempt openIdentity).1.map RemoteOpenAttempt.pipeId =
      (second.takeRemoteAttempt openIdentity).1.map RemoteOpenAttempt.pipeId)
    (rest : (first.takeRemoteAttempt openIdentity).2 =
      (second.takeRemoteAttempt openIdentity).2) (answer : PeerAnswer) :
    first.settleAttempt openIdentity key bindingId answer =
      second.settleAttempt openIdentity key bindingId answer := by
  rcases one : first.takeRemoteAttempt openIdentity with ⟨taken, left⟩
  rcases two : second.takeRemoteAttempt openIdentity with ⟨other, right⟩
  rw [one, two] at pipes rest
  simp only at pipes rest
  subst rest
  cases taken with
  | none =>
    cases other with
    | none =>
      cases answer <;>
        simp only [settleAttempt, admitPeerOpened, failRemoteAttempt, one, two]
    | some => cases pipes
  | some attempt =>
    cases other with
    | none => cases pipes
    | some attempt' =>
      have same : attempt.pipeId = attempt'.pipeId := Option.some.inj pipes
      cases answer <;>
        simp only [settleAttempt, admitPeerOpened, failRemoteAttempt, one, two, same]

/-- Once its attempt is gone, a commit result changes nothing and reaches no SDK
session. -/
theorem peerOpenCommitted_of_none
    (ended : state.remoteOpenAttempts.get openIdentity = none) (key : PeerStreamKey) :
    (state.peerOpenCommitted openIdentity key).2 = state ∧
      ((state.peerOpenCommitted openIdentity key).1 = [] ∨
        ∃ code message, (state.peerOpenCommitted openIdentity key).1 =
          [.sendPeerFrame (.reset key code message)]) := by
  have unmatched : state.matchAttempt openIdentity (some key) = none := by
    simp only [matchAttempt, ended, Option.map_none]
  simp only [peerOpenCommitted, unmatched]
  split
  · exact ⟨rfl, Or.inl rfl⟩
  · exact ⟨rfl, Or.inr ⟨_, _, rfl⟩⟩

/-- An answer takes the attempt away. -/
theorem get_settleAttempt (found : state.remoteOpenAttempts.get openIdentity = some attempt)
    (answer : PeerAnswer) :
    (state.settleAttempt openIdentity key bindingId
      answer).2.remoteOpenAttempts.get openIdentity = none := by
  have taken : state.takeRemoteAttempt openIdentity =
      (some attempt, { state with
        remoteOpenAttempts := state.remoteOpenAttempts.remove openIdentity
        activePeerOpens := state.activePeerOpens.remove openIdentity }) := by
    simp only [takeRemoteAttempt, found]
  cases answer with
  | opened =>
    simp only [settleAttempt, admitPeerOpened, taken]
    split
    · split <;> exact Table.get_remove_self _ _
    · exact Table.get_remove_self _ _
  | failed | lost =>
    simp only [settleAttempt, failRemoteAttempt, taken]
    exact Table.get_remove_self _ _

/-- The commit result of an attempt whose peer OPEN is starting and the answer of
the peer can be exchanged. -/
theorem sameForSdk_commit (found : state.remoteOpenAttempts.get openIdentity = some attempt)
    (phase : attempt.phase = .startingPeer bindingId) (key : PeerStreamKey)
    (answer : PeerAnswer) :
    SameForSdk
      (andThen (state.peerOpenCommitted openIdentity key)
        (·.peerAnswered openIdentity key answer))
      (andThen (state.peerAnswered openIdentity key answer)
        (·.peerOpenCommitted openIdentity key)) := by
  have starting : state.matchAttempt openIdentity (some key) = _ :=
    matchAttempt_of_starting found phase
  have answered := peerAnswered_of_matches (Or.inl starting) answer
  have gone : (state.settleAttempt openIdentity key bindingId
      answer).2.remoteOpenAttempts.get openIdentity = none :=
    get_settleAttempt found answer
  obtain ⟨unchanged, quiet⟩ := peerOpenCommitted_of_none gone key
  -- a commit result that comes second says nothing to an SDK session
  have silent : (((state.settleAttempt openIdentity key bindingId
      answer).2.peerOpenCommitted openIdentity key).1).filter
        GatewayAction.forSdk = [] := by
    rcases quiet with none | ⟨code, message, reset⟩
    · rw [none]
      rfl
    · rw [reset]
      rfl
  cases active : state.peerIdentityActive openIdentity key with
  | true =>
    simp only [SameForSdk, andThen, peerOpenCommitted, starting, active, if_true,
      answered, List.filter_append]
    refine ⟨unchanged.symm, ?_⟩
    exact (congrArg (_ ++ ·) silent).trans (List.append_nil _) |>.symm
  | false =>
    have free : state.activePeerOpens.contains openIdentity = false := by
      simp only [peerIdentityActive, Bool.or_eq_false_iff] at active
      exact active.2
    have awaiting := peerAnswered_of_matches (Or.inr
      (matchAttempt_awaitPeer found : (state.awaitPeer openIdentity key
        bindingId).matchAttempt openIdentity (some key) = _)) answer
    obtain ⟨pipes, rest⟩ := takeRemoteAttempt_awaitPeer found free
    rw [settleAttempt_congr pipes rest answer] at awaiting
    simp only [SameForSdk, andThen, peerOpenCommitted, starting, active, Bool.false_eq_true,
      if_false, awaiting, answered, List.nil_append, List.filter_append]
    refine ⟨unchanged.symm, ?_⟩
    exact ((congrArg (_ ++ ·) silent).trans (List.append_nil _)).symm

/-! ## An OPEN that has ended -/

/-- Neither an attempt nor a Pipe has the identity. -/
def Ended (state : GatewayState) (openIdentity : OpenIdentity) : Prop :=
  state.remoteOpenAttempts.get openIdentity = none ∧
    ∀ pipeId pipe, state.pipes.get pipeId = some pipe →
      pipe.openIdentity ≠ some openIdentity

/-- Nothing, or the reset of the stream that a result names. -/
def Harmless (result : LateResult) (actions : List GatewayAction) : Prop :=
  actions = [] ∨ ∃ key code message, result.key? = some key ∧
    actions = [.sendPeerFrame (.reset key code message)]

theorem Ended.peerAnswered (ended : state.Ended openIdentity) (key : PeerStreamKey)
    (answer : PeerAnswer) :
    (state.peerAnswered openIdentity key answer).2 = state ∧
      Harmless (.answered key answer) (state.peerAnswered openIdentity key answer).1 := by
  have unmatched : state.matchAttempt openIdentity (some key) = none := by
    simp only [matchAttempt, ended.1, Option.map_none]
  cases answer with
  | opened =>
    simp only [GatewayState.peerAnswered, peerOpenedAt, unmatched]
    split
    · exact ⟨rfl, Or.inl rfl⟩
    · exact ⟨rfl, Or.inr ⟨_, _, _, rfl, rfl⟩⟩
  | failed =>
    simp only [GatewayState.peerAnswered, peerOpenFailed, peerEventMatchesAttempt,
      unmatched, Bool.false_eq_true, if_false]
    exact ⟨trivial, Or.inl rfl⟩
  | lost =>
    simp only [GatewayState.peerAnswered, peerTransportLostStream,
      peerEventMatchesAttempt, unmatched, Bool.false_eq_true, if_false]
    cases indexed : state.peerPipes.get key with
    | none => exact ⟨rfl, Or.inl rfl⟩
    | some pipeId =>
      have other : ((state.pipes.get pipeId).any fun pipe =>
          pipe.openIdentity = some openIdentity) = false := by
        cases stored : state.pipes.get pipeId with
        | none => rfl
        | some pipe => simpa using ended.2 pipeId pipe stored
      simp only [other, Bool.false_eq_true, if_false]
      exact ⟨trivial, Or.inl rfl⟩

/-- What arrives for an OPEN that has ended changes nothing. -/
theorem Ended.arrives (ended : state.Ended openIdentity) (result : LateResult) :
    (state.arrives openIdentity result).2 = state ∧
      Harmless result (state.arrives openIdentity result).1 := by
  have unmatched : state.matchAttempt openIdentity none = none := by
    simp only [matchAttempt, ended.1, Option.map_none]
  cases result with
  | routeResolved =>
    simp only [GatewayState.arrives, routeResolved, ended.1]
    exact ⟨trivial, Or.inl rfl⟩
  | routeFailed =>
    simp only [GatewayState.arrives, routeFailed, unmatched]
    exact ⟨trivial, Or.inl rfl⟩
  | committed key =>
    obtain ⟨unchanged, quiet⟩ := peerOpenCommitted_of_none ended.1 key
    refine ⟨unchanged, quiet.imp_right ?_⟩
    rintro ⟨code, message, reset⟩
    exact ⟨key, code, message, rfl, reset⟩
  | commitFailed =>
    simp only [GatewayState.arrives, peerOpenCommitFailed, unmatched]
    exact ⟨trivial, Or.inl rfl⟩
  | answered key answer => exact ended.peerAnswered key answer

/-- The results of a list, each with its actions, and the state they lead to. -/
def arriveAll (openIdentity : OpenIdentity) :
    List LateResult → GatewayState →
      List (LateResult × List GatewayAction) × GatewayState
  | [], state => ([], state)
  | result :: results, state =>
      let (actions, state) := state.arrives openIdentity result
      let (rest, state) := arriveAll openIdentity results state
      ((result, actions) :: rest, state)

theorem Ended.arriveAll (ended : state.Ended openIdentity) (results : List LateResult) :
    (GatewayState.arriveAll openIdentity results state).2 = state ∧
      ∀ entry ∈ (GatewayState.arriveAll openIdentity results state).1,
        Harmless entry.1 entry.2 := by
  induction results with
  | nil => exact ⟨rfl, by simp [GatewayState.arriveAll]⟩
  | cons result results ih =>
    obtain ⟨unchanged, quiet⟩ := ended.arrives result
    simp only [GatewayState.arriveAll, unchanged]
    refine ⟨ih.1, ?_⟩
    intro entry member
    rcases List.mem_cons.mp member with rfl | later
    · exact quiet
    · exact ih.2 entry later

/-- In every state: the commit result of an attempt whose peer OPEN is starting and
the answer of the peer on that stream lead, in either order, to the same state and to
the same frames for SDK sessions; and whatever arrives for an identity without an
attempt and without a Pipe leaves the state as it is and sends at most one RESET, on
the stream it names. -/
theorem remote_open_settles (state : GatewayState) (openIdentity : OpenIdentity) :
    (∀ attempt bindingId,
      state.remoteOpenAttempts.get openIdentity = some attempt →
      attempt.phase = .startingPeer bindingId →
      ∀ key answer, SameForSdk
        (andThen (state.peerOpenCommitted openIdentity key)
          (·.peerAnswered openIdentity key answer))
        (andThen (state.peerAnswered openIdentity key answer)
          (·.peerOpenCommitted openIdentity key))) ∧
    (state.Ended openIdentity → ∀ results,
      (arriveAll openIdentity results state).2 = state ∧
        ∀ entry ∈ (arriveAll openIdentity results state).1,
          Harmless entry.1 entry.2) :=
  ⟨fun _ _ found phase => sameForSdk_commit found phase,
    fun ended => ended.arriveAll⟩

open World.Scenario in
/-- An OPEN of the dialer is starting, and one of a peer's session has ended. -/
theorem dialer_open_settles :
    let identity : OpenIdentity := ⟨⟨1⟩, dialer, 1⟩
    let state := ((after publishing).state.startAttempt identity destination).startPeer
      identity ⟨3⟩
    SameForSdk
        (andThen (state.peerOpenCommitted identity key)
          (·.peerAnswered identity key (.opened 0)))
        (andThen (state.peerAnswered identity key (.opened 0))
          (·.peerOpenCommitted identity key)) ∧
      (arriveAll foreignIdentity [.committed key, .answered key (.opened 0)] state).2 =
        state := by
  intro identity state
  have idle : ∀ pipeId, state.pipes.get pipeId = none := Table.isEmpty_iff.mp (by decide)
  refine ⟨(remote_open_settles _ _).1 _ _ rfl rfl key _,
    ((remote_open_settles _ _).2 ⟨rfl, fun _ _ stored => ?_⟩ _).1⟩
  rw [idle] at stored
  cases stored

end GatewayState

end RelayGate.Gateway
