import RelayGate.Gateway.Executor
import RelayGate.Gateway.Publicity

/-!
# The end of a session

The removal of a session ends its bindings, its attempts and the Pipes at one of whose
ends it is.  Whatever else the tables hold stays as it is.
-/

namespace RelayGate.Gateway

open Library

namespace GatewayState

theorem get_removePipes (answer : GatewayState → PipeId → PipeEntry → List GatewayAction)
    (pipeIds : List PipeId) (state : GatewayState) :
    (removePipes answer pipeIds state).2.remoteOpenAttempts = state.remoteOpenAttempts ∧
      ∀ pipeId, (removePipes answer pipeIds state).2.pipes.get pipeId =
        if pipeId ∈ pipeIds then none else state.pipes.get pipeId := by
  induction pipeIds generalizing state with
  | nil => exact ⟨rfl, fun _ => rfl⟩
  | cons first pipeIds ih =>
    have removed : ∀ pipeId, (state.removePipe first).2.pipes.get pipeId =
        if pipeId = first then none else state.pipes.get pipeId := by
      cases stored : state.pipes.get first with
      | none => grind [removePipe_of_none]
      | some =>
        rw [removePipe_of_some stored]
        exact Table.get_remove _ _
    rw [removePipes_cons_snd, (ih _).1, remoteOpenAttempts_removePipe]
    grind

theorem get_abandonAttempts (openIdentities : List OpenIdentity) (state : GatewayState) :
    (abandonAttempts openIdentities state).2.pipes = state.pipes ∧
      ∀ openIdentity,
        (abandonAttempts openIdentities state).2.remoteOpenAttempts.get openIdentity =
          if openIdentity ∈ openIdentities then none
          else state.remoteOpenAttempts.get openIdentity := by
  induction openIdentities generalizing state with
  | nil => exact ⟨rfl, fun _ => rfl⟩
  | cons first openIdentities ih =>
    have same : (state.takeRemoteAttempt first).2.pipes = state.pipes := by
      unfold takeRemoteAttempt
      split <;> rfl
    have taken := state.get_remoteOpenAttempts_takeRemoteAttempt first
    rw [abandonAttempts_cons_snd, (ih _).1]
    grind

/-- A session ends with its bindings, attempts and Pipes, and nothing else does. -/
structure SessionEnded (sessionId : SessionId) (state target : GatewayState) : Prop where
  sessions : target.sessions = state.sessions.remove sessionId
  bindings : ∀ bindingId, target.registry.byId.get bindingId =
    (state.registry.byId.get bindingId).filter (·.sessionId ≠ sessionId)
  attempts : ∀ openIdentity, target.remoteOpenAttempts.get openIdentity =
    (state.remoteOpenAttempts.get openIdentity).filter
      (¬ ·.pipeId.originSessionId = sessionId)
  pipes : ∀ pipeId, target.pipes.get pipeId = (state.pipes.get pipeId).filter fun pipe =>
    ¬ (pipe.dialer = .sdk sessionId ∨ pipe.acceptor = .sdk sessionId)

end GatewayState

open GatewayState in
/-- In every state of every run, the removal of a session ends what is its own and
nothing else. -/
theorem session_ends_alone {limits : GatewayLimits} {gatewayId : Option GatewayId}
    {start : Instant} {past : List (World × Event)} {world : World}
    (run : History World.AnyStep (World.initial limits gatewayId start) past world)
    {sessionId : SessionId} {session : SessionEntry}
    (found : world.state.sessions.get sessionId = some session) :
    SessionEnded sessionId world.state (world.state.removeSession sessionId).2 := by
  have filed := (World.publicity_of_history run).1.filed
  refine ⟨(removeSession_of_some found).1, ?_, ?_, ?_⟩
  all_goals
    intro key
    simp only [removeSession, Table.contains, found]
  · refine Eq.trans ?_ (filed.get_byId_removeSession sessionId key)
    exact congrArg (·.byId.get key) ((shrunk_abandonAttempts _ _).2.1.trans
      (shrunk_removePipes _ _ _).1).registry
  · refine Eq.trans (congrArg (·.get key) (get_removePipes _ _ _).1) ?_
    refine ((get_abandonAttempts _ _).2 key).trans ?_
    exact world.state.remoteOpenAttempts.get_unless_listed
      (·.pipeId.originSessionId = sessionId) key
  · refine ((get_removePipes _ _ _).2 key).trans ?_
    unfold pipesWhere
    rw [(get_abandonAttempts _ _).1]
    exact world.state.pipes.get_unless_listed
      (fun pipe => pipe.dialer = .sdk sessionId ∨ pipe.acceptor = .sdk sessionId) key

namespace Departure

open World.Scenario

/-- A destination that no session serves. -/
def elsewhere : Destination :=
  ⟨⟨[97], validateNamespace_a⟩, ⟨[97], validateDestinationName_a⟩⟩

/-- A session asks for an operation, which is authorized. -/
def asks (sessionId : SessionId) (operation : ControlOperation)
    (verified : VerifiedAuthorization) : List Event :=
  [.prepare sessionId operation 0, .commit sessionId operation verified bindingDraws 0]

/-- Both sessions publish, the dialer opens a Pipe to the listener, and each of them
dials a destination that another Gateway may serve. -/
def busy : List Event :=
  publishing ++ asks dialer publishOperation ⟨destination, .publish, 10⟩ ++
    asks dialer dialOperation ⟨destination, .dial, 10⟩ ++
    asks dialer (.dial 2 elsewhere) ⟨elsewhere, .dial, 10⟩ ++
    asks listener (.dial 1 elsewhere) ⟨elsewhere, .dial, 10⟩

theorem history_busy : History World.AnyStep (World.initial limits (some ⟨1⟩) 0)
    (trail World.apply (World.initial limits (some ⟨1⟩) 0) busy) (after busy) :=
  History.of_allowed busy ⟨trivial, trivial, trivial, trivial, trivial, trivial, trivial,
    trivial, trivial, trivial, trivial, trivial, trivial⟩

end Departure

open World.Scenario Departure in
/-- The listener leaves with its binding, its attempt and the Pipe; the dialer keeps its
own. -/
theorem listener_ends_alone :
    let state := (after busy).state
    let target := (state.removeSession listener).2
    GatewayState.SessionEnded listener state target ∧
      (state.registry.byId.len, state.pipes.len, state.remoteOpenAttempts.len) = (2, 1, 2) ∧
      (target.registry.byId.len, target.pipes.len, target.remoteOpenAttempts.len) =
        (1, 0, 1) :=
  ⟨session_ends_alone history_busy rfl, by decide, by decide⟩

end RelayGate.Gateway
