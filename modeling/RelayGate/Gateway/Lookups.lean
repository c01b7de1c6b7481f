import RelayGate.Gateway.Actions
import RelayGate.Gateway.Bindings

/-!
# The tables after an edit

What the lookups of the state core give after a Pipe, an attempt, a binding or a
session has been taken out or put in.
-/

namespace RelayGate.Gateway

open Library

variable {registry : LocalRegistry}

namespace GatewayState

variable (state : GatewayState)

theorem get_pipes_removePipe (pipeId other : PipeId) :
    (state.removePipe pipeId).2.pipes.get other =
      if other = pipeId then none else state.pipes.get other := by
  cases stored : state.pipes.get pipeId with
  | none =>
    rw [removePipe_of_none stored]
    split
    · rename_i same
      rw [same, stored]
    · rfl
  | some =>
    rw [removePipe_of_some stored]
    exact Table.get_remove _ _ _

variable (pipeId : PipeId) (pipe : PipeEntry)

@[simp]
theorem pipes_insertOffer :
    (state.insertOffer pipeId pipe).pipes = state.pipes.insert pipeId pipe := by
  simp [insertOffer]

@[simp]
theorem pipes_insertOpen :
    (state.insertOpen pipeId pipe).pipes = state.pipes.insert pipeId pipe := by
  simp [insertOpen]

@[simp]
theorem sessions_insertOffer : (state.insertOffer pipeId pipe).sessions = state.sessions := by
  simp [insertOffer]

@[simp]
theorem sessions_insertOpen : (state.insertOpen pipeId pipe).sessions = state.sessions := by
  simp [insertOpen]

@[simp]
theorem pipes_takeRemoteAttempt (openIdentity : OpenIdentity) :
    (state.takeRemoteAttempt openIdentity).2.pipes = state.pipes := by
  unfold takeRemoteAttempt
  split <;> rfl

variable (state : GatewayState)

@[simp]
theorem sessions_removePipe (pipeId : PipeId) :
    (state.removePipe pipeId).2.sessions = state.sessions :=
  (state.keeps_removePipe pipeId).sessions

@[simp]
theorem sessions_takeRemoteAttempt (openIdentity : OpenIdentity) :
    (state.takeRemoteAttempt openIdentity).2.sessions = state.sessions :=
  (state.keeps_takeRemoteAttempt openIdentity).sessions

theorem remoteOpenAttempts_removePipe (pipeId : PipeId) :
    (state.removePipe pipeId).2.remoteOpenAttempts = state.remoteOpenAttempts := by
  unfold removePipe
  split <;> rfl

theorem get_remoteOpenAttempts_takeRemoteAttempt (openIdentity other : OpenIdentity) :
    (state.takeRemoteAttempt openIdentity).2.remoteOpenAttempts.get other =
      if other = openIdentity then none
      else state.remoteOpenAttempts.get other := by
  unfold takeRemoteAttempt
  split
  · rename_i absent
    split
    · rename_i same
      rw [same, absent]
    · rfl
  · exact Table.get_remove _ _ _

theorem takeRemoteAttempt_eq {state : GatewayState} {openIdentity : OpenIdentity}
    {attempt : RemoteOpenAttempt}
    (attempted : state.remoteOpenAttempts.get openIdentity = some attempt) :
    state.takeRemoteAttempt openIdentity =
      (some attempt, (state.takeRemoteAttempt openIdentity).2) := by
  simp only [takeRemoteAttempt, attempted]

/-- A peer RESET does nothing or removes the Pipe that is indexed for its stream. -/
theorem peerReset_cases (key : PeerStreamKey) (code : ErrorCode) (message : String) :
    state.peerReset key code message = ([], state) ∨
      ∃ pipeId pipe, state.peerPipes.get key = some pipeId ∧
        state.pipes.get pipeId = some pipe ∧
        (state.peerReset key code message).2 = (state.removePipe pipeId).2 := by
  unfold peerReset fromPeer
  cases indexed : state.peerPipes.get key with
  | none => exact Or.inl rfl
  | some pipeId =>
    cases stored : state.pipes.get pipeId with
    | none => exact Or.inl (by simp [removePipe_of_none, relayReset, stored])
    | some pipe =>
      simp only [relayReset, protocolReset, stored, removePipe_of_some stored]
      split
      · exact Or.inr ⟨pipeId, pipe, rfl, stored, by rw [removePipe_of_some stored]⟩
      · split
        · exact Or.inl rfl
        · refine Or.inr ⟨pipeId, pipe, rfl, stored, ?_⟩
          rw [removePipe_of_some stored]
          split <;> rfl

end GatewayState

/-! ## The bindings -/

theorem GatewayState.removeOwned_eq_some {rest : LocalRegistry}
    {sessionId : SessionId} {bindingId : BindingId} {binding : Binding}
    (removed : registry.removeOwned sessionId bindingId = (some binding, rest)) :
    registry.byId.get bindingId = some binding ∧ binding.sessionId = sessionId := by
  unfold LocalRegistry.removeOwned LocalRegistry.remove at removed
  cases found : registry.byId.get bindingId with
  | none =>
    rw [found] at removed
    cases removed
  | some =>
    rw [found] at removed
    dsimp only at removed
    split at removed
    · cases removed
    · rename_i owner
      cases removed
      exact ⟨rfl, not_not.mp owner⟩

theorem LocalRegistry.get_byId_foldl_removeNext_eq (bindingIds : List BindingId)
    (progress : List Binding × LocalRegistry) (other : BindingId) :
    (bindingIds.foldl removeNext progress).2.byId.get other =
      if other ∈ bindingIds then none else progress.2.byId.get other := by
  induction bindingIds generalizing progress with
  | nil => rfl
  | cons bindingId bindingIds ih =>
    rw [List.foldl_cons, ih, removeNext_snd, get_byId_remove]
    by_cases later : other ∈ bindingIds
    · simp [later]
    · by_cases here : other = bindingId <;> simp [later, here]

theorem LocalRegistry.Filed.get_byId_removeSession
    (filed : registry.Filed) (sessionId : SessionId) (bindingId : BindingId) :
    (registry.removeSession sessionId).2.byId.get bindingId =
      (registry.byId.get bindingId).filter fun binding => binding.sessionId ≠ sessionId := by
  unfold LocalRegistry.removeSession
  rw [get_byId_foldl_removeNext_eq]
  have listed : bindingId ∈ registry.sessionBindingIds sessionId ↔
      ∃ binding, registry.byId.get bindingId = some binding ∧ binding.sessionId = sessionId :=
    mem_sessionBindingIds.trans (filed.listed sessionId bindingId)
  cases stored : registry.byId.get bindingId with
  | none =>
    rw [stored] at listed
    simp
  | some binding =>
    rw [stored] at listed
    by_cases owner : binding.sessionId = sessionId
    · rw [if_pos (listed.mpr ⟨binding, rfl, owner⟩)]
      simp [Option.filter, owner]
    · have unlisted : bindingId ∉ registry.sessionBindingIds sessionId := by
        intro member
        obtain ⟨other, same, owns⟩ := listed.mp member
        cases same
        exact owner owns
      rw [if_neg unlisted]
      simp [Option.filter, owner]

/-! ## The removal of a session that is here -/

/-- The state between the removal of the session entry and the cleanup. -/
def GatewayState.withoutSession (state : GatewayState) (sessionId : SessionId) :
    GatewayState :=
  { state with
    sessions := state.sessions.remove sessionId
    registry := (state.registry.removeSession sessionId).2 }

end RelayGate.Gateway
