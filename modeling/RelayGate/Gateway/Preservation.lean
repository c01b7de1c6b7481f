import RelayGate.Gateway.Edits

/-!
# Transitions that keep the accounts

`Keeps` collects what the transitions that admit nothing new have in common:
they keep the accounts for whatever sessions are present, take no new Pipe
identity into use and leave the sessions alone.  Every relay, answer,
cancellation and peer event is of this kind.
-/

namespace RelayGate.Gateway

open Library Table

/-- The target is accounted, uses no new identity and has the same sessions. -/
structure Keeps (state target : GatewayState) : Prop where
  accounted : ∀ present, Accounted present state → Accounted present target
  inUse : ∀ pipeId, target.InUse pipeId → state.InUse pipeId
  sessions : target.sessions = state.sessions

namespace Keeps

variable {state middle target : GatewayState}

theorem refl (state : GatewayState) : Keeps state state :=
  ⟨fun _ => id, fun _ => id, rfl⟩

theorem trans (first : Keeps state middle) (second : Keeps middle target) : Keeps state target :=
  ⟨fun present accounted =>
      second.accounted present (first.accounted present accounted),
    fun pipeId used => first.inUse pipeId (second.inUse pipeId used),
    second.sessions.trans first.sessions⟩

end Keeps

namespace GatewayState

variable {pipeId other : PipeId} {present : SessionId → Prop}
  {openIdentity : OpenIdentity} {attempt : RemoteOpenAttempt} {key : PeerStreamKey}
  {binding : Binding} {bindingId : BindingId} {state target : GatewayState}
  {pipe : PipeEntry}

/-! ## Identities in use -/

/-- Tables whose entries come from the old ones use no new identity. -/
theorem inUse_of_subset
    (pipes : ∀ pipeId pipe, target.pipes.get pipeId = some pipe →
      ∃ old, state.pipes.get pipeId = some old)
    (attempts : ∀ openIdentity attempt,
      target.remoteOpenAttempts.get openIdentity = some attempt →
      ∃ old, state.remoteOpenAttempts.get openIdentity = some old ∧
        old.pipeId = attempt.pipeId) (used : target.InUse pipeId) : state.InUse pipeId := by
  rcases used with ⟨pipe, stored⟩ | ⟨openIdentity, attempt, attempted, named⟩
  · exact Or.inl (pipes _ _ stored)
  · obtain ⟨old, oldAttempted, same⟩ := attempts _ _ attempted
    exact Or.inr ⟨openIdentity, old, oldAttempted, same.trans named⟩

theorem not_inUse_takeRemoteAttempt (accounted : Accounted present state)
    (attempted : state.remoteOpenAttempts.get openIdentity = some attempt) :
    ¬ (state.takeRemoteAttempt openIdentity).2.InUse attempt.pipeId := by
  obtain ⟨named, own, -, absent⟩ := accounted.attempts _ _ attempted
  simp only [takeRemoteAttempt, attempted]
  rintro (⟨pipe, stored⟩ | ⟨other, found, remaining, same⟩)
  · change state.pipes.get attempt.pipeId = some pipe at stored
    rw [absent] at stored
    exact absurd stored.symm (Option.some_ne_none _)
  · obtain ⟨different, old⟩ := get_remove_eq_some_iff.mp remaining
    obtain ⟨otherNamed, otherOwn, -, -⟩ := accounted.attempts _ _ old
    apply different
    have samePipe : other.pipeId = openIdentity.pipeId := by
      rw [← otherNamed, same, named]
    have sameGateway : other.entryGateway = openIdentity.entryGateway :=
      Option.some.inj (otherOwn.symm.trans own)
    obtain ⟨sameSession, sameConnection⟩ := PipeId.mk.inj samePipe
    cases other
    cases openIdentity
    simp_all

/-! ## Edits -/

theorem keeps_removePipe (state : GatewayState) (pipeId : PipeId) :
    Keeps state (state.removePipe pipeId).2 := by
  cases stored : state.pipes.get pipeId with
  | none =>
    rw [removePipe_of_none stored]
    exact Keeps.refl state
  | some =>
    refine ⟨fun present accounted => accounted.removePipe pipeId, ?_, ?_⟩
    · intro other
      rw [removePipe_of_some stored]
      apply inUse_of_subset
      · intro identity found remaining
        exact ⟨found, (get_remove_eq_some_iff.mp remaining).2⟩
      · intro openIdentity attempt attempted
        exact ⟨attempt, attempted, rfl⟩
    · rw [removePipe_of_some stored]
      rfl

theorem keeps_promoteOffer (state : GatewayState) (pipeId : PipeId) :
    Keeps state (state.promoteOffer pipeId).2 := by
  cases stored : state.pipes.get pipeId with
  | none => simpa only [promoteOffer, stored] using Keeps.refl state
  | some pipe =>
    by_cases phase : pipe.phase = .offered
    · refine ⟨fun present accounted => accounted.promoteOffer pipeId, ?_, ?_⟩
      · intro other
        rw [promoteOffer_of_offered stored phase]
        apply inUse_of_subset
        · intro identity found remaining
          rcases get_insert_eq_some_iff.mp remaining with
            ⟨rfl, -⟩ | ⟨-, old⟩
          · exact ⟨pipe, stored⟩
          · exact ⟨found, old⟩
        · intro openIdentity attempt attempted
          exact ⟨attempt, attempted, rfl⟩
      · rw [promoteOffer_of_offered stored phase]
    · simpa only [promoteOffer, stored, ne_eq, phase, not_false_eq_true,
        if_true] using Keeps.refl state

theorem keeps_finished (stored : state.pipes.get pipeId = some pipe) (sender : PipeEndpoint) :
    Keeps state
      { state with
        pipes := state.pipes.insert pipeId (finishDirection pipe sender).1 } := by
  refine ⟨fun present accounted => accounted.finished stored sender, ?_, rfl⟩
  intro other
  apply inUse_of_subset
  · intro identity found remaining
    rcases get_insert_eq_some_iff.mp remaining with ⟨rfl, -⟩ | ⟨-, old⟩
    · exact ⟨pipe, stored⟩
    · exact ⟨found, old⟩
  · intro openIdentity attempt attempted
    exact ⟨attempt, attempted, rfl⟩

theorem keeps_takeRemoteAttempt (state : GatewayState) (openIdentity : OpenIdentity) :
    Keeps state (state.takeRemoteAttempt openIdentity).2 := by
  refine ⟨fun present accounted => accounted.takeRemoteAttempt openIdentity, ?_, ?_⟩
  · intro pipeId
    unfold takeRemoteAttempt
    cases attempted : state.remoteOpenAttempts.get openIdentity with
    | none => exact id
    | some =>
      apply inUse_of_subset
      · intro identity found stored
        exact ⟨found, stored⟩
      · intro other found remaining
        exact ⟨found, (get_remove_eq_some_iff.mp remaining).2, rfl⟩
  · unfold takeRemoteAttempt
    split <;> rfl

theorem inUse_of_modify (used : target.InUse pipeId) (openIdentity : OpenIdentity)
    (update : RemoteOpenAttempt → RemoteOpenAttempt) (pipes : target.pipes = state.pipes)
    (attempts : target.remoteOpenAttempts = state.remoteOpenAttempts.modify openIdentity update)
    (named : ∀ attempt, (update attempt).pipeId = attempt.pipeId) : state.InUse pipeId := by
  refine inUse_of_subset ?_ ?_ used
  · intro identity found stored
    exact ⟨found, pipes ▸ stored⟩
  · intro other found attempted
    rw [attempts, get_modify] at attempted
    by_cases same : other = openIdentity
    · subst same
      rw [if_pos rfl, Option.map_eq_some_iff] at attempted
      obtain ⟨old, oldAttempted, rfl⟩ := attempted
      exact ⟨old, oldAttempted, (named old).symm⟩
    · rw [if_neg same] at attempted
      exact ⟨found, attempted, rfl⟩

theorem keeps_startPeer (attempted : state.remoteOpenAttempts.get openIdentity = some attempt)
    (resolving : attempt.phase = .resolving) (bindingId : BindingId) :
    Keeps state (state.startPeer openIdentity bindingId) := by
  refine ⟨fun present accounted =>
    accounted.startPeer attempted resolving bindingId, ?_, rfl⟩
  intro pipeId used
  exact inUse_of_modify used openIdentity
    (fun attempt => { attempt with phase := .startingPeer bindingId })
    rfl rfl fun _ => rfl

theorem keeps_awaitPeer (attempted : state.remoteOpenAttempts.get openIdentity = some attempt)
    (inactive : state.peerIdentityActive openIdentity key = false) (bindingId : BindingId) :
    Keeps state (state.awaitPeer openIdentity key bindingId) := by
  refine ⟨fun present accounted =>
    accounted.awaitPeer attempted inactive bindingId, ?_, rfl⟩
  intro pipeId used
  exact inUse_of_modify used openIdentity
    (fun attempt => { attempt with phase := .awaitingPeer key bindingId })
    rfl rfl fun _ => rfl

/-! ## Relaying -/

section

variable (state : GatewayState) (sender : PipeEndpoint) (pipeId : PipeId)

theorem keeps_protocolReset (message : String) :
    Keeps state (state.protocolReset pipeId message).2 := by
  have removed := state.keeps_removePipe pipeId
  unfold protocolReset
  split <;> rename_i outcome <;> rw [outcome] at removed <;> exact removed

theorem keeps_relayData (payload : List UInt8) :
    Keeps state (state.relayData sender pipeId payload).2 := by
  unfold relayData
  split
  · exact Keeps.refl state
  · split
    · exact Keeps.refl state
    · split
      · exact state.keeps_protocolReset pipeId _
      · exact Keeps.refl state

theorem keeps_relayFin : Keeps state (state.relayFin sender pipeId).2 := by
  unfold relayFin
  split
  · exact Keeps.refl state
  · rename_i pipe stored
    split
    · exact Keeps.refl state
    · split
      · exact state.keeps_protocolReset pipeId _
      · split
        · exact Keeps.refl state
        · have finished := keeps_finished stored sender
          dsimp only
          split
          · exact finished.trans (keeps_removePipe _ pipeId)
          · exact finished

theorem keeps_relayClose : Keeps state (state.relayClose sender pipeId).2 := by
  unfold relayClose
  split
  · exact Keeps.refl state
  · split
    · exact Keeps.refl state
    · split
      · exact state.keeps_protocolReset pipeId _
      · exact state.keeps_removePipe pipeId

theorem keeps_relayReset (code : ErrorCode) (message : String) :
    Keeps state (state.relayReset sender pipeId code message).2 := by
  unfold relayReset
  split
  · exact Keeps.refl state
  · split
    · exact Keeps.refl state
    · split
      · exact state.keeps_protocolReset pipeId _
      · exact state.keeps_removePipe pipeId

end

theorem keeps_fromSdk {relay : PipeEndpoint → List GatewayAction × GatewayState}
    (kept : ∀ sender, Keeps state (relay sender).2) (sender : SessionId)
    (pipeId : PipeId) (frameName : String) :
    Keeps state (state.fromSdk sender pipeId frameName relay).2 := by
  unfold fromSdk
  split
  · exact Keeps.refl state
  · exact kept _

theorem keeps_fromPeer {relay : PipeId → List GatewayAction × GatewayState}
    (kept : ∀ pipeId, Keeps state (relay pipeId).2) (key : PeerStreamKey) :
    Keeps state (state.fromPeer key relay).2 := by
  unfold fromPeer
  split
  · exact Keeps.refl state
  · exact kept _

section

variable (state : GatewayState)

theorem keeps_peerReset (key : PeerStreamKey) (code : ErrorCode) (message : String) :
    Keeps state (state.peerReset key code message).2 := by
  apply keeps_fromPeer
  intro pipeId
  split
  · have removed := state.keeps_removePipe pipeId
    split <;> rename_i outcome <;> rw [outcome] at removed <;> exact removed
  · exact state.keeps_relayReset (.peer key) pipeId code message

/-! ## Offers and cancellations -/

variable (acceptor dialer : SessionId) (pipeId : PipeId)

theorem keeps_offerAccepted : Keeps state (state.offerAccepted acceptor pipeId).2 := by
  have removed := state.keeps_removePipe pipeId
  have promoted := state.keeps_promoteOffer pipeId
  unfold offerAccepted
  split
  · exact Keeps.refl state
  · split
    · exact Keeps.refl state
    · split
      · exact state.keeps_protocolReset pipeId _
      · split
        · split <;> rename_i outcome <;> rw [outcome] at removed <;>
            exact removed
        · split <;> rename_i outcome <;> rw [outcome] at promoted <;>
            exact promoted

theorem keeps_offerRejected (code : ErrorCode) (message : String) :
    Keeps state (state.offerRejected acceptor pipeId code message).2 := by
  have removed := state.keeps_removePipe pipeId
  unfold offerRejected
  split
  · exact Keeps.refl state
  · split
    · exact Keeps.refl state
    · split
      · exact state.keeps_protocolReset pipeId _
      · split <;> rename_i outcome <;> rw [outcome] at removed <;>
          exact removed

theorem keeps_offerDeliveryRejected :
    Keeps state (state.offerDeliveryRejected acceptor pipeId).2 := by
  have removed := state.keeps_removePipe pipeId
  unfold offerDeliveryRejected
  split
  · split <;> rename_i outcome <;> rw [outcome] at removed <;> exact removed
  · exact Keeps.refl state

theorem keeps_cancelRemoteAttempt : Keeps state (state.cancelRemoteAttempt dialer pipeId).2 := by
  unfold cancelRemoteAttempt
  split
  · exact Keeps.refl state
  · rename_i gatewayId _
    split
    · exact Keeps.refl state
    · have taken := state.keeps_takeRemoteAttempt
        ⟨gatewayId, dialer, pipeId.connectionId⟩
      dsimp only
      split
      · rename_i outcome
        rw [outcome] at taken
        exact taken
      · rename_i outcome
        rw [outcome] at taken
        split <;> exact taken

theorem keeps_cancel : Keeps state (state.cancel dialer pipeId).2 := by
  have removed := state.keeps_removePipe pipeId
  unfold cancel
  split
  · exact state.keeps_cancelRemoteAttempt dialer pipeId
  · split
    · exact Keeps.refl state
    · split <;> rename_i outcome <;> rw [outcome] at removed <;> exact removed

end

theorem keeps_removePipes (answer : GatewayState → PipeId → PipeEntry → List GatewayAction)
    (pipeIds : List PipeId) (state : GatewayState) :
    Keeps state (removePipes answer pipeIds state).2 := by
  induction pipeIds generalizing state with
  | nil => exact Keeps.refl state
  | cons pipeId pipeIds ih =>
    have removed := state.keeps_removePipe pipeId
    unfold removePipes
    split <;> rename_i outcome <;> rw [outcome] at removed <;>
      exact removed.trans (ih _)

theorem keeps_removeOwned (state : GatewayState) (sessionId : SessionId) (bindingId : BindingId) :
    Keeps state
      { state with
        registry := (state.registry.removeOwned sessionId bindingId).2 } :=
  ⟨fun _ accounted =>
      accounted.setRegistry (accounted.owners.removeOwned sessionId bindingId),
    fun _ => id, rfl⟩

/-! ## Local offers -/

theorem sessions_offerLocalAt (state : GatewayState) (pipeId : PipeId)
    (binding : Binding) (now : Instant) :
    (state.offerLocalAt pipeId binding now).2.sessions = state.sessions := by
  unfold offerLocalAt
  dsimp only
  split
  · simp [insertOffer]
  · rfl

theorem inUse_insertOffer (used : (state.insertOffer pipeId pipe).InUse other) :
    other = pipeId ∨ state.InUse other := by
  rcases used with ⟨found, stored⟩ | ⟨openIdentity, attempt, attempted, named⟩
  · simp only [insertOffer, pipes_indexPeerPipe] at stored
    rcases get_insert_eq_some_iff.mp stored with ⟨same, -⟩ | ⟨-, old⟩
    · exact Or.inl same
    · exact Or.inr (Or.inl ⟨found, old⟩)
  · simp only [insertOffer, remoteOpenAttempts_indexPeerPipe] at attempted
    exact Or.inr (Or.inr ⟨openIdentity, attempt, attempted, named⟩)

theorem inUse_offerLocalAt {now : Instant}
    (used : (state.offerLocalAt pipeId binding now).2.InUse other) :
    other = pipeId ∨ state.InUse other := by
  unfold offerLocalAt at used
  dsimp only at used
  split at used
  · exact inUse_insertOffer used
  · exact Or.inr used

theorem accounted_offerLocalAt (accounted : Accounted present state)
    (unused : ¬ state.InUse pipeId) (dialer : present pipeId.originSessionId)
    (acceptor : present binding.sessionId) (now : Instant) :
    Accounted present (state.offerLocalAt pipeId binding now).2 := by
  unfold offerLocalAt
  dsimp only
  split
  · refine accounted.insertOffer ⟨⟨rfl, ?_, Or.inl rfl⟩, unused, ?_, ?_⟩ rfl
    · intro openIdentity identified
      exact absurd identified.symm (Option.some_ne_none _)
    · intro key keyed
      exact absurd keyed.symm (Option.some_ne_none _)
    · rintro sessionId (same | same)
      · exact PipeEndpoint.sdk.inj same ▸ dialer
      · exact PipeEndpoint.sdk.inj same ▸ acceptor
  · exact accounted.setRegistry (accounted.owners.removeOwned _ _)

/-! ## Routes -/

theorem keeps_failRemoteAttempt (state : GatewayState)
    (openIdentity : OpenIdentity) (code : ErrorCode)
    (observation : PeerObservation) (message : String) :
    Keeps state (state.failRemoteAttempt openIdentity code observation message).2 := by
  have taken := state.keeps_takeRemoteAttempt openIdentity
  unfold failRemoteAttempt
  split <;> rename_i outcome <;> rw [outcome] at taken <;> exact taken

theorem keeps_offerTaken (attempted : state.remoteOpenAttempts.get openIdentity = some attempt)
    {sessionId : SessionId} {destination : Destination}
    (found : (state.takeRemoteAttempt openIdentity).2.registry.exact sessionId
      bindingId destination = some binding) (now : Instant) :
    Keeps state
      ((state.takeRemoteAttempt openIdentity).2.offerLocalAt attempt.pipeId binding now).2 := by
  have taken := state.keeps_takeRemoteAttempt openIdentity
  refine ⟨?_, ?_, ?_⟩
  · intro present accounted
    have takenAccounted := taken.accounted present accounted
    exact accounted_offerLocalAt takenAccounted
      (not_inUse_takeRemoteAttempt accounted attempted)
      (accounted.attempts _ _ attempted).2.2.1
      (takenAccounted.owners.exact found).1 now
  · intro other used
    rcases inUse_offerLocalAt used with rfl | old
    · exact Or.inr ⟨openIdentity, attempt, attempted, rfl⟩
    · exact taken.inUse other old
  · rw [sessions_offerLocalAt, taken.sessions]

theorem keeps_routeResolved (state : GatewayState) (openIdentity : OpenIdentity)
    (bindings : List RouteTable.BindingProjection) (now : Instant) :
    Keeps state (state.routeResolved openIdentity bindings now).2 := by
  unfold routeResolved
  split
  · exact Keeps.refl state
  · rename_i attempt attempted
    split
    · exact Keeps.refl state
    · rename_i resolving
      split
      · exact state.keeps_failRemoteAttempt openIdentity _ _ _
      · split
        · exact state.keeps_failRemoteAttempt openIdentity _ _ _
        · dsimp only
          split
          · split
            · exact state.keeps_takeRemoteAttempt openIdentity
            · rename_i binding found
              exact keeps_offerTaken attempted found now
          · exact keeps_startPeer attempted (not_not.mp resolving) _

theorem keeps_routeFailed (state : GatewayState) (openIdentity : OpenIdentity)
    (code : ErrorCode) (message : String) :
    Keeps state (state.routeFailed openIdentity code message).2 := by
  unfold routeFailed
  split
  · exact state.keeps_failRemoteAttempt openIdentity _ _ _
  · exact Keeps.refl state

/-! ## Peer events -/

theorem matchAttempt_eq_starting {key : Option PeerStreamKey}
    (matched : state.matchAttempt openIdentity key = some (pipeId, .starting bindingId)) :
    ∃ attempt, state.remoteOpenAttempts.get openIdentity = some attempt ∧
      attempt.phase = .startingPeer bindingId := by
  unfold matchAttempt at matched
  rw [Option.map_eq_some_iff] at matched
  obtain ⟨attempt, attempted, pair⟩ := matched
  refine ⟨attempt, attempted, ?_⟩
  have phase := congrArg Prod.snd pair
  dsimp only at phase
  split at phase
  · cases phase
  · cases phase
    assumption
  · split at phase
    · cases phase
    · split at phase <;> cases phase

theorem matchAttempt_eq_awaiting
    (matched : state.matchAttempt openIdentity (some key) = some (pipeId, .awaiting bindingId)) :
    state.Awaits openIdentity key := by
  unfold matchAttempt at matched
  rw [Option.map_eq_some_iff] at matched
  obtain ⟨attempt, attempted, pair⟩ := matched
  have phase := congrArg Prod.snd pair
  dsimp only at phase
  split at phase
  · cases phase
  · cases phase
  · rename_i currentKey currentBinding current
    split at phase
    · rename_i same
      exact ⟨attempt, currentBinding, attempted, same ▸ current⟩
    · cases phase

section

variable (state : GatewayState) (openIdentity : OpenIdentity)

theorem keeps_peerOpenCommitted (key : PeerStreamKey) :
    Keeps state (state.peerOpenCommitted openIdentity key).2 := by
  unfold peerOpenCommitted
  split
  · split <;> exact Keeps.refl state
  · rename_i matched
    obtain ⟨attempt, attempted, -⟩ := matchAttempt_eq_starting matched
    split
    · exact Keeps.refl state
    · rename_i inactive
      exact keeps_awaitPeer attempted (Bool.not_eq_true _ ▸ inactive) _
  · exact Keeps.refl state
  · exact Keeps.refl state

theorem keeps_peerOpenCommitFailed (code : ErrorCode) (observation : PeerObservation)
    (message : String) :
    Keeps state (state.peerOpenCommitFailed openIdentity code observation message).2 := by
  unfold peerOpenCommitFailed
  split
  · exact state.keeps_failRemoteAttempt openIdentity _ _ _
  · exact Keeps.refl state

variable (key : PeerStreamKey) (openIdentity : OpenIdentity)

theorem keeps_peerOpenFailed (code : ErrorCode) (observation : PeerObservation)
    (message : String) :
    Keeps state (state.peerOpenFailed key openIdentity code observation message).2 := by
  unfold peerOpenFailed
  split
  · exact state.keeps_failRemoteAttempt openIdentity _ _ _
  · exact Keeps.refl state

theorem keeps_peerTransportLostStream (observation : PeerObservation) :
    Keeps state (state.peerTransportLostStream key openIdentity observation).2 := by
  unfold peerTransportLostStream
  split
  · exact state.keeps_failRemoteAttempt openIdentity _ _ _
  · split
    · exact Keeps.refl state
    · rename_i pipeId _
      have removed := state.keeps_removePipe pipeId
      split
      · split <;> rename_i outcome <;> rw [outcome] at removed <;>
          exact removed
      · exact Keeps.refl state

end

/-- The stream of an attempt that is starting on it, or awaits it, is free once
the attempt is taken. -/
theorem streamFree_takeRemoteAttempt (accounted : Accounted present state)
    (usable : state.StreamFree key ∨ state.Awaits openIdentity key) :
    (state.takeRemoteAttempt openIdentity).2.StreamFree key := by
  unfold takeRemoteAttempt
  cases attempted : state.remoteOpenAttempts.get openIdentity with
  | none =>
    rcases usable with free | ⟨attempt, -, found, -⟩
    · exact free
    · rw [attempted] at found
      exact absurd found.symm (Option.some_ne_none _)
  | some =>
    have old : ∀ other, GatewayState.Awaits
        { state with
          remoteOpenAttempts := state.remoteOpenAttempts.remove openIdentity
          activePeerOpens := state.activePeerOpens.remove openIdentity }
        other key → other ≠ openIdentity ∧ state.Awaits other key := by
      rintro other ⟨found, bindingId, remaining, phase⟩
      obtain ⟨different, stored⟩ := get_remove_eq_some_iff.mp remaining
      exact ⟨different, found, bindingId, stored, phase⟩
    rcases usable with free | awaiting
    · exact ⟨free.1, fun other awaits => free.2 other (old other awaits).2⟩
    · obtain ⟨unindexed, only⟩ := accounted.reserved _ _ awaiting
      refine ⟨unindexed, ?_⟩
      intro other awaits
      obtain ⟨different, stored⟩ := old other awaits
      exact different (only other stored)

theorem keeps_admitPeerOpened (usable : state.StreamFree key ∨ state.Awaits openIdentity key)
    (bindingId : BindingId) (now : Instant) :
    Keeps state (state.admitPeerOpened key openIdentity bindingId now).2 := by
  have taken := state.keeps_takeRemoteAttempt openIdentity
  cases attempted : state.remoteOpenAttempts.get openIdentity with
  | none =>
    simpa only [admitPeerOpened, takeRemoteAttempt, attempted] using
      Keeps.refl state
  | some attempt =>
    have outcome : state.takeRemoteAttempt openIdentity =
        (some attempt, (state.takeRemoteAttempt openIdentity).2) := by
      simp only [takeRemoteAttempt, attempted]
    unfold admitPeerOpened
    rw [outcome]
    dsimp only
    split
    · split <;> exact taken
    · refine ⟨?_, ?_, ?_⟩
      · intro present accounted
        obtain ⟨named, -, dialer, -⟩ := accounted.attempts _ _ attempted
        refine (taken.accounted present accounted).insertOpen
          ⟨⟨rfl, ?_, Or.inl rfl⟩, not_inUse_takeRemoteAttempt accounted attempted, ?_, ?_⟩ rfl
        · intro other identified
          obtain rfl := Option.some.inj identified
          exact named
        · intro other keyed
          obtain rfl := Option.some.inj keyed
          exact streamFree_takeRemoteAttempt accounted usable
        · rintro sessionId (same | same)
          · exact PipeEndpoint.sdk.inj same ▸ dialer
          · cases same
      · rintro other (⟨pipe, stored⟩ | ⟨identity, found, old, same⟩)
        · simp only [insertOpen, pipes_indexPeerPipe] at stored
          rcases get_insert_eq_some_iff.mp stored with
            ⟨rfl, -⟩ | ⟨-, remaining⟩
          · exact Or.inr ⟨openIdentity, attempt, attempted, rfl⟩
          · exact taken.inUse other (Or.inl ⟨pipe, remaining⟩)
        · simp only [insertOpen, remoteOpenAttempts_indexPeerPipe] at old
          exact taken.inUse other (Or.inr ⟨identity, found, old, same⟩)
      · simp only [insertOpen, sessions_indexPeerPipe, taken.sessions]

/-- OPENED keeps the accounts when a starting attempt learns of a free
stream. -/
theorem keeps_peerOpenedAt
    (free : ∀ pipeId bindingId,
      state.matchAttempt openIdentity (some key) =
        some (pipeId, .starting bindingId) → state.StreamFree key)
    (now : Instant) : Keeps state (state.peerOpenedAt key openIdentity now).2 := by
  unfold peerOpenedAt
  split
  · split <;> exact Keeps.refl state
  · rename_i matched
    exact keeps_admitPeerOpened (Or.inl (free _ _ matched)) _ now
  · rename_i matched
    exact keeps_admitPeerOpened (Or.inr (matchAttempt_eq_awaiting matched)) _
      now
  · exact Keeps.refl state

/-! ## SDK frames -/

variable (state : GatewayState) (sessionId : SessionId)

theorem keeps_unpublish (requestId : Nat) (bindingId : BindingId) :
    Keeps state (state.unpublish sessionId requestId bindingId).2 := by
  have unowned := state.keeps_removeOwned sessionId bindingId
  unfold unpublish
  split
  · rename_i outcome
    rw [outcome] at unowned
    exact unowned
  · rename_i outcome
    rw [outcome] at unowned
    exact unowned.trans (keeps_removePipes _ _ _)

theorem keeps_applyFrame (frame : Frame) : Keeps state (state.applyFrame sessionId frame).2 := by
  unfold applyFrame
  split
  · exact Keeps.refl state
  · split
    · exact state.keeps_unpublish sessionId _ _
    · exact state.keeps_offerAccepted sessionId _
    · exact state.keeps_offerRejected sessionId _ _ _
    · exact keeps_fromSdk (fun sender => state.keeps_relayData sender _ _) _ _ _
    · exact keeps_fromSdk (fun sender => state.keeps_relayFin sender _) _ _ _
    · exact keeps_fromSdk (fun sender => state.keeps_relayClose sender _) _ _ _
    · exact keeps_fromSdk (fun sender => state.keeps_relayReset sender _ _ _)
        _ _ _
    · exact state.keeps_cancel sessionId _
    all_goals exact Keeps.refl state

theorem keeps_beginDraining : Keeps state state.beginDraining.2 := by
  unfold beginDraining
  split
  · exact Keeps.refl state
  · exact ⟨fun _ accounted => accounted.frame _ _ _, fun _ => id, rfl⟩

end GatewayState

end RelayGate.Gateway
