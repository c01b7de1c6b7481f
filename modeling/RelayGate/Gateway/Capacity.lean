import RelayGate.Gateway.Parts

/-!
# Limits

No run takes the Gateway over its limits, whatever a peer sends: the maintained
counters never fall below a recount, and every insertion is checked against them
in the state it is made in.  A request refused for a limit leaves no trace in the
tables.
-/

namespace RelayGate.Gateway

open Library GatewayState Table

namespace GatewayState

/-- The tables are within the limits. -/
structure WithinLimits (limits : GatewayLimits) (state : GatewayState) : Prop where
  sessions : state.sessions.len ≤ limits.maxSessions
  bindings : state.registry.bindingCount ≤ limits.maxBindings
  opened : state.scan PipeEntry.isOpen ≤ limits.maxLivePipes
  attempts : state.remoteOpenAttempts.len ≤ limits.maxRemoteDialAttempts
  pending : state.scan PipeEntry.isOffered + state.remoteOpenAttempts.len ≤
    limits.maxPendingOffers

/-- The counters cover the Pipes they count, and they and the other tables are
within the limits. -/
structure Covered (limits : GatewayLimits) (state : GatewayState) : Prop where
  limited : state.limits = limits
  sessions : state.sessions.len ≤ limits.maxSessions
  bindings : state.registry.bindingCount ≤ limits.maxBindings
  opened : state.livePipeCount.Covers (state.scan PipeEntry.isOpen)
  live : state.livePipeCount.value ≤ limits.maxLivePipes
  attempts : state.remoteOpenAttempts.len ≤ limits.maxRemoteDialAttempts
  offered : state.pendingOfferCount.Covers (state.scan PipeEntry.isOffered)
  pending : state.pendingOfferCount.value + state.remoteOpenAttempts.len ≤
    limits.maxPendingOffers

theorem Covered.withinLimits {limits : GatewayLimits} {state : GatewayState}
    (covered : state.Covered limits) : state.WithinLimits limits where
  __ := covered
  opened := covered.opened.trans covered.live
  pending := (Nat.add_le_add_right covered.offered _).trans covered.pending

/-! ## Edits of the Pipe table -/

section Pipes

variable {pipe : PipeEntry} {limits : GatewayLimits} {state target : GatewayState}
  {pipeId : PipeId}

theorem Covered.of_eq (covered : state.Covered limits) (limited : target.limits = state.limits)
    (sessions : target.sessions.len ≤ state.sessions.len)
    (bindings : target.registry.bindingCount ≤ state.registry.bindingCount)
    (pipes : target.pipes = state.pipes) (live : target.livePipeCount = state.livePipeCount)
    (pending : target.pendingOfferCount = state.pendingOfferCount)
    (attempts : target.remoteOpenAttempts.len ≤ state.remoteOpenAttempts.len) :
    target.Covered limits where
  limited := limited.trans covered.limited
  sessions := sessions.trans covered.sessions
  bindings := bindings.trans covered.bindings
  opened := by
    unfold scan
    rw [pipes, live]
    exact covered.opened
  live := live ▸ covered.live
  attempts := attempts.trans covered.attempts
  offered := by
    unfold scan
    rw [pipes, pending]
    exact covered.offered
  pending := by
    rw [pending]
    exact (Nat.add_le_add_left attempts _).trans covered.pending

@[simp]
theorem limits_indexPeerPipe (pipeId : PipeId) (pipe : PipeEntry) :
    (state.indexPeerPipe pipeId pipe).limits = state.limits := by
  unfold indexPeerPipe
  split <;> rfl

/-- A state whose Pipes and counters were edited. -/
theorem Covered.recounted (covered : state.Covered limits)
    (limited : target.limits = state.limits) (sessions : target.sessions = state.sessions)
    (registry : target.registry = state.registry)
    (attempts : target.remoteOpenAttempts = state.remoteOpenAttempts)
    (opened : target.livePipeCount.Covers (target.scan PipeEntry.isOpen))
    (live : target.livePipeCount.value ≤ limits.maxLivePipes)
    (offered : target.pendingOfferCount.Covers (target.scan PipeEntry.isOffered))
    (pending : target.pendingOfferCount.value + state.remoteOpenAttempts.len ≤
      limits.maxPendingOffers) : target.Covered limits where
  limited := limited.trans covered.limited
  sessions := sessions ▸ covered.sessions
  bindings := registry ▸ covered.bindings
  opened := opened
  live := live
  attempts := attempts ▸ covered.attempts
  offered := offered
  pending := attempts ▸ pending

/-- A stored Pipe adds at most one to a scan that counts it, and nothing to one
that does not. -/
theorem scan_insert_le (pipes : target.pipes = state.pipes.insert pipeId pipe)
    (test : PipeEntry → Bool) :
    target.scan test ≤ state.scan test + if test pipe then 1 else 0 := by
  unfold scan
  rw [pipes]
  exact state.pipes.countWhere_insert_le pipeId pipe fun _ pipe => test pipe

section

variable (covered : state.Covered limits)
include covered

theorem Covered.insertOffer (pipeId : PipeId) (offers : pipe.phase = .offered)
    (room : state.pendingOfferCount.value + state.remoteOpenAttempts.len <
      limits.maxPendingOffers) :
    (state.insertOffer pipeId pipe).Covered limits := by
  have scanned := scan_insert_le (state.pipes_insertOffer pipeId pipe)
  have opened := scanned PipeEntry.isOpen
  have offered := scanned PipeEntry.isOffered
  rw [PipeEntry.isOpen, offers] at opened
  rw [PipeEntry.isOffered, offers] at offered
  apply covered.recounted
  · simp [GatewayState.insertOffer]
  · simp
  · simp
  · simp [GatewayState.insertOffer]
  · simp only [GatewayState.insertOffer, livePipeCount_indexPeerPipe]
    exact covered.opened.of_le opened
  · simpa [GatewayState.insertOffer] using covered.live
  · simp only [GatewayState.insertOffer, pendingOfferCount_indexPeerPipe]
    exact covered.offered.add offered
  · simp only [GatewayState.insertOffer, pendingOfferCount_indexPeerPipe, Counter.add]
    omega

theorem Covered.insertOpen (pipeId : PipeId) (opens : pipe.phase = .open)
    (room : state.livePipeCount.value < limits.maxLivePipes) :
    (state.insertOpen pipeId pipe).Covered limits := by
  have scanned := scan_insert_le (state.pipes_insertOpen pipeId pipe)
  have opened := scanned PipeEntry.isOpen
  have offered := scanned PipeEntry.isOffered
  rw [PipeEntry.isOpen, opens] at opened
  rw [PipeEntry.isOffered, opens] at offered
  apply covered.recounted
  · simp [GatewayState.insertOpen]
  · simp
  · simp
  · simp [GatewayState.insertOpen]
  · simp only [GatewayState.insertOpen, livePipeCount_indexPeerPipe]
    exact covered.opened.add opened
  · simp only [GatewayState.insertOpen, livePipeCount_indexPeerPipe, Counter.add]
    omega
  · simp only [GatewayState.insertOpen, pendingOfferCount_indexPeerPipe]
    exact covered.offered.of_le offered
  · simpa [GatewayState.insertOpen] using covered.pending

theorem Covered.removePipe (pipeId : PipeId) : (state.removePipe pipeId).2.Covered limits := by
  cases stored : state.pipes.get pipeId with
  | none =>
    rw [removePipe_of_none stored]
    exact covered
  | some pipe =>
    have removed := fun test : PipeEntry → Bool =>
      countWhere_remove_of_some stored fun _ pipe => test pipe
    rw [removePipe_of_some stored]
    apply covered.recounted
    · rfl
    · rfl
    · rfl
    · rfl
    · rw [livePipeCount_discountPipe]
      exact covered.opened.subIf (removed PipeEntry.isOpen)
    · rw [livePipeCount_discountPipe]
      exact (Counter.value_subIf_le _ _).trans covered.live
    · rw [pendingOfferCount_discountPipe]
      exact covered.offered.subIf (removed PipeEntry.isOffered)
    · rw [pendingOfferCount_discountPipe]
      exact (Nat.add_le_add_right (Counter.value_subIf_le _ _) _).trans
        covered.pending

theorem Covered.promoteOffer (pipeId : PipeId)
    (room : state.livePipeCount.value < limits.maxLivePipes) :
    (state.promoteOffer pipeId).2.Covered limits := by
  unfold GatewayState.promoteOffer
  split
  · exact covered
  · rename_i pipe stored
    split
    · exact covered
    · rename_i offers
      have phase := not_not.mp offers
      have scanned := fun test : PipeEntry → Bool =>
        countWhere_insert_of_some { pipe with phase := .open } stored
          fun _ pipe => test pipe
      have opened := scanned PipeEntry.isOpen
      have offered := scanned PipeEntry.isOffered
      simp only [PipeEntry.isOpen, PipeEntry.isOffered, phase] at opened offered
      apply covered.recounted
      · rfl
      · rfl
      · rfl
      · rfl
      · exact covered.opened.add opened.le
      · exact room
      · exact covered.offered.sub offered.le
      · exact (Nat.add_le_add_right (Nat.sub_le _ _) _).trans covered.pending

theorem Covered.finished (stored : state.pipes.get pipeId = some pipe) (sender : PipeEndpoint) :
    { state with
      pipes := state.pipes.insert pipeId
        (finishDirection pipe sender).1 }.Covered limits := by
  have phase : (finishDirection pipe sender).1.phase = pipe.phase := by
    unfold finishDirection
    split <;> rfl
  have scanned := fun test : PipeEntry → Bool =>
    countWhere_insert_of_some (finishDirection pipe sender).1 stored
      fun _ pipe => test pipe
  have opened := scanned PipeEntry.isOpen
  have offered := scanned PipeEntry.isOffered
  simp only [PipeEntry.isOpen, PipeEntry.isOffered, phase] at opened offered
  apply covered.recounted
  · rfl
  · rfl
  · rfl
  · rfl
  · exact covered.opened.of_le (Nat.add_right_cancel opened).le
  · exact covered.live
  · exact covered.offered.of_le (Nat.add_right_cancel offered).le
  · exact covered.pending

/-! ## Edits of the other tables -/

theorem Covered.takeRemoteAttempt (openIdentity : OpenIdentity) :
    (state.takeRemoteAttempt openIdentity).2.Covered limits := by
  unfold GatewayState.takeRemoteAttempt
  split
  · exact covered
  · exact covered.of_eq rfl (Nat.le_refl _) (Nat.le_refl _) rfl rfl rfl
      (len_remove_le _ _)

end

section

variable (state : GatewayState) (openIdentity : OpenIdentity) (registry : LocalRegistry)
  (sessionId : SessionId)

theorem pendingOfferCount_takeRemoteAttempt :
    (state.takeRemoteAttempt openIdentity).2.pendingOfferCount = state.pendingOfferCount := by
  unfold GatewayState.takeRemoteAttempt
  split <;> rfl

theorem livePipeCount_takeRemoteAttempt :
    (state.takeRemoteAttempt openIdentity).2.livePipeCount = state.livePipeCount := by
  unfold GatewayState.takeRemoteAttempt
  split <;> rfl

theorem bindingCount_remove_le (bindingId : BindingId) :
    (registry.remove bindingId).2.bindingCount ≤ registry.bindingCount := by
  unfold LocalRegistry.remove LocalRegistry.bindingCount
  split
  · exact Nat.le_refl _
  · simp only [LocalRegistry.byId_unlinkDestination]
    exact len_remove_le _ _

theorem bindingCount_removeOwned_le (bindingId : BindingId) :
    (registry.removeOwned sessionId bindingId).2.bindingCount ≤ registry.bindingCount := by
  unfold LocalRegistry.removeOwned
  split
  · exact Nat.le_refl _
  · split
    · exact Nat.le_refl _
    · exact bindingCount_remove_le registry bindingId

theorem bindingCount_removeSession_le :
    (registry.removeSession sessionId).2.bindingCount ≤ registry.bindingCount := by
  have loop : ∀ (bindingIds : List BindingId)
      (progress : List Binding × LocalRegistry),
      (bindingIds.foldl LocalRegistry.removeNext progress).2.bindingCount ≤
        progress.2.bindingCount := by
    intro bindingIds
    induction bindingIds with
    | nil => exact fun _ => Nat.le_refl _
    | cons bindingId bindingIds ih =>
      intro progress
      refine (ih _).trans ?_
      rw [LocalRegistry.removeNext_snd]
      exact bindingCount_remove_le progress.2 bindingId
  exact loop _ _

end

theorem Covered.pendingRoom (covered : state.Covered limits)
    (room : state.pendingCapacityReached = false) :
    state.pendingOfferCount.value + state.remoteOpenAttempts.len < limits.maxPendingOffers := by
  unfold pendingCapacityReached at room
  rw [covered.limited] at room
  exact Nat.lt_of_not_le (of_decide_eq_false room)

theorem Covered.liveRoom (covered : state.Covered limits)
    (room : state.livePipeLimitReached = false) :
    state.livePipeCount.value < limits.maxLivePipes := by
  unfold livePipeLimitReached at room
  rw [covered.limited] at room
  exact Nat.lt_of_not_le (of_decide_eq_false room)

theorem Covered.rehashed (covered : state.Covered limits)
    (same : state.Rehashed target) : target.Covered limits := by
  have scanned : ∀ test, target.scan test = state.scan test := by
    intro test
    unfold scan
    rw [countWhere_eq_tally, countWhere_eq_tally]
    exact tally_congr same.pipes _
  have attempts := len_congr same.remoteOpenAttempts
  constructor
  · exact same.limits.trans covered.limited
  · exact (len_congr same.sessions).trans_le covered.sessions
  · exact (len_congr same.byId).trans_le covered.bindings
  · rw [scanned, same.livePipeCount]
    exact covered.opened
  · rw [same.livePipeCount]
    exact covered.live
  · exact attempts.trans_le covered.attempts
  · rw [scanned, same.pendingOfferCount]
    exact covered.offered
  · rw [same.pendingOfferCount, attempts]
    exact covered.pending

end Pipes

end GatewayState

/-! ## Every part -/

section Parts

variable {event : Event} {limits : GatewayLimits} {state target : GatewayState}
  {published : List Publication}

/-- The attempt that becomes a local offer or an open Pipe leaves its place. -/
theorem GatewayState.len_takeRemoteAttempt {openIdentity : OpenIdentity}
    {attempt : RemoteOpenAttempt}
    (attempted : state.remoteOpenAttempts.get openIdentity = some attempt) :
    (state.takeRemoteAttempt openIdentity).2.remoteOpenAttempts.len + 1 =
      state.remoteOpenAttempts.len := by
  unfold takeRemoteAttempt
  rw [attempted]
  exact len_remove_of_some attempted

theorem Part.covered (covered : state.Covered limits)
    (part : Part event state published target) : target.Covered limits := by
  cases part with
  | removed pipeId => exact covered.removePipe pipeId
  | finished sender stored => exact covered.finished stored sender
  | promoted pipeId room => exact covered.promoteOffer pipeId (covered.liveRoom room)
  | offered now applies room =>
    exact covered.insertOffer _ rfl (covered.pendingRoom room)
  | offeredPeer opens room =>
    exact covered.insertOffer _ rfl (covered.pendingRoom room)
  | @relocated openIdentity attempt binding now outside attempted stored serves =>
    apply (covered.takeRemoteAttempt openIdentity).insertOffer _ rfl
    have fewer := len_takeRemoteAttempt attempted
    have pending := covered.pending
    rw [pendingOfferCount_takeRemoteAttempt]
    omega
  | @admitted key openIdentity attempt bindingId now outside attempted room =>
    apply (covered.takeRemoteAttempt openIdentity).insertOpen _ rfl
    rw [livePipeCount_takeRemoteAttempt]
    exact covered.liveRoom room
  | @started openIdentity destination applies room admits =>
    have more := state.remoteOpenAttempts.len_insert_le openIdentity
      ⟨openIdentity.pipeId, destination, .resolving⟩
    have pending := covered.pendingRoom room
    have limited := covered.limited
    subst limited
    refine { covered with attempts := ?_, pending := ?_ }
    · exact more.trans admits
    · exact (Nat.add_le_add_left more _).trans pending
  | asked | awaited =>
    exact covered.of_eq rfl (Nat.le_refl _) (Nat.le_refl _) rfl rfl rfl
      (len_modify _ _ _).le
  | dropped openIdentity => exact covered.takeRemoteAttempt openIdentity
  | registered draws applies present room created =>
    obtain ⟨-, rfl, rfl⟩ := register_eq_created created
    have limited := covered.limited
    subst limited
    refine { covered with bindings := ?_ }
    exact (len_insert_le _ _ _).trans room
  | @unregistered sessionId requestId bindingId binding registry sent removed =>
    have fewer := bindingCount_removeOwned_le state.registry sessionId
      bindingId
    rw [removed] at fewer
    exact covered.of_eq rfl (Nat.le_refl _) fewer rfl rfl rfl (Nat.le_refl _)
  | lapsed =>
    exact covered.of_eq rfl (Nat.le_refl _)
      (bindingCount_removeOwned_le _ _ _) rfl rfl rfl
      (Nat.le_refl _)
  | selected =>
    refine covered.of_eq rfl (Nat.le_refl _) ?_ rfl rfl rfl (Nat.le_refl _)
    simp [LocalRegistry.bindingCount]
  | joined entry room =>
    have limited := covered.limited
    subst limited
    refine { covered with sessions := ?_ }
    exact (len_insert_le _ _ _).trans room
  | noted entry controlRate present =>
    exact covered.of_eq rfl (len_insert_of_some _ present).le
      (Nat.le_refl _) rfl rfl rfl (Nat.le_refl _)
  | left =>
    exact covered.of_eq rfl (len_remove_le _ _)
      (bindingCount_removeSession_le _ _) rfl rfl rfl
      (Nat.le_refl _)
  | drained =>
    exact covered.of_eq rfl (Nat.le_refl _) (Nat.le_refl _) rfl rfl rfl
      (Nat.le_refl _)
  | rehashed same => exact covered.rehashed same

theorem Parts.covered (parts : Parts event state published target)
    (covered : state.Covered limits) : target.Covered limits := by
  induction parts with
  | refl => exact covered
  | head part _ ih => exact ih (part.covered covered)

end Parts

/-! ## Refusals -/

/-- Nothing that is limited has changed, except that the sessions may have other
entries. -/
structure GatewayState.Unaffected (state target : GatewayState) : Prop where
  pipes : target.pipes = state.pipes
  attempts : target.remoteOpenAttempts = state.remoteOpenAttempts
  registry : target.registry = state.registry
  peerPipes : target.peerPipes = state.peerPipes
  activePeerOpens : target.activePeerOpens = state.activePeerOpens
  sessions : ∀ sessionId, target.HasSession sessionId ↔ state.HasSession sessionId

/-- An answer that says that a limit was reached. -/
def GatewayAction.SaysLimit : GatewayAction → Prop
  | .sendSdkFrame _ (.publishFailed _ code _) => code = .resourceExhausted
  | .sendSdkFrame _ (.dialFailed _ code _ _) => code = .resourceExhausted
  | .sendPeerFrame (.failed _ code _ _) => code = .resourceExhausted
  | _ => False

/-- The event is a DIAL, a PUBLISH, an incoming peer OPEN or a new session, and it
is refused because of a limit. -/
def World.RefusesForLimit (world : World) (event : Event) : Prop :=
  match event with
  | .addSession _ _ =>
      ∃ message, world.state.sessionRejection = some (.resourceExhausted, message)
  | .receivePeerOpen .. => ∃ action ∈ world.actions event, action.SaysLimit
  | _ => event.operation?.isSome = true ∧
      ∃ action ∈ world.actions event, action.SaysLimit

namespace GatewayState

variable {sessionId : SessionId} {operation : ControlOperation} {frame : Frame}
  {token : BearerToken}

theorem Unaffected.refl (state : GatewayState) : state.Unaffected state :=
  ⟨rfl, rfl, rfl, rfl, rfl, fun _ => Iff.rfl⟩

theorem Unaffected.trans {first second third : GatewayState}
    (before : first.Unaffected second) (after : second.Unaffected third) :
    first.Unaffected third where
  pipes := after.pipes.trans before.pipes
  attempts := after.attempts.trans before.attempts
  registry := after.registry.trans before.registry
  peerPipes := after.peerPipes.trans before.peerPipes
  activePeerOpens := after.activePeerOpens.trans before.activePeerOpens
  sessions sessionId := (after.sessions sessionId).trans (before.sessions sessionId)

variable {state : GatewayState}

/-- A session that is present gets another entry. -/
theorem Unaffected.noted {before : SessionEntry}
    (present : state.sessions.get sessionId = some before) (entry : SessionEntry)
    (controlRate : TokenBucket) :
    state.Unaffected
      { state with
        sessions := state.sessions.insert sessionId entry
        controlRate := controlRate } := by
  refine ⟨rfl, rfl, rfl, rfl, rfl, ?_⟩
  intro other
  unfold HasSession
  simp only [get_insert]
  split
  next same =>
    subst same
    simp [present]
  next => exact Iff.rfl

/-- Preparing an authorization touches nothing but the session's own entry. -/
theorem unaffected_prepareAuthorization (state : GatewayState)
    (sessionId : SessionId) (operation : ControlOperation) (now : Instant) :
    state.Unaffected (state.prepareAuthorization sessionId operation now).2 := by
  refine kept_prepareAuthorization
    (fun middle before entry controlRate unaffected present => ?_) (.refl state) now
  exact unaffected.trans (.noted present entry controlRate)

/-- A transition that does nothing when it says that a limit was reached. -/
def Cautious (state : GatewayState)
    (result : List GatewayAction × GatewayState) : Prop :=
  (∃ action ∈ result.1, action.SaysLimit) → state.Unaffected result.2

theorem Cautious.idle (actions : List GatewayAction) : state.Cautious (actions, state) :=
  fun _ => .refl state

theorem Cautious.discreet {actions : List GatewayAction} {target : GatewayState}
    (discreet : ∀ action ∈ actions, ¬ action.SaysLimit) : state.Cautious (actions, target) := by
  rintro ⟨action, member, limited⟩
  exact absurd limited (discreet action member)

theorem discreet_sendTo {target : SessionId}
    (discreet : ¬ (GatewayAction.sendSdkFrame target frame).SaysLimit) :
    ∀ action ∈ state.sendTo target frame, ¬ action.SaysLimit := by
  intro action member
  rwa [eq_of_mem_sendTo member]

section

variable (draws : Draws BindingId) (sessionId : SessionId) (operation : ControlOperation)

theorem cautious_publish (requestId : Nat) (destination : Destination) :
    state.Cautious (state.publish draws sessionId requestId destination) := by
  unfold publish
  split
  · exact .idle _
  · split
    · exact .idle _
    · dsimp only
      split
      · apply Cautious.discreet
        intro action member
        rcases List.mem_append.mp member with told | published
        · exact discreet_sendTo id action told
        · rw [List.mem_singleton.mp published]
          exact id
      · exact .discreet (discreet_sendTo id)

theorem registry_of_selected_none {registry : LocalRegistry}
    {destination : Destination} {excluded : SessionId}
    (missing : (registry.selectExcluding destination excluded).1 = none) :
    (registry.selectExcluding destination excluded).2 = registry := by
  unfold LocalRegistry.selectExcluding at missing ⊢
  split at missing
  next => rfl
  next =>
    dsimp only at missing ⊢
    split at missing
    next empty => rw [if_pos empty]
    next some_candidate =>
      rw [List.getElem?_eq_none_iff] at missing
      exact absurd missing (Nat.not_le.mpr (Nat.mod_lt _ (Nat.pos_of_ne_zero some_candidate)))

theorem cautious_offerLocalAt {origin : GatewayState} (pipeId : PipeId)
    (binding : Binding) (now : Instant) :
    origin.Cautious (state.offerLocalAt pipeId binding now) := by
  unfold offerLocalAt
  dsimp only
  split
  · exact .discreet (discreet_sendTo id)
  · apply Cautious.discreet
    intro action member
    rcases List.mem_append.mp member with failed | published
    · exact discreet_sendTo (by simp [GatewayAction.SaysLimit]) action failed
    · rw [List.mem_singleton.mp published]
      exact id

theorem cautious_dial (dialer : SessionId) (connectionId : Nat)
    (destination : Destination) (now : Instant) :
    state.Cautious (state.dial dialer connectionId destination now) := by
  unfold dial
  split
  · exact .idle _
  · split
    · exact .idle _
    · split
      · exact .idle _
      · split
        · exact .idle _
        · dsimp only
          split
          · exact cautious_offerLocalAt _ _ now
          · rename_i missing
            rw [registry_of_selected_none missing]
            split
            · split
              · exact .idle _
              · exact .idle _
            · split
              · exact .idle _
              · apply Cautious.discreet
                intro action member
                rw [List.mem_singleton.mp member]
                exact id

theorem cautious_receivePeerOpenAt (key : PeerStreamKey)
    (openIdentity : OpenIdentity) (destination : Destination)
    (relaySessionId : SessionId) (bindingId : BindingId) (now : Instant) :
    state.Cautious (state.receivePeerOpenAt key openIdentity destination
      relaySessionId bindingId now) := by
  unfold receivePeerOpenAt
  split
  · exact .idle _
  · split
    · exact .idle _
    · split
      · exact .idle _
      · split
        · exact .idle _
        · split
          · exact .idle _
          · dsimp only
            split
            · exact .idle _
            · exact .discreet (discreet_sendTo id)

theorem cautious_applyControlAt (now : Instant) :
    state.Cautious (state.applyControlAt draws sessionId operation now) := by
  cases operation with
  | publish requestId destination =>
    exact cautious_publish draws sessionId requestId destination
  | dial connectionId destination =>
    exact cautious_dial sessionId connectionId destination now

theorem cautious_commitAuthorized (verified : VerifiedAuthorization) (now : Instant) :
    state.Cautious (state.commitAuthorized draws sessionId operation verified now) := by
  unfold commitAuthorized
  split
  · exact .idle _
  · split
    · exact .idle _
    · exact cautious_applyControlAt draws sessionId operation now

end

/-- A control frame that is not authorized leaves the tables alone. -/
theorem unaffected_handle (taken : ControlOperation.take frame = .ok (operation, token))
    (now : Instant) : state.Unaffected (state.handle sessionId frame now).2 := by
  have prepared := state.unaffected_prepareAuthorization sessionId operation now
  unfold handle
  simp only [taken]
  split <;> rename_i outcome <;> rw [outcome] at prepared <;> exact prepared

theorem cautious_handleAt {draws : Draws BindingId}
    (taken : ControlOperation.take frame = .ok (operation, token)) (now : Instant) :
    state.Cautious (answered (state.handleAt draws sessionId frame now).1,
      (state.handleAt draws sessionId frame now).2) := by
  have prepared := state.unaffected_prepareAuthorization sessionId operation now
  unfold handleAt
  simp only [taken]
  split <;> rename_i outcome <;> rw [outcome] at prepared
  · exact fun _ => prepared
  · intro limited
    exact prepared.trans
      (cautious_applyControlAt draws sessionId operation now limited)

end GatewayState

namespace World

open GatewayState

variable {world : World}

/-- A refusal for a limit leaves the tables alone, in whatever state it happens. -/
theorem unaffected_of_refusesForLimit {event : Event} (refuses : world.RefusesForLimit event) :
    world.state.Unaffected (world.apply event).state := by
  cases event with
  | addSession =>
    obtain ⟨message, rejected⟩ := refuses
    simp only [apply, addSession, rejected, Option.isSome_some, if_true]
    exact .refl _
  | receivePeerOpen key openIdentity destination relaySessionId bindingId now =>
    exact cautious_receivePeerOpenAt key openIdentity destination relaySessionId
      bindingId now refuses
  | prepare sessionId operation now =>
    have prepared := world.state.unaffected_prepareAuthorization sessionId operation now
    simp only [apply]
    split <;> rename_i outcome <;> rw [outcome] at prepared <;> exact prepared
  | commit sessionId operation verified draws now =>
    exact cautious_commitAuthorized draws sessionId operation verified now
      refuses.2
  | refuse => exact .refl _
  | handle sessionId frame now =>
    obtain ⟨operates, -⟩ := refuses
    cases taken : ControlOperation.take frame with
    | ok => exact unaffected_handle taken now
    | error => simp [Event.operation?, taken] at operates
  | handleAt draws sessionId frame now =>
    obtain ⟨operates, limited⟩ := refuses
    cases taken : ControlOperation.take frame with
    | ok => exact cautious_handleAt taken now limited
    | error => simp [Event.operation?, taken] at operates
  | _ => cases refuses.1

theorem covered_of_execution {limits : GatewayLimits}
    {gatewayId : Option GatewayId} {start : Instant} {events : List Event}
    (run : Execution AnyStep (World.initial limits gatewayId start) events world) :
    world.state.Covered limits := by
  apply run.invariant (fun (source : World) event target
    (covered : source.state.Covered limits) step => ?_)
  · exact ⟨rfl, Nat.zero_le _, Nat.zero_le _, Nat.zero_le _, Nat.zero_le _,
      Nat.zero_le _, Nat.zero_le _, Nat.zero_le _⟩
  · obtain ⟨arranges, rfl⟩ := step
    exact (parts_apply arranges).covered covered

/-- In every state of every run the tables are within the limits, and a request
refused because of a limit changes none of them. -/
theorem within_limits_of_run {limits : GatewayLimits}
    {gatewayId : Option GatewayId} {start : Instant} {events : List Event}
    {world : World}
    (run : Execution AnyStep (World.initial limits gatewayId start) events world) :
    world.state.WithinLimits limits ∧
      ∀ event, world.RefusesForLimit event →
        world.state.Unaffected (world.apply event).state :=
  ⟨(covered_of_execution run).withinLimits,
    fun _ => unaffected_of_refusesForLimit⟩

namespace Scenario

/-- Room for the one binding of the listener only. -/
def tight : GatewayLimits :=
  { limits with maxBindings := 1 }

def filled : World :=
  publishing.foldl World.apply (World.initial tight (some ⟨1⟩) 0)

theorem execution_filled :
    Execution AnyStep (World.initial tight (some ⟨1⟩) 0) publishing filled :=
  Execution.of_allowed publishing ⟨trivial, trivial, trivial, trivial, trivial⟩

/-- The dialer publishes the same destination. -/
def secondPublish : Event :=
  .commit dialer publishOperation ⟨destination, .publish, 10⟩ bindingDraws 0

end Scenario

open Scenario in
/-- A second binding is refused and leaves the tables alone. -/
theorem second_binding_is_refused :
    filled.state.registry.bindingCount = 1 ∧
      filled.actions secondPublish =
        [.sendSdkFrame dialer (.publishFailed 1 .resourceExhausted
          "Gateway Binding limit reached")] ∧
      filled.state.WithinLimits tight ∧
      filled.state.Unaffected (filled.apply secondPublish).state := by
  have refused : filled.actions secondPublish =
      [.sendSdkFrame dialer (.publishFailed 1 .resourceExhausted
        "Gateway Binding limit reached")] := by decide
  have bounded := within_limits_of_run execution_filled
  refine ⟨by decide, refused, bounded.1, bounded.2 secondPublish ⟨rfl, ?_⟩⟩
  rw [refused]
  exact ⟨_, List.mem_singleton.mpr rfl, rfl⟩

end World

end RelayGate.Gateway
