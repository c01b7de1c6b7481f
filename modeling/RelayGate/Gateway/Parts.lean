import RelayGate.Gateway.Lookups

/-!
# What an event can do, from any state

`Moves` says why an event edits the tables, in states that keep their accounts.
The parts below say less and ask for nothing: whatever the state and whatever a
peer has sent before, an event is a sequence of these edits, each under the
checks that the code makes for it.  Beside the edits they record the registration
publications of the event, in order.
-/

namespace RelayGate.Gateway

open Library GatewayState
open RouteTable (BindingProjection)

/-! ## Publications -/

/-- A registration publication: a session and the full list of its bindings. -/
abbrev Publication := SessionId × List Binding

def GatewayAction.publication? : GatewayAction → Option Publication
  | .publishRegistration sessionId bindings => some (sessionId, bindings)
  | _ => none

/-- The registration publications among some actions. -/
def publications (actions : List GatewayAction) : List Publication :=
  actions.filterMap GatewayAction.publication?

@[simp]
theorem publications_append (first second : List GatewayAction) :
    publications (first ++ second) = publications first ++ publications second :=
  List.filterMap_append

theorem mem_publications {actions : List GatewayAction} {sessionId : SessionId}
    {bindings : List Binding} :
    (sessionId, bindings) ∈ publications actions ↔
      .publishRegistration sessionId bindings ∈ actions := by
  unfold publications
  rw [List.mem_filterMap]
  constructor
  · rintro ⟨action, member, named⟩
    cases action <;> cases named
    exact member
  · intro member
    exact ⟨_, member, rfl⟩

namespace GatewayState

variable (state : GatewayState)

/-- What the Gateway advertises for a session. -/
def advertised (sessionId : SessionId) : List Binding :=
  if state.draining then [] else state.registry.bindingsForSession sessionId

@[simp]
theorem publications_sendTo (target : SessionId) (frame : Frame) :
    publications (state.sendTo target frame) = [] := by
  unfold sendTo
  split <;> rfl

@[simp]
theorem publications_openFailed (dialer : SessionId) (connectionId : Nat)
    (code : ErrorCode) (observation : PeerObservation) (message : String) :
    publications (state.openFailed dialer connectionId code observation message) = [] :=
  state.publications_sendTo _ _

@[simp]
theorem publications_authorizationFailed (sessionId : SessionId)
    (operation : ControlOperation) (code : ErrorCode) :
    publications (state.authorizationFailed sessionId operation code) = [] :=
  state.publications_sendTo _ _

variable (pipe : PipeEntry) (target : PipeEndpoint) (pipeId : PipeId) (code : ErrorCode)

@[simp]
theorem publications_dialerOpened : publications (state.dialerOpened pipe pipeId) = [] := by
  unfold dialerOpened
  split
  · exact state.publications_sendTo _ _
  · rfl

@[simp]
theorem publications_dialerFailure (observation : PeerObservation) (message : String) :
    publications (state.dialerFailure pipe pipeId code observation message) = [] := by
  unfold dialerFailure
  split
  · exact state.publications_sendTo _ _
  · rfl

@[simp]
theorem publications_endpointReset (message : String) :
    publications (state.endpointReset target pipeId code message) = [] := by
  cases target with
  | sdk => exact state.publications_sendTo _ _
  | peer => rfl

@[simp]
theorem publications_endpointData (payload : List UInt8) :
    publications (state.endpointData target pipeId payload) = [] := by
  cases target with
  | sdk => exact state.publications_sendTo _ _
  | peer => rfl

@[simp]
theorem publications_endpointFin : publications (state.endpointFin target pipeId) = [] := by
  cases target with
  | sdk => exact state.publications_sendTo _ _
  | peer => rfl

@[simp]
theorem publications_endpointClose : publications (state.endpointClose target pipeId) = [] := by
  cases target with
  | sdk => exact state.publications_sendTo _ _
  | peer => rfl

@[simp]
theorem publications_registrationPublication (sessionId : SessionId) :
    publications [state.registrationPublication sessionId] =
      [(sessionId, state.advertised sessionId)] :=
  rfl

@[simp]
theorem publications_disconnectedPipe (sessionId : SessionId) (pipeId : PipeId)
    (pipe : PipeEntry) : publications (disconnectedPipe sessionId state pipeId pipe) = [] := by
  unfold disconnectedPipe
  dsimp only
  split
  · exact state.publications_dialerFailure _ _ _ _ _
  · exact state.publications_endpointReset _ _ _ _

@[simp]
theorem publications_abandonedAttempt (openIdentity : OpenIdentity)
    (attempt : RemoteOpenAttempt) :
    publications (abandonedAttempt openIdentity attempt) = [] := by
  unfold abandonedAttempt
  split <;> rfl

end GatewayState

/-! ## Parts -/

/-- The event applies a control operation of a session: a commit whose
authorization covers it, or a frame that is applied without one. -/
def Event.Applies (sessionId : SessionId) (operation : ControlOperation) :
    Event → Prop
  | .commit sender other verified _ now =>
      sender = sessionId ∧ other = operation ∧
        verified.authorizes operation now = true
  | .handleAt _ sender frame _ =>
      sender = sessionId ∧
        ∃ token, ControlOperation.take frame = .ok (operation, token)
  | _ => False

/-- The registry lists the binding for the destination. -/
def LocalRegistry.Lists (registry : LocalRegistry) (destination : Destination)
    (binding : Binding) : Prop :=
  ∃ bindingIds bindingId, registry.byDestination.get destination = some bindingIds ∧
    bindingId ∈ bindingIds ∧ registry.byId.get bindingId = some binding

theorem LocalRegistry.Lists.stored {registry : LocalRegistry}
    {destination : Destination} {binding : Binding}
    (listed : registry.Lists destination binding) :
    ∃ bindingId, registry.byId.get bindingId = some binding := by
  obtain ⟨_, bindingId, _, _, stored⟩ := listed
  exact ⟨bindingId, stored⟩

/-- One edit that an event makes, with the publications that go with it. -/
inductive Part (event : Event) (state : GatewayState) :
    List Publication → GatewayState → Prop
  | removed (pipeId : PipeId) :
      Part event state [] (state.removePipe pipeId).2
  | finished {pipeId : PipeId} {pipe : PipeEntry} (sender : PipeEndpoint)
      (stored : state.pipes.get pipeId = some pipe) :
      Part event state []
        { state with
          pipes := state.pipes.insert pipeId
            (GatewayState.finishDirection pipe sender).1 }
  | promoted (pipeId : PipeId) (room : state.livePipeLimitReached = false) :
      Part event state [] (state.promoteOffer pipeId).2
  | offered {dialer : SessionId} {connectionId : Nat} {destination : Destination}
      {binding : Binding} (now : Instant)
      (applies : event.Applies dialer (.dial connectionId destination))
      (room : state.pendingCapacityReached = false)
      (listed : state.registry.Lists destination binding)
      (serving : state.draining = false) :
      Part event state []
        (state.insertOffer ⟨dialer, connectionId⟩
          (localOffer ⟨dialer, connectionId⟩ binding now))
  | offeredPeer {key : PeerStreamKey} {openIdentity : OpenIdentity}
      {binding : Binding} {destination : Destination} {relaySessionId : SessionId}
      {bindingId : BindingId} {now : Instant}
      (opens : event = .receivePeerOpen key openIdentity destination
        relaySessionId bindingId now)
      (room : state.pendingCapacityReached = false)
      (owner : binding.sessionId = relaySessionId)
      (serving : state.draining = false) :
      Part event state []
        (state.insertOffer openIdentity.pipeId
          (peerOffer key openIdentity binding now))
  | relocated {openIdentity : OpenIdentity} {attempt : RemoteOpenAttempt}
      {binding : Binding} (now : Instant) (outside : event.session? = none)
      (attempted : state.remoteOpenAttempts.get openIdentity = some attempt)
      (stored : ∃ bindingId, state.registry.byId.get bindingId = some binding)
      (serves : binding.destination = attempt.destination) :
      Part event state []
        ((state.takeRemoteAttempt openIdentity).2.insertOffer attempt.pipeId
          (localOffer attempt.pipeId binding now))
  | admitted {key : PeerStreamKey} {openIdentity : OpenIdentity}
      {attempt : RemoteOpenAttempt} (bindingId : BindingId) (now : Instant)
      (outside : event.session? = none)
      (attempted : state.remoteOpenAttempts.get openIdentity = some attempt)
      (room : state.livePipeLimitReached = false) :
      Part event state []
        ((state.takeRemoteAttempt openIdentity).2.insertOpen attempt.pipeId
          (remotePipe key openIdentity attempt.pipeId.originSessionId bindingId
            now))
  | started {openIdentity : OpenIdentity} {destination : Destination}
      (applies : event.Applies openIdentity.originSession
        (.dial openIdentity.connectionId destination))
      (room : state.pendingCapacityReached = false)
      (admits : state.remoteOpenAttempts.len < state.limits.maxRemoteDialAttempts)
      (serving : state.draining = false) :
      Part event state [] (state.startAttempt openIdentity destination)
  | asked (openIdentity : OpenIdentity) (bindingId : BindingId) :
      Part event state [] (state.startPeer openIdentity bindingId)
  | awaited (openIdentity : OpenIdentity) (key : PeerStreamKey)
      (bindingId : BindingId) :
      Part event state [] (state.awaitPeer openIdentity key bindingId)
  | dropped (openIdentity : OpenIdentity) :
      Part event state [] (state.takeRemoteAttempt openIdentity).2
  | registered {sessionId : SessionId} {requestId : Nat} {destination : Destination}
      {binding : Binding} {registry : LocalRegistry} (draws : Draws BindingId)
      (applies : event.Applies sessionId (.publish requestId destination))
      (present : state.HasSession sessionId)
      (room : state.registry.bindingCount < state.limits.maxBindings)
      (created : state.registry.register draws sessionId destination =
        (.created binding, registry))
      (serving : state.draining = false) :
      Part event state
        [(sessionId, { state with registry := registry }.advertised sessionId)]
        { state with registry := registry }
  | unregistered {sessionId : SessionId} {requestId : Nat} {bindingId : BindingId}
      {binding : Binding} {registry : LocalRegistry}
      (sent : event.frame? = some (sessionId, .unpublish requestId bindingId))
      (removed : state.registry.removeOwned sessionId bindingId =
        (some binding, registry)) :
      Part event state
        [(sessionId, { state with registry := registry }.advertised sessionId)]
        { state with registry := registry }
  | lapsed {binding : Binding} {bindingId : BindingId}
      (stored : state.registry.byId.get bindingId = some binding)
      (gone : ¬ state.HasSession binding.sessionId) :
      Part event state
        [(binding.sessionId, { state with
          registry := (state.registry.removeOwned binding.sessionId
            binding.id).2 }.advertised binding.sessionId)]
        { state with
          registry := (state.registry.removeOwned binding.sessionId
            binding.id).2 }
  | selected (destination : Destination) (excluded : SessionId) :
      Part event state []
        { state with
          registry := (state.registry.selectExcluding destination excluded).2 }
  | joined {sessionId : SessionId} (entry : SessionEntry)
      (room : state.sessions.len < state.limits.maxSessions)
      (absent : state.sessions.get sessionId = none)
      (serving : state.draining = false) :
      Part event state []
        { state with sessions := state.sessions.insert sessionId entry }
  | noted {sessionId : SessionId} {before : SessionEntry} (entry : SessionEntry)
      (controlRate : TokenBucket)
      (present : state.sessions.get sessionId = some before) :
      Part event state []
        { state with
          sessions := state.sessions.insert sessionId entry
          controlRate := controlRate }
  | left (sessionId : SessionId) (outside : event.session? = none) :
      Part event state
        (if 0 < (state.registry.removeSession sessionId).1.length then
          [(sessionId, { state with
            registry :=
              (state.registry.removeSession sessionId).2 }.advertised sessionId)]
        else [])
        { state with
          sessions := state.sessions.remove sessionId
          registry := (state.registry.removeSession sessionId).2 }
  | drained (drains : event = .beginDraining) (serving : state.draining = false) :
      Part event state (state.sessions.keys.map fun sessionId => (sessionId, []))
        { state with draining := true }
  | rehashed {target : GatewayState} (same : state.Rehashed target) :
      Part event state [] target

/-- A sequence of parts. -/
inductive Parts (event : Event) :
    GatewayState → List Publication → GatewayState → Prop
  | refl (state : GatewayState) : Parts event state [] state
  | head {state middle target : GatewayState} {first rest : List Publication}
      (part : Part event state first middle)
      (parts : Parts event middle rest target) :
      Parts event state (first ++ rest) target

namespace Parts

variable {event : Event} {state middle target : GatewayState}
  {published : List Publication}

theorem single (part : Part event state published target) :
    Parts event state published target := by
  have parts := Parts.head part (Parts.refl target)
  rwa [List.append_nil] at parts

theorem trans {first rest : List Publication} (before : Parts event state first middle)
    (after : Parts event middle rest target) : Parts event state (first ++ rest) target := by
  induction before with
  | refl => exact after
  | head part _ ih =>
    rw [List.append_assoc]
    exact Parts.head part (ih after)

/-- A part without publications before others. -/
theorem silent (part : Part event state [] middle)
    (parts : Parts event middle published target) : Parts event state published target :=
  Parts.head part parts

end Parts

/-- A transition is a sequence of parts. -/
def Consists (event : Event) (state : GatewayState)
    (result : List GatewayAction × GatewayState) : Prop :=
  Parts event state (publications result.1) result.2

namespace Consists

variable {event : Event} {state : GatewayState} {actions : List GatewayAction}

/-- Saying something that is no publication. -/
theorem said (plain : publications actions = []) : Consists event state (actions, state) := by
  unfold Consists
  rw [plain]
  exact Parts.refl state

/-- One silent edit and something said. -/
theorem edited {target : GatewayState} (plain : publications actions = [])
    (part : Part event state [] target) : Consists event state (actions, target) := by
  unfold Consists
  rw [plain]
  exact Parts.single part

/-- A silent edit before the rest. -/
theorem after {middle : GatewayState} {result : List GatewayAction × GatewayState}
    (part : Part event state [] middle) (rest : Consists event middle result) :
    Consists event state result :=
  Parts.silent part rest

end Consists

namespace GatewayState

variable {pipeId : PipeId} {sessionId : SessionId} {binding : Binding} {now : Instant}
  {registry target : LocalRegistry} {destination : Destination} {draws : Draws BindingId}
  {operation : ControlOperation} {frame : Frame} {event : Event} {state : GatewayState}
  {actions : List GatewayAction} {key : PeerStreamKey} {openIdentity : OpenIdentity}
  {requestId : Nat} {bindingId : BindingId}

/-! ## Relaying -/

theorem consists_of_removePipe {outcome : Option PipeEntry} {target : GatewayState}
    (removal : state.removePipe pipeId = (outcome, target))
    (plain : publications actions = []) : Consists event state (actions, target) := by
  have part : Part event state [] (state.removePipe pipeId).2 := .removed pipeId
  rw [removal] at part
  exact .edited plain part

theorem consists_protocolReset (pipeId : PipeId) (message : String) :
    Consists event state (state.protocolReset pipeId message) := by
  unfold protocolReset
  split <;> rename_i removal
  · exact consists_of_removePipe removal rfl
  · exact consists_of_removePipe removal (by simp)

section

variable (sender : PipeEndpoint) (acceptor dialer : SessionId)
  (openIdentities : List OpenIdentity)

theorem consists_relayData (pipeId : PipeId) (payload : List UInt8) :
    Consists event state (state.relayData sender pipeId payload) := by
  unfold relayData
  split
  · exact .said rfl
  · split
    · exact .said rfl
    · split
      · exact consists_protocolReset pipeId _
      · exact .said (by simp)

theorem consists_relayFin (pipeId : PipeId) :
    Consists event state (state.relayFin sender pipeId) := by
  unfold relayFin
  split
  · exact .said rfl
  · rename_i pipe stored
    split
    · exact .said rfl
    · split
      · exact consists_protocolReset pipeId _
      · split
        · exact .said rfl
        · have part : Part event state [] _ := .finished sender stored
          dsimp only
          split
          · exact .after part (.edited (by simp) (.removed pipeId))
          · exact .edited (by simp) part

theorem consists_relayClose (pipeId : PipeId) :
    Consists event state (state.relayClose sender pipeId) := by
  unfold relayClose
  split
  · exact .said rfl
  · split
    · exact .said rfl
    · split
      · exact consists_protocolReset pipeId _
      · exact .edited (by simp) (.removed pipeId)

theorem consists_relayReset (pipeId : PipeId) (code : ErrorCode) (message : String) :
    Consists event state (state.relayReset sender pipeId code message) := by
  unfold relayReset
  split
  · exact .said rfl
  · split
    · exact .said rfl
    · split
      · exact consists_protocolReset pipeId _
      · exact .edited (by simp) (.removed pipeId)

theorem consists_fromSdk {sender : SessionId}
    {frameName : String} {relay : PipeEndpoint → List GatewayAction × GatewayState}
    (relays : ∀ sender, Consists event state (relay sender)) :
    Consists event state
      (answered (state.fromSdk sender pipeId frameName relay).1,
        (state.fromSdk sender pipeId frameName relay).2) := by
  unfold fromSdk
  split
  · exact .said rfl
  · exact relays _

theorem consists_fromPeer {relay : PipeId → List GatewayAction × GatewayState}
    (relays : ∀ pipeId, Consists event state (relay pipeId)) :
    Consists event state (state.fromPeer key relay) := by
  unfold fromPeer
  split
  · exact .said rfl
  · exact relays _

theorem consists_peerReset (key : PeerStreamKey) (code : ErrorCode) (message : String) :
    Consists event state (state.peerReset key code message) := by
  apply consists_fromPeer
  intro pipeId
  split
  · split <;> rename_i removal
    · exact consists_of_removePipe removal rfl
    · exact consists_of_removePipe removal (by simp)
  · exact consists_relayReset (.peer key) pipeId code message

/-! ## Offers -/

section

variable (pipeId : PipeId)

theorem consists_offerAccepted :
    Consists event state
      (answered (state.offerAccepted acceptor pipeId).1,
        (state.offerAccepted acceptor pipeId).2) := by
  unfold offerAccepted
  split
  · exact .said rfl
  · split
    · exact .said rfl
    · split
      · exact consists_protocolReset pipeId _
      · split
        · split <;> rename_i removal
          · exact consists_of_removePipe removal rfl
          · exact consists_of_removePipe removal (by simp [answered])
        · rename_i room
          have part : Part event state [] (state.promoteOffer pipeId).2 :=
            .promoted pipeId (Bool.eq_false_iff.mpr room)
          split <;> rename_i promotion <;> rw [promotion] at part
          · exact .edited rfl part
          · exact .edited (by simp [answered]) part

theorem consists_offerRejected (code : ErrorCode) (message : String) :
    Consists event state
      (answered (state.offerRejected acceptor pipeId code message).1,
        (state.offerRejected acceptor pipeId code message).2) := by
  unfold offerRejected
  split
  · exact .said rfl
  · split
    · exact .said rfl
    · split
      · exact consists_protocolReset pipeId _
      · split <;> rename_i removal
        · exact consists_of_removePipe removal rfl
        · exact consists_of_removePipe removal (by simp [answered])

theorem consists_offerDeliveryRejected :
    Consists event state (state.offerDeliveryRejected acceptor pipeId) := by
  unfold offerDeliveryRejected
  split
  · split <;> rename_i removal
    · exact consists_of_removePipe removal rfl
    · exact consists_of_removePipe removal (by simp)
  · exact .said rfl

theorem consists_of_takeRemoteAttempt {outcome : Option RemoteOpenAttempt} {target : GatewayState}
    (taken : state.takeRemoteAttempt openIdentity = (outcome, target))
    (plain : publications actions = []) : Consists event state (actions, target) := by
  have part : Part event state [] (state.takeRemoteAttempt openIdentity).2 :=
    .dropped openIdentity
  rw [taken] at part
  exact .edited plain part

theorem consists_cancelRemoteAttempt :
    Consists event state (state.cancelRemoteAttempt dialer pipeId) := by
  unfold cancelRemoteAttempt
  split
  · exact .said rfl
  · split
    · exact .said rfl
    · dsimp only
      split <;> rename_i taken
      · exact consists_of_takeRemoteAttempt taken rfl
      · split
        · exact consists_of_takeRemoteAttempt taken rfl
        · exact consists_of_takeRemoteAttempt taken rfl
        · exact consists_of_takeRemoteAttempt taken (by simp)

theorem consists_cancel :
    Consists event state
      (answered (state.cancel dialer pipeId).1, (state.cancel dialer pipeId).2) := by
  unfold cancel
  split
  · exact consists_cancelRemoteAttempt dialer pipeId
  · split
    · exact .said rfl
    · split <;> rename_i removal
      · exact consists_of_removePipe removal rfl
      · exact consists_of_removePipe removal (by simp [answered])

end

/-- Pipes are removed one by one; nothing that is said is a publication. -/
theorem parts_removePipes {answer : GatewayState → PipeId → PipeEntry → List GatewayAction}
    (plain : ∀ state pipeId pipe, publications (answer state pipeId pipe) = [])
    (pipeIds : List PipeId) (state : GatewayState) :
    publications (removePipes answer pipeIds state).1 = [] ∧
      Parts event state [] (removePipes answer pipeIds state).2 := by
  induction pipeIds generalizing state with
  | nil => exact ⟨rfl, .refl state⟩
  | cons pipeId pipeIds ih =>
    have part : Part event state [] (state.removePipe pipeId).2 := .removed pipeId
    unfold removePipes
    split <;> rename_i removal <;> rw [removal] at part
    · exact ⟨(ih _).1, .silent part (ih _).2⟩
    · exact ⟨by simp [plain, (ih _).1], .silent part (ih _).2⟩

theorem advertised_removePipe (state : GatewayState) (pipeId : PipeId) :
    (state.removePipe pipeId).2.advertised = state.advertised := by
  unfold removePipe
  split <;> rfl

theorem advertised_removePipes (answer : GatewayState → PipeId → PipeEntry → List GatewayAction)
    (pipeIds : List PipeId) (state : GatewayState) :
    (removePipes answer pipeIds state).2.advertised = state.advertised := by
  induction pipeIds generalizing state with
  | nil => rfl
  | cons pipeId pipeIds ih =>
    rw [removePipes_cons_snd, ih, advertised_removePipe]

/-! ## Local offers -/

theorem not_hasSession_of_contains (absent : ¬ state.sessions.contains sessionId = true) :
    ¬ state.HasSession sessionId := by
  rintro ⟨session, found⟩
  exact absent (by simp [found])

/-- An offer to the session of a binding, or the removal of a binding whose
session is gone. -/
theorem consists_offerLocalAt {origin : GatewayState} (reached : Parts event origin [] state)
    (stored : ∃ bindingId, state.registry.byId.get bindingId = some binding)
    (offers : Parts event origin [] (state.insertOffer pipeId (localOffer pipeId binding now))) :
    Consists event origin (state.offerLocalAt pipeId binding now) := by
  obtain ⟨bindingId, stored⟩ := stored
  unfold offerLocalAt Consists
  dsimp only
  split
  · rw [publications_sendTo]
    exact offers
  · rename_i absent
    simp only [publications_append, publications_openFailed, publications_registrationPublication]
    exact reached.trans
      (Parts.single (.lapsed stored (not_hasSession_of_contains absent)))

theorem lists_of_selectExcluding {excluded : SessionId}
    (selected : (registry.selectExcluding destination excluded).1 = some binding) :
    (registry.selectExcluding destination excluded).2.Lists destination binding := by
  unfold LocalRegistry.selectExcluding at selected ⊢
  split at selected
  · cases selected
  · rename_i bindingIds listed
    dsimp only at selected ⊢
    split at selected
    · cases selected
    · rename_i some_candidate
      have member := List.mem_of_getElem? selected
      unfold LocalRegistry.eligible at member
      rw [List.mem_filter, List.mem_filterMap] at member
      obtain ⟨⟨bindingId, named, stored⟩, -⟩ := member
      rw [if_neg some_candidate]
      exact ⟨bindingIds, bindingId, listed, named, stored⟩

theorem consists_dial {dialer : SessionId} {connectionId : Nat}
    (applies : event.Applies dialer (.dial connectionId destination)) (now : Instant) :
    Consists event state (state.dial dialer connectionId destination now) := by
  have selects : Part event state []
      { state with
        registry := (state.registry.selectExcluding destination dialer).2 } :=
    .selected destination dialer
  unfold dial
  split
  · exact .said rfl
  · split
    · exact .said (by simp)
    · rename_i serves
      have serving := Bool.eq_false_iff.mpr serves
      split
      · exact .said (by simp)
      · split
        · exact .said (by simp)
        · rename_i room
          have admits := Bool.eq_false_iff.mpr room
          dsimp only
          split
          · rename_i binding selected
            have listed := lists_of_selectExcluding selected
            exact consists_offerLocalAt (.single selects) listed.stored
              (.silent selects (.single (.offered now applies admits listed serving)))
          · split
            · split
              · exact .edited (by simp) selects
              · exact .edited (by simp) selects
            · split
              · exact .edited (by simp) selects
              · rename_i fewer
                exact .after selects (.edited rfl
                  (.started applies admits (Nat.lt_of_not_le fewer) serving))

/-! ## Sessions and publications -/

theorem register_eq_created
    (outcome : registry.register draws sessionId destination = (.created binding, target)) :
    registry.bindingForSessionDestination sessionId destination = none ∧
      binding = ⟨draws.unique registry.byId.keys.toFinset, destination,
        sessionId⟩ ∧ target = registry.insert binding := by
  unfold LocalRegistry.register at outcome
  split at outcome
  · cases outcome
  · rename_i missing
    cases outcome
    exact ⟨missing, rfl, rfl⟩

theorem register_eq_existing
    (outcome : registry.register draws sessionId destination =
      (.existing binding, target)) : target = registry := by
  unfold LocalRegistry.register at outcome
  split at outcome
  · cases outcome
    rfl
  · cases outcome

theorem consists_publish (draws : Draws BindingId)
    (applies : event.Applies sessionId (.publish requestId destination))
    (present : state.HasSession sessionId) :
    Consists event state (state.publish draws sessionId requestId destination) := by
  unfold publish
  split
  · exact .said (by simp)
  · rename_i serves
    split
    · exact .said (by simp)
    · rename_i admits
      cases outcome : state.registry.register draws sessionId destination with
      | mk registration =>
        cases registration with
        | created =>
          have room :
              state.registry.bindingCount < state.limits.maxBindings := by
            by_contra full
            refine admits ⟨Nat.le_of_not_lt full, ?_⟩
            simp [LocalRegistry.containsSessionDestination, (register_eq_created outcome).1]
          unfold Consists
          simp only [publications_append, publications_sendTo,
            publications_registrationPublication, List.nil_append]
          exact Parts.single (.registered draws applies present room outcome
            (Bool.eq_false_iff.mpr serves))
        | existing =>
          obtain rfl := register_eq_existing outcome
          exact .said (by simp)

theorem consists_unpublish
    (sent : event.frame? = some (sessionId, .unpublish requestId bindingId)) :
    Consists event state (state.unpublish sessionId requestId bindingId) := by
  unfold unpublish
  split
  · rename_i registry outcome
    obtain rfl : registry = state.registry := by
      grind [LocalRegistry.removeOwned, LocalRegistry.remove]
    exact .said (by simp)
  · rename_i binding registry outcome
    have part : Part event state _ _ := .unregistered sent outcome
    obtain ⟨plain, cancelled⟩ := parts_removePipes
      (fun state pipeId pipe => state.publications_dialerFailure pipe pipeId
        .unavailable .notObserved "selected Binding was removed before admission")
      (pipesWhere { state with registry := registry } fun pipe =>
        pipe.bindingId = bindingId ∧ pipe.phase = .offered)
      { state with registry := registry }
    unfold Consists cancelPendingBinding
    simp only [publications_append, plain, publications_sendTo, List.nil_append,
      publications_registrationPublication, advertised_removePipes]
    exact Parts.head part cancelled

theorem parts_abandonAttempts (state : GatewayState) :
    publications (abandonAttempts openIdentities state).1 = [] ∧
      Parts event state [] (abandonAttempts openIdentities state).2 := by
  induction openIdentities generalizing state with
  | nil => exact ⟨rfl, .refl state⟩
  | cons openIdentity openIdentities ih =>
    have part : Part event state [] (state.takeRemoteAttempt openIdentity).2 :=
      .dropped openIdentity
    unfold abandonAttempts
    split <;> rename_i taken <;> rw [taken] at part
    · exact ⟨(ih _).1, .silent part (ih _).2⟩
    · exact ⟨by simp [(ih _).1], .silent part (ih _).2⟩

theorem advertised_abandonAttempts (state : GatewayState) :
    (abandonAttempts openIdentities state).2.advertised = state.advertised := by
  induction openIdentities generalizing state with
  | nil => rfl
  | cons openIdentity openIdentities ih =>
    rw [abandonAttempts_cons_snd, ih]
    unfold takeRemoteAttempt
    split <;> rfl

end

theorem consists_removeSession (outside : event.session? = none) (sessionId : SessionId) :
    Consists event state (state.removeSession sessionId) := by
  unfold removeSession
  split
  · exact .said rfl
  · have part : Part event state _ (state.withoutSession sessionId) :=
      .left sessionId outside
    obtain ⟨unsaid, abandoned⟩ := parts_abandonAttempts
      ((state.withoutSession sessionId).attemptsOf sessionId)
      (state.withoutSession sessionId)
    obtain ⟨plain, disconnected⟩ := parts_removePipes
      (fun state => state.publications_disconnectedPipe sessionId)
      ((abandonAttempts ((state.withoutSession sessionId).attemptsOf sessionId)
        (state.withoutSession sessionId)).2.pipesWhere fun pipe =>
          pipe.dialer = .sdk sessionId ∨ pipe.acceptor = .sdk sessionId)
      (abandonAttempts ((state.withoutSession sessionId).attemptsOf sessionId)
        (state.withoutSession sessionId)).2
    have parts := Parts.head part (abandoned.trans disconnected)
    unfold withoutSession at unsaid plain parts
    unfold Consists
    simp only [publications_append, unsaid, plain, List.nil_append]
    rw [List.append_nil] at parts
    convert parts using 1
    split
    · simp only [publications_registrationPublication, advertised_removePipes,
        advertised_abandonAttempts]
      rfl
    · rfl

theorem consists_removeSessions (outside : event.session? = none)
    (sessionIds : List SessionId) (state : GatewayState) :
    Consists event state (removeSessions sessionIds state) := by
  induction sessionIds generalizing state with
  | nil => exact .said rfl
  | cons sessionId sessionIds ih =>
    have first : Consists event state (state.removeSession sessionId) :=
      consists_removeSession outside sessionId
    unfold Consists at first ih ⊢
    simp only [removeSessions, publications_append]
    exact first.trans (ih _)

theorem consists_expireOffers (outside : event.session? = none) (now : Instant)
    (order : List SessionId → List SessionId) :
    Consists event state (state.expireOffers now order) := by
  obtain ⟨plain, failed⟩ := parts_removePipes
    (fun state pipeId pipe => state.publications_dialerFailure pipe pipeId
      .deadlineExceeded .maybeObserved
      "Acceptor did not answer OFFER before the Gateway deadline")
    (state.expiredOffers now) state
  have removed := consists_removeSessions outside
    (order (state.expiredListeners now))
    (removePipes (fun state pipeId pipe => state.dialerFailure pipe pipeId
      .deadlineExceeded .maybeObserved
      "Acceptor did not answer OFFER before the Gateway deadline")
      (state.expiredOffers now) state).2
  unfold Consists at removed
  unfold expireOffers Consists
  simp only [publications_append, plain, List.nil_append]
  exact failed.trans removed

/-! ## Control operations -/

section

variable (state : GatewayState) (sessionId : SessionId) (operation : ControlOperation)
  (now : Instant)

@[simp]
theorem publications_prepareAuthorization :
    publications ((state.prepareAuthorization sessionId operation now).1.getD []) = [] := by
  unfold prepareAuthorization
  split
  · rfl
  · split
    · simp
    · split
      · simp
      · dsimp only
        split
        · rfl
        · simp

theorem parts_prepareAuthorization :
    Parts event state [] (state.prepareAuthorization sessionId operation now).2 := by
  refine kept_prepareAuthorization (fun middle before entry controlRate parts present => ?_)
    (Parts.refl state) now
  exact parts.trans (.single (.noted entry controlRate present))

end

theorem consists_applyControlAt (draws : Draws BindingId)
    (applies : event.Applies sessionId operation)
    (present : state.HasSession sessionId) (now : Instant) :
    Consists event state (state.applyControlAt draws sessionId operation now) := by
  cases operation with
  | publish =>
    exact consists_publish draws applies present
  | dial => exact consists_dial applies now

theorem consists_commitAuthorized {verified : VerifiedAuthorization}
    (commits : event = .commit sessionId operation verified draws now) :
    Consists event state (state.commitAuthorized draws sessionId operation verified now) := by
  unfold commitAuthorized
  split
  · exact .said rfl
  · rename_i present
    split
    · exact .said (by simp)
    · rename_i authorized
      have covered : verified.authorizes operation now = true := by
        simpa using authorized
      apply consists_applyControlAt draws
      · rw [commits]
        exact ⟨rfl, rfl, covered⟩
      · have found : state.sessions.get sessionId ≠ none := by
          simpa using present
        exact Option.ne_none_iff_exists'.mp found

theorem consists_applyFrame (sent : event.frame? = some (sessionId, frame)) :
    Consists event state
      (answered (state.applyFrame sessionId frame).1, (state.applyFrame sessionId frame).2) := by
  unfold applyFrame
  split
  · exact .said rfl
  · split
    · exact consists_unpublish sent
    · exact consists_offerAccepted sessionId _
    · exact consists_offerRejected sessionId _ _ _
    · exact consists_fromSdk fun sender => consists_relayData sender _ _
    · exact consists_fromSdk fun sender => consists_relayFin sender _
    · exact consists_fromSdk fun sender => consists_relayClose sender _
    · exact consists_fromSdk fun sender => consists_relayReset sender _ _ _
    · exact consists_cancel sessionId _
    · exact .said (by simp [answered])
    all_goals exact .said rfl

theorem consists_handle (sent : event.frame? = some (sessionId, frame)) :
    Consists event state
      (answered (state.handle sessionId frame now).1, (state.handle sessionId frame now).2) := by
  unfold handle
  split
  · rename_i operation token taken
    have plain := state.publications_prepareAuthorization sessionId operation now
    have prepared : Parts event state [] _ :=
      state.parts_prepareAuthorization sessionId operation now
    split <;> rename_i outcome <;> rw [outcome] at plain prepared <;>
      unfold Consists
    · simp only [answered, Option.getD_some] at plain ⊢
      rw [plain]
      exact prepared
    · simp only [answered, publications_authorizationFailed]
      exact prepared
  · rename_i other taken
    obtain rfl : other = frame := by
      cases frame <;> cases taken <;> rfl
    exact consists_applyFrame sent

theorem consists_handleAt (handles : event = .handleAt draws sessionId frame now) :
    Consists event state
      (answered (state.handleAt draws sessionId frame now).1,
        (state.handleAt draws sessionId frame now).2) := by
  unfold handleAt
  split
  · rename_i operation token taken
    have plain := state.publications_prepareAuthorization sessionId operation now
    have prepared : Parts event state [] _ :=
      state.parts_prepareAuthorization sessionId operation now
    split <;> rename_i outcome <;> rw [outcome] at plain prepared <;>
      unfold Consists
    · simp only [answered, Option.getD_some] at plain ⊢
      rw [plain]
      exact prepared
    · have applies : event.Applies sessionId operation := by
        rw [handles]
        exact ⟨rfl, token, taken⟩
      have present : (state.prepareAuthorization sessionId operation
          now).2.HasSession sessionId :=
        hasSession_of_prepareAuthorization (by rw [outcome])
      rw [outcome] at present
      exact prepared.trans (consists_applyControlAt draws applies present now)
  · rename_i other taken
    obtain rfl : other = frame := by
      cases frame <;> cases taken <;> rfl
    apply consists_applyFrame
    rw [handles]
    rfl

theorem consists_beginDraining (drains : event = .beginDraining) :
    Consists event state state.beginDraining := by
  unfold beginDraining
  split
  · exact .said rfl
  · rename_i serving
    have withdrawn : ∀ sessionIds : List SessionId,
        publications (sessionIds.map fun sessionId =>
          GatewayAction.publishRegistration sessionId []) =
          sessionIds.map fun sessionId => (sessionId, []) := by
      intro sessionIds
      induction sessionIds with
      | nil => rfl
      | cons sessionId sessionIds ih =>
        exact congrArg (List.cons (sessionId, [])) ih
    unfold Consists
    rw [withdrawn]
    exact .single (.drained drains (Bool.eq_false_iff.mpr serving))

/-! ## Remote opens -/

section

variable (openIdentity : OpenIdentity) (code : ErrorCode) (observation : PeerObservation)
  (message : String)

theorem consists_failRemoteAttempt :
    Consists event state (state.failRemoteAttempt openIdentity code observation message) := by
  unfold failRemoteAttempt
  split <;> rename_i taken
  · exact consists_of_takeRemoteAttempt taken rfl
  · exact consists_of_takeRemoteAttempt taken (by simp)

theorem consists_routeResolved (outside : event.session? = none)
    (openIdentity : OpenIdentity) (bindings : List BindingProjection) (now : Instant) :
    Consists event state (state.routeResolved openIdentity bindings now) := by
  unfold routeResolved
  split
  · exact .said rfl
  · rename_i attempt attempted
    split
    · exact .said rfl
    · split
      · exact consists_failRemoteAttempt _ _ _ _
      · split
        · exact consists_failRemoteAttempt _ _ _ _
        · dsimp only
          have taken : Part event state []
              (state.takeRemoteAttempt openIdentity).2 := .dropped openIdentity
          split
          · split
            · exact .edited (by simp) taken
            · rename_i binding current
              obtain ⟨stored, matching⟩ := Option.filter_eq_some_iff.mp current
              have held := stored
              rw [registry_takeRemoteAttempt] at held
              exact consists_offerLocalAt (.single taken) ⟨_, stored⟩
                (.single (.relocated now outside attempted ⟨_, held⟩
                  (of_decide_eq_true matching).2))
          · exact .edited rfl (.asked openIdentity _)

theorem consists_routeFailed :
    Consists event state (state.routeFailed openIdentity code message) := by
  unfold routeFailed
  split
  · exact consists_failRemoteAttempt _ _ _ _
  · exact .said rfl

theorem consists_peerOpenCommitted (key : PeerStreamKey) :
    Consists event state (state.peerOpenCommitted openIdentity key) := by
  unfold peerOpenCommitted
  split
  · split
    · exact .said rfl
    · exact .said rfl
  · split
    · exact .said rfl
    · exact .edited rfl (.awaited openIdentity key _)
  · exact .said rfl
  · exact .said rfl

theorem consists_peerOpenCommitFailed :
    Consists event state (state.peerOpenCommitFailed openIdentity code observation message) := by
  unfold peerOpenCommitFailed
  split
  · exact consists_failRemoteAttempt _ _ _ _
  · exact .said rfl

end

theorem consists_receivePeerOpenAt {relaySessionId : SessionId}
    (opens : event = .receivePeerOpen key openIdentity destination relaySessionId bindingId now) :
    Consists event state (state.receivePeerOpenAt key openIdentity destination
      relaySessionId bindingId now) := by
  unfold receivePeerOpenAt
  split
  · exact .said rfl
  · rename_i serves
    split
    · exact .said rfl
    · split
      · exact .said rfl
      · split
        · exact .said rfl
        · rename_i room
          split
          · exact .said rfl
          · rename_i binding current
            dsimp only
            split
            · exact .said rfl
            · obtain ⟨stored, _⟩ := Option.filter_eq_some_iff.mp current
              obtain ⟨_, matching⟩ := Option.filter_eq_some_iff.mp stored
              obtain ⟨rfl, -⟩ := of_decide_eq_true matching
              have admits : state.pendingCapacityReached = false := by
                rw [Bool.or_eq_true, not_or] at room
                exact Bool.eq_false_iff.mpr room.2
              exact .edited (by simp) (.offeredPeer opens admits rfl
                (Bool.eq_false_iff.mpr serves))

theorem consists_admitPeerOpened (outside : event.session? = none)
    (key : PeerStreamKey) (openIdentity : OpenIdentity) (bindingId : BindingId) (now : Instant) :
    Consists event state (state.admitPeerOpened key openIdentity bindingId now) := by
  unfold admitPeerOpened
  cases attempted : state.remoteOpenAttempts.get openIdentity with
  | none =>
    simp only [takeRemoteAttempt, attempted]
    exact .said rfl
  | some =>
    have dropped : Part event state []
        (state.takeRemoteAttempt openIdentity).2 := .dropped openIdentity
    rw [takeRemoteAttempt_eq attempted]
    dsimp only
    split
    · split
      · exact .edited (by simp) dropped
      · exact .edited (by simp) dropped
    · rename_i usable
      have room : state.livePipeLimitReached = false := by
        rw [Bool.or_eq_true, not_or] at usable
        have reached := usable.2
        simp only [takeRemoteAttempt, attempted] at reached
        exact Bool.eq_false_iff.mpr reached
      exact .edited (by simp) (.admitted bindingId now outside attempted room)

theorem consists_peerOpenedAt (outside : event.session? = none)
    (key : PeerStreamKey) (openIdentity : OpenIdentity) (now : Instant) :
    Consists event state (state.peerOpenedAt key openIdentity now) := by
  unfold peerOpenedAt
  split
  · split
    · exact .said rfl
    · exact .said rfl
  · exact consists_admitPeerOpened outside key openIdentity _ now
  · exact consists_admitPeerOpened outside key openIdentity _ now
  · exact .said rfl

variable (key : PeerStreamKey) (openIdentity : OpenIdentity)

theorem consists_peerOpenFailed (code : ErrorCode) (observation : PeerObservation)
    (message : String) :
    Consists event state (state.peerOpenFailed key openIdentity code observation message) := by
  unfold peerOpenFailed
  split
  · exact consists_failRemoteAttempt _ _ _ _
  · exact .said rfl

theorem consists_peerTransportLostStream (observation : PeerObservation) :
    Consists event state (state.peerTransportLostStream key openIdentity observation) := by
  have plain : ∀ (target : GatewayState) (pipeId : PipeId)
      (sessionIds : List SessionId),
      publications (sessionIds.flatMap fun sessionId =>
        target.sendTo sessionId
          (.reset pipeId .unavailable "PeerTransport was lost")) = [] := by
    intro target pipeId sessionIds
    induction sessionIds with
    | nil => rfl
    | cons sessionId sessionIds ih =>
      simp only [List.flatMap_cons, publications_append, publications_sendTo, ih, List.append_nil]
  unfold peerTransportLostStream
  split
  · exact consists_failRemoteAttempt _ _ _ _
  · split
    · exact .said rfl
    · split
      · split <;> rename_i removal
        · exact consists_of_removePipe removal rfl
        · exact consists_of_removePipe removal (plain _ _ _)
      · exact .said rfl

end GatewayState

/-! ## Every event -/

namespace World

variable {world : World} {event : Event}

/-- Whatever is asked of the state core, only the renewal of an iteration order is
bound to the state it finds. -/
def Arranges (world : World) : Event → Prop
  | .rehash target => world.state.Rehashed target
  | _ => True

/-- Any event with any arguments. -/
def AnyStep (world : World) (event : Event) (target : World) : Prop :=
  world.Arranges event ∧ target = world.apply event

theorem arranges_of_possible (possible : world.Possible event) : world.Arranges event := by
  cases event with
  | rehash => exact possible
  | _ => trivial

/-- Every event, in every state, is a sequence of parts. -/
theorem parts_apply (arranges : world.Arranges event) :
    Parts event world.state (publications (world.actions event)) (world.apply event).state := by
  obtain ⟨state, authorizing⟩ := world
  cases event with
  | addSession draws now =>
    change Parts _ state [] (state.addSession draws now).2
    unfold GatewayState.addSession
    split
    · exact .refl state
    · rename_i admits
      have absent := draws.unique_notMem state.sessions.keys.toFinset
      rw [List.mem_toFinset, Table.mem_keys, not_exists] at absent
      have absent := Option.eq_none_iff_forall_ne_some.mpr absent
      refine .single (.joined _ ?_ absent ?_)
      · by_contra full
        simp only [GatewayState.sessionRejection, Nat.le_of_not_lt full, if_true] at admits
        split at admits <;> exact admits rfl
      · by_contra drains
        simp only [GatewayState.sessionRejection, Bool.eq_true_of_not_eq_false drains,
          if_true] at admits
        exact admits rfl
  | removeSession => exact consists_removeSession rfl _
  | prepare sessionId operation now =>
    have prepared : Parts (.prepare sessionId operation now) state [] _ :=
      state.parts_prepareAuthorization sessionId operation now
    simp only [World.actions, World.apply, publications_prepareAuthorization]
    split <;> rename_i outcome <;> rw [outcome] at prepared <;> exact prepared
  | commit =>
    exact consists_commitAuthorized rfl
  | refuse =>
    simp only [World.actions, World.apply, publications_authorizationFailed]
    exact .refl state
  | handle => exact consists_handle rfl
  | handleAt => exact consists_handleAt rfl
  | offerDeliveryRejected acceptor pipeId =>
    exact consists_offerDeliveryRejected acceptor pipeId
  | expireOffers now order => exact consists_expireOffers rfl now order
  | beginDraining => exact consists_beginDraining rfl
  | routeResolved openIdentity bindings now =>
    exact consists_routeResolved rfl openIdentity bindings now
  | routeFailed openIdentity code message =>
    exact consists_routeFailed openIdentity code message
  | peerOpenCommitted openIdentity key =>
    exact consists_peerOpenCommitted openIdentity key
  | peerOpenCommitFailed openIdentity code observation message =>
    exact consists_peerOpenCommitFailed openIdentity code
      observation message
  | receivePeerOpen =>
    exact consists_receivePeerOpenAt rfl
  | peerOpened key openIdentity now =>
    exact consists_peerOpenedAt rfl key openIdentity now
  | peerOpenFailed key openIdentity code observation message =>
    exact consists_peerOpenFailed key openIdentity code observation
      message
  | peerTransportLostStream key openIdentity observation =>
    exact consists_peerTransportLostStream key openIdentity
      observation
  | peerData key payload =>
    exact consists_fromPeer fun pipeId =>
      consists_relayData (.peer key) pipeId payload
  | peerFin key =>
    exact consists_fromPeer fun pipeId =>
      consists_relayFin (.peer key) pipeId
  | peerClose key =>
    exact consists_fromPeer fun pipeId =>
      consists_relayClose (.peer key) pipeId
  | peerReset key code message =>
    exact consists_peerReset key code message
  | rehash => exact .single (.rehashed arranges)

end World

end RelayGate.Gateway
