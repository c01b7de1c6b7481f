import RelayGate.Gateway.Publicity

/-!
# Who may create what

A warrant names the bindings, the attempts and the Pipes of local dialers that a
Gateway may hold.  An event keeps to a warrant when the operations it applies are
covered and when the Pipes that come of an attempt are; it then leads from states
within the warrant to states within it, whatever else it does.
-/

namespace RelayGate.Gateway

open Library GatewayState

/-- What a Gateway may hold for its own sessions. -/
structure Warrant where
  Binding : Gateway.Binding → Prop
  Attempt : PipeId → Destination → Prop
  Pipe : PipeId → SessionId → PipeEndpoint → Prop

namespace Warrant

/-- The operations that an event applies are covered, and so are the Pipes that
come of an attempt. -/
structure Covers (warrant : Warrant) (event : Event) : Prop where
  published : ∀ {sessionId : SessionId} {requestId : Nat} {destination : Destination},
    event.Applies sessionId (.publish requestId destination) →
      ∀ bindingId, warrant.Binding ⟨bindingId, destination, sessionId⟩
  attempted : ∀ {pipeId : PipeId} {destination : Destination},
    event.Applies pipeId.originSessionId
        (.dial pipeId.connectionId destination) →
      warrant.Attempt pipeId destination
  offered : ∀ {pipeId : PipeId} {binding : Gateway.Binding},
    event.Applies pipeId.originSessionId
        (.dial pipeId.connectionId binding.destination) →
      warrant.Binding binding →
      warrant.Pipe pipeId pipeId.originSessionId (.sdk binding.sessionId)
  relocated : ∀ {pipeId : PipeId} {binding : Gateway.Binding},
    event.session? = none → warrant.Attempt pipeId binding.destination →
      warrant.Binding binding →
      warrant.Pipe pipeId pipeId.originSessionId (.sdk binding.sessionId)
  admitted : ∀ {pipeId : PipeId} {destination : Destination},
    event.session? = none → warrant.Attempt pipeId destination →
      ∀ key, warrant.Pipe pipeId pipeId.originSessionId (.peer key)

/-- The bindings, attempts and local dialers of a state are warranted. -/
structure Holds (warrant : Warrant) (state : GatewayState) : Prop where
  bindings : ∀ {bindingId : BindingId} {binding : Gateway.Binding},
    state.registry.byId.get bindingId = some binding → warrant.Binding binding
  attempts : ∀ {openIdentity : OpenIdentity} {attempt : RemoteOpenAttempt},
    state.remoteOpenAttempts.get openIdentity = some attempt →
      warrant.Attempt attempt.pipeId attempt.destination
  pipes : ∀ {pipeId : PipeId} {pipe : PipeEntry} {sessionId : SessionId},
    state.pipes.get pipeId = some pipe → pipe.dialer = .sdk sessionId →
      warrant.Pipe pipeId sessionId pipe.acceptor

/-- What a state holds already. -/
def held (state : GatewayState) : Warrant where
  Binding binding :=
    ∃ bindingId, state.registry.byId.get bindingId = some binding
  Attempt pipeId destination :=
    ∃ openIdentity attempt,
      state.remoteOpenAttempts.get openIdentity = some attempt ∧
        attempt.pipeId = pipeId ∧ attempt.destination = destination
  Pipe pipeId sessionId acceptor :=
    ∃ pipe, state.pipes.get pipeId = some pipe ∧
      pipe.dialer = .sdk sessionId ∧ pipe.acceptor = acceptor

section Edits

variable {pipeId : PipeId} {pipe : PipeEntry} {warrant : Warrant} {event : Event}
  {state target : GatewayState} {openIdentity : OpenIdentity}
  {published : List Publication}

section

variable (holds : warrant.Holds state)
include holds

/-- A warrant that covers more holds where one that covers less does. -/
theorem Holds.imp {wider : Warrant}
    (bindings : ∀ binding, warrant.Binding binding → wider.Binding binding)
    (attempts : ∀ pipeId destination,
      warrant.Attempt pipeId destination → wider.Attempt pipeId destination)
    (pipes : ∀ pipeId sessionId acceptor,
      warrant.Pipe pipeId sessionId acceptor →
        wider.Pipe pipeId sessionId acceptor) : wider.Holds state where
  bindings stored := bindings _ (holds.bindings stored)
  attempts stored := attempts _ _ (holds.attempts stored)
  pipes stored dialed := pipes _ _ _ (holds.pipes stored dialed)

/-- A state with the same attempts and Pipes and fewer bindings. -/
theorem Holds.of_registry
    (bindings : ∀ {bindingId binding},
      target.registry.byId.get bindingId = some binding →
        state.registry.byId.get bindingId = some binding)
    (attempts : target.remoteOpenAttempts = state.remoteOpenAttempts)
    (pipes : target.pipes = state.pipes) : warrant.Holds target :=
  ⟨fun stored => holds.bindings (bindings stored),
    fun stored => holds.attempts (attempts ▸ stored),
    fun stored => holds.pipes (pipes ▸ stored)⟩

theorem Holds.inserted (registry : target.registry = state.registry)
    (attempts : target.remoteOpenAttempts = state.remoteOpenAttempts)
    (pipes : target.pipes = state.pipes.insert pipeId pipe)
    (warranted : ∀ {sessionId : SessionId}, pipe.dialer = .sdk sessionId →
      warrant.Pipe pipeId sessionId pipe.acceptor) : warrant.Holds target where
  bindings stored := holds.bindings (registry ▸ stored)
  attempts stored := holds.attempts (attempts ▸ stored)
  pipes := by
    intro other entry sessionId stored dialed
    rw [pipes, Table.get_insert] at stored
    split at stored
    · rename_i same
      cases stored
      rw [same]
      exact warranted dialed
    · exact holds.pipes stored dialed

/-- A Pipe whose ends stay what they are. -/
theorem Holds.changed {after : PipeEntry} (stored : state.pipes.get pipeId = some pipe)
    (registry : target.registry = state.registry)
    (attempts : target.remoteOpenAttempts = state.remoteOpenAttempts)
    (pipes : target.pipes = state.pipes.insert pipeId after)
    (dialer : after.dialer = pipe.dialer) (acceptor : after.acceptor = pipe.acceptor) :
    warrant.Holds target := by
  apply holds.inserted registry attempts pipes
  intro sessionId dialed
  rw [acceptor]
  exact holds.pipes stored (dialer ▸ dialed)

theorem Holds.insertOffer
    (warranted : ∀ {sessionId : SessionId}, pipe.dialer = .sdk sessionId →
      warrant.Pipe pipeId sessionId pipe.acceptor) :
    warrant.Holds (state.insertOffer pipeId pipe) :=
  holds.inserted (by simp) (by simp [GatewayState.insertOffer])
    (state.pipes_insertOffer pipeId pipe) warranted

theorem Holds.insertOpen
    (warranted : ∀ {sessionId : SessionId}, pipe.dialer = .sdk sessionId →
      warrant.Pipe pipeId sessionId pipe.acceptor) :
    warrant.Holds (state.insertOpen pipeId pipe) :=
  holds.inserted (by simp) (by simp [GatewayState.insertOpen])
    (state.pipes_insertOpen pipeId pipe) warranted

/-- A new attempt beside those of a state. -/
theorem Holds.attempted {attempt : RemoteOpenAttempt}
    (registry : target.registry = state.registry) (pipes : target.pipes = state.pipes)
    (attempts : target.remoteOpenAttempts = state.remoteOpenAttempts.insert openIdentity attempt)
    (warranted : warrant.Attempt attempt.pipeId attempt.destination) : warrant.Holds target where
  bindings stored := holds.bindings (registry ▸ stored)
  pipes stored := holds.pipes (pipes ▸ stored)
  attempts := by
    intro other entry stored
    rw [attempts, Table.get_insert] at stored
    split at stored
    · cases stored
      exact warranted
    · exact holds.attempts stored

theorem Holds.takeRemoteAttempt (openIdentity : OpenIdentity) :
    warrant.Holds (state.takeRemoteAttempt openIdentity).2 where
  bindings stored := by
    rw [registry_takeRemoteAttempt] at stored
    exact holds.bindings stored
  attempts stored := by
    rw [get_remoteOpenAttempts_takeRemoteAttempt] at stored
    split at stored
    · cases stored
    · exact holds.attempts stored
  pipes stored := by
    rw [pipes_takeRemoteAttempt] at stored
    exact holds.pipes stored

theorem Holds.removePipe (pipeId : PipeId) : warrant.Holds (state.removePipe pipeId).2 where
  bindings stored := by
    rw [registry_removePipe] at stored
    exact holds.bindings stored
  attempts stored := by
    rw [remoteOpenAttempts_removePipe] at stored
    exact holds.attempts stored
  pipes stored := by
    rw [get_pipes_removePipe] at stored
    split at stored
    · cases stored
    · exact holds.pipes stored

theorem Holds.promoteOffer (pipeId : PipeId) : warrant.Holds (state.promoteOffer pipeId).2 := by
  unfold GatewayState.promoteOffer
  split
  · exact holds
  · rename_i pipe stored
    split
    · exact holds
    · exact holds.changed stored rfl rfl rfl rfl rfl

/-- The phase of an attempt is not the warrant's matter. -/
theorem Holds.modified {phase : RemoteOpenPhase}
    (registry : target.registry = state.registry) (pipes : target.pipes = state.pipes)
    (attempts : target.remoteOpenAttempts =
      state.remoteOpenAttempts.modify openIdentity
        fun attempt => { attempt with phase := phase }) :
    warrant.Holds target where
  bindings stored := holds.bindings (registry ▸ stored)
  pipes stored := holds.pipes (pipes ▸ stored)
  attempts := by
    intro other entry stored
    rw [attempts, Table.get_modify] at stored
    split at stored
    · obtain ⟨before, found, rfl⟩ := Option.map_eq_some_iff.mp stored
      have warranted := holds.attempts found
      exact warranted
    · exact holds.attempts stored

end

theorem destination_of_lists {registry : LocalRegistry} (filed : registry.Filed)
    {destination : Destination} {binding : Gateway.Binding}
    (listed : registry.Lists destination binding) : binding.destination = destination := by
  obtain ⟨bindingIds, bindingId, advertised, member, stored⟩ := listed
  obtain ⟨other, found, serves⟩ :=
    filed.advertised destination bindingIds advertised bindingId member
  cases found.symm.trans stored
  exact serves

/-- A part of an event that the warrant covers stays within it. -/
theorem Holds.part (holds : warrant.Holds state) (covers : warrant.Covers event)
    (hosted : state.Hosted)
    (part : Part event state published target) : warrant.Holds target := by
  cases part with
  | removed pipeId => exact holds.removePipe pipeId
  | @finished pipeId pipe sender stored =>
    refine holds.changed stored rfl rfl rfl ?_ ?_
    · unfold GatewayState.finishDirection
      split <;> rfl
    · unfold GatewayState.finishDirection
      split <;> rfl
  | promoted pipeId => exact holds.promoteOffer pipeId
  | offered now applies room listed =>
    obtain ⟨bindingId, stored⟩ := listed.stored
    obtain rfl := destination_of_lists hosted.filed listed
    apply holds.insertOffer
    intro sessionId dialed
    cases dialed
    exact covers.offered applies (holds.bindings stored)
  | offeredPeer =>
    apply holds.insertOffer
    intro sessionId dialed
    cases dialed
  | @relocated openIdentity attempt binding now outside attempted stored serves =>
    obtain ⟨bindingId, stored⟩ := stored
    apply (holds.takeRemoteAttempt openIdentity).insertOffer
    intro sessionId dialed
    cases dialed
    exact covers.relocated outside (serves ▸ holds.attempts attempted)
      (holds.bindings stored)
  | @admitted key openIdentity attempt bindingId now outside attempted room =>
    apply (holds.takeRemoteAttempt openIdentity).insertOpen
    intro sessionId dialed
    cases dialed
    exact covers.admitted outside (holds.attempts attempted) key
  | started applies =>
    exact holds.attempted rfl rfl rfl (covers.attempted applies)
  | asked | awaited => exact holds.modified rfl rfl rfl
  | dropped openIdentity => exact holds.takeRemoteAttempt openIdentity
  | @registered sessionId requestId destination binding registry draws applies
      present room created =>
    obtain ⟨-, rfl, rfl⟩ := register_eq_created created
    refine ⟨fun stored => ?_, holds.attempts, holds.pipes⟩
    change Table.get (Table.insert _ _ _) _ = _ at stored
    rw [Table.get_insert] at stored
    split at stored
    · cases stored
      exact covers.published applies _
    · exact holds.bindings stored
  | unregistered sent removed =>
    obtain rfl := removeOwned_eq_remove removed
    exact holds.of_registry
      (fun stored => (LocalRegistry.get_byId_remove_eq_some_iff.mp stored).2)
      rfl rfl
  | lapsed stored gone => exact absurd (hosted.owned _ _ stored).1 gone
  | selected =>
    refine holds.of_registry (fun stored => ?_) rfl rfl
    rwa [LocalRegistry.byId_selectExcluding] at stored
  | joined | noted => exact { holds with }
  | left sessionId =>
    refine holds.of_registry (fun stored => ?_) rfl rfl
    rw [hosted.filed.get_byId_removeSession sessionId] at stored
    exact (Option.filter_eq_some_iff.mp stored).1
  | drained => exact { holds with }
  | rehashed same =>
    exact ⟨fun stored => holds.bindings (same.byId _ ▸ stored),
      fun stored => holds.attempts (same.remoteOpenAttempts _ ▸ stored),
      fun stored => holds.pipes (same.pipes _ ▸ stored)⟩

/-- An event that the warrant covers stays within it. -/
theorem Holds.parts (parts : Parts event state published target) (holds : warrant.Holds state)
    (covers : warrant.Covers event) (hosted : state.Hosted) :
    warrant.Holds target ∧ target.Hosted := by
  induction parts with
  | refl => exact ⟨holds, hosted⟩
  | head part _ ih => exact ih (holds.part covers hosted part) (part.hosted hosted)

end Edits

end Warrant

end RelayGate.Gateway
