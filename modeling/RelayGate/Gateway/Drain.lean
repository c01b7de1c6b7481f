import RelayGate.Gateway.Capacity
import RelayGate.Gateway.Publicity

/-!
# Draining

Once a Gateway drains, its tables only lose entries: an attempt that was under
way may still become a Pipe, but nothing else is added, so the Pipes and attempts
together never become more.  When the last session has left, nothing is left to
drain, provided that no Pipe was lost from the counters before the drain began.
-/

namespace RelayGate.Gateway

open Library GatewayState Table

/-! ## What draining leaves -/

namespace GatewayState

/-- The Pipes and remote attempts of a state. -/
def unfinished (state : GatewayState) : Nat :=
  state.pipes.len + state.remoteOpenAttempts.len

/-- A draining state has been reached from another by losing entries, apart from
attempts that became Pipes. -/
structure Subsides (state target : GatewayState) : Prop where
  draining : target.draining = true
  sessions : ∀ sessionId, target.HasSession sessionId → state.HasSession sessionId
  bindings : ∀ bindingId binding,
    target.registry.byId.get bindingId = some binding →
      state.registry.byId.get bindingId = some binding
  attempts : ∀ openIdentity attempt,
    target.remoteOpenAttempts.get openIdentity = some attempt →
      ∃ before, state.remoteOpenAttempts.get openIdentity = some before ∧
        before.pipeId = attempt.pipeId ∧ before.destination = attempt.destination
  pipes : ∀ pipeId pipe, target.pipes.get pipeId = some pipe →
    (∃ before, state.pipes.get pipeId = some before) ∨
      ∃ openIdentity attempt,
        state.remoteOpenAttempts.get openIdentity = some attempt ∧
          attempt.pipeId = pipeId
  unfinished_le : target.unfinished ≤ state.unfinished

namespace Subsides

variable {state middle target : GatewayState}

theorem refl (draining : state.draining = true) : state.Subsides state where
  draining := draining
  sessions _ present := present
  bindings _ _ stored := stored
  attempts _ attempt attempted := ⟨attempt, attempted, rfl, rfl⟩
  pipes _ pipe stored := Or.inl ⟨pipe, stored⟩
  unfinished_le := Nat.le_refl _

theorem trans (before : state.Subsides middle) (after : middle.Subsides target) :
    state.Subsides target where
  draining := after.draining
  sessions sessionId present := before.sessions _ (after.sessions _ present)
  bindings bindingId binding stored :=
    before.bindings _ _ (after.bindings _ _ stored)
  attempts openIdentity attempt attempted := by
    obtain ⟨between, found, pipeId, destination⟩ := after.attempts _ _ attempted
    obtain ⟨first, attempted, pipeId', destination'⟩ := before.attempts _ _ found
    exact ⟨first, attempted, pipeId'.trans pipeId, destination'.trans destination⟩
  pipes pipeId pipe stored := by
    rcases after.pipes _ _ stored with ⟨between, found⟩ | ⟨openIdentity, between, found, same⟩
    · exact before.pipes _ _ found
    · obtain ⟨first, attempted, pipeId', _⟩ := before.attempts _ _ found
      exact Or.inr ⟨openIdentity, first, attempted, pipeId'.trans same⟩
  unfinished_le := Nat.le_trans after.unfinished_le before.unfinished_le

section

variable (draining : target.draining = true)
include draining

/-- Sessions and bindings are lost, Pipes and attempts are not. -/
theorem of_owners
    (sessions : ∀ sessionId, target.HasSession sessionId → state.HasSession sessionId)
    (bindings : ∀ bindingId binding,
      target.registry.byId.get bindingId = some binding →
        state.registry.byId.get bindingId = some binding)
    (attempts : ∀ openIdentity, target.remoteOpenAttempts.get openIdentity =
      state.remoteOpenAttempts.get openIdentity)
    (pipes : ∀ pipeId, target.pipes.get pipeId = state.pipes.get pipeId) :
    state.Subsides target where
  draining := draining
  sessions := sessions
  bindings := bindings
  attempts openIdentity attempt attempted :=
    ⟨attempt, (attempts _).symm.trans attempted, rfl, rfl⟩
  pipes pipeId pipe stored := Or.inl ⟨pipe, (pipes _).symm.trans stored⟩
  unfinished_le := by
    unfold unfinished
    rw [len_congr attempts, len_congr pipes]

/-- The Pipe table has no new keys, the other tables stay. -/
theorem of_pipes (sessions : target.sessions = state.sessions)
    (registry : target.registry = state.registry)
    (attempts : target.remoteOpenAttempts = state.remoteOpenAttempts)
    (pipes : ∀ pipeId pipe, target.pipes.get pipeId = some pipe →
      ∃ before, state.pipes.get pipeId = some before)
    (fewer : target.pipes.len ≤ state.pipes.len) : state.Subsides target where
  draining := draining
  sessions sessionId present := by
    unfold HasSession at present ⊢
    rwa [sessions] at present
  bindings bindingId binding stored := by rwa [registry] at stored
  attempts openIdentity attempt attempted := ⟨attempt, attempts ▸ attempted, rfl, rfl⟩
  pipes pipeId pipe stored := Or.inl (pipes pipeId pipe stored)
  unfinished_le := by
    unfold unfinished
    rw [attempts]
    exact Nat.add_le_add_right fewer _

/-- The entry of a stored Pipe changes. -/
theorem of_changed {pipeId : PipeId} {before pipe : PipeEntry}
    (sessions : target.sessions = state.sessions) (registry : target.registry = state.registry)
    (attempts : target.remoteOpenAttempts = state.remoteOpenAttempts)
    (pipes : target.pipes = state.pipes.insert pipeId pipe)
    (stored : state.pipes.get pipeId = some before) : state.Subsides target := by
  apply of_pipes draining sessions registry attempts
  · intro other entry found
    rw [pipes, get_insert] at found
    split at found
    · rename_i same
      exact ⟨before, same ▸ stored⟩
    · exact ⟨entry, found⟩
  · rw [pipes, len_insert_of_some pipe stored]

/-- The phase of an attempt changes. -/
theorem of_modified {openIdentity : OpenIdentity} {phase : RemoteOpenPhase}
    (sessions : target.sessions = state.sessions) (registry : target.registry = state.registry)
    (attempts : target.remoteOpenAttempts =
      state.remoteOpenAttempts.modify openIdentity
        fun attempt => { attempt with phase := phase })
    (pipes : target.pipes = state.pipes) : state.Subsides target where
  draining := draining
  sessions sessionId present := by
    unfold HasSession at present ⊢
    rwa [sessions] at present
  bindings bindingId binding stored := by rwa [registry] at stored
  attempts other attempt attempted := by
    rw [attempts, get_modify] at attempted
    split at attempted
    · rename_i same
      obtain ⟨before, found, rfl⟩ := Option.map_eq_some_iff.mp attempted
      exact ⟨before, same ▸ found, rfl, rfl⟩
    · exact ⟨attempt, attempted, rfl, rfl⟩
  pipes pipeId pipe stored := Or.inl ⟨pipe, pipes ▸ stored⟩
  unfinished_le := by
    unfold unfinished
    rw [attempts, pipes, len_modify]

end

/-- An attempt is taken, and may become a Pipe of the same identity. -/
theorem of_taken {openIdentity : OpenIdentity} {attempt : RemoteOpenAttempt}
    (attempted : state.remoteOpenAttempts.get openIdentity = some attempt)
    (draining : target.draining = true) (sessions : target.sessions = state.sessions)
    (registry : target.registry = state.registry)
    (attempts : target.remoteOpenAttempts =
      (state.takeRemoteAttempt openIdentity).2.remoteOpenAttempts)
    (pipes : target.pipes = state.pipes ∨
      ∃ pipe, target.pipes = state.pipes.insert attempt.pipeId pipe) :
    state.Subsides target where
  draining := draining
  sessions sessionId present := by
    unfold HasSession at present ⊢
    rwa [sessions] at present
  bindings bindingId binding stored := by rwa [registry] at stored
  attempts other entry found := by
    rw [attempts, get_remoteOpenAttempts_takeRemoteAttempt] at found
    split at found
    · cases found
    · exact ⟨entry, found, rfl, rfl⟩
  pipes pipeId pipe stored := by
    rcases pipes with same | ⟨made, same⟩
    · exact Or.inl ⟨pipe, same ▸ stored⟩
    · rw [same, get_insert] at stored
      split at stored
      · rename_i here
        exact Or.inr ⟨openIdentity, attempt, attempted, here.symm⟩
      · exact Or.inl ⟨pipe, stored⟩
  unfinished_le := by
    have fewer := len_takeRemoteAttempt attempted
    unfold unfinished
    rw [attempts]
    rcases pipes with same | ⟨made, same⟩
    · rw [same]
      omega
    · have more := state.pipes.len_insert_le attempt.pipeId made
      rw [same]
      omega

end Subsides

end GatewayState

/-! ## Every part -/

section Parts

variable {event : Event} {state target : GatewayState} {published : List Publication}

theorem Part.subsides (hosted : state.Hosted) (draining : state.draining = true)
    (part : Part event state published target) : state.Subsides target := by
  have serves : state.draining ≠ false := by simp [draining]
  cases part with
  | removed pipeId =>
    apply GatewayState.Subsides.of_pipes (by simpa using draining) (by simp)
      (by simp) (state.remoteOpenAttempts_removePipe pipeId)
    · intro other pipe stored
      rw [get_pipes_removePipe] at stored
      split at stored
      · cases stored
      · exact ⟨pipe, stored⟩
    · have same : (state.removePipe pipeId).2.pipes.len =
          (state.pipes.remove pipeId).len := by
        apply len_congr
        intro other
        rw [get_pipes_removePipe, get_remove]
      rw [same]
      exact len_remove_le _ _
  | finished sender stored => exact .of_changed draining rfl rfl rfl rfl stored
  | promoted =>
    unfold GatewayState.promoteOffer
    split
    · exact .refl draining
    next pipe stored =>
      split
      · exact .refl draining
      · exact .of_changed draining rfl rfl rfl rfl stored
  | offered now applies room listed serving => exact absurd serving serves
  | offeredPeer opens room owner serving => exact absurd serving serves
  | @relocated openIdentity attempt binding now outside attempted stored matching =>
    refine .of_taken attempted (by simpa using draining) (by simp) (by simp) ?_
      (Or.inr ⟨localOffer attempt.pipeId binding now, by simp⟩)
    simp [GatewayState.insertOffer]
  | @admitted key openIdentity attempt bindingId now outside attempted room =>
    refine .of_taken attempted (by simpa using draining) (by simp) (by simp) ?_
      (Or.inr ⟨remotePipe key openIdentity attempt.pipeId.originSessionId
        bindingId now, by simp⟩)
    simp [GatewayState.insertOpen]
  | started applies room admits serving => exact absurd serving serves
  | asked | awaited => exact .of_modified draining rfl rfl rfl rfl
  | dropped openIdentity =>
    cases attempted : state.remoteOpenAttempts.get openIdentity with
    | none =>
      simp only [GatewayState.takeRemoteAttempt, attempted]
      exact .refl draining
    | some =>
      exact .of_taken attempted (by simpa using draining) (by simp) (by simp) rfl
        (Or.inl (by simp))
  | registered draws applies present room created serving =>
    exact absurd serving serves
  | unregistered sent removed =>
    obtain rfl := removeOwned_eq_remove removed
    exact .of_owners draining (fun _ present => present)
      (fun _ _ stored => (LocalRegistry.get_byId_remove_eq_some_iff.mp stored).2)
      (fun _ => rfl) (fun _ => rfl)
  | lapsed stored gone => exact absurd (hosted.owned _ _ stored).1 gone
  | selected =>
    refine .of_owners draining (fun _ present => present) (fun _ _ stored => ?_)
      (fun _ => rfl) (fun _ => rfl)
    rwa [LocalRegistry.byId_selectExcluding] at stored
  | joined entry room absent serving => exact absurd serving serves
  | @noted sessionId before entry controlRate present =>
    refine .of_owners draining (fun other there => ?_) (fun _ _ stored => stored)
      (fun _ => rfl) (fun _ => rfl)
    obtain ⟨session, found⟩ := there
    change Table.get (Table.insert _ _ _) _ = _ at found
    rw [get_insert] at found
    split at found
    · rename_i same
      exact ⟨before, same ▸ present⟩
    · exact ⟨session, found⟩
  | left sessionId =>
    refine .of_owners draining (fun other there => ?_) (fun _ _ stored => ?_)
      (fun _ => rfl) (fun _ => rfl)
    · obtain ⟨session, found⟩ := there
      change Table.get (Table.remove _ _) _ = _ at found
      rw [get_remove] at found
      split at found
      · cases found
      · exact ⟨session, found⟩
    · rw [hosted.filed.get_byId_removeSession sessionId] at stored
      exact (Option.filter_eq_some_iff.mp stored).1
  | drained drains serving => exact absurd serving serves
  | rehashed same =>
    refine .of_owners (same.draining.trans draining) (fun other there => ?_)
      (fun _ _ stored => same.byId _ ▸ stored) same.remoteOpenAttempts same.pipes
    obtain ⟨session, found⟩ := there
    exact ⟨session, same.sessions _ ▸ found⟩

theorem Parts.subsides (parts : Parts event state published target)
    (hosted : state.Hosted) (draining : state.draining = true) :
    state.Subsides target ∧ target.Hosted := by
  induction parts with
  | refl => exact ⟨.refl draining, hosted⟩
  | head part _ ih =>
    have first := part.subsides hosted draining
    obtain ⟨rest, final⟩ := ih (part.hosted hosted) first.draining
    exact ⟨first.trans rest, final⟩

end Parts

/-! ## Requests to open -/

/-- The event asks for a new Pipe: it applies a DIAL, or it is a peer's OPEN. -/
inductive Event.AsksToOpen (event : Event) : Prop
  | dial {dialer : SessionId} {connectionId : Nat} {destination : Destination}
      (applies : event.Applies dialer (.dial connectionId destination))
  | peerOpen {key : PeerStreamKey} {openIdentity : OpenIdentity}
      {destination : Destination} {relaySessionId : SessionId}
      {bindingId : BindingId} {now : Instant}
      (opens : event = .receivePeerOpen key openIdentity destination relaySessionId
        bindingId now)

namespace GatewayState

variable {state : GatewayState} (draining : state.draining = true)
include draining

theorem dial_of_draining (dialer : SessionId) (connectionId : Nat)
    (destination : Destination) (now : Instant) :
    (state.dial dialer connectionId destination now).2 = state := by
  unfold dial
  split
  · rfl
  · rfl

theorem commitAuthorized_dial_of_draining (draws : Draws BindingId) (dialer : SessionId)
    (connectionId : Nat) (destination : Destination) (verified : VerifiedAuthorization)
    (now : Instant) :
    (state.commitAuthorized draws dialer (.dial connectionId destination) verified
      now).2 = state := by
  unfold commitAuthorized
  split
  · rfl
  · split
    · rfl
    · exact dial_of_draining draining dialer connectionId destination now

/-- A draining Gateway authorizes nothing and notes at most the connection. -/
theorem prepareAuthorization_of_draining (sessionId : SessionId)
    (operation : ControlOperation) (now : Instant) :
    ∃ actions sessions, state.prepareAuthorization sessionId operation now =
      (some actions, { state with sessions := sessions }) := by
  unfold prepareAuthorization
  split
  · exact ⟨_, state.sessions, rfl⟩
  next session present =>
    cases operation with
    | publish =>
      simp only [recordConnection]
      rw [if_pos draining]
      exact ⟨_, state.sessions, rfl⟩
    | dial =>
      simp only [recordConnection]
      split
      next refused =>
        exact ⟨_, state.sessions, rfl⟩
      next recorded noted =>
        split at noted
        · cases noted
        · cases noted
          rw [if_pos draining]
          exact ⟨_, _, rfl⟩

theorem receivePeerOpenAt_of_draining (key : PeerStreamKey)
    (openIdentity : OpenIdentity) (destination : Destination)
    (relaySessionId : SessionId) (bindingId : BindingId) (now : Instant) :
    (state.receivePeerOpenAt key openIdentity destination relaySessionId bindingId
      now).2 = state := by
  simp [receivePeerOpenAt, draining]

end GatewayState

namespace World

variable {world : World} {event : Event}

/-- A draining Gateway accepts no request for a new Pipe. -/
theorem tables_of_asksToOpen (draining : world.state.draining = true) (asks : event.AsksToOpen) :
    (world.apply event).state.pipes = world.state.pipes ∧
      (world.apply event).state.remoteOpenAttempts = world.state.remoteOpenAttempts := by
  cases asks with
  | peerOpen opens =>
    subst opens
    have same := receivePeerOpenAt_of_draining draining
    constructor
    · exact congrArg GatewayState.pipes (same _ _ _ _ _ _)
    · exact congrArg GatewayState.remoteOpenAttempts (same _ _ _ _ _ _)
  | @dial dialer connectionId destination applies =>
    cases event with
    | commit sender operation verified draws now =>
      obtain ⟨rfl, rfl, _⟩ := applies
      have same := commitAuthorized_dial_of_draining draining draws
        sender connectionId destination verified now
      constructor
      · exact congrArg GatewayState.pipes same
      · exact congrArg GatewayState.remoteOpenAttempts same
    | handleAt draws sender frame now =>
      obtain ⟨rfl, token, taken⟩ := applies
      obtain ⟨actions, sessions, prepared⟩ :=
        prepareAuthorization_of_draining draining sender
          (.dial connectionId destination) now
      simp only [apply, GatewayState.handleAt, taken, prepared, and_self]
    | _ => cases applies

theorem subsides_apply (hosted : world.state.Hosted)
    (draining : world.state.draining = true) (arranges : world.Arranges event) :
    world.state.Subsides (world.apply event).state ∧ (world.apply event).state.Hosted :=
  (parts_apply arranges).subsides hosted draining

theorem subsides_of_history {final : World} {past : List (World × Event)}
    (hosted : world.state.Hosted) (draining : world.state.draining = true)
    (run : History AnyStep world past final) :
    final.state.Hosted ∧ world.state.Subsides final.state ∧
      ∀ entry ∈ past, entry.1.state.Subsides (entry.1.apply entry.2).state ∧
        (entry.2.AsksToOpen →
          (entry.1.apply entry.2).state.pipes = entry.1.state.pipes ∧
            (entry.1.apply entry.2).state.remoteOpenAttempts =
              entry.1.state.remoteOpenAttempts) := by
  induction run with
  | refl =>
    refine ⟨hosted, .refl draining, ?_⟩
    intro entry member
    cases member
  | @tail middle target past event run last ih =>
    obtain ⟨between, subsided, each⟩ := ih
    obtain ⟨arranges, rfl⟩ := last
    obtain ⟨step, after⟩ := subsides_apply between subsided.draining arranges
    refine ⟨after, subsided.trans step, ?_⟩
    intro entry member
    rcases List.mem_append.mp member with earlier | now
    · exact each entry earlier
    · rw [List.mem_singleton.mp now]
      exact ⟨step, tables_of_asksToOpen subsided.draining⟩

/-! ## The end of the drain -/

/-- Without sessions there is nothing left to drain. -/
theorem isDrained_of_deserted {state : GatewayState}
    (accounted : Accounted state.HasSession state)
    (deserted : state.sessions.isEmpty = true) : state.isDrained = true := by
  have absent : ∀ sessionId, ¬ state.HasSession sessionId := by
    rintro sessionId ⟨session, found⟩
    rw [Table.isEmpty_iff.mp deserted] at found
    cases found
  have no_pipes : state.pipes.isEmpty = true := by
    rw [Table.isEmpty_iff]
    intro pipeId
    cases stored : state.pipes.get pipeId with
    | none => rfl
    | some pipe =>
      -- one end of every Pipe is a session of this Gateway
      have ends := accounted.endpoints pipeId pipe
      rcases (accounted.wellFormed _ _ stored).oneRemote with plain | plain
      · cases dialer : pipe.dialer with
        | sdk sessionId => exact absurd (ends sessionId stored (Or.inl dialer)) (absent _)
        | peer => simp [dialer, PipeEndpoint.peerKey] at plain
      · cases acceptor : pipe.acceptor with
        | sdk sessionId =>
          exact absurd (ends sessionId stored (Or.inr acceptor)) (absent _)
        | peer => simp [acceptor, PipeEndpoint.peerKey] at plain
  have no_attempts : state.remoteOpenAttempts.isEmpty = true := by
    rw [Table.isEmpty_iff]
    intro openIdentity
    cases attempted : state.remoteOpenAttempts.get openIdentity with
    | none => rfl
    | some =>
      exact absurd (accounted.attempts _ _ attempted).2.2.1 (absent _)
  have none_counted : ∀ test, state.scan test = 0 := by
    intro test
    unfold GatewayState.scan Table.countWhere
    rw [List.isEmpty_iff.mp no_pipes]
    rfl
  have pending := accounted.counted.pending.1
  have live := accounted.counted.live.1
  rw [none_counted] at pending live
  simp [GatewayState.isDrained, pending, live, no_attempts]

/-- While a Gateway drains, no event can harm its accounts. -/
theorem Sound.step_of_draining (sound : Sound world)
    (draining : world.state.draining = true) (possible : world.Possible event) :
    Sound (world.apply event) := by
  cases event with
  | receivePeerOpen key openIdentity destination relaySessionId bindingId now =>
    have same := receivePeerOpenAt_of_draining draining key openIdentity
      destination relaySessionId bindingId now
    unfold World.apply
    dsimp only
    rw [same]
    exact sound
  | _ => exact sound.step possible trivial

theorem sound_of_draining {final : World} {events : List Event}
    (sound : Sound world) (hosted : world.state.Hosted) (draining : world.state.draining = true)
    (run : Execution (Step fun _ _ => True) world events final) :
    Sound final ∧ final.state.Hosted ∧ world.state.Subsides final.state := by
  have kept : ∀ (source : World) (event : Event) (target : World),
      (Sound source ∧ source.state.Hosted ∧ world.state.Subsides source.state) →
      Step (fun _ _ => True) source event target →
        Sound target ∧ target.state.Hosted ∧ world.state.Subsides target.state := by
    rintro source event target ⟨sound, hosted, subsided⟩ ⟨possible, -, rfl⟩
    obtain ⟨step, after⟩ := subsides_apply hosted subsided.draining
      (arranges_of_possible possible)
    exact ⟨sound.step_of_draining subsided.draining possible, after, subsided.trans step⟩
  exact run.invariant kept ⟨sound, hosted, .refl draining⟩

/-- From the beginning of a drain, whatever happens: the flag stays set, no session,
binding or attempt is added, no request for a new Pipe is accepted, and the Pipes
and attempts never become more.  When the peer OPENs before the drain were harmless,
the Gateway is drained as soon as its last session is gone, and stays so. -/
theorem drain_is_final {limits : GatewayLimits} {gatewayId : Option GatewayId}
    {start : Instant} {world : World} (draining : world.state.draining = true) :
    (∀ before past final,
      History AnyStep (initial limits gatewayId start) before world →
      History AnyStep world past final →
        world.state.Subsides final.state ∧
        ∀ entry ∈ past, entry.1.state.Subsides (entry.1.apply entry.2).state ∧
          (entry.2.AsksToOpen →
            (entry.1.apply entry.2).state.pipes = entry.1.state.pipes ∧
              (entry.1.apply entry.2).state.remoteOpenAttempts =
                entry.1.state.remoteOpenAttempts)) ∧
    ∀ before events deserted more final,
      Execution (Step HarmlessOrigin) (initial limits gatewayId start) before world →
      Execution (Step fun _ _ => True) world events deserted →
      deserted.state.sessions.isEmpty = true →
      Execution (Step fun _ _ => True) deserted more final →
        final.state.isDrained = true := by
  constructor
  · intro before past final earlier run
    exact (subsides_of_history (publicity_of_history earlier).1 draining run).2
  · intro before events deserted more final earlier run empty rest
    have sound := Sound.of_execution (fun _ _ harmless => harmless) earlier
    have hosted := hosted_of_execution earlier
    obtain ⟨sound, hosted, subsided⟩ := sound_of_draining sound hosted draining run
    obtain ⟨sound, -, further⟩ :=
      sound_of_draining sound hosted subsided.draining rest
    apply isDrained_of_deserted sound.accounted
    rw [Table.isEmpty_iff]
    intro sessionId
    cases found : final.state.sessions.get sessionId with
    | none => rfl
    | some session =>
        obtain ⟨before, present⟩ := further.sessions sessionId ⟨session, found⟩
        rw [Table.isEmpty_iff.mp empty] at present
        cases present

open Scenario in
/-- The peer OPEN for a local session and the session's own DIAL of the same
connection leave an offer in the counter that no Pipe stands for: both sessions
leave the draining Gateway, and it is never drained. -/
theorem undrained_after_local_origin :
    ∃ events world,
      Execution (Step fun _ _ => True) (World.initial limits (some ⟨1⟩) 0)
        events world ∧
      world.state.draining = true ∧ world.state.sessions.isEmpty = true ∧
      world.state.isDrained = false := by
  have published := execution_publishing (fun _ _ => True)
    (fun _ _ _ => trivial)
  have offered := extend published (peerOpen openIdentity)
    (fun other => not_awaits_publishing other key) trivial
  have prepared := extend offered (.prepare dialer dialOperation 0) trivial
    trivial
  have committed := extend prepared
    (.commit dialer dialOperation ⟨destination, .dial, 10⟩ bindingDraws 0)
    (by change _ ∈ World.authorizing _; decide) trivial
  have drains := extend committed .beginDraining trivial trivial
  have deserting := extend drains (.removeSession listener) trivial trivial
  have deserted := extend deserting (.removeSession dialer) trivial trivial
  exact ⟨_, _, deserted, by decide, by decide, by decide⟩

namespace Scenario

/-- A Gateway that drains with one offer of a peer pending. -/
def draining : World :=
  ((after publishing).apply (peerOpen foreignIdentity)).apply .beginDraining

theorem execution_draining : Execution (Step HarmlessOrigin) (World.initial limits (some ⟨1⟩) 0)
    (publishing ++ [peerOpen foreignIdentity] ++ [.beginDraining]) draining := by
  have published := execution_publishing HarmlessOrigin (by
    intro world event member
    simp only [publishing, List.mem_cons, List.not_mem_nil, or_false] at member
    rcases member with rfl | rfl | rfl | rfl <;> trivial)
  have offered := extend published (peerOpen foreignIdentity)
    (fun other => not_awaits_publishing other key) (by
      apply harmlessOrigin_of_foreignOrigin
      change Table.get _ _ = none
      decide)
  exact extend offered .beginDraining trivial trivial

theorem execution_leaving : Execution (Step fun _ _ => True) draining
    [.removeSession listener, .removeSession dialer]
    ((draining.apply (.removeSession listener)).apply (.removeSession dialer)) :=
  extend (extend (.refl draining) (.removeSession listener) trivial trivial)
    (.removeSession dialer) trivial trivial

end Scenario

open Scenario in
/-- Both sessions leave a draining Gateway whose peer OPEN named a session of the
peer: it is drained then, and not before. -/
theorem drained_after_foreign_open :
    draining.state.isDrained = false ∧
      ((draining.apply (.removeSession listener)).apply
        (.removeSession dialer)).state.isDrained = true :=
  ⟨by decide, (drain_is_final (by decide)).2 _ _ _ _ _ execution_draining
    execution_leaving (by decide) (.refl _)⟩

end World

end RelayGate.Gateway
