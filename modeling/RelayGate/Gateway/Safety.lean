import RelayGate.Gateway.Invariant

/-!
# Safety of the Gateway state core

Every event keeps the invariant, so in every state of every run the counters
and indexes agree with the tables and no insertion has met an existing entry.
The one danger is a peer OPEN that names a local session as its origin: it may
take an identity that the session dials later.
-/

namespace RelayGate.Gateway

open Library GatewayState

/-- The counters equal full scans, the indexes are exact, and everything that
refers to a session refers to one that is present. -/
structure GatewayState.Consistent (state : GatewayState) : Prop where
  pendingOfferCount :
    state.pendingOfferCount.value = state.scan PipeEntry.isOffered
  livePipeCount : state.livePipeCount.value = state.scan PipeEntry.isOpen
  originatedPipeCount :
    state.originatedPipeCount.value = state.scan PipeEntry.isOriginated
  noUnderflow : state.pendingOfferCount.underflowed = false ∧
    state.livePipeCount.underflowed = false ∧
    state.originatedPipeCount.underflowed = false
  peerPipes : ∀ key pipeId, state.peerPipes.get key = some pipeId ↔
    ∃ pipe, state.pipes.get pipeId = some pipe ∧
      (pipe.dialer = .peer key ∨ pipe.acceptor = .peer key)
  activePeerOpens : ∀ openIdentity,
    (∃ key, state.activePeerOpens.get openIdentity = some key) ↔
      (∃ pipeId pipe, state.pipes.get pipeId = some pipe ∧
        pipe.openIdentity = some openIdentity) ∨
      ∃ key, state.Awaits openIdentity key
  endpoints : ∀ pipeId pipe sessionId, state.pipes.get pipeId = some pipe →
    pipe.dialer = .sdk sessionId ∨ pipe.acceptor = .sdk sessionId →
      state.HasSession sessionId
  dialers : ∀ openIdentity attempt,
    state.remoteOpenAttempts.get openIdentity = some attempt →
      state.HasSession attempt.pipeId.originSessionId
  owners : ∀ bindingId binding,
    state.registry.byId.get bindingId = some binding →
      state.HasSession binding.sessionId
  disjoint : ∀ openIdentity attempt,
    state.remoteOpenAttempts.get openIdentity = some attempt →
      state.pipes.get attempt.pipeId = none

/-- The stream a well-formed Pipe is indexed under is its only remote end. -/
theorem PipeEntry.WellFormed.peerKey_eq_some_iff {pipe : PipeEntry}
    {pipeId : PipeId} (wellFormed : pipe.WellFormed pipeId) (key : PeerStreamKey) :
    pipe.peerKey = some key ↔ pipe.dialer = .peer key ∨ pipe.acceptor = .peer key := by
  have oneRemote := wellFormed.oneRemote
  unfold PipeEntry.peerKey
  cases dialer : pipe.dialer with
  | sdk =>
    cases acceptor : pipe.acceptor <;> simp [PipeEndpoint.peerKey]
  | peer =>
    cases acceptor : pipe.acceptor with
    | sdk => simp [PipeEndpoint.peerKey]
    | peer =>
      rw [dialer, acceptor] at oneRemote
      simp [PipeEndpoint.peerKey] at oneRemote

theorem Accounted.consistent {state : GatewayState}
    (accounted : Accounted state.HasSession state) : state.Consistent where
  pendingOfferCount := accounted.counted.pending.1
  livePipeCount := accounted.counted.live.1
  originatedPipeCount := accounted.counted.originated.1
  noUnderflow := ⟨accounted.counted.pending.2, accounted.counted.live.2,
    accounted.counted.originated.2⟩
  peerPipes := by
    intro key pipeId
    rw [accounted.peerPipes]
    apply exists_congr
    intro pipe
    apply and_congr_right
    intro stored
    exact (accounted.wellFormed _ _ stored).peerKey_eq_some_iff key
  activePeerOpens := by
    intro openIdentity
    constructor
    · rintro ⟨key, active⟩
      rcases (accounted.activeOpens _ _).mp active with
        ⟨pipeId, pipe, stored, identified, -⟩ | awaiting
      · exact Or.inl ⟨pipeId, pipe, stored, identified⟩
      · exact Or.inr ⟨key, awaiting⟩
    · rintro (⟨pipeId, pipe, stored, identified⟩ | ⟨key, awaiting⟩)
      · have remote := (accounted.wellFormed _ _ stored).identified
        rw [identified] at remote
        obtain ⟨key, keyed⟩ := Option.isSome_iff_exists.mp remote.symm
        exact ⟨key, (accounted.activeOpens _ _).mpr
          (Or.inl ⟨pipeId, pipe, stored, identified, keyed⟩)⟩
      · exact ⟨key, (accounted.activeOpens _ _).mpr (Or.inr awaiting)⟩
  endpoints := accounted.endpoints
  dialers := fun _ _ attempted => (accounted.attempts _ _ attempted).2.2.1
  owners := fun _ _ found => (accounted.owners _ _ found).1
  disjoint := fun _ _ attempted => (accounted.attempts _ _ attempted).2.2.2

namespace World

namespace Sound

variable {state : GatewayState} {authorizing : List (SessionId × ControlOperation)}
  {sessionId : SessionId} {operation : ControlOperation} {world : World}

theorem initial (limits : GatewayLimits) (gatewayId : Option GatewayId)
    (now : Instant) : Sound (World.initial limits gatewayId now) := by
  refine ⟨⟨⟨Counter.exact_zero, Counter.exact_zero, Counter.exact_zero⟩,
    ?_, ?_, ?_, ?_, ?_, ?_, LocalRegistry.owned_empty _, rfl⟩, ?_, ?_,
    List.nodup_nil⟩
  · intro key pipeId
    exact iff_of_false (fun found => nomatch found)
      (fun ⟨_, found, _⟩ => nomatch found)
  · intro openIdentity key
    refine iff_of_false (fun found => nomatch found) ?_
    rintro (⟨_, _, found, _⟩ | ⟨_, _, found, _⟩)
    · cases found
    · cases found
  · intro pipeId pipe found
    cases found
  · intro pipeId pipe sessionId found
    cases found
  · intro openIdentity attempt found
    cases found
  · rintro openIdentity key ⟨_, _, found, _⟩
    cases found
  · intro pipeId session used found
    cases found
  · intro pipeId dialed
    cases dialed

/-! ## The authorization queue -/

section

variable (sound : Sound ⟨state, authorizing⟩)
include sound

theorem enqueue
    (reserved : ∀ pipeId, dialId (sessionId, operation) = some pipeId →
      Reserved ⟨state, authorizing⟩ pipeId) :
    Sound ⟨state, authorizing ++ [(sessionId, operation)]⟩ := by
  cases asked : dialId (sessionId, operation) with
  | none =>
    have same : dialing ⟨state, authorizing ++ [(sessionId, operation)]⟩ =
        dialing ⟨state, authorizing⟩ := by
      simp [dialing, asked]
    refine ⟨sound.accounted, sound.numbered, ?_, ?_⟩
    · rw [same]
      exact sound.dialed
    · rw [same]
      exact sound.distinct
  | some pipeId =>
    have grown : dialing ⟨state, authorizing ++ [(sessionId, operation)]⟩ =
        dialing ⟨state, authorizing⟩ ++ [pipeId] := by
      simp [dialing, asked]
    have ready := reserved pipeId asked
    refine ⟨sound.accounted, sound.numbered, ?_, ?_⟩
    · intro other dialed
      rw [grown, List.mem_append, List.mem_singleton] at dialed
      rcases dialed with old | rfl
      · exact sound.dialed other old
      · exact ready.unused
    · rw [grown, List.nodup_append]
      refine ⟨sound.distinct, List.nodup_singleton _, ?_⟩
      rintro first member second asked rfl
      rw [List.mem_singleton] at asked
      exact ready.undialed (asked ▸ member)

theorem dequeue (entry : SessionId × ControlOperation) :
    Sound ⟨state, authorizing.erase entry⟩ := by
  have sublist : List.Sublist (dialing ⟨state, authorizing.erase entry⟩)
      (dialing ⟨state, authorizing⟩) :=
    List.erase_sublist.filterMap dialId
  exact ⟨sound.accounted, sound.numbered,
    fun pipeId dialed => sound.dialed pipeId (sublist.subset dialed),
    sound.distinct.sublist sublist⟩

/-- The identity of a DIAL that leaves the queue is reserved for it. -/
theorem reserved_of_mem {entry : SessionId × ControlOperation}
    (member : entry ∈ authorizing) {pipeId : PipeId} (asked : dialId entry = some pipeId) :
    Reserved ⟨state, authorizing.erase entry⟩ pipeId := by
  have arranged : List.Perm (dialing ⟨state, authorizing⟩)
      (pipeId :: dialing ⟨state, authorizing.erase entry⟩) := by
    have perm := (List.perm_cons_erase member).filterMap dialId
    rwa [List.filterMap_cons_some asked] at perm
  refine ⟨(List.nodup_cons.mp (arranged.nodup_iff.mp sound.distinct)).1, ?_⟩
  exact sound.dialed pipeId (arranged.mem_iff.mpr List.mem_cons_self)

theorem commitAuthorized (member : (sessionId, operation) ∈ authorizing)
    (verified : VerifiedAuthorization) (draws : Draws BindingId) (now : Instant) :
    Sound ⟨(state.commitAuthorized draws sessionId operation verified now).2,
      authorizing.erase (sessionId, operation)⟩ := by
  have dequeued := sound.dequeue (sessionId, operation)
  unfold GatewayState.commitAuthorized
  split
  · exact dequeued
  · rename_i live
    split
    · exact dequeued
    · exact dequeued.applyControlAt draws
        (hasSession_of_not_absent live)
        (fun _ asked => sound.reserved_of_mem member asked) now

/-! ## Frames -/

theorem handle (sessionId : SessionId) (frame : Frame) (now : Instant) :
    Sound ⟨(state.handle sessionId frame now).2, authorizing⟩ := by
  unfold GatewayState.handle
  split
  · rename_i operation _ _
    have prepared := (sound.prepareAuthorization sessionId operation now).1
    split <;> rename_i outcome <;> rw [outcome] at prepared <;> exact prepared
  · exact sound.keeps (state.keeps_applyFrame sessionId _)

theorem handleAt (draws : Draws BindingId) (sessionId : SessionId) (frame : Frame)
    (now : Instant) : Sound ⟨(state.handleAt draws sessionId frame now).2, authorizing⟩ := by
  unfold GatewayState.handleAt
  split
  · rename_i operation _ _
    obtain ⟨prepared, reserved⟩ := sound.prepareAuthorization sessionId operation now
    split
    · rename_i outcome
      rw [outcome] at prepared
      exact prepared
    · rename_i outcome
      have present := hasSession_of_prepareAuthorization (congrArg Prod.fst outcome)
      rw [outcome] at prepared reserved present
      exact prepared.applyControlAt draws present (reserved rfl) now
  · exact sound.keeps (state.keeps_applyFrame sessionId _)

/-! ## Peer OPENs -/

theorem receivePeerOpenAt {key : PeerStreamKey} {openIdentity : OpenIdentity}
    (unawaited : ∀ other, ¬ state.Awaits other key)
    (harmless : ∀ session,
      state.sessions.get openIdentity.originSession = some session →
        session.Spent openIdentity.connectionId ∧
        (∀ other attempt,
          state.remoteOpenAttempts.get other = some attempt →
            attempt.pipeId ≠ openIdentity.pipeId) ∧
        openIdentity.pipeId ∉ dialing ⟨state, authorizing⟩) (destination : Destination)
    (relaySessionId : SessionId) (bindingId : BindingId) (now : Instant) :
    Sound ⟨(state.receivePeerOpenAt key openIdentity destination
      relaySessionId bindingId now).2, authorizing⟩ := by
  unfold GatewayState.receivePeerOpenAt
  split
  · exact sound
  · split
    · exact sound
    · split
      · exact sound
      · rename_i inactive
        split
        · exact sound
        · split
          · exact sound
          · rename_i binding found
            dsimp only
            split
            · exact sound
            · rename_i fresh
              obtain ⟨-, live⟩ := Option.filter_eq_some_iff.mp found
              have unindexed : state.peerPipes.get key = none := by
                simp only [Bool.or_eq_true, Table.contains_eq, not_or, Bool.not_eq_true,
                  Option.isSome_eq_false_iff, Option.isNone_iff_eq_none] at inactive
                exact inactive.1.1
              have unused : ¬ state.InUse openIdentity.pipeId := by
                rintro (⟨pipe, stored⟩ | ⟨other, attempt, attempted, same⟩)
                · exact fresh (by simp [stored])
                · obtain ⟨-, -, ⟨session, dialer⟩, -⟩ :=
                    sound.accounted.attempts _ _ attempted
                  rw [same] at dialer
                  exact (harmless session dialer).2.1 other attempt attempted
                    same
              refine sound.takeIdentity openIdentity.pipeId ?_
                (sound.accounted.insertOffer ⟨⟨rfl, ?_, Or.inr rfl⟩, unused,
                  ?_, ?_⟩ rfl) (fun _ => inUse_insertOffer) ?_
              · simp [GatewayState.insertOffer]
              · intro other identified
                obtain rfl := Option.some.inj identified
                rfl
              · intro other keyed
                obtain rfl := Option.some.inj keyed
                exact ⟨unindexed, unawaited⟩
              · rintro sessionId (same | same)
                · cases same
                · exact PipeEndpoint.sdk.inj same ▸
                    Option.isSome_iff_exists.mp live
              · intro session origin
                obtain ⟨spent, -, undialed⟩ := harmless session origin
                exact ⟨spent, undialed⟩

/-! ## Iteration order -/

/-- The iteration order of the tables does not matter. -/
theorem rehashed {target : GatewayState} (rehash : state.Rehashed target) :
    Sound ⟨target, authorizing⟩ := by
  have scans : ∀ test, target.scan test = state.scan test := by
    intro test
    unfold GatewayState.scan
    rw [Table.countWhere_eq_tally, Table.countWhere_eq_tally]
    exact Table.tally_congr rehash.pipes _
  have awaits : ∀ openIdentity key, target.Awaits openIdentity key ↔
      state.Awaits openIdentity key := by
    intro openIdentity key
    unfold GatewayState.Awaits
    simp only [rehash.remoteOpenAttempts]
  have inUse : ∀ pipeId, target.InUse pipeId ↔ state.InUse pipeId := by
    intro pipeId
    unfold GatewayState.InUse
    simp only [rehash.pipes, rehash.remoteOpenAttempts]
  have present : target.HasSession = state.HasSession := by
    funext sessionId
    unfold GatewayState.HasSession
    simp only [rehash.sessions]
  have accounted := sound.accounted
  refine sound.shrink target ?_ (fun pipeId => (inUse pipeId).mp) ?_
  · rw [present]
    refine ⟨⟨?_, ?_, ?_⟩, ?_, ?_, ?_, ?_, ?_, ?_, ?_, ?_⟩
    · rw [rehash.pendingOfferCount, scans]
      exact accounted.counted.pending
    · rw [rehash.livePipeCount, scans]
      exact accounted.counted.live
    · rw [rehash.originatedPipeCount, scans]
      exact accounted.counted.originated
    · simpa only [rehash.peerPipes, rehash.pipes] using accounted.peerPipes
    · simpa only [rehash.activePeerOpens, rehash.pipes, awaits] using
        accounted.activeOpens
    · simpa only [rehash.pipes] using accounted.wellFormed
    · simpa only [rehash.pipes] using accounted.endpoints
    · simpa only [rehash.remoteOpenAttempts, rehash.pipes, rehash.gatewayId]
        using accounted.attempts
    · simpa only [awaits, rehash.peerPipes] using accounted.reserved
    · intro bindingId binding found
      rw [rehash.byId] at found
      rw [rehash.bySession]
      exact accounted.owners _ _ found
    · rw [rehash.overwritten]
      exact accounted.notOverwritten
  · intro sessionId session found
    rw [rehash.sessions] at found
    exact found

end

/-! ## Every event -/

/-- One event keeps the invariant when peer OPENs are harmless. -/
theorem step {event : Event} (sound : Sound world) (possible : world.Possible event)
    (harmless : world.HarmlessOrigin event) : Sound (world.apply event) := by
  obtain ⟨state, authorizing⟩ := world
  cases event with
  | addSession => exact sound.addSession possible
  | removeSession sessionId => exact sound.removeSession sessionId
  | prepare sessionId operation now =>
    obtain ⟨prepared, reserved⟩ := sound.prepareAuthorization sessionId operation now
    unfold World.apply
    dsimp only
    split
    · rename_i outcome
      rw [outcome] at prepared
      exact prepared
    · rename_i outcome
      rw [outcome] at prepared reserved
      exact prepared.enqueue (reserved rfl)
  | commit sessionId operation verified draws now =>
    exact sound.commitAuthorized possible verified draws now
  | refuse => exact sound.dequeue _
  | handle sessionId frame now => exact sound.handle sessionId frame now
  | handleAt draws sessionId frame now =>
    exact sound.handleAt draws sessionId frame now
  | offerDeliveryRejected acceptor pipeId =>
    exact sound.keeps (state.keeps_offerDeliveryRejected acceptor pipeId)
  | expireOffers now order => exact sound.expireOffers now order
  | beginDraining => exact sound.keeps state.keeps_beginDraining
  | routeResolved openIdentity bindings now =>
    exact sound.keeps (state.keeps_routeResolved openIdentity bindings now)
  | routeFailed openIdentity code message =>
    exact sound.keeps (state.keeps_routeFailed openIdentity code message)
  | peerOpenCommitted openIdentity key =>
    exact sound.keeps (state.keeps_peerOpenCommitted openIdentity key)
  | peerOpenCommitFailed openIdentity code observation message =>
    exact sound.keeps (state.keeps_peerOpenCommitFailed openIdentity code observation message)
  | receivePeerOpen key openIdentity destination relaySessionId bindingId
      now =>
    exact sound.receivePeerOpenAt possible harmless destination
      relaySessionId bindingId now
  | peerOpened key openIdentity now =>
    exact sound.keeps (keeps_peerOpenedAt possible now)
  | peerOpenFailed key openIdentity code observation message =>
    exact sound.keeps (state.keeps_peerOpenFailed key openIdentity code observation message)
  | peerTransportLostStream key openIdentity observation =>
    exact sound.keeps (state.keeps_peerTransportLostStream key openIdentity observation)
  | peerData key payload =>
    exact sound.keeps (keeps_fromPeer
      (fun pipeId => state.keeps_relayData (.peer key) pipeId payload) key)
  | peerFin key =>
    exact sound.keeps (keeps_fromPeer (fun pipeId => state.keeps_relayFin (.peer key) pipeId) key)
  | peerClose key =>
    exact sound.keeps (keeps_fromPeer
      (fun pipeId => state.keeps_relayClose (.peer key) pipeId) key)
  | peerReset key code message =>
    exact sound.keeps (state.keeps_peerReset key code message)
  | rehash => exact sound.rehashed possible

/-- Every state of a run of harmless events satisfies the invariant. -/
theorem of_execution {Condition : World → Event → Prop}
    (harmless : ∀ world event, Condition world event →
      world.HarmlessOrigin event) {limits : GatewayLimits}
    {gatewayId : Option GatewayId} {now : Instant} {events : List Event}
    (run : Execution (Step Condition) (World.initial limits gatewayId now)
      events world) : Sound world := by
  refine run.invariant ?_ (Sound.initial limits gatewayId now)
  rintro source event target sound ⟨possible, condition, rfl⟩
  exact sound.step possible (harmless source event condition)

end Sound

/-- A foreign origin is harmless: no local session has dialed it. -/
theorem harmlessOrigin_of_foreignOrigin (world : World) (event : Event)
    (foreign : world.ForeignOrigin event) : world.HarmlessOrigin event := by
  cases event with
  | receivePeerOpen key openIdentity destination relaySessionId bindingId
      now =>
    intro session present
    rw [show world.state.sessions.get openIdentity.originSession = none from foreign] at present
    exact absurd present.symm (Option.some_ne_none _)
  | _ => trivial

/-! ## A scenario

Two local sessions, one of which publishes, and a peer that sends an OPEN. -/

namespace Scenario

variable {world : World}

def limits : GatewayLimits where
  controlRatePerSecond := 100
  controlBurst := 100
  sessionControlRatePerSecond := 100
  sessionControlBurst := 100
  maxSessions := 8
  maxBindings := 8
  maxPendingOffers := 8
  maxRemoteDialAttempts := 8
  maxLivePipes := 8
  offerTimeout := 1000

/-- The destination `a/b`. -/
def destination : Destination :=
  ⟨⟨[97], validateNamespace_a⟩, ⟨[98], validateDestinationName_b⟩⟩

def sessionDraws : Draws SessionId :=
  ⟨SessionId.mk, fun _ _ same => SessionId.mk.inj same⟩

def bindingDraws : Draws BindingId :=
  ⟨BindingId.mk, fun _ _ same => BindingId.mk.inj same⟩

def listener : SessionId := ⟨0⟩

def dialer : SessionId := ⟨1⟩

def key : PeerStreamKey := ⟨⟨2⟩, ⟨0⟩, ⟨1⟩⟩

/-- The peer claims that the local `dialer` opened its connection 1. -/
def openIdentity : OpenIdentity := ⟨⟨2⟩, dialer, 1⟩

/-- The peer names a session of its own. -/
def foreignIdentity : OpenIdentity := ⟨⟨2⟩, ⟨7⟩, 1⟩

def publishOperation : ControlOperation := .publish 1 destination

def dialOperation : ControlOperation := .dial 1 destination

/-- The OPEN of a peer for the listener's binding. -/
def peerOpen (identity : OpenIdentity) : Event :=
  .receivePeerOpen key identity destination listener ⟨0⟩ 0

/-- The listener and the dialer are admitted and the listener publishes. -/
def publishing : List Event :=
  [.addSession sessionDraws 0, .addSession sessionDraws 0,
    .prepare listener publishOperation 0,
    .commit listener publishOperation ⟨destination, .publish, 10⟩ bindingDraws 0]

/-- The events of a list, applied in order. -/
def after (events : List Event) : World :=
  events.foldl World.apply (World.initial limits (some ⟨1⟩) 0)

/-- A run extended by one event. -/
theorem extend {Condition : World → Event → Prop} {source : World}
    {events : List Event} (run : Execution (Step Condition) source events world)
    (event : Event) (possible : world.Possible event) (condition : Condition world event) :
    Execution (Step Condition) source (events ++ [event]) (world.apply event) :=
  run.tail ⟨possible, condition, rfl⟩

theorem freshSession_of_idle (sessionId : SessionId) (pipes : world.state.pipes = ∅)
    (attempts : world.state.remoteOpenAttempts = ∅)
    (authorizing : world.authorizing = []) : world.FreshSession sessionId := by
  constructor
  · rintro pipeId (⟨pipe, stored⟩ | ⟨other, attempt, attempted, -⟩)
    · rw [pipes] at stored
      cases stored
    · rw [attempts] at attempted
      cases attempted
  · intro pipeId dialed
    simp [World.dialing, authorizing] at dialed

/-- Publishing is a run under any condition that permits its events. -/
theorem execution_publishing (Condition : World → Event → Prop)
    (permits : ∀ world event, event ∈ publishing → Condition world event) :
    Execution (Step Condition) (World.initial limits (some ⟨1⟩) 0) publishing
      (after publishing) := by
  have listening := extend (Execution.refl (World.initial limits (some ⟨1⟩) 0))
    (.addSession sessionDraws 0)
    (fun sessionId _ => freshSession_of_idle sessionId rfl rfl rfl)
    (permits _ _ (by simp [publishing]))
  have admitted := extend listening (.addSession sessionDraws 0)
    (fun sessionId _ => freshSession_of_idle sessionId rfl rfl rfl)
    (permits _ _ (by simp [publishing]))
  have prepared := extend admitted (.prepare listener publishOperation 0)
    trivial (permits _ _ (by simp [publishing]))
  exact extend prepared (.commit listener publishOperation
    ⟨destination, .publish, 10⟩ bindingDraws 0)
    (by change _ ∈ World.authorizing _; decide)
    (permits _ _ (by simp [publishing]))

theorem not_awaits_publishing (other : OpenIdentity) (stream : PeerStreamKey) :
    ¬ (after publishing).state.Awaits other stream := by
  rintro ⟨attempt, bindingId, attempted, -⟩
  have idle : (after publishing).state.remoteOpenAttempts.isEmpty = true := by
    decide
  rw [Table.isEmpty_iff.mp idle] at attempted
  cases attempted

end Scenario

/-! ## Results -/

/-- In every run whose peer OPENs name foreign origin sessions, the counters
and indexes of every state reached are exact. -/
theorem consistent_of_foreign_origins {limits : GatewayLimits}
    {gatewayId : Option GatewayId} {now : Instant} {events : List Event}
    {world : World}
    (run : Execution (Step ForeignOrigin)
      (World.initial limits gatewayId now) events world) :
    world.state.Consistent :=
  (Sound.of_execution harmlessOrigin_of_foreignOrigin run).accounted.consistent

open Scenario in
theorem consistent_after_foreign_open :
    ((after publishing).apply
        (peerOpen foreignIdentity)).state.pendingOfferCount.value = 1 ∧
      ((after publishing).apply
        (peerOpen foreignIdentity)).state.Consistent := by
  refine ⟨by decide, consistent_of_foreign_origins (extend
    (execution_publishing ForeignOrigin ?_) (peerOpen foreignIdentity)
    (fun other => not_awaits_publishing other key) ?_)⟩
  · intro world event member
    simp only [publishing, List.mem_cons, List.not_mem_nil, or_false] at member
    rcases member with rfl | rfl | rfl | rfl <;> trivial
  · change Table.get _ _ = none
    decide

/-- In every run whose peer OPENs are harmless, no insertion meets an existing
entry and nothing leaks. -/
theorem never_overwritten_of_harmless_origins {limits : GatewayLimits}
    {gatewayId : Option GatewayId} {now : Instant} {events : List Event}
    {world : World}
    (run : Execution (Step HarmlessOrigin)
      (World.initial limits gatewayId now) events world) :
    world.state.overwritten = false ∧ world.state.Consistent := by
  have sound := Sound.of_execution (fun _ _ harmless => harmless) run
  exact ⟨sound.accounted.notOverwritten, sound.accounted.consistent⟩

open Scenario in
theorem never_overwritten_after_foreign_open :
    ((after publishing).apply
        (peerOpen foreignIdentity)).state.pendingOfferCount.value = 1 ∧
      ((after publishing).apply
        (peerOpen foreignIdentity)).state.overwritten = false := by
  refine ⟨by decide, (never_overwritten_of_harmless_origins (extend
    (execution_publishing HarmlessOrigin ?_) (peerOpen foreignIdentity)
    (fun other => not_awaits_publishing other key) ?_)).1⟩
  · intro world event member
    simp only [publishing, List.mem_cons, List.not_mem_nil, or_false] at member
    rcases member with rfl | rfl | rfl | rfl <;> trivial
  · apply harmlessOrigin_of_foreignOrigin
    change Table.get _ _ = none
    decide

open Scenario in
/-- A peer OPEN for connection 1 of a local session, followed by the session's
own DIAL of connection 1: the offer is overwritten and stays counted. -/
theorem overwritten_by_local_origin :
    ∃ events world,
      Execution (Step fun _ _ => True) (World.initial limits (some ⟨1⟩) 0)
        events world ∧
      world.state.overwritten = true ∧
      world.state.pendingOfferCount.value = 2 ∧
      world.state.scan PipeEntry.isOffered = 1 := by
  have published := execution_publishing (fun _ _ => True)
    (fun _ _ _ => trivial)
  have offered := extend published (peerOpen openIdentity)
    (fun other => not_awaits_publishing other key) trivial
  have prepared := extend offered (.prepare dialer dialOperation 0) trivial
    trivial
  have committed := extend prepared
    (.commit dialer dialOperation ⟨destination, .dial, 10⟩ bindingDraws 0)
    (by change _ ∈ World.authorizing _; decide) trivial
  exact ⟨_, _, committed, by decide, by decide, by decide⟩

end World

end RelayGate.Gateway
