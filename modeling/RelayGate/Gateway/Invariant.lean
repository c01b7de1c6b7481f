import RelayGate.Gateway.Transition

/-!
# The invariant of the Gateway state core

`World.Sound` joins the accounts with the discipline of connection numbers: the
identity of a Pipe or attempt whose origin is a local session was spent by that
session, and the DIALs being authorized have distinct identities that nothing
uses yet.  Every event keeps it.
-/

namespace RelayGate.Gateway

open Library GatewayState Table

namespace GatewayState

variable {state : GatewayState} {sessionId other : SessionId}
  {operation : ControlOperation}

/-- A session is present. -/
def HasSession (state : GatewayState) (sessionId : SessionId) : Prop :=
  ∃ session, state.sessions.get sessionId = some session

theorem hasSession_of_not_absent (live : ¬ (!state.sessions.contains sessionId) = true) :
    state.HasSession sessionId := by
  rw [Bool.not_eq_true, Bool.not_eq_false'] at live
  exact Option.isSome_iff_exists.mp live

theorem HasSession.insert (present : state.HasSession sessionId) (other : SessionId)
    (update : SessionEntry) :
    ∃ session, (state.sessions.insert other update).get sessionId = some session := by
  obtain ⟨session, found⟩ := present
  rw [get_insert]
  split
  · exact ⟨update, rfl⟩
  · exact ⟨session, found⟩

section

variable {Kept : GatewayState → Prop}
  (noted : ∀ (state : GatewayState) before entry controlRate, Kept state →
    state.sessions.get sessionId = some before →
    Kept { state with
      sessions := state.sessions.insert sessionId entry
      controlRate := controlRate })
  (kept : Kept state) (now : Instant)
include noted kept

theorem kept_admitControl : Kept (state.admitControl sessionId now).2 := by
  unfold GatewayState.admitControl
  split
  · exact kept
  · rename_i session found
    dsimp only
    split
    · exact noted state session _ state.controlRate kept found
    · exact noted state session _ _ kept found

/-- What survives a new entry of the session survives the preparation of an
operation. -/
theorem kept_prepareAuthorization :
    Kept (state.prepareAuthorization sessionId operation now).2 := by
  unfold prepareAuthorization
  split
  · exact kept
  · rename_i session found
    split
    · exact kept
    · rename_i recorded accepted
      have keptRecorded : Kept recorded := by
        cases operation with
        | publish =>
          cases accepted
          exact kept
        | dial =>
          simp only [recordConnection] at accepted
          split at accepted
          · cases accepted
          · cases accepted
            exact noted state session _ state.controlRate kept found
      split
      · exact keptRecorded
      · dsimp only
        split <;> exact kept_admitControl noted keptRecorded now

end

/-- The session of an operation admitted to authorization is present. -/
theorem hasSession_of_prepareAuthorization {now : Instant}
    (admitted : (state.prepareAuthorization sessionId operation now).1 = none) :
    (state.prepareAuthorization sessionId operation now).2.HasSession sessionId := by
  cases found : state.sessions.get sessionId with
  | none => simp [prepareAuthorization, found] at admitted
  | some session =>
    refine @kept_prepareAuthorization state sessionId operation
      (fun state => state.HasSession sessionId) ?_ ⟨session, found⟩ now
    intro state before entry controlRate present stored
    exact present.insert sessionId entry

/-! ## Cleanup loops -/

/-- What a cleanup loop leaves: the parts it does not edit, and only old
entries of the parts it does. -/
structure Shrunk (state target : GatewayState) : Prop where
  registry : target.registry = state.registry
  pipes : ∀ pipeId pipe, target.pipes.get pipeId = some pipe →
    state.pipes.get pipeId = some pipe
  attempts : ∀ openIdentity attempt,
    target.remoteOpenAttempts.get openIdentity = some attempt →
      state.remoteOpenAttempts.get openIdentity = some attempt

theorem Shrunk.refl (state : GatewayState) : Shrunk state state :=
  ⟨rfl, fun _ _ => id, fun _ _ => id⟩

theorem Shrunk.trans {middle target : GatewayState}
    (first : Shrunk state middle) (second : Shrunk middle target) : Shrunk state target :=
  ⟨second.registry.trans first.registry,
    fun pipeId pipe stored =>
      first.pipes pipeId pipe (second.pipes pipeId pipe stored),
    fun openIdentity attempt attempted =>
      first.attempts openIdentity attempt
        (second.attempts openIdentity attempt attempted)⟩

theorem shrunk_removePipe (state : GatewayState) (pipeId : PipeId) :
    Shrunk state (state.removePipe pipeId).2 := by
  cases stored : state.pipes.get pipeId with
  | none =>
    rw [removePipe_of_none stored]
    exact Shrunk.refl state
  | some =>
    rw [removePipe_of_some stored]
    refine ⟨rfl, ?_, fun _ _ => id⟩
    intro other found remaining
    exact (get_remove_eq_some_iff.mp remaining).2

theorem get_removePipe_self (state : GatewayState) (pipeId : PipeId) :
    (state.removePipe pipeId).2.pipes.get pipeId = none := by
  cases stored : state.pipes.get pipeId with
  | none =>
    rw [removePipe_of_none stored]
    exact stored
  | some =>
    rw [removePipe_of_some stored]
    exact get_remove_self _ _

theorem removePipes_cons_snd (answer : GatewayState → PipeId → PipeEntry → List GatewayAction)
    (pipeId : PipeId) (pipeIds : List PipeId) (state : GatewayState) :
    (removePipes answer (pipeId :: pipeIds) state).2 =
      (removePipes answer pipeIds (state.removePipe pipeId).2).2 := by
  rw [removePipes]
  split <;> rename_i outcome <;> rw [outcome]

theorem shrunk_removePipes (answer : GatewayState → PipeId → PipeEntry → List GatewayAction)
    (pipeIds : List PipeId) (state : GatewayState) :
    Shrunk state (removePipes answer pipeIds state).2 ∧
      ∀ pipeId ∈ pipeIds, (removePipes answer pipeIds state).2.pipes.get pipeId = none := by
  induction pipeIds generalizing state with
  | nil => exact ⟨Shrunk.refl state, fun _ member => nomatch member⟩
  | cons pipeId pipeIds ih =>
    rw [removePipes_cons_snd]
    obtain ⟨rest, removed⟩ := ih (state.removePipe pipeId).2
    refine ⟨(state.shrunk_removePipe pipeId).trans rest, ?_⟩
    intro other member
    rcases List.mem_cons.mp member with rfl | later
    · cases stored : (removePipes answer pipeIds
          (state.removePipe other).2).2.pipes.get other with
      | none => rfl
      | some pipe =>
        have old := rest.pipes _ _ stored
        rw [get_removePipe_self] at old
        exact absurd old.symm (Option.some_ne_none _)
    · exact removed other later

theorem mem_pipesWhere {test : PipeEntry → Bool} {pipeId : PipeId} {pipe : PipeEntry}
    (stored : state.pipes.get pipeId = some pipe) (passes : test pipe = true) :
    pipeId ∈ state.pipesWhere test := by
  unfold pipesWhere
  exact List.mem_map.mpr ⟨(pipeId, pipe),
    List.mem_filter.mpr ⟨mem_toList.mpr stored, passes⟩, rfl⟩

theorem shrunk_takeRemoteAttempt (state : GatewayState) (openIdentity : OpenIdentity) :
    Shrunk state (state.takeRemoteAttempt openIdentity).2 ∧
      (state.takeRemoteAttempt openIdentity).2.remoteOpenAttempts.get openIdentity = none := by
  unfold takeRemoteAttempt
  cases attempted : state.remoteOpenAttempts.get openIdentity with
  | none => exact ⟨Shrunk.refl state, attempted⟩
  | some =>
    refine ⟨⟨rfl, fun _ _ => id, ?_⟩, get_remove_self _ _⟩
    intro other found remaining
    exact (get_remove_eq_some_iff.mp remaining).2

theorem abandonAttempts_cons_snd (openIdentity : OpenIdentity)
    (openIdentities : List OpenIdentity) (state : GatewayState) :
    (abandonAttempts (openIdentity :: openIdentities) state).2 =
      (abandonAttempts openIdentities (state.takeRemoteAttempt openIdentity).2).2 := by
  rw [abandonAttempts]
  split <;> rename_i outcome <;> rw [outcome]

/-- Abandoning listed attempts leaves none of them. -/
theorem shrunk_abandonAttempts (openIdentities : List OpenIdentity) (state : GatewayState) :
    Keeps state (abandonAttempts openIdentities state).2 ∧
      Shrunk state (abandonAttempts openIdentities state).2 ∧
      ∀ openIdentity ∈ openIdentities,
        (abandonAttempts openIdentities state).2.remoteOpenAttempts.get openIdentity = none := by
  induction openIdentities generalizing state with
  | nil =>
    exact ⟨Keeps.refl state, Shrunk.refl state, fun _ member => nomatch member⟩
  | cons openIdentity openIdentities ih =>
    rw [abandonAttempts_cons_snd]
    obtain ⟨keeps, rest, removed⟩ := ih (state.takeRemoteAttempt openIdentity).2
    obtain ⟨taken, gone⟩ := state.shrunk_takeRemoteAttempt openIdentity
    refine ⟨(state.keeps_takeRemoteAttempt openIdentity).trans keeps, taken.trans rest, ?_⟩
    intro other member
    rcases List.mem_cons.mp member with rfl | later
    · cases attempted : (abandonAttempts openIdentities
          (state.takeRemoteAttempt other).2).2.remoteOpenAttempts.get
            other with
      | none => rfl
      | some attempt =>
        have old := rest.attempts _ _ attempted
        rw [gone] at old
        exact absurd old.symm (Option.some_ne_none _)
    · exact removed other later

theorem mem_attemptsOf {openIdentity : OpenIdentity} {attempt : RemoteOpenAttempt}
    (attempted : state.remoteOpenAttempts.get openIdentity = some attempt) :
    openIdentity ∈ state.attemptsOf attempt.pipeId.originSessionId := by
  unfold attemptsOf
  exact List.mem_map.mpr ⟨(openIdentity, attempt),
    List.mem_filter.mpr ⟨mem_toList.mpr attempted, by simp⟩, rfl⟩

end GatewayState

namespace World

/-- The accounts of the state and the discipline of connection numbers. -/
structure Sound (world : World) : Prop where
  accounted : Accounted world.state.HasSession world.state
  numbered : ∀ pipeId session, world.state.InUse pipeId →
    world.state.sessions.get pipeId.originSessionId = some session →
      session.Spent pipeId.connectionId
  dialed : ∀ pipeId ∈ world.dialing, ∀ session,
    world.state.sessions.get pipeId.originSessionId = some session →
      session.Spent pipeId.connectionId ∧ ¬ world.state.InUse pipeId
  distinct : world.dialing.Nodup

/-- A spent identity that nothing uses and no other DIAL asks for. -/
structure Reserved (world : World) (pipeId : PipeId) : Prop where
  undialed : pipeId ∉ world.dialing
  unused : ∀ session,
    world.state.sessions.get pipeId.originSessionId = some session →
      session.Spent pipeId.connectionId ∧ ¬ world.state.InUse pipeId

/-- Control admission leaves a reserved identity reserved. -/
theorem Reserved.admitControl {state : GatewayState}
    {authorizing : List (SessionId × ControlOperation)} {pipeId : PipeId}
    (reserved : Reserved ⟨state, authorizing⟩ pipeId) (sessionId : SessionId) (now : Instant) :
    Reserved ⟨(state.admitControl sessionId now).2, authorizing⟩ pipeId := by
  unfold GatewayState.admitControl
  split
  · exact reserved
  · rename_i session found
    have updated : ∀ controlRate entry,
        (state.sessions.insert sessionId
          { session with controlRate := controlRate }).get
            pipeId.originSessionId = some entry →
          entry.Spent pipeId.connectionId ∧ ¬ state.InUse pipeId := by
      intro controlRate entry stored
      rcases get_insert_eq_some_iff.mp stored with
        ⟨same, rfl⟩ | ⟨-, old⟩
      · exact reserved.unused session (same ▸ found)
      · exact reserved.unused entry old
    dsimp only
    split
    · exact ⟨reserved.undialed, updated _⟩
    · exact ⟨reserved.undialed, updated _⟩

namespace Sound

variable {sessionId : SessionId} {session : SessionEntry} {state target : GatewayState}
  {authorizing : List (SessionId × ControlOperation)} {connectionId : Nat}
  {operation : ControlOperation}

section

variable (sound : Sound ⟨state, authorizing⟩)
include sound

/-- Fewer identities in use and fewer sessions keep the numbering. -/
theorem shrink (target : GatewayState) (accounted : Accounted target.HasSession target)
    (inUse : ∀ pipeId, target.InUse pipeId → state.InUse pipeId)
    (sessions : ∀ sessionId session,
      target.sessions.get sessionId = some session →
        state.sessions.get sessionId = some session) :
    Sound ⟨target, authorizing⟩ := by
  refine ⟨accounted, ?_, ?_, sound.distinct⟩
  · intro pipeId session used found
    exact sound.numbered _ _ (inUse _ used) (sessions _ _ found)
  · intro pipeId dialed session found
    obtain ⟨spent, unused⟩ := sound.dialed _ dialed _ (sessions _ _ found)
    exact ⟨spent, fun used => unused (inUse _ used)⟩

theorem keeps (kept : Keeps state target) : Sound ⟨target, authorizing⟩ := by
  have same : target.HasSession = state.HasSession := by
    unfold GatewayState.HasSession
    rw [kept.sessions]
  refine sound.shrink target ?_ kept.inUse ?_
  · rw [same]
    exact kept.accounted _ sound.accounted
  · intro sessionId session found
    rw [kept.sessions] at found
    exact found

/-! ## Sessions -/

theorem addSession {draws : Draws SessionId} {now : Instant}
    (fresh : ∀ sessionId, (state.addSession draws now).1 = some sessionId →
      FreshSession ⟨state, authorizing⟩ sessionId) :
    Sound ⟨(state.addSession draws now).2, authorizing⟩ := by
  unfold GatewayState.addSession at fresh ⊢
  split
  · exact sound
  · rename_i admitted
    rw [if_neg admitted] at fresh
    obtain ⟨unused, undialed⟩ := fresh _ rfl
    have grown : ∀ sessionId, state.HasSession sessionId →
        ∃ session, (state.sessions.insert
          (draws.unique state.sessions.keys.toFinset)
          { highestConnectionId := none
            controlRate := TokenBucket.new
              state.limits.sessionControlRatePerSecond
              state.limits.sessionControlBurst now }).get sessionId =
          some session := by
      intro sessionId present
      exact present.insert _ _
    refine ⟨?_, ?_, ?_, sound.distinct⟩
    · have framed := sound.accounted.frame (state.sessions.insert
          (draws.unique state.sessions.keys.toFinset)
          { highestConnectionId := none
            controlRate := TokenBucket.new
              state.limits.sessionControlRatePerSecond
              state.limits.sessionControlBurst now })
        state.draining state.controlRate
      exact framed.narrow
        (fun pipeId pipe sessionId stored endpoint =>
          grown _ (framed.endpoints _ _ _ stored endpoint))
        (fun openIdentity attempt attempted =>
          grown _ (framed.attempts _ _ attempted).2.2.1)
        (fun bindingId binding found =>
          grown _ (framed.owners _ _ found).1)
    · intro pipeId session used found
      rcases get_insert_eq_some_iff.mp found with ⟨same, -⟩ | ⟨-, old⟩
      · exact absurd same (unused pipeId used)
      · exact sound.numbered _ _ used old
    · intro pipeId dialed session found
      rcases get_insert_eq_some_iff.mp found with ⟨same, -⟩ | ⟨-, old⟩
      · exact absurd same (undialed pipeId dialed)
      · exact sound.dialed _ dialed _ old

theorem removeSession (sessionId : SessionId) :
    Sound ⟨(state.removeSession sessionId).2, authorizing⟩ := by
  unfold GatewayState.removeSession
  split
  · exact sound
  · dsimp only
    let dropped : GatewayState :=
      { state with
        sessions := state.sessions.remove sessionId
        registry := (state.registry.removeSession sessionId).2 }
    have owned := sound.accounted.owners.removeSession sessionId
    have droppedAccounted : Accounted state.HasSession dropped :=
      (sound.accounted.frame (state.sessions.remove sessionId) state.draining
        state.controlRate).setRegistry
          (owned.imp fun _ _ found => (owned _ _ found).1.1)
    obtain ⟨abandonKeeps, abandonShrunk, abandoned⟩ :=
      shrunk_abandonAttempts (dropped.attemptsOf sessionId)
        dropped
    let middle := (GatewayState.abandonAttempts
      (dropped.attemptsOf sessionId) dropped).2
    let owns : PipeEntry → Bool := fun pipe =>
      pipe.dialer = .sdk sessionId ∨ pipe.acceptor = .sdk sessionId
    let answer := GatewayState.disconnectedPipe sessionId
    have removeKeeps := keeps_removePipes answer
      (middle.pipesWhere owns) middle
    obtain ⟨removeShrunk, removed⟩ := shrunk_removePipes answer
      (middle.pipesWhere owns) middle
    have kept := abandonKeeps.trans removeKeeps
    have shrunk := abandonShrunk.trans removeShrunk
    have remaining : ∀ other, state.HasSession other → other ≠ sessionId →
        GatewayState.HasSession (GatewayState.removePipes answer
          (middle.pipesWhere owns) middle).2 other := by
      rintro other ⟨session, found⟩ different
      refine ⟨session, ?_⟩
      rw [kept.sessions]
      exact (get_remove_of_ne _ different).trans found
    refine sound.shrink (GatewayState.removePipes answer
      (middle.pipesWhere owns) middle).2 ?_ ?_ ?_
    · have accounted := kept.accounted _ droppedAccounted
      refine accounted.narrow ?_ ?_ ?_
      · intro pipeId pipe other stored endpoint
        refine remaining other (accounted.endpoints _ _ _ stored endpoint) ?_
        rintro rfl
        have owning : owns pipe = true := decide_eq_true endpoint
        have gone := removed pipeId (mem_pipesWhere (removeShrunk.pipes _ _ stored) owning)
        rw [gone] at stored
        exact absurd stored.symm (Option.some_ne_none _)
      · intro openIdentity attempt attempted
        refine remaining _ (accounted.attempts _ _ attempted).2.2.1 ?_
        rintro rfl
        have gone := abandoned openIdentity (mem_attemptsOf (shrunk.attempts _ _ attempted))
        rw [removeShrunk.attempts _ _ attempted] at gone
        exact absurd gone (Option.some_ne_none _)
      · intro bindingId binding found
        rw [shrunk.registry] at found
        obtain ⟨⟨present, different⟩, -⟩ := owned _ _ found
        exact remaining _ present different
    · intro pipeId used
      exact kept.inUse pipeId used
    · intro other session found
      rw [kept.sessions] at found
      exact (get_remove_eq_some_iff.mp found).2

end

theorem removeSessions (sessionIds : List SessionId) (sound : Sound ⟨state, authorizing⟩) :
    Sound ⟨(GatewayState.removeSessions sessionIds state).2, authorizing⟩ := by
  induction sessionIds generalizing state with
  | nil => exact sound
  | cons sessionId sessionIds ih =>
    rw [GatewayState.removeSessions]
    exact ih (sound.removeSession sessionId)

variable (sound : Sound ⟨state, authorizing⟩)
include sound

theorem expireOffers (now : Instant) (order : List SessionId → List SessionId) :
    Sound ⟨(state.expireOffers now order).2, authorizing⟩ := by
  unfold GatewayState.expireOffers
  exact removeSessions _ (sound.keeps (keeps_removePipes _ _ _))

/-! ## Control operations -/

/-- Rewriting the entry of a present session, with a highest connection that
does not shrink, keeps everything. -/
theorem updateSession (update : SessionEntry)
    (found : state.sessions.get sessionId = some session)
    (grows : ∀ connectionId, session.Spent connectionId → update.Spent connectionId)
    (controlRate : TokenBucket) :
    Sound ⟨{ state with
      sessions := state.sessions.insert sessionId update
      controlRate := controlRate }, authorizing⟩ := by
  have old : ∀ other entry,
      (state.sessions.insert sessionId update).get other = some entry →
        ∃ before, state.sessions.get other = some before ∧
          ∀ connectionId, before.Spent connectionId →
            entry.Spent connectionId := by
    intro other entry stored
    rcases get_insert_eq_some_iff.mp stored with ⟨rfl, rfl⟩ | ⟨-, kept⟩
    · exact ⟨session, found, grows⟩
    · exact ⟨entry, kept, fun _ => id⟩
  have present : ∀ other, state.HasSession other → ∃ entry,
      (state.sessions.insert sessionId update).get other = some entry := by
    intro other stored
    exact stored.insert sessionId update
  refine ⟨?_, ?_, ?_, sound.distinct⟩
  · have framed := sound.accounted.frame
      (state.sessions.insert sessionId update) state.draining controlRate
    exact framed.narrow
      (fun _ _ _ stored endpoint =>
        present _ (framed.endpoints _ _ _ stored endpoint))
      (fun _ _ attempted => present _ (framed.attempts _ _ attempted).2.2.1)
      (fun _ _ owned => present _ (framed.owners _ _ owned).1)
  · intro pipeId entry used stored
    obtain ⟨before, storedBefore, keepsSpent⟩ := old _ _ stored
    exact keepsSpent _ (sound.numbered _ _ used storedBefore)
  · intro pipeId dialed entry stored
    obtain ⟨before, storedBefore, keepsSpent⟩ := old _ _ stored
    obtain ⟨spent, unused⟩ := sound.dialed _ dialed _ storedBefore
    exact ⟨keepsSpent _ spent, unused⟩

theorem admitControl (sessionId : SessionId) (now : Instant) :
    Sound ⟨(state.admitControl sessionId now).2, authorizing⟩ := by
  unfold GatewayState.admitControl
  split
  · exact sound
  · rename_i session found
    have updated := sound.updateSession
      { session with controlRate := (session.controlRate.tryTake now).2 }
      found (fun _ => id)
    dsimp only
    split
    · exact updated state.controlRate
    · exact updated _

/-- A connection beyond the highest one of its session is not in use. -/
theorem not_inUse_of_higher (found : state.sessions.get sessionId = some session)
    (higher : ¬ session.Spent connectionId) :
    ¬ state.InUse ⟨sessionId, connectionId⟩ ∧
      (⟨sessionId, connectionId⟩ : PipeId) ∉ dialing ⟨state, authorizing⟩ := by
  constructor
  · intro used
    exact higher (sound.numbered _ _ used found)
  · intro dialed
    exact higher (sound.dialed _ dialed _ found).1

theorem recordConnection (found : state.sessions.get sessionId = some session)
    {recorded : GatewayState}
    (accepted : state.recordConnection sessionId session operation = some recorded) :
    Sound ⟨recorded, authorizing⟩ ∧
      ∀ pipeId, dialId (sessionId, operation) = some pipeId →
        Reserved ⟨recorded, authorizing⟩ pipeId := by
  cases operation with
  | publish =>
    obtain rfl := Option.some.inj accepted
    exact ⟨sound, fun _ dialed => nomatch dialed⟩
  | dial connectionId =>
    simp only [GatewayState.recordConnection] at accepted
    split at accepted
    · cases accepted
    · rename_i higher
      obtain rfl := Option.some.inj accepted
      have unspent : ¬ session.Spent connectionId := by
        rintro ⟨highest, known, below⟩
        exact higher (by simp [known, below])
      have grows : ∀ other, session.Spent other →
          SessionEntry.Spent
            { session with highestConnectionId := some connectionId }
            other := by
        rintro other ⟨highest, known, below⟩
        refine ⟨connectionId, rfl, ?_⟩
        have above : highest < connectionId := by
          by_contra notAbove
          exact unspent ⟨highest, known, Nat.le_of_not_lt notAbove⟩
        omega
      refine ⟨sound.updateSession _ found grows state.controlRate, ?_⟩
      intro pipeId dialed
      obtain rfl := Option.some.inj dialed
      obtain ⟨unused, undialed⟩ := sound.not_inUse_of_higher found unspent
      refine ⟨undialed, ?_⟩
      intro entry stored
      change (state.sessions.insert sessionId _).get sessionId = _ at stored
      rw [get_insert_self] at stored
      obtain rfl := Option.some.inj stored
      exact ⟨⟨connectionId, rfl, Nat.le_refl _⟩, unused⟩

/-- Preparing an operation keeps the invariant; an admitted DIAL has reserved
its identity. -/
theorem prepareAuthorization (sessionId : SessionId) (operation : ControlOperation)
    (now : Instant) :
    Sound ⟨(state.prepareAuthorization sessionId operation now).2,
        authorizing⟩ ∧
      ((state.prepareAuthorization sessionId operation now).1 = none →
        ∀ pipeId, dialId (sessionId, operation) = some pipeId →
          Reserved ⟨(state.prepareAuthorization sessionId operation now).2,
            authorizing⟩ pipeId) := by
  unfold GatewayState.prepareAuthorization
  split
  · exact ⟨sound, fun refused => nomatch refused⟩
  · rename_i session found
    split
    · exact ⟨sound, fun refused => nomatch refused⟩
    · rename_i recorded accepted
      obtain ⟨recordedSound, reserved⟩ := sound.recordConnection found accepted
      split
      · exact ⟨recordedSound, fun refused => nomatch refused⟩
      · have admittedSound := recordedSound.admitControl sessionId now
        dsimp only
        split
        · refine ⟨admittedSound, ?_⟩
          intro _ pipeId dialed
          exact (reserved pipeId dialed).admitControl sessionId now
        · exact ⟨admittedSound, fun refused => nomatch refused⟩

/-! ## Admitting an identity -/

/-- Taking one identity into use; if its origin is a local session, the session
has spent it and no DIAL asks for it. -/
theorem takeIdentity (pipeId : PipeId) (sessions : target.sessions = state.sessions)
    (accounted : Accounted state.HasSession target)
    (inUse : ∀ other, target.InUse other → other = pipeId ∨ state.InUse other)
    (spent : ∀ session,
      state.sessions.get pipeId.originSessionId = some session →
        session.Spent pipeId.connectionId ∧ pipeId ∉ dialing ⟨state, authorizing⟩) :
    Sound ⟨target, authorizing⟩ := by
  have same : target.HasSession = state.HasSession := by
    unfold GatewayState.HasSession
    rw [sessions]
  refine ⟨?_, ?_, ?_, sound.distinct⟩
  · change Accounted target.HasSession target
    rw [same]
    exact accounted
  · intro other session used found
    change target.sessions.get _ = _ at found
    rw [sessions] at found
    rcases inUse other used with rfl | old
    · exact (spent session found).1
    · exact sound.numbered _ _ old found
  · intro other dialed session found
    change target.sessions.get _ = _ at found
    rw [sessions] at found
    obtain ⟨otherSpent, unused⟩ := sound.dialed _ dialed _ found
    refine ⟨otherSpent, ?_⟩
    intro used
    rcases inUse other used with rfl | old
    · exact (spent session found).2 dialed
    · exact unused old

theorem offerLocalAt {pipeId : PipeId} (reserved : Reserved ⟨state, authorizing⟩ pipeId)
    (dialer : state.HasSession pipeId.originSessionId) {binding : Binding}
    (acceptor : state.HasSession binding.sessionId) (now : Instant) :
    Sound ⟨(state.offerLocalAt pipeId binding now).2, authorizing⟩ := by
  obtain ⟨session, found⟩ := dialer
  have unused := (reserved.unused session found).2
  exact sound.takeIdentity pipeId (sessions_offerLocalAt _ _ _ _)
    (accounted_offerLocalAt sound.accounted unused ⟨session, found⟩ acceptor now)
    (fun _ used => inUse_offerLocalAt used)
    (fun entry stored => ⟨(reserved.unused entry stored).1, reserved.undialed⟩)

theorem startAttempt (openIdentity : OpenIdentity)
    (reserved : Reserved ⟨state, authorizing⟩ openIdentity.pipeId)
    (own : state.gatewayId = some openIdentity.entryGateway)
    (dialer : state.HasSession openIdentity.originSession) (destination : Destination) :
    Sound ⟨state.startAttempt openIdentity destination, authorizing⟩ := by
  obtain ⟨session, found⟩ := dialer
  have unused := (reserved.unused session found).2
  refine sound.takeIdentity openIdentity.pipeId rfl
    (sound.accounted.startAttempt destination own ⟨session, found⟩ unused) ?_
    (fun entry stored => ⟨(reserved.unused entry stored).1, reserved.undialed⟩)
  rintro other (piped | ⟨identity, attempt, attempted, named⟩)
  · exact Or.inr (Or.inl piped)
  · rcases get_insert_eq_some_iff.mp attempted with
      ⟨rfl, rfl⟩ | ⟨-, old⟩
    · exact Or.inl named.symm
    · exact Or.inr (Or.inr ⟨identity, attempt, old, named⟩)

theorem dial {dialer : SessionId}
    (reserved : Reserved ⟨state, authorizing⟩ ⟨dialer, connectionId⟩)
    (destination : Destination) (now : Instant) :
    Sound ⟨(state.dial dialer connectionId destination now).2, authorizing⟩ := by
  unfold GatewayState.dial
  split
  · exact sound
  · rename_i live
    have dialing := hasSession_of_not_absent live
    split
    · exact sound
    · split
      · exact sound
      · split
        · exact sound
        · let selecting : GatewayState :=
            { state with
              registry := (state.registry.selectExcluding destination dialer).2 }
          have selectingSound : Sound ⟨selecting, authorizing⟩ :=
            sound.keeps ⟨fun _ accounted => accounted.setRegistry
              (accounted.owners.selectExcluding destination dialer),
              fun _ => id, rfl⟩
          have selectingReserved :
              Reserved ⟨selecting, authorizing⟩ ⟨dialer, connectionId⟩ :=
            ⟨reserved.undialed, reserved.unused⟩
          dsimp only
          split
          · rename_i binding selected
            exact selectingSound.offerLocalAt selectingReserved dialing
              (sound.accounted.owners.selected selected).1 now
          · split
            · split <;> exact selectingSound
            · rename_i gatewayId own
              split
              · exact selectingSound
              · exact selectingSound.startAttempt
                  ⟨gatewayId, dialer, connectionId⟩ selectingReserved own
                  dialing destination

theorem publish (draws : Draws BindingId) (owner : state.HasSession sessionId)
    (requestId : Nat) (destination : Destination) :
    Sound ⟨(state.publish draws sessionId requestId destination).2, authorizing⟩ := by
  have registered : Sound ⟨{ state with
      registry := (state.registry.register draws sessionId destination).2 },
      authorizing⟩ :=
    { sound with
      accounted := sound.accounted.setRegistry
        (sound.accounted.owners.register draws owner destination) }
  unfold GatewayState.publish
  split
  · exact sound
  · split
    · exact sound
    · dsimp only
      split <;> exact registered

theorem applyControlAt (draws : Draws BindingId) (owner : state.HasSession sessionId)
    (reserved : ∀ pipeId, dialId (sessionId, operation) = some pipeId →
      Reserved ⟨state, authorizing⟩ pipeId) (now : Instant) :
    Sound ⟨(state.applyControlAt draws sessionId operation now).2, authorizing⟩ := by
  cases operation with
  | publish requestId destination =>
    exact sound.publish draws owner requestId destination
  | dial connectionId destination =>
    exact sound.dial (reserved _ rfl) destination now

end Sound

end World

end RelayGate.Gateway
