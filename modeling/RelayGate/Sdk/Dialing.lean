import RelayGate.Sdk.Dial

/-!
# What a dial may report

A call enqueues at most one command, so it causes at most one DIAL.  An error that
the SDK reports as not observed belongs to a call whose command was never handed to
a link and is in no queue any more.  The connection ids of a session are given out
under its lock, which is held until the command is in the queue, so the DIALs of a
session carry increasing ids.
-/

namespace RelayGate.Sdk

open Library

namespace Relay

variable {σ κ : Type} [DecidableEq σ] [DecidableEq κ]

/-! ## The invariant -/

/-- The connection ids of a session, those written before those queued. -/
def idsOf (relay : Relay σ κ) (session : σ) : List Nat :=
  (relay.dials.filter fun frame => frame.session = session).map
      DialFrame.connectionId ++
    (relay.sessions session).commands.map DialCommand.connectionId

/-- No DIAL of the call was written and none is queued. -/
structure Unsent (relay : Relay σ κ) (call : κ) : Prop where
  undialled : ∀ frame ∈ relay.dials, frame.call ≠ call
  unqueued : ∀ session, ∀ command ∈ (relay.sessions session).commands,
    command.call ≠ call

/-- What a result says about its call is so. -/
def Truthful (relay : Relay σ κ) (call : κ) : DialResult σ → Prop
  | .opened session connectionId =>
      ⟨session, connectionId, call⟩ ∈ relay.dials ∧
        connectionId ∈ (relay.sessions session).opened
  | .failed .sdk error => error.observation = .notObserved → relay.Unsent call
  | .failed .gateway _ => True

/-- A call that sends holds the lock with an id above all others. -/
structure Holds (relay : Relay σ κ) (call : κ) (session : σ) (connectionId : Nat) :
    Prop where
  uncommitted : (relay.calls call).committed = none
  lock : (relay.sessions session).lock = some call
  above : ∀ other ∈ relay.idsOf session, other < connectionId
  below : connectionId < (relay.sessions session).nextConnectionId

/-- What is known of a call at each stage. -/
def Fits (relay : Relay σ κ) (call : κ) : Stage σ → Prop
  | .starting | .looping | .supplying _ | .reserving _ | .locking _ | .waiting =>
      (relay.calls call).committed = none
  | .sending session connectionId | .permitted session connectionId =>
      relay.Holds call session connectionId
  | .awaiting session connectionId =>
      (relay.calls call).committed = some (session, connectionId)
  | .returned result => relay.Truthful call result
  | .dropped => True

structure Honest (relay : Relay σ κ) : Prop where
  queued : ∀ session, ∀ command ∈ (relay.sessions session).commands,
    (relay.calls command.call).committed = some (session, command.connectionId) ∧
      relay.replies command.call = .waiting ∧
      ∀ frame ∈ relay.dials, frame.call ≠ command.call
  dialled : ∀ frame ∈ relay.dials,
    (relay.calls frame.call).committed = some (frame.session, frame.connectionId)
  once : (relay.dials.map DialFrame.call).Nodup
  ordered : ∀ session, (relay.idsOf session).Pairwise (· < ·)
  below : ∀ session, ∀ id ∈ relay.idsOf session,
    id < (relay.sessions session).nextConnectionId
  pending : ∀ session, ∀ command ∈ (relay.sessions session).pendingDials,
    ⟨session, command.connectionId, command.call⟩ ∈ relay.dials
  fits : ∀ call, relay.Fits call (relay.calls call).stage
  replied : ∀ call, relay.replies call ≠ .waiting →
    (relay.calls call).committed ≠ none
  truthful : ∀ call result, relay.replies call = .sent result →
    relay.Truthful call result

omit [DecidableEq κ] in
theorem honest_connect (capacity : Nat) : (connect capacity : Relay σ κ).Honest where
  queued := nofun
  dialled := nofun
  once := List.nodup_nil
  ordered _ := List.Pairwise.nil
  below := nofun
  pending := nofun
  fits _ := rfl
  replied _ changed := absurd rfl changed
  truthful := nofun

section Edits

variable {connectionId : Nat} {relay : Relay σ κ} {α : Type} {call : κ}

omit [DecidableEq κ] in
/-- A call that has enqueued nothing has sent nothing. -/
theorem Honest.unsent (honest : relay.Honest)
    (uncommitted : (relay.calls call).committed = none) : relay.Unsent call where
  undialled := by
    rintro frame member rfl
    simp [honest.dialled frame member] at uncommitted
  unqueued := by
    rintro session command member rfl
    simp [(honest.queued session command member).1] at uncommitted

variable {target : Relay σ κ}

omit [DecidableEq σ] [DecidableEq κ] in
theorem Truthful.mono {result : DialResult σ} (truthful : relay.Truthful call result)
    (dials : ∀ frame ∈ relay.dials, frame ∈ target.dials)
    (opened : ∀ session, ∀ id ∈ (relay.sessions session).opened,
      id ∈ (target.sessions session).opened)
    (unsent : relay.Unsent call → target.Unsent call) : target.Truthful call result := by
  cases result with
  | opened session =>
    exact ⟨dials _ truthful.1, opened session _ truthful.2⟩
  | failed issuer =>
    cases issuer with
    | sdk => exact fun unobserved => unsent (truthful unobserved)
    | gateway => trivial

omit [DecidableEq κ] in
theorem Fits.mono {stage : Stage σ} (fits : relay.Fits call stage)
    (committed : (target.calls call).committed = (relay.calls call).committed)
    (holds : ∀ session id, relay.Holds call session id → target.Holds call session id)
    (truthful : ∀ result, relay.Truthful call result → target.Truthful call result) :
    target.Fits call stage := by
  cases stage with
  | sending session id => exact holds session id fits
  | permitted session id => exact holds session id fits
  | returned result => exact truthful result fits
  | dropped => trivial
  | starting | looping | supplying | reserving | locking | waiting | awaiting =>
    exact committed.trans fits

omit [DecidableEq κ] in
/-- The queues, the answers and the written DIALs stay; a call may move on, a lock
change hands and a dial leave the table. -/
theorem Honest.recast (honest : relay.Honest) (dials : target.dials = relay.dials)
    (replies : target.replies = relay.replies)
    (commands : ∀ session, (target.sessions session).commands = (relay.sessions session).commands)
    (pending : ∀ session, ∀ command ∈ (target.sessions session).pendingDials,
      command ∈ (relay.sessions session).pendingDials)
    (next : ∀ session, (relay.sessions session).nextConnectionId ≤
      (target.sessions session).nextConnectionId)
    (opened : ∀ session, ∀ id ∈ (relay.sessions session).opened,
      id ∈ (target.sessions session).opened)
    (committed : ∀ call, (target.calls call).committed = (relay.calls call).committed)
    (fits : (∀ {call result}, relay.Truthful call result →
        target.Truthful call result) →
      ∀ call, target.Fits call (target.calls call).stage) :
    target.Honest := by
  have ids : ∀ session, target.idsOf session = relay.idsOf session := by
    intro session
    simp only [idsOf, dials, commands]
  have truthful : ∀ {call result}, relay.Truthful call result →
      target.Truthful call result := by
    intro call result earlier
    apply earlier.mono (by simp [dials]) opened
    intro unsent
    refine ⟨by simpa only [dials] using unsent.undialled, ?_⟩
    intro session
    rw [commands]
    exact unsent.unqueued session
  constructor
  · intro session command member
    rw [commands] at member
    rw [committed, replies, dials]
    exact honest.queued session command member
  · intro frame member
    rw [dials] at member
    rw [committed]
    exact honest.dialled frame member
  · rw [dials]
    exact honest.once
  · intro session
    rw [ids]
    exact honest.ordered session
  · intro session id member
    rw [ids] at member
    exact Nat.lt_of_lt_of_le (honest.below session id member) (next session)
  · intro session command member
    rw [dials]
    exact honest.pending session command (pending session command member)
  · exact fits truthful
  · intro call changed
    rw [replies] at changed
    rw [committed]
    exact honest.replied call changed
  · intro call result sent
    rw [replies] at sent
    exact truthful (honest.truthful call result sent)

variable {session : σ}

omit [DecidableEq κ] in
theorem Holds.mono (holds : relay.Holds call session connectionId)
    (committed : (target.calls call).committed = (relay.calls call).committed)
    (lock : (target.sessions session).lock = (relay.sessions session).lock)
    (ids : ∀ id ∈ target.idsOf session, id ∈ relay.idsOf session)
    (next : (relay.sessions session).nextConnectionId ≤
      (target.sessions session).nextConnectionId) :
    target.Holds call session connectionId where
  uncommitted := committed.trans holds.uncommitted
  lock := lock.trans holds.lock
  above id member := holds.above id (ids id member)
  below := Nat.lt_of_lt_of_le holds.below next

omit [DecidableEq σ] in
@[simp]
theorem stage_moveTo (call : κ) (stage : Stage σ) :
    ((relay.moveTo call stage).calls call).stage = stage := by
  simp [moveTo, setCall]

omit [DecidableEq σ] in
theorem calls_moveTo_of_ne {call other : κ} (different : other ≠ call) (stage : Stage σ) :
    (relay.moveTo call stage).calls other = relay.calls other :=
  Function.update_of_ne different _ _

omit [DecidableEq σ] in
@[simp]
theorem committed_moveTo (call other : κ) (stage : Stage σ) :
    ((relay.moveTo call stage).calls other).committed = (relay.calls other).committed := by
  by_cases same : other = call
  · subst same
    simp [moveTo, setCall]
  · rw [calls_moveTo_of_ne same]

/-- A call moves on. -/
theorem Honest.setCall (honest : relay.Honest) {value : DialCall σ}
    (committed : value.committed = (relay.calls call).committed)
    (fits : relay.Fits call value.stage) : (relay.setCall call value).Honest := by
  have unchanged : ∀ other, ((relay.setCall call value).calls other).committed =
      (relay.calls other).committed := by
    intro other
    by_cases same : other = call
    · subst same
      simpa [Relay.setCall] using committed
    · simp [Relay.setCall, Function.update_of_ne same]
  refine honest.recast rfl rfl (fun _ => rfl) (fun _ _ => id) (fun _ => le_rfl)
    (fun _ _ => id) unchanged ?_
  intro truthful other
  have carried : ∀ {stage}, relay.Fits other stage →
      (relay.setCall call value).Fits other stage := by
    intro stage earlier
    exact earlier.mono (unchanged other)
      (fun _ _ holds => holds.mono (unchanged other) rfl (fun _ => id) le_rfl)
      fun _ => truthful
  apply carried
  by_cases same : other = call
  · subst same
    simpa [Relay.setCall] using fits
  · simpa [Relay.setCall, Function.update_of_ne same] using honest.fits other

theorem Honest.moveTo (honest : relay.Honest) {stage : Stage σ}
    (fits : relay.Fits call stage) : (relay.moveTo call stage).Honest :=
  honest.setCall rfl fits

theorem Honest.giveUp (honest : relay.Honest) {error : Error}
    (unsent : error.observation = .notObserved → relay.Unsent call) :
    (relay.giveUp call error).Honest :=
  honest.moveTo unsent

omit [DecidableEq κ] in
@[simp]
theorem sessions_setSession (session : σ) (value : RelaySession κ) :
    (relay.setSession session value).sessions session = value :=
  Function.update_self _ _ _

variable {session other : σ}

omit [DecidableEq κ] in
theorem sessions_setSession_of_ne (different : other ≠ session) (value : RelaySession κ) :
    (relay.setSession session value).sessions other = relay.sessions other :=
  Function.update_of_ne different _ _

omit [DecidableEq κ] in
/-- A field that an edit of one session leaves is the same in every session. -/
theorem field_setSession (field : RelaySession κ → α) {value : RelaySession κ}
    (same : field value = field (relay.sessions session)) (other : σ) :
    field ((relay.setSession session value).sessions other) = field (relay.sessions other) := by
  by_cases here : other = session
  · subst here
    rw [sessions_setSession]
    exact same
  · rw [sessions_setSession_of_ne here]

omit [DecidableEq κ] in
/-- A session changes in what the dials do not depend on, or loses a waiting dial. -/
theorem Honest.setSession (honest : relay.Honest) {value : RelaySession κ}
    (commands : value.commands = (relay.sessions session).commands)
    (pending : ∀ command ∈ value.pendingDials, command ∈ (relay.sessions session).pendingDials)
    (next : value.nextConnectionId = (relay.sessions session).nextConnectionId)
    (lock : value.lock = (relay.sessions session).lock)
    (opened : ∀ id ∈ (relay.sessions session).opened, id ∈ value.opened) :
    (relay.setSession session value).Honest := by
  have ids : ∀ other, (relay.setSession session value).idsOf other =
      relay.idsOf other := by
    intro other
    unfold idsOf
    rw [field_setSession RelaySession.commands commands]
    rfl
  refine honest.recast rfl rfl (field_setSession _ commands) ?_
    (fun other => (field_setSession _ next other).ge) ?_ (fun _ => rfl) ?_
  · intro other command member
    by_cases here : other = session
    · subst here
      rw [sessions_setSession] at member
      exact pending command member
    · rwa [sessions_setSession_of_ne here] at member
  · intro other number member
    by_cases here : other = session
    · subst here
      rw [sessions_setSession]
      exact opened number member
    · rwa [sessions_setSession_of_ne here]
  · intro truthful call
    refine (honest.fits call).mono rfl ?_ fun _ => truthful
    intro other number holds
    exact holds.mono rfl (field_setSession _ lock other) (by simp [ids])
      (field_setSession RelaySession.nextConnectionId next other).ge

omit [DecidableEq κ] in
theorem Holds.setSession {place : σ} (holds : relay.Holds call place connectionId)
    {value : RelaySession κ} (commands : value.commands = (relay.sessions session).commands)
    (next : value.nextConnectionId = (relay.sessions session).nextConnectionId)
    (lock : value.lock = (relay.sessions session).lock) :
    (relay.setSession session value).Holds call place connectionId := by
  refine holds.mono rfl (field_setSession _ lock place) ?_
    (field_setSession RelaySession.nextConnectionId next place).ge
  intro number member
  unfold idsOf at member ⊢
  rwa [field_setSession RelaySession.commands commands] at member

/-- An answer to a call whose command has left its queue. -/
theorem Honest.reply (honest : relay.Honest) {answer : DialReply σ}
    (committed : (relay.calls call).committed ≠ none)
    (unqueued : ∀ session, ∀ command ∈ (relay.sessions session).commands, command.call ≠ call)
    (truthful : ∀ result, answer = .sent result → relay.Truthful call result) :
    (relay.reply call answer).Honest := by
  have carried : ∀ {other result}, relay.Truthful other result →
      (relay.reply call answer).Truthful other result := by
    intro other result earlier
    exact earlier.mono (fun _ => id) (fun _ _ => id) fun unsent =>
      ⟨unsent.undialled, unsent.unqueued⟩
  refine ⟨?_, honest.dialled, honest.once, honest.ordered, honest.below, honest.pending,
    ?_, ?_, ?_⟩
  · intro session command member
    obtain ⟨place, waiting, undialled⟩ := honest.queued session command member
    refine ⟨place, ?_, undialled⟩
    simpa [Relay.reply, Function.update_of_ne (unqueued session command member)]
      using waiting
  · intro other
    refine (honest.fits other).mono rfl ?_ fun _ => carried
    intro session connectionId holds
    exact holds.mono rfl rfl (fun _ => id) le_rfl
  · intro other changed
    by_cases same : other = call
    · subst same
      exact committed
    · apply honest.replied
      simpa [Relay.reply, Function.update_of_ne same] using changed
  · intro other result sent
    apply carried
    by_cases same : other = call
    · subst same
      exact truthful result (by simpa [Relay.reply] using sent)
    · exact honest.truthful other result
        (by simpa [Relay.reply, Function.update_of_ne same] using sent)

/-- The relay without the first command of a queue. -/
def pop (relay : Relay σ κ) (session : σ) (rest : List (DialCommand κ)) : Relay σ κ :=
  relay.setSession session { relay.sessions session with commands := rest }

section Pop

variable {session : σ} {command : DialCommand κ} {rest : List (DialCommand κ)}

omit [DecidableEq κ] in
theorem mem_of_mem_pop (first : (relay.sessions session).commands = command :: rest)
    {other : σ} {queued : DialCommand κ}
    (member : queued ∈ ((relay.pop session rest).sessions other).commands) :
    queued ∈ (relay.sessions other).commands := by
  by_cases here : other = session
  · subst here
    rw [first]
    simp only [pop, sessions_setSession] at member
    exact List.mem_cons_of_mem _ member
  · rwa [pop, sessions_setSession_of_ne here] at member

omit [DecidableEq κ] in
/-- A call has one command at most, so the first of a queue was its only one. -/
theorem Honest.unsent_pop (honest : relay.Honest)
    (first : (relay.sessions session).commands = command :: rest) :
    (relay.pop session rest).Unsent command.call := by
  obtain ⟨place, _, undialled⟩ := honest.queued session command (by simp [first])
  refine ⟨undialled, ?_⟩
  intro other queued member same
  obtain ⟨elsewhere, _⟩ := honest.queued other queued (mem_of_mem_pop first member)
  rw [same, place, Option.some.injEq, Prod.mk.injEq] at elsewhere
  obtain ⟨rfl, equal⟩ := elsewhere
  have ordered := honest.ordered session
  rw [idsOf, first, List.map_cons, List.pairwise_append] at ordered
  rw [Relay.pop, sessions_setSession] at member
  have later := (List.pairwise_cons.mp ordered.2.1).1 queued.connectionId
    (List.mem_map_of_mem member)
  exact Nat.lt_irrefl _ (equal ▸ later)

omit [DecidableEq κ] in
theorem idsOf_pop (first : (relay.sessions session).commands = command :: rest) (other : σ) :
    List.Sublist ((relay.pop session rest).idsOf other) (relay.idsOf other) := by
  unfold idsOf
  apply List.Sublist.append_left
  by_cases here : other = session
  · subst here
    rw [Relay.pop, sessions_setSession, first]
    exact List.sublist_cons_self _ _
  · rw [Relay.pop, sessions_setSession_of_ne here]

omit [DecidableEq κ] in
theorem sessions_pop (rest : List (DialCommand κ)) (other : σ) :
    ((relay.pop session rest).sessions other).pendingDials =
        (relay.sessions other).pendingDials ∧
      ((relay.pop session rest).sessions other).nextConnectionId =
        (relay.sessions other).nextConnectionId ∧
      ((relay.pop session rest).sessions other).lock = (relay.sessions other).lock ∧
      ((relay.pop session rest).sessions other).opened = (relay.sessions other).opened := by
  refine ⟨?_, ?_, ?_, ?_⟩
  · exact field_setSession RelaySession.pendingDials (by rfl) other
  · exact field_setSession RelaySession.nextConnectionId (by rfl) other
  · exact field_setSession RelaySession.lock (by rfl) other
  · exact field_setSession RelaySession.opened (by rfl) other

omit [DecidableEq κ] in
theorem Honest.pop (honest : relay.Honest)
    (first : (relay.sessions session).commands = command :: rest) :
    (relay.pop session rest).Honest := by
  have truthful : ∀ {call result}, relay.Truthful call result →
      (relay.pop session rest).Truthful call result := by
    intro call result earlier
    refine earlier.mono (fun _ => id) ?_ fun unsent => ⟨unsent.undialled, ?_⟩
    · intro other
      rw [(sessions_pop rest other).2.2.2]
      exact fun _ => id
    · exact fun other queued member =>
        unsent.unqueued other queued (mem_of_mem_pop first member)
  refine ⟨?_, honest.dialled, honest.once, ?_, ?_, ?_, ?_, honest.replied, ?_⟩
  · intro other queued member
    exact honest.queued other queued (mem_of_mem_pop first member)
  · exact fun other => (honest.ordered other).sublist (idsOf_pop first other)
  · intro other number member
    rw [(sessions_pop rest other).2.1]
    exact honest.below other number ((idsOf_pop first other).subset member)
  · intro other waiting member
    rw [(sessions_pop rest other).1] at member
    exact honest.pending other waiting member
  · intro call
    refine (honest.fits call).mono rfl ?_ fun _ => truthful
    intro other number holds
    obtain ⟨_, next, lock, _⟩ := sessions_pop rest other
    exact holds.mono rfl lock (fun _ member => (idsOf_pop first other).subset member)
      next.ge
  · exact fun call result sent => truthful (honest.truthful call result sent)

/-- The relay with the first command of a queue written. -/
def dialFirst (relay : Relay σ κ) (session : σ) (command : DialCommand κ)
    (rest : List (DialCommand κ)) (failure : Option Error) : Relay σ κ :=
  { relay.setSession session
      { relay.sessions session with
        commands := rest
        pendingDials := (relay.sessions session).pendingDials ++ [command]
        failure := failure } with
    dials := relay.dials ++ [⟨session, command.connectionId, command.call⟩] }

omit [DecidableEq κ] in
theorem sessions_dialFirst (failure : Option Error) (other : σ) :
    ((relay.dialFirst session command rest failure).sessions other).commands =
        ((relay.pop session rest).sessions other).commands ∧
      ((relay.dialFirst session command rest failure).sessions other).nextConnectionId =
        (relay.sessions other).nextConnectionId ∧
      ((relay.dialFirst session command rest failure).sessions other).lock =
        (relay.sessions other).lock ∧
      ((relay.dialFirst session command rest failure).sessions other).opened =
        (relay.sessions other).opened := by
  by_cases here : other = session
  · subst here
    simp [Relay.dialFirst, Relay.pop, Relay.setSession]
  · simp [Relay.dialFirst, Relay.pop, Relay.setSession, Function.update_of_ne here]

omit [DecidableEq κ] in
/-- The id of a command keeps its place when the command is written. -/
theorem idsOf_dialFirst (first : (relay.sessions session).commands = command :: rest)
    (failure : Option Error) (other : σ) :
    (relay.dialFirst session command rest failure).idsOf other = relay.idsOf other := by
  unfold idsOf
  rw [(sessions_dialFirst failure other).1]
  by_cases here : other = session
  · subst here
    rw [Relay.pop, sessions_setSession, first]
    simp [Relay.dialFirst]
  · rw [Relay.pop, sessions_setSession_of_ne here]
    simp [Relay.dialFirst, Ne.symm here]

omit [DecidableEq κ] in
/-- The command moves from the queue to the written DIALs. -/
theorem Honest.dialFirst (honest : relay.Honest)
    (first : (relay.sessions session).commands = command :: rest)
    (failure : Option Error) : (relay.dialFirst session command rest failure).Honest := by
  obtain ⟨place, waiting, undialled⟩ := honest.queued session command (by simp [first])
  have alone := honest.unsent_pop first
  have truthful : ∀ {call result}, relay.Truthful call result →
      (relay.dialFirst session command rest failure).Truthful call result := by
    intro call result earlier
    refine earlier.mono (fun _ => List.mem_append_left _) ?_ ?_
    · intro other
      rw [(sessions_dialFirst failure other).2.2.2]
      exact fun _ => id
    · intro unsent
      constructor
      · intro frame member
        rcases List.mem_append.mp member with earlier | newest
        · exact unsent.undialled frame earlier
        · rw [List.mem_singleton.mp newest]
          exact unsent.unqueued session command (by simp [first])
      · intro other queued member
        rw [(sessions_dialFirst failure other).1] at member
        exact unsent.unqueued other queued (mem_of_mem_pop first member)
  constructor
  · intro other queued member
    rw [(sessions_dialFirst failure other).1] at member
    obtain ⟨there, silent, never⟩ := honest.queued other queued (mem_of_mem_pop first member)
    refine ⟨there, silent, ?_⟩
    intro frame dialled
    rcases List.mem_append.mp dialled with earlier | newest
    · exact never frame earlier
    · rw [List.mem_singleton.mp newest]
      exact Ne.symm (alone.unqueued other queued member)
  · intro frame member
    rcases List.mem_append.mp member with earlier | newest
    · exact honest.dialled frame earlier
    · rw [List.mem_singleton.mp newest]
      exact place
  · change ((relay.dials ++ [_]).map DialFrame.call).Nodup
    rw [List.map_append, List.nodup_append]
    refine ⟨honest.once, List.nodup_singleton _, ?_⟩
    intro call member other newest
    obtain ⟨frame, earlier, rfl⟩ := List.mem_map.mp member
    rw [List.mem_singleton.mp newest]
    exact undialled frame earlier
  · intro other
    rw [idsOf_dialFirst first]
    exact honest.ordered other
  · intro other number member
    rw [idsOf_dialFirst first] at member
    rw [(sessions_dialFirst failure other).2.1]
    exact honest.below other number member
  · intro other pending member
    by_cases here : other = session
    · subst here
      simp only [Relay.dialFirst, sessions_setSession, List.mem_append,
        List.mem_singleton] at member ⊢
      rcases member with earlier | rfl
      · exact Or.inl (honest.pending other pending earlier)
      · exact Or.inr rfl
    · simp only [Relay.dialFirst, sessions_setSession_of_ne here] at member
      exact List.mem_append_left _ (honest.pending other pending member)
  · intro call
    refine (honest.fits call).mono rfl ?_ fun _ => truthful
    intro other number holds
    obtain ⟨_, next, lock, _⟩ :=
      @sessions_dialFirst σ κ _ relay session command rest failure other
    exact holds.mono rfl lock (by simp [idsOf_dialFirst first]) next.ge
  · exact honest.replied
  · exact fun call result sent => truthful (honest.truthful call result sent)

end Pop

omit [DecidableEq κ] in
/-- A field of the sessions that the lock does not touch. -/
theorem field_unlock (field : RelaySession κ → α)
    (same : ∀ value : RelaySession κ, field { value with lock := none } = field value)
    (session other : σ) :
    field ((relay.unlock session).sessions other) = field (relay.sessions other) :=
  field_setSession field (same _) other

/-- The holder of a lock gives it back and moves on. -/
theorem Honest.release (honest : relay.Honest) {stage : Stage σ}
    (lock : (relay.sessions session).lock = some call)
    (fits : (relay.unlock session).Fits call stage) :
    ((relay.unlock session).moveTo call stage).Honest := by
  have ids : ∀ other, (relay.unlock session).idsOf other = relay.idsOf other := by
    intro other
    unfold idsOf
    rw [field_unlock RelaySession.commands fun _ => rfl]
    rfl
  have next : ∀ other, ((relay.unlock session).sessions other).nextConnectionId =
      (relay.sessions other).nextConnectionId :=
    field_unlock RelaySession.nextConnectionId (fun _ => rfl) session
  refine honest.recast rfl rfl (field_unlock RelaySession.commands (fun _ => rfl) session)
    ?_ (fun other => (next other).ge) ?_ (fun _ => committed_moveTo _ _ _) ?_
  · intro other command member
    rw [← field_unlock RelaySession.pendingDials (fun _ => rfl) session]
    exact member
  · intro other number member
    rw [← field_unlock RelaySession.opened (fun _ => rfl) session] at member
    exact member
  · intro truthful other
    by_cases same : other = call
    · subst same
      rw [stage_moveTo]
      refine fits.mono (committed_moveTo _ _ _)
        (fun _ _ holds => holds.mono (committed_moveTo _ _ _) rfl (fun _ => id) le_rfl) ?_
      intro result earlier
      exact earlier.mono (fun _ => id) (fun _ _ => id) fun unsent =>
        ⟨unsent.undialled, unsent.unqueued⟩
    · rw [calls_moveTo_of_ne same]
      refine (honest.fits other).mono (committed_moveTo _ _ _) ?_ fun _ => truthful
      intro elsewhere number holds
      have different : elsewhere ≠ session := by
        rintro rfl
        have holder := holds.lock
        rw [lock, Option.some.injEq] at holder
        exact same holder.symm
      refine holds.mono (committed_moveTo _ _ _) ?_ ?_ ?_
      · change ((relay.unlock session).sessions elsewhere).lock = _
        rw [unlock, sessions_setSession_of_ne different]
      · intro id member
        rw [← ids]
        exact member
      · exact (next elsewhere).ge

/-- The next connection id goes to the call that takes the lock. -/
theorem Honest.lockId (honest : relay.Honest)
    (locking : (relay.calls call).stage = .locking session)
    (free : (relay.sessions session).lock = none) : (relay.lockId call session).Honest := by
  have uncommitted : (relay.calls call).committed = none := by
    simpa only [Fits, locking] using honest.fits call
  simp only [Relay.lockId]
  split
  next room =>
    let value : RelaySession κ := { relay.sessions session with
      nextConnectionId := (relay.sessions session).nextConnectionId + 1
      lock := some call }
    have commands : ∀ other, ((relay.setSession session value).sessions other).commands =
        (relay.sessions other).commands :=
      field_setSession RelaySession.commands rfl
    have ids : ∀ other, (relay.setSession session value).idsOf other =
        relay.idsOf other := by
      intro other
      unfold idsOf
      rw [commands]
      rfl
    have next : ∀ other, (relay.sessions other).nextConnectionId ≤
        ((relay.setSession session value).sessions other).nextConnectionId := by
      intro other
      by_cases here : other = session
      · subst here
        rw [sessions_setSession]
        exact Nat.le_succ _
      · rw [sessions_setSession_of_ne here]
    refine honest.recast rfl rfl commands ?_ next ?_ (fun _ => committed_moveTo _ _ _) ?_
    · intro other command member
      have same : ((relay.setSession session value).sessions other).pendingDials =
          (relay.sessions other).pendingDials :=
        field_setSession RelaySession.pendingDials (by rfl) other
      rw [← same]
      exact member
    · intro other number member
      have same : ((relay.setSession session value).sessions other).opened =
          (relay.sessions other).opened :=
        field_setSession RelaySession.opened (by rfl) other
      rw [← same] at member
      exact member
    · intro truthful other
      by_cases same : other = call
      · subst same
        rw [stage_moveTo]
        refine ⟨(committed_moveTo _ _ _).trans uncommitted, ?_, ?_, ?_⟩
        · exact congrArg RelaySession.lock (sessions_setSession session value)
        · intro number member
          exact honest.below session number (ids session ▸ member)
        · change _ < ((relay.setSession session value).sessions session).nextConnectionId
          rw [sessions_setSession]
          exact Nat.lt_succ_self _
      · rw [calls_moveTo_of_ne same]
        refine (honest.fits other).mono (committed_moveTo _ _ _) ?_ fun _ => truthful
        intro elsewhere number holds
        have different : elsewhere ≠ session := by
          rintro rfl
          have holder := holds.lock
          rw [free] at holder
          cases holder
        refine holds.mono (committed_moveTo _ _ _) ?_ ?_ (next elsewhere)
        · exact congrArg RelaySession.lock (sessions_setSession_of_ne different value)
        · exact fun _ member => ids elsewhere ▸ member
  next => exact honest.giveUp fun _ => honest.unsent uncommitted

/-! ### A command enters the queue of a session -/

theorem calls_push_self (relay : Relay σ κ) (call : κ) (session : σ) (connectionId : Nat) :
    (relay.push call session connectionId).calls call =
      { relay.calls call with
        stage := .awaiting session connectionId
        committed := some (session, connectionId) } :=
  Function.update_self _ _ _

theorem calls_push_of_ne {call other : κ} (different : other ≠ call) (session : σ) :
    (relay.push call session connectionId).calls other = relay.calls other :=
  Function.update_of_ne different _ _

theorem sessions_push_self (relay : Relay σ κ) (call : κ) (session : σ) (connectionId : Nat) :
    (relay.push call session connectionId).sessions session =
      { relay.sessions session with
        permits := (relay.sessions session).permits - 1
        commands := (relay.sessions session).commands ++ [⟨connectionId, call⟩]
        lock := none } :=
  Function.update_self _ _ _

theorem sessions_push_of_ne (different : other ≠ session) (call : κ) :
    (relay.push call session connectionId).sessions other = relay.sessions other :=
  Function.update_of_ne different _ _

theorem mem_commands_push {command : DialCommand κ}
    (member : command ∈ ((relay.push call session connectionId).sessions other).commands) :
    command ∈ (relay.sessions other).commands ∨
      other = session ∧ command = ⟨connectionId, call⟩ := by
  by_cases same : other = session
  · subst same
    rw [sessions_push_self, List.mem_append, List.mem_singleton] at member
    exact member.imp_right fun newest => ⟨rfl, newest⟩
  · rw [sessions_push_of_ne same] at member
    exact Or.inl member

theorem idsOf_push_self (relay : Relay σ κ) (call : κ) (session : σ) (connectionId : Nat) :
    (relay.push call session connectionId).idsOf session =
      relay.idsOf session ++ [connectionId] := by
  unfold idsOf
  rw [sessions_push_self, List.map_append, ← List.append_assoc]
  rfl

theorem idsOf_push_of_ne (different : other ≠ session) (call : κ) :
    (relay.push call session connectionId).idsOf other = relay.idsOf other := by
  unfold idsOf
  rw [sessions_push_of_ne different]
  rfl

theorem nextConnectionId_push (relay : Relay σ κ) (call : κ) (session other : σ)
    (connectionId : Nat) :
    ((relay.push call session connectionId).sessions other).nextConnectionId =
      (relay.sessions other).nextConnectionId := by
  by_cases same : other = session
  · subst same
    rw [sessions_push_self]
  · rw [sessions_push_of_ne same]

theorem pendingDials_push (relay : Relay σ κ) (call : κ) (session other : σ)
    (connectionId : Nat) :
    ((relay.push call session connectionId).sessions other).pendingDials =
      (relay.sessions other).pendingDials := by
  by_cases same : other = session
  · subst same
    rw [sessions_push_self]
  · rw [sessions_push_of_ne same]

/-- What is true for another call stays true. -/
theorem Truthful.push {call other : κ} {result : DialResult σ}
    (truthful : relay.Truthful other result) (different : other ≠ call) (session : σ) :
    (relay.push call session connectionId).Truthful other result := by
  refine truthful.mono (fun _ => id) ?_ fun silent => ⟨silent.undialled, ?_⟩
  · intro place number member
    by_cases same : place = session
    · subst same
      rw [sessions_push_self]
      exact member
    · rw [sessions_push_of_ne same]
      exact member
  · intro place command member
    rcases mem_commands_push member with earlier | ⟨_, rfl⟩
    · exact silent.unqueued place command earlier
    · exact Ne.symm different

/-- The command is enqueued and the lock released. -/
theorem Honest.push (honest : relay.Honest)
    (permitted : (relay.calls call).stage = .permitted session connectionId) :
    (relay.push call session connectionId).Honest := by
  have holds : relay.Holds call session connectionId := by
    simpa only [Fits, permitted] using honest.fits call
  have unsent := honest.unsent holds.uncommitted
  have silent : relay.replies call = .waiting := by
    by_contra changed
    exact honest.replied call changed holds.uncommitted
  constructor
  · intro other command member
    rcases mem_commands_push member with earlier | ⟨rfl, rfl⟩
    · rw [calls_push_of_ne (unsent.unqueued other command earlier)]
      exact honest.queued other command earlier
    · rw [calls_push_self]
      exact ⟨rfl, silent, unsent.undialled⟩
  · intro frame member
    rw [calls_push_of_ne (unsent.undialled frame member)]
    exact honest.dialled frame member
  · exact honest.once
  · intro other
    by_cases same : other = session
    · subst same
      rw [idsOf_push_self, List.pairwise_append]
      refine ⟨honest.ordered other, List.pairwise_singleton _ _, ?_⟩
      intro number member newest last
      rw [List.mem_singleton.mp last]
      exact holds.above number member
    · rw [idsOf_push_of_ne same]
      exact honest.ordered other
  · intro other number member
    rw [nextConnectionId_push]
    by_cases same : other = session
    · subst same
      rw [idsOf_push_self, List.mem_append, List.mem_singleton] at member
      rcases member with earlier | rfl
      · exact honest.below other number earlier
      · exact holds.below
    · rw [idsOf_push_of_ne same] at member
      exact honest.below other number member
  · intro other pending member
    rw [pendingDials_push] at member
    exact honest.pending other pending member
  · intro other
    by_cases same : other = call
    · subst same
      rw [calls_push_self]
      change ((relay.push other session connectionId).calls other).committed = _
      rw [calls_push_self]
    · rw [calls_push_of_ne same]
      refine (honest.fits other).mono (by rw [calls_push_of_ne same]) ?_ ?_
      · intro place number held
        have different : place ≠ session := by
          rintro rfl
          have holder := held.lock
          rw [holds.lock, Option.some.injEq] at holder
          exact same holder.symm
        exact held.mono (by rw [calls_push_of_ne same]) (by rw [sessions_push_of_ne different])
          (by simp [idsOf_push_of_ne different])
          (nextConnectionId_push relay call session place connectionId).ge
      · exact fun _ earlier => earlier.push same session
  · intro other changed
    by_cases same : other = call
    · subst same
      rw [calls_push_self]
      simp
    · rw [calls_push_of_ne same]
      exact honest.replied other changed
  · intro other result sent
    refine (honest.truthful other result sent).push ?_ session
    rintro rfl
    change relay.replies other = _ at sent
    rw [silent] at sent
    cases sent

/-- A waiting dial is answered and leaves the table. -/
theorem Honest.resolve (honest : relay.Honest) {answer : DialReply σ}
    (truthful : ∀ call result, answer = .sent result →
      ⟨session, connectionId, call⟩ ∈ relay.dials → relay.Truthful call result) :
    (relay.resolve session connectionId answer).Honest := by
  simp only [Relay.resolve]
  split
  next => exact honest
  next pending found =>
    have member := List.mem_of_find?_eq_some found
    have matching : pending.connectionId = connectionId := by
      simpa using List.find?_some found
    have dialled := honest.pending session pending member
    rw [matching] at dialled
    let value : RelaySession κ := { relay.sessions session with
      pendingDials := (relay.sessions session).pendingDials.filter fun other =>
        other.connectionId ≠ connectionId }
    have commands : ∀ other, ((relay.setSession session value).sessions other).commands =
        (relay.sessions other).commands :=
      field_setSession RelaySession.commands rfl
    have removed : (relay.setSession session value).Honest :=
      honest.setSession rfl (fun _ => List.mem_of_mem_filter) rfl rfl fun _ => id
    refine removed.reply ?_ ?_ ?_
    · have committed := honest.dialled _ dialled
      change (relay.calls pending.call).committed ≠ none
      simp [committed]
    · intro other command queued
      rw [commands] at queued
      exact Ne.symm ((honest.queued other command queued).2.2 _ dialled)
    · intro result sent
      have opened : ∀ other, ((relay.setSession session value).sessions other).opened =
          (relay.sessions other).opened :=
        field_setSession RelaySession.opened (by rfl)
      refine (truthful pending.call result sent dialled).mono (fun _ => id)
        (fun other number => by rw [opened]; exact id) fun unsent =>
          ⟨unsent.undialled, ?_⟩
      intro other
      rw [commands]
      exact unsent.unqueued other

/-- The first command of a queue is answered without being written. -/
theorem Honest.answerFirst (honest : relay.Honest) {command : DialCommand κ}
    {rest : List (DialCommand κ)} {answer : DialReply σ}
    (first : (relay.sessions session).commands = command :: rest)
    (refusal : ∀ result, answer = .sent result → ∃ error, result = .failed .sdk error) :
    ((relay.pop session rest).reply command.call answer).Honest := by
  have unsent := honest.unsent_pop first
  obtain ⟨place, _⟩ := honest.queued session command (by simp [first])
  refine (honest.pop first).reply ?_ unsent.unqueued ?_
  · change (relay.calls command.call).committed ≠ none
    simp [place]
  · intro result sent
    obtain ⟨error, rfl⟩ := refusal result sent
    exact fun _ => unsent

end Edits

/-! ## Steps -/

variable {relay : Relay σ κ}

omit [DecidableEq κ] in
theorem Honest.reconfigure (honest : relay.Honest) (current : Option σ) (cancelled : Bool) :
    Honest { relay with current := current, cancelled := cancelled } := by
  refine honest.recast rfl rfl (fun _ => rfl) (fun _ _ => id) (fun _ => le_rfl)
    (fun _ _ => id) (fun _ => rfl) ?_
  intro truthful call
  exact (honest.fits call).mono rfl
    (fun _ _ holds => holds.mono rfl rfl (fun _ => id) le_rfl) fun _ => truthful

omit [DecidableEq κ] in
/-- The guard of a call asks for a cancellation. -/
theorem Honest.cancelDial (honest : relay.Honest) (session : σ) (connectionId : Nat) :
    (relay.cancelDial session connectionId).Honest :=
  honest.setSession rfl (fun _ => id) rfl rfl fun _ => id

omit [DecidableEq κ] in
/-- A call gives its lock back and fails before it has enqueued anything. -/
theorem Unsent.unlock {call : κ} (unsent : relay.Unsent call) (session : σ) :
    (relay.unlock session).Unsent call where
  undialled := unsent.undialled
  unqueued other := by
    rw [field_unlock RelaySession.commands fun _ => rfl]
    exact unsent.unqueued other

theorem Honest.expire (honest : relay.Honest) (call : κ) :
    (relay.expire call (relay.calls call).stage).Honest := by
  have fits := honest.fits call
  cases stage : (relay.calls call).stage with
  | locking =>
    rw [stage] at fits
    exact honest.giveUp fun _ => honest.unsent fits
  | sending session =>
    rw [stage] at fits
    exact honest.release fits.lock fun _ =>
      (honest.unsent fits.uncommitted).unlock session
  | waiting =>
    rw [stage] at fits
    exact honest.giveUp fun _ => honest.unsent fits
  | awaiting session connectionId =>
    exact (honest.cancelDial session connectionId).giveUp nofun
  | starting | looping | supplying | reserving | permitted | returned | dropped =>
    exact honest

theorem Honest.dropCall (honest : relay.Honest) (call : κ) :
    (relay.dropCall call (relay.calls call).stage).Honest := by
  have fits := honest.fits call
  cases stage : (relay.calls call).stage with
  | sending =>
    rw [stage] at fits
    exact honest.release fits.lock trivial
  | awaiting session connectionId =>
    exact (honest.cancelDial session connectionId).moveTo trivial
  | supplying | locking | waiting => exact honest.moveTo trivial
  | starting | looping | reserving | permitted | returned | dropped => exact honest

theorem Honest.answer (honest : relay.Honest) (call : κ) : (relay.answer call).Honest := by
  unfold Relay.answer
  split
  next => exact honest
  next result sent => exact honest.moveTo (honest.truthful call result sent)
  next => exact honest.giveUp nofun

theorem Honest.supply (honest : relay.Honest) {call : κ} {session : σ}
    (uncommitted : (relay.calls call).committed = none) (failure : Option Error) :
    (relay.supply call session failure).Honest := by
  cases failure with
  | none => exact honest.setCall rfl uncommitted
  | some => exact honest.giveUp fun _ => honest.unsent uncommitted

theorem Honest.onOpened (honest : relay.Honest) (session : σ) (connectionId : Nat)
    (alive : Bool) : (relay.onOpened session connectionId alive).Honest := by
  simp only [Relay.onOpened]
  split
  · have noted : (relay.setSession session { relay.sessions session with
        opened := (relay.sessions session).opened ++ [connectionId] }).Honest :=
      honest.setSession rfl (fun _ => id) rfl rfl fun _ => List.mem_append_left _
    refine noted.resolve ?_
    rintro call result ⟨⟩ dialled
    exact ⟨dialled, by simp⟩
  · have noted : (relay.setSession session { relay.sessions session with
        opened := (relay.sessions session).opened ++ [connectionId]
        failure := some Error.closed }).Honest :=
      honest.setSession rfl (fun _ => id) rfl rfl fun _ => List.mem_append_left _
    exact noted.resolve nofun

theorem Honest.step {source target : Relay σ κ} {event : RelayEvent σ κ}
    (honest : source.Honest) (step : Step source event target) : target.Honest := by
  obtain ⟨possible, rfl⟩ := step
  have early : ∀ {call : κ} {stage : Stage σ}, (source.calls call).stage = stage →
      source.Fits call stage := by
    rintro call stage rfl
    exact honest.fits call
  cases event with
  | start call invalid =>
    have uncommitted : (source.calls call).committed = none := early possible
    cases invalid with
    | none => exact honest.moveTo uncommitted
    | some => exact honest.giveUp fun _ => honest.unsent uncommitted
  | look call =>
    have uncommitted : (source.calls call).committed = none := early possible
    simp only [apply, Relay.look]
    split
    · exact honest.giveUp fun _ => honest.unsent uncommitted
    · split
      · exact honest.moveTo uncommitted
      · refine honest.moveTo ?_
        split <;> exact uncommitted
  | supply call session failure => exact honest.supply (early possible) failure
  | reserveOutgoing call =>
    have uncommitted : (source.calls call).committed = none := early possible
    simp only [apply, reserveOutgoing]
    split
    · exact honest.moveTo uncommitted
    · exact honest.giveUp fun _ => honest.unsent uncommitted
  | lock => exact honest.lockId possible.1 possible.2
  | permit call session connectionId =>
    have holds : source.Holds call session connectionId := early possible.1
    have reserved : (source.setSession session { source.sessions session with
        permits := (source.sessions session).permits + 1 }).Honest :=
      honest.setSession rfl (fun _ => id) rfl rfl fun _ => id
    exact reserved.moveTo (holds.setSession rfl rfl rfl)
  | push => exact honest.push possible
  | refuse call session connectionId =>
    have holds : source.Holds call session connectionId := early possible.1
    refine honest.release holds.lock ?_
    split <;> exact holds.uncommitted
  | expire call => exact honest.expire call
  | answer call => exact honest.answer call
  | closing call =>
    have uncommitted : (source.calls call).committed = none := early possible
    exact honest.giveUp fun _ => honest.unsent uncommitted
  | change call =>
    have uncommitted : (source.calls call).committed = none := early possible
    exact honest.moveTo uncommitted
  | drop call => exact honest.dropCall call
  | command =>
    simp only [apply, onCommand]
    split
    next => exact honest
    next command rest first =>
      split
      · exact honest.answerFirst first fun _ sent => ⟨_, by cases sent; rfl⟩
      · exact honest.dialFirst first _
  | opened session connectionId alive =>
    exact honest.onOpened session connectionId alive
  | refused =>
    exact honest.resolve fun _ _ sent _ => by cases sent; trivial
  | cancelled session =>
    simp only [apply, onCancelled]
    split
    next => exact honest
    next connectionId rest first =>
      have taken : (source.setSession session { source.sessions session with
          cancellations := rest }).Honest :=
        honest.setSession rfl (fun _ => id) rfl rfl fun _ => id
      refine taken.resolve ?_
      rintro call result ⟨⟩ _
      nofun
  | stop => exact honest.setSession rfl (fun _ => id) rfl rfl fun _ => id
  | closeCommands =>
    exact honest.setSession rfl (fun _ => id) rfl rfl fun _ => id
  | failQueuedDial =>
    simp only [apply, failQueuedDial]
    split
    next => exact honest
    next failure ended =>
      split
      next => exact honest
      next command rest first =>
        exact honest.answerFirst first fun _ sent => ⟨_, by cases sent; rfl⟩
  | cleanupDial =>
    simp only [apply, cleanupDial]
    split
    next => exact honest
    next failure ended =>
      refine honest.resolve ?_
      rintro call result ⟨⟩ _
      nofun
  | dropCommand =>
    simp only [apply, dropCommand]
    split
    next => exact honest
    next command rest first => exact honest.answerFirst first nofun
  | dropDial => exact honest.resolve nofun
  | setCurrent session => exact honest.reconfigure session source.cancelled
  | close => exact honest.reconfigure source.current true

/-! ## Results of calls -/

end Relay

/-- The call whose program an event runs. -/
def RelayEvent.call? {σ κ : Type} : RelayEvent σ κ → Option κ
  | .start call _ | .look call | .supply call _ _ | .reserveOutgoing call _ _
  | .lock call _ | .permit call _ _ | .push call _ _ | .refuse call _ _ | .expire call
  | .answer call | .closing call | .change call | .drop call => some call
  | .command _ _ | .opened _ _ _ | .refused _ _ _ | .cancelled _ | .stop _ _
  | .closeCommands _ | .failQueuedDial _ | .cleanupDial _ _ | .dropCommand _
  | .dropDial _ _ | .setCurrent _ | .close => none

namespace Relay

variable {σ κ : Type} [DecidableEq σ] [DecidableEq κ]

theorem calls_resolve (relay : Relay σ κ) (session : σ) (connectionId : Nat)
    (answer : DialReply σ) : (relay.resolve session connectionId answer).calls = relay.calls := by
  simp only [resolve]
  split <;> rfl

variable {event : RelayEvent σ κ}

theorem calls_apply_of_ne (relay : Relay σ κ) {call : κ} (different : event.call? ≠ some call) :
    (relay.apply event).calls call = relay.calls call := by
  have moved : ∀ {relay : Relay σ κ} {other : κ} {value : DialCall σ},
      some other ≠ some call → (relay.setCall other value).calls call =
        relay.calls call := by
    intro relay other value apart
    exact Function.update_of_ne (fun same => apart (by rw [same])) _ _
  cases event with
  | start other invalid => cases invalid <;> exact moved different
  | look =>
    simp only [apply, look]
    split
    · exact moved different
    · split <;> exact moved different
  | supply other session failure => cases failure <;> exact moved different
  | reserveOutgoing other session granted => cases granted <;> exact moved different
  | lock =>
    simp only [apply, lockId]
    split <;> exact moved different
  | expire other =>
    simp only [apply]
    cases (relay.calls other).stage <;> first | rfl | exact moved different
  | answer =>
    simp only [apply, answer]
    split <;> first | rfl | exact moved different
  | drop other =>
    simp only [apply]
    cases (relay.calls other).stage <;> first | rfl | exact moved different
  | permit | push | refuse | closing | change => exact moved different
  | command =>
    simp only [apply, onCommand]
    split
    · rfl
    · split <;> rfl
  | opened session connectionId alive =>
    cases alive <;> simp only [apply, onOpened] <;>
      exact congrFun (calls_resolve _ _ _ _) call
  | refused | dropDial => exact congrFun (calls_resolve _ _ _ _) call
  | cancelled =>
    simp only [apply, onCancelled]
    split
    · rfl
    · exact congrFun (calls_resolve _ _ _ _) call
  | cleanupDial =>
    simp only [apply]
    split
    · rfl
    · exact congrFun (calls_resolve _ _ _ _) call
  | failQueuedDial =>
    simp only [apply, failQueuedDial]
    split
    · rfl
    · split <;> rfl
  | dropCommand =>
    simp only [apply, dropCommand]
    split <;> rfl
  | stop | closeCommands | setCurrent | close => rfl

omit [DecidableEq σ] [DecidableEq κ] in
/-- A call that has returned makes no further step. -/
theorem call_ne_of_returned {relay : Relay σ κ} {call : κ} {result : DialResult σ}
    (returned : (relay.calls call).stage = .returned result)
    (possible : relay.Possible event) : event.call? ≠ some call := by
  intro same
  cases event <;> cases same <;> simp [Possible, returned] at possible

theorem returned_step {source target : Relay σ κ} {call : κ} {result : DialResult σ}
    (returned : (source.calls call).stage = .returned result)
    (step : Step source event target) : (target.calls call).stage = .returned result := by
  obtain ⟨possible, rfl⟩ := step
  rw [calls_apply_of_ne source (call_ne_of_returned returned possible)]
  exact returned

/-- In every run each call causes at most one DIAL; a call that has returned an error
of the SDK as not observed never causes one; a call that has returned a Pipe wrote
its DIAL on a session that received an OPENED for its connection id; and the DIALs
of each session carry increasing connection ids. -/
theorem dials_honest {capacity : Nat} {events later : List (RelayEvent σ κ)}
    {middle final : Relay σ κ} (run : Execution Step (connect capacity) events middle)
    (rest : Execution Step middle later final) :
    (final.dials.map DialFrame.call).Nodup ∧
    (∀ call error, (middle.calls call).stage = .returned (.failed .sdk error) →
      error.observation = .notObserved → ∀ frame ∈ final.dials, frame.call ≠ call) ∧
    (∀ call session connectionId,
      (final.calls call).stage = .returned (.opened session connectionId) →
      ⟨session, connectionId, call⟩ ∈ final.dials ∧
        connectionId ∈ (final.sessions session).opened) ∧
    ∀ session, ((final.dials.filter fun frame => frame.session = session).map
      DialFrame.connectionId).Pairwise (· < ·) := by
  have kept : ∀ (source : Relay σ κ) (event : RelayEvent σ κ) (target : Relay σ κ),
      source.Honest → Step source event target → target.Honest :=
    fun _ _ _ honest step => honest.step step
  have honest : final.Honest :=
    rest.invariant kept (run.invariant kept (honest_connect capacity))
  refine ⟨honest.once, ?_, ?_, ?_⟩
  · intro call error failed unobserved
    have still : (final.calls call).stage = .returned (.failed .sdk error) :=
      rest.invariant (fun _ _ _ returned step => returned_step returned step) failed
    have truthful := honest.fits call
    rw [still] at truthful
    exact (truthful unobserved).undialled
  · intro call session connectionId opened
    have truthful := honest.fits call
    rw [opened] at truthful
    exact truthful
  · intro session
    have ordered := honest.ordered session
    exact (List.pairwise_append.mp ordered).1

namespace Scenario

/-- The first call gives up before a session is there; the second dials. -/
def waiting : List (RelayEvent Unit Bool) :=
  [.start false none, .look false, .expire false]

def dialling : List (RelayEvent Unit Bool) :=
  [.setCurrent (some ()), .start true none, .look true, .supply true () none,
    .reserveOutgoing true () true, .lock true (), .permit true () 1, .push true () 1,
    .command () (.ok ()), .opened () 1 true, .answer true]

def gaveUp : Relay Unit Bool :=
  waiting.foldl apply (connect 4)

def dialled : Relay Unit Bool :=
  dialling.foldl apply gaveUp

theorem run_waiting : Execution Step (connect 4) waiting gaveUp :=
  Execution.of_allowed waiting (by decide)

theorem run_dialling : Execution Step gaveUp dialling dialled :=
  Execution.of_allowed dialling (by decide)

end Scenario

open Scenario in
/-- The call that gave up has no DIAL, the other one its own. -/
theorem dials_honest_second :
    (∀ frame ∈ dialled.dials, frame.call ≠ false) ∧
      ⟨(), 1, true⟩ ∈ dialled.dials := by
  obtain ⟨_, unsent, opened, _⟩ := dials_honest run_waiting run_dialling
  exact ⟨unsent false Error.waitingForSession rfl rfl, (opened true () 1 rfl).1⟩

end Relay

end RelayGate.Sdk
