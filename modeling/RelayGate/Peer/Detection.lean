import RelayGate.Peer.Loop

/-!
# A silent peer is detected

In every timed run, the transport is open for at most its idle retirement, its
heartbeat interval and its response timeout past the last event that renews its
timers: a received frame, a stream on a transport that had none, or a command that
was queued when the transport would have retired.
-/

namespace RelayGate.Peer

open Library

/-! ## The timers -/

namespace TransportLiveness

variable {isEmpty commandQueueEmpty : Bool} {after : TransportLiveness}

/-- The configured spans, which no operation changes. -/
def timeouts (liveness : TransportLiveness) : Duration × Duration × Duration :=
  (liveness.idleRetirementTimeout, liveness.heartbeatIdleInterval,
    liveness.heartbeatResponseTimeout)

/-- How long after the last renewal the deadline of the timers may be: a busy
transport is probed, the probe is awaited, and a transport that lost its last
stream retires. -/
def grace (liveness : TransportLiveness) : Duration :=
  match liveness.zeroStreamSince, liveness.pending with
  | some _, _ =>
      liveness.heartbeatIdleInterval + liveness.heartbeatResponseTimeout +
        liveness.idleRetirementTimeout
  | none, some _ =>
      liveness.heartbeatIdleInterval + liveness.heartbeatResponseTimeout
  | none, none => liveness.heartbeatIdleInterval

/-- The timers of a transport that is idle or busy at an instant, for a mark. -/
structure Watching (liveness : TransportLiveness) (idle : Bool)
    (now mark : Instant) : Prop where
  noted : liveness.zeroStreamSince.isSome = idle
  unprobed : idle = true → liveness.pending = none
  past : mark ≤ now
  renewed : liveness.due ≤ mark + liveness.grace
  prompt : now ≤ liveness.due

variable {liveness : TransportLiveness} {idle : Bool} {now mark : Instant}

theorem grace_le : liveness.grace ≤ liveness.heartbeatIdleInterval +
    liveness.heartbeatResponseTimeout + liveness.idleRetirementTimeout := by
  unfold grace
  split <;> lia

theorem watching_new (interval response retirement : Duration) (now : Instant) :
    ((TransportLiveness.new interval response retirement now).syncStreamState
      true now).Watching true now now where
  noted := rfl
  unprobed _ := rfl
  past := Nat.le_refl now
  renewed := by
    change now + retirement ≤ now + (interval + response + retirement)
    lia
  prompt := Nat.le_add_right now retirement

/-- The clock may reach the deadline of the timers. -/
theorem Watching.wait (watching : liveness.Watching idle now mark)
    {span : Duration} (early : now + span ≤ liveness.due) :
    liveness.Watching idle (now + span) mark :=
  { watching with
    past := Nat.le_add_right_of_le watching.past
    prompt := early }

/-- The mark may be moved to the present. -/
theorem Watching.renew (watching : liveness.Watching idle now mark) :
    liveness.Watching idle now now :=
  { watching with
    past := Nat.le_refl now
    renewed := Nat.le_trans watching.renewed
      (Nat.add_le_add_right watching.past _) }

/-- A busy transport that was just heard. -/
theorem watching_heard (busy : liveness.zeroStreamSince = none)
    (unprobed : liveness.pending = none) (heard : liveness.lastInbound = now) :
    liveness.Watching false now now where
  noted := by rw [busy]; rfl
  unprobed := nofun
  past := Nat.le_refl now
  renewed := by
    unfold due grace
    rw [busy, unprobed, heard]
  prompt := by
    unfold due
    rw [busy, unprobed, heard]
    exact Nat.le_add_right now _

/-- A transport that idles since an instant that the mark allows. -/
theorem watching_idle {since : Instant} (idles : liveness.zeroStreamSince = some since)
    (unprobed : liveness.pending = none) (past : mark ≤ now)
    (renewed : since ≤ mark + liveness.heartbeatIdleInterval + liveness.heartbeatResponseTimeout)
    (prompt : now ≤ since + liveness.idleRetirementTimeout) :
    liveness.Watching true now mark where
  noted := by rw [idles]; rfl
  unprobed _ := unprobed
  past := past
  renewed := by
    unfold due grace
    rw [idles]
    simp only
    lia
  prompt := by
    unfold due
    rw [idles]
    exact prompt

theorem Watching.busy (watching : liveness.Watching false now mark) :
    liveness.zeroStreamSince = none :=
  Option.isSome_eq_false_iff.mp watching.noted |> Option.isNone_iff_eq_none.mp

theorem Watching.idles (watching : liveness.Watching true now mark) :
    ∃ since, liveness.zeroStreamSince = some since :=
  Option.isSome_iff_exists.mp watching.noted

/-- While a transport is busy its clock is within an interval and a response of the
mark. -/
theorem Watching.now_le (watching : liveness.Watching false now mark) :
    now ≤ mark + liveness.heartbeatIdleInterval + liveness.heartbeatResponseTimeout := by
  have bound : liveness.grace ≤
      liveness.heartbeatIdleInterval + liveness.heartbeatResponseTimeout := by
    unfold grace
    rw [watching.busy]
    split <;> simp_all
  have renewed := watching.renewed
  have prompt := watching.prompt
  lia

/-! ## The operations on the timers -/

section

variable (liveness : TransportLiveness)

@[simp]
theorem timeouts_syncStreamState (isEmpty : Bool) (now : Instant) :
    (liveness.syncStreamState isEmpty now).timeouts = liveness.timeouts := by
  unfold syncStreamState
  split <;> rfl

@[simp]
theorem timeouts_observeInbound (frame : PeerFrame) (now : Instant) :
    (liveness.observeInbound frame now).2.timeouts = liveness.timeouts := by
  unfold observeInbound
  split
  · split <;> rfl
  all_goals rfl

@[simp]
theorem timeouts_onDeadline (now : Instant) (isEmpty commandQueueEmpty : Bool) :
    (liveness.onDeadline now isEmpty commandQueueEmpty).2.timeouts = liveness.timeouts := by
  unfold onDeadline
  grind [timeouts]

end

variable (watching : liveness.Watching idle now mark)
include watching

/-- Noting whether there are streams renews the timers only when a transport
without streams got one. -/
theorem Watching.sync (isEmpty : Bool) :
    (liveness.syncStreamState isEmpty now).Watching isEmpty now mark ∨
      (idle = true ∧ isEmpty = false) ∧
        (liveness.syncStreamState isEmpty now).Watching isEmpty now now := by
  cases idle with
  | true =>
    obtain ⟨since, idles⟩ := watching.idles
    cases isEmpty with
    | true =>
      left
      have same : liveness.syncStreamState true now = liveness := by
        simp [syncStreamState, idles]
      rw [same]
      exact watching
    | false =>
      right
      refine ⟨⟨rfl, rfl⟩, ?_⟩
      simp only [syncStreamState, idles]
      exact watching_heard rfl (watching.unprobed rfl) rfl
  | false =>
    left
    cases isEmpty with
    | true =>
      simp only [syncStreamState, watching.busy]
      exact watching_idle rfl rfl watching.past watching.now_le
        (Nat.le_add_right now _)
    | false =>
      have same : liveness.syncStreamState false now = liveness := by
        simp [syncStreamState, watching.busy]
      rw [same]
      exact watching

/-- After a received frame the timers are renewed by it. -/
theorem Watching.observe (frame : PeerFrame) :
    (liveness.observeInbound frame now).2.Watching idle now now := by
  have heard : { liveness with lastInbound := now, pending := none }.Watching
      idle now now := by
    cases idle with
    | true =>
      obtain ⟨since, idles⟩ := watching.idles
      have renewed := watching.renew.renewed
      have prompt := watching.prompt
      unfold due grace at renewed
      unfold due at prompt
      rw [idles] at renewed prompt
      refine watching_idle idles rfl (Nat.le_refl now) ?_ prompt
      simp only at renewed ⊢
      lia
    | false => exact watching_heard watching.busy rfl rfl
  unfold observeInbound
  split
  · split
    · exact heard
    · exact watching.renew
  · exact watching.renew
  · exact watching.renew
  · exact watching.renew
  · exact watching.renew
  · exact watching.renew
  · exact heard

/-- What a deadline does to the timers when it asks nothing of the loop.  A
retirement put off for a queued command renews them. -/
theorem Watching.onDeadline_none (fewer : idle = true → isEmpty = true)
    (served : liveness.onDeadline now isEmpty commandQueueEmpty = (none, after)) :
    after.Watching idle now mark ∨
      (idle = true ∧ commandQueueEmpty = false ∧ liveness.due ≤ now) ∧
        after.Watching idle now now := by
  unfold onDeadline at served
  cases isEmpty with
  | true =>
    simp only [if_true] at served
    split at served
    next expired =>
      split at served
      next => cases served
      next queued =>
        -- the timers of a busy transport have not started to idle
        right
        cases served
        obtain ⟨since, idles, late⟩ := (Option.any_eq_true _ _).mp expired
        have idle : idle = true := by
          rw [← watching.noted, idles]
          rfl
        subst idle
        constructor
        · refine ⟨rfl, Bool.eq_false_iff.mpr queued, ?_⟩
          unfold due
          rw [idles]
          exact of_decide_eq_true late
        · exact watching_idle rfl (watching.unprobed rfl) (Nat.le_refl now)
            (Nat.le_add_right_of_le (Nat.le_add_right now _))
            (Nat.le_add_right now _)
    next =>
      cases served
      exact Or.inl watching
  | false =>
    have busy : idle = false := by
      cases idle with
      | true => cases fewer rfl
      | false => rfl
    subst busy
    left
    simp only [Bool.false_eq_true, if_false] at served
    split at served
    · cases (Prod.mk.inj served).2
      exact watching
    · split at served
      · cases served
        exact watching
      · cases served

/-- A probe that was given to the writer. -/
theorem Watching.onDeadline_ping {frame : PeerFrame} (fewer : idle = true → isEmpty = true)
    (served : liveness.onDeadline now isEmpty commandQueueEmpty = (some (.ping frame), after)) :
    (after.markProbeCommitted now).Watching idle now mark := by
  unfold onDeadline at served
  cases isEmpty with
  | true =>
    simp only [if_true] at served
    split at served
    · split at served <;> cases served
    · cases served
  | false =>
    have busy : idle = false := by
      cases idle with
      | true => cases fewer rfl
      | false => rfl
    subst busy
    simp only [Bool.false_eq_true, if_false] at served
    split at served
    · split at served <;> cases served
    next unprobed =>
      split at served
      · cases served
      · cases served
        have renewed := watching.renewed
        have prompt := watching.prompt
        unfold due grace at renewed
        unfold due at prompt
        rw [watching.busy, unprobed] at renewed prompt
        simp only at renewed prompt
        constructor
        · exact watching.noted
        · nofun
        · exact watching.past
        · unfold due grace
          simp only [markProbeCommitted, watching.busy, Option.map_some]
          lia
        · unfold due
          simp only [markProbeCommitted, watching.busy, Option.map_some]
          exact Nat.le_add_right now _

end TransportLiveness

/-! ## Upkeep adds no stream -/

namespace TransportActor

variable {actor : TransportActor}

theorem isEmpty_finishStream (empty : actor.streams.isEmpty = true) (streamId : StreamId) :
    (actor.finishStream streamId).streams.isEmpty = true := by
  simp only [finishStream, Table.isEmpty_iff.mp empty streamId]
  exact empty

theorem isEmpty_flushPass (streamIds : List StreamId) {pass : FlushPass}
    (empty : pass.actor.streams.isEmpty = true) :
    (flushPass streamIds pass).actor.streams.isEmpty = true := by
  induction streamIds generalizing pass with
  | nil => exact empty
  | cons streamId streamIds ih =>
    simp only [flushPass, Table.isEmpty_iff.mp empty streamId]
    exact ih empty

theorem isEmpty_flushLoop (fuel : Nat) (empty : actor.streams.isEmpty = true) :
    (flushLoop fuel actor).streams.isEmpty = true :=
  @kept_flushLoop (·.streams.isEmpty = true)
    (fun streamIds _ => isEmpty_flushPass streamIds)
    (fun _ => isEmpty_finishStream) fuel actor empty

theorem isEmpty_expireOpens (streamIds : List StreamId) (empty : actor.streams.isEmpty = true) :
    (expireOpens streamIds actor).streams.isEmpty = true := by
  induction streamIds generalizing actor with
  | nil => exact empty
  | cons streamId streamIds ih =>
    simp only [expireOpens, expireOpen, Table.isEmpty_iff.mp empty streamId]
    exact ih empty

end TransportActor

/-! ## Runs of the task -/

namespace TransportTask

/-- Whether the transport has no stream. -/
def idle (task : TransportTask) : Bool :=
  task.loop.actor.streams.isEmpty

/-- A frame of the peer is received. -/
def Hears (_ : TransportTask) (event : TaskEvent) : Prop :=
  ∃ frame, event = .inbound (.frame frame)

/-- A transport without streams gets one. -/
def Fills (task : TransportTask) (event : TaskEvent) : Prop :=
  task.idle = true ∧ (task.apply event).idle = false

/-- A transport that is due to retire has a command queued. -/
def Defers (task : TransportTask) (event : TaskEvent) : Prop :=
  event = .deadline ∧ task.idle = true ∧ task.commands ≠ [] ∧
    task.loop.liveness.due ≤ task.now

/-- The events that renew the timers. -/
def Renews (task : TransportTask) (event : TaskEvent) : Prop :=
  task.Hears event ∨ task.Fills event ∨ task.Defers event

/-- The loop takes an OPEN and commits it. -/
def AcceptsOpen (task : TransportTask) (event : TaskEvent) : Prop :=
  task.Possible event ∧ event = .command ∧
    ∃ request commands key, task.commands = .open request :: commands ∧
      (task.loop.onCommand (.open request) task.now).1 = .opened (.ok key)

/-- While the task runs, its timers were last renewed at the mark. -/
def Watched (timeouts : Duration × Duration × Duration) (task : TransportTask)
    (mark : Instant) : Prop :=
  task.closed = none →
    task.loop.liveness.timeouts = timeouts ∧
      task.loop.liveness.Watching task.idle task.now mark

variable {timeouts : Duration × Duration × Duration}
  {task next : TransportTask} {mark : Instant} {event : TaskEvent}

/-- Steps that leave the timers, the streams and the clock alone. -/
theorem Watched.of_same (watched : task.Watched timeouts mark)
    (closed : next.closed = task.closed) (liveness : next.loop.liveness = task.loop.liveness)
    (streams : next.loop.actor.streams = task.loop.actor.streams)
    (now : next.now = task.now) : next.Watched timeouts mark := by
  intro running
  rw [closed] at running
  unfold idle
  rw [liveness, streams, now]
  exact watched running

theorem watched_of_closed {reason : TransportCloseReason}
    (closed : task.closed = some reason) : task.Watched timeouts mark := by
  intro running
  rw [closed] at running
  cases running

/-- Steps that end with the note whether there are streams. -/
theorem watched_of_sync (task next : TransportTask) {liveness : TransportLiveness}
    (same : liveness.timeouts = timeouts) (watching : liveness.Watching task.idle task.now mark)
    (noted : next.loop.liveness = liveness.syncStreamState next.idle task.now)
    (now : next.now = task.now) :
    next.Watched timeouts mark ∨
      (task.idle = true ∧ next.idle = false) ∧ next.Watched timeouts task.now := by
  have kept : next.loop.liveness.timeouts = timeouts := by
    rw [noted, TransportLiveness.timeouts_syncStreamState, same]
  rcases watching.sync next.idle with watching | ⟨filled, watching⟩
  · left
    intro _
    rw [now, noted]
    exact ⟨noted ▸ kept, watching⟩
  · right
    refine ⟨filled, fun _ => ?_⟩
    rw [now, noted]
    exact ⟨noted ▸ kept, watching⟩

theorem closed_resume (task : TransportTask) (reason : TransportCloseReason)
    (loop : TransportLoop) :
    (task.resume (some reason, loop)).closed = some (loop.actor.failure.getD reason) :=
  rfl

/-- The clock of a task is held at the deadline of its timers. -/
theorem le_due_of_nextDeadline {loop : TransportLoop} {instant : Instant}
    (early : loop.nextDeadline.all (fun deadline => instant ≤ deadline) = true) :
    instant ≤ loop.liveness.due := by
  unfold TransportLoop.nextDeadline TransportLiveness.nextDeadline at early
  cases opens : loop.actor.nextOpenDeadline with
  | none =>
    rw [opens] at early
    exact of_decide_eq_true early
  | some =>
    rw [opens] at early
    exact Nat.le_trans (of_decide_eq_true early) (Nat.min_le_right _ _)

section

variable (same : task.loop.liveness.timeouts = timeouts)
include same

theorem watched_command (watching : task.loop.liveness.Watching task.idle task.now mark) :
    (task.apply .command).Watched timeouts mark ∨
      task.Fills .command ∧ (task.apply .command).Watched timeouts task.now := by
  cases queued : task.commands with
  | nil =>
    left
    simp only [apply, queued]
    exact fun _ => ⟨same, watching⟩
  | cons =>
    exact watched_of_sync task (task.apply .command) same watching
      (by simp only [apply, queued]; rfl) (by simp only [apply, queued])

theorem watched_inbound (watching : task.loop.liveness.Watching task.idle task.now mark)
    (frame : PeerFrame) : (task.apply (.inbound (.frame frame))).Watched timeouts task.now := by
  have heard := watching.observe frame
  simp only [apply, TransportLoop.onInbound]
  split
  · exact watched_of_closed (closed_resume task _ _)
  · split
    · exact watched_of_closed (closed_resume task _ _)
    next actor _ =>
      have kept : (task.loop.liveness.observeInbound frame task.now).2.timeouts =
          timeouts := by
        rw [TransportLiveness.timeouts_observeInbound, same]
      rcases watched_of_sync task
          (task.resume (none, TransportLoop.afterActivity
            ⟨actor, (task.loop.liveness.observeInbound frame task.now).2⟩
            task.now))
          kept heard rfl rfl with stepped | ⟨_, stepped⟩
      · exact stepped
      · exact stepped

theorem watched_deadline (watching : task.loop.liveness.Watching task.idle task.now mark) :
    (task.apply .deadline).Watched timeouts mark ∨
      task.Renews .deadline ∧ (task.apply .deadline).Watched timeouts task.now := by
  have fewer : task.idle = true →
      ((task.loop.actor.expireOpenDeadlines
        task.now).flushStreamQueues).streams.isEmpty = true := by
    intro idle
    exact TransportActor.isEmpty_flushLoop _
      (TransportActor.isEmpty_expireOpens _ idle)
  unfold Renews Fills
  simp only [apply, TransportLoop.onDeadline]
  generalize (task.loop.actor.expireOpenDeadlines task.now).flushStreamQueues = actor at fewer ⊢
  have kept := TransportLiveness.timeouts_onDeadline task.loop.liveness task.now
    actor.streams.isEmpty task.commands.isEmpty
  cases served : task.loop.liveness.onDeadline task.now actor.streams.isEmpty
      task.commands.isEmpty with
  | mk action liveness =>
    rw [served, same] at kept
    cases action with
    | none =>
      have synced : ∀ mark, liveness.Watching task.idle task.now mark → _ :=
        fun _ watching => watched_of_sync task (task.resume
          (none, TransportLoop.syncLiveness ⟨actor, liveness⟩ task.now))
          kept watching rfl rfl
      rcases watching.onDeadline_none fewer served with
        watching | ⟨⟨idle, queued, due⟩, watching⟩
      · rcases synced mark watching with stepped | ⟨filled, stepped⟩
        · exact Or.inl stepped
        · exact Or.inr ⟨Or.inr (Or.inl filled), stepped⟩
      · have defers : task.Defers .deadline :=
          ⟨rfl, idle, by simpa using queued, due⟩
        rcases synced task.now watching with stepped | ⟨_, stepped⟩
        · exact Or.inr ⟨Or.inr (Or.inr defers), stepped⟩
        · exact Or.inr ⟨Or.inr (Or.inr defers), stepped⟩
    | some action =>
      cases action with
      | ping =>
        simp only
        split
        · exact Or.inl (watched_of_closed (closed_resume task _ _))
        next writer _ =>
          rcases watched_of_sync task (task.resume
              (none, TransportLoop.syncLiveness
                ⟨{ actor with aggregateWriter := writer },
                  liveness.markProbeCommitted task.now⟩ task.now))
              (by exact kept) (watching.onDeadline_ping fewer served) rfl
              rfl with
            stepped | ⟨filled, stepped⟩
          · exact Or.inl stepped
          · exact Or.inr ⟨Or.inr (Or.inl filled), stepped⟩
      | heartbeatTimeout | idleRetired =>
        exact Or.inl (watched_of_closed (closed_resume task _ _))

end

/-- One step keeps the mark or renews the timers. -/
theorem Watched.step (watched : task.Watched timeouts mark)
    (step : TransportTask.Step task event next) :
    next.Watched timeouts mark ∨ task.Renews event ∧ next.Watched timeouts task.now := by
  obtain ⟨⟨running, possible⟩, rfl⟩ := step
  obtain ⟨same, watching⟩ := watched running
  cases event with
  | wait =>
    left
    exact fun _ => ⟨same, watching.wait (le_due_of_nextDeadline possible)⟩
  | submit =>
    left
    unfold apply
    simp only
    split
    · exact watched.of_same rfl rfl rfl rfl
    · exact watched
  | command =>
    rcases watched_command same watching with stepped | ⟨fills, stepped⟩
    · exact Or.inl stepped
    · exact Or.inr ⟨Or.inr (Or.inl fills), stepped⟩
  | inbound input =>
    cases input with
    | ended | failed => exact Or.inl (watched_of_closed (closed_resume task _ _))
    | frame frame =>
      exact Or.inr ⟨Or.inl ⟨frame, rfl⟩, watched_inbound same watching frame⟩
  | deadline => exact watched_deadline same watching
  | wake =>
    rcases watched_of_sync task (task.apply .wake) same watching rfl rfl with
      stepped | ⟨filled, stepped⟩
    · exact Or.inl stepped
    · exact Or.inr ⟨Or.inr (Or.inl filled), stepped⟩
  | write => exact Or.inl (watched.of_same rfl rfl rfl rfl)
  | share =>
    exact Or.inl (watched.of_same rfl rfl rfl rfl)
  | closeWriter | closeNotices => exact Or.inl (watched.of_same rfl rfl rfl rfl)
  | cancel reason =>
    left
    refine watched.of_same rfl rfl ?_ rfl
    cases reason with
    | none | some => rfl
  | leave | released | writerEnded => exact Or.inl (watched_of_closed (closed_resume task _ _))

section Bound

variable (peerGatewayId : GatewayId) (peerTransportId : PeerTransportId)
  (localEndpoint : StreamEndpoint) (activeOpens : Finset OpenIdentity)
  (streamCount : Counter) (config : TransportConfig) (loopConfig : LoopConfig)
  (begun : Instant)

/-- The instants that count for a silent peer: the start of the transport and the
events that renew its timers. -/
def Reference (past : List (TransportTask × TaskEvent)) (moment : Instant) : Prop :=
  moment = begun ∨ ∃ entry ∈ past, entry.1.Renews entry.2 ∧ moment = entry.1.now

theorem watched_start :
    (start peerGatewayId peerTransportId localEndpoint activeOpens streamCount
      config loopConfig begun).Watched
      (loopConfig.idleRetirementTimeout,
        staggeredInterval loopConfig.heartbeatIdleInterval peerTransportId localEndpoint,
        loopConfig.heartbeatResponseTimeout) begun := by
  intro _
  exact ⟨rfl, TransportLiveness.watching_new _ _ _ begun⟩

/-- A transport that is still open was renewed at most an idle retirement, a
heartbeat interval and a response timeout ago. -/
theorem now_le_of_open {past : List (TransportTask × TaskEvent)}
    (run : History TransportTask.Step (start peerGatewayId peerTransportId
      localEndpoint activeOpens streamCount config loopConfig begun) past task)
    (running : task.closed = none) :
    ∃ moment, Reference begun past moment ∧
      task.now ≤ moment + (loopConfig.idleRetirementTimeout +
        staggeredInterval loopConfig.heartbeatIdleInterval peerTransportId
          localEndpoint + loopConfig.heartbeatResponseTimeout) := by
  have started := watched_start peerGatewayId peerTransportId localEndpoint
    activeOpens streamCount config loopConfig begun
  obtain ⟨moment, reference, watched⟩ :=
    History.since (fun (source : TransportTask) (event : TaskEvent) target mark
      (watched : source.Watched _ mark) (step : Step source event target) =>
        watched.step step) run started
  refine ⟨moment, reference, ?_⟩
  obtain ⟨same, watching⟩ := watched running
  have bound := task.loop.liveness.grace_le
  have renewed := watching.renewed
  have prompt := watching.prompt
  simp only [TransportLiveness.timeouts, Prod.mk.injEq] at same
  rw [same.1, same.2.1, same.2.2] at bound
  lia

/-- An OPEN is accepted at most an idle retirement, a heartbeat interval, a response
timeout and an OPEN response timeout after the start of the transport, after a
frame of the peer, after a stream on a transport that had none, or after a
retirement that was put off for a queued command. -/
theorem accepts_open_within {past : List (TransportTask × TaskEvent)}
    (run : History TransportTask.Step (start peerGatewayId peerTransportId
      localEndpoint activeOpens streamCount config loopConfig begun) past task)
    (accepts : task.AcceptsOpen event) :
    ∃ moment, Reference begun past moment ∧
      task.now ≤ moment + (loopConfig.idleRetirementTimeout +
        staggeredInterval loopConfig.heartbeatIdleInterval peerTransportId
          localEndpoint + loopConfig.heartbeatResponseTimeout +
        config.openResponseTimeout) := by
  obtain ⟨moment, reference, bound⟩ := now_le_of_open peerGatewayId
    peerTransportId localEndpoint activeOpens streamCount config loopConfig begun run
    accepts.1.1
  exact ⟨moment, reference, Nat.le_trans bound
    (Nat.add_le_add_left (Nat.le_add_right _ _) moment)⟩

end Bound

namespace Scenario

def config : TransportConfig where
  maxStreamsPerTransport := 4
  streamQueueCapacity := 4
  writerQueueCapacity := 4
  openResponseTimeout := 500000000

def loopConfig : LoopConfig where
  heartbeatIdleInterval := 1000000000
  heartbeatResponseTimeout := 1000000000
  idleRetirementTimeout := 10000000000
  transportQueueCapacity := 4

/-- An OPEN for `a/a` with the given connection number. -/
def request (connectionId : Nat) : PeerOpenRequest where
  openIdentity := ⟨⟨1⟩, ⟨7⟩, connectionId⟩
  destination := ⟨⟨[97], validateNamespace_a⟩, ⟨[97], validateDestinationName_a⟩⟩
  relaySessionId := ⟨8⟩
  bindingId := ⟨9⟩

def begin : TransportTask :=
  start ⟨2⟩ ⟨3⟩ .dialer ∅ Counter.zero config loopConfig 0

/-- An OPEN that no answer comes for, and nine idle seconds after its reset. -/
def unanswered (connectionId : Nat) : List TaskEvent :=
  [.submit (.open (request connectionId)), .command, .write, .wait 500000000,
    .deadline, .write, .wait 9000000000]

/-- Two OPENs that are not answered, and a third one. -/
def silence : List TaskEvent :=
  unanswered 1 ++ unanswered 2 ++ [.submit (.open (request 3))]

def silent : TransportTask := silence.foldl apply begin

theorem run_silence : History Step begin (trail apply begin silence) silent :=
  History.of_allowed silence (by decide)

end Scenario

open Scenario in
/-- An OPEN is accepted nineteen seconds after the start, though no frame was
received and the timeouts add up to less than fourteen. -/
theorem accepts_open_of_silent_peer :
    History Step begin (trail apply begin silence) silent ∧
      silent.AcceptsOpen .command ∧
      (∀ entry ∈ trail apply begin silence, ¬ entry.1.Hears entry.2) ∧
      begin.now + (loopConfig.idleRetirementTimeout +
        staggeredInterval loopConfig.heartbeatIdleInterval ⟨3⟩ .dialer +
        loopConfig.heartbeatResponseTimeout +
        config.openResponseTimeout) < silent.now := by
  refine ⟨run_silence, ⟨by decide, rfl, request 3, [], _, rfl, rfl⟩, ?_, by decide⟩
  rintro entry member ⟨frame, received⟩
  have listed : entry.2 ∈ silence := by
    rw [← map_snd_trail apply begin silence]
    exact List.mem_map_of_mem member
  rw [received] at listed
  simp [silence, unanswered] at listed

open Scenario in
/-- The same OPEN is within the bound of the second one, which found the transport
without streams. -/
theorem accepts_open_within_silence :
    ∃ moment, Reference 0 (trail apply begin silence) moment ∧
      silent.now ≤ moment + (loopConfig.idleRetirementTimeout +
        staggeredInterval loopConfig.heartbeatIdleInterval ⟨3⟩ .dialer +
        loopConfig.heartbeatResponseTimeout +
        config.openResponseTimeout) := by
  have accepts : silent.AcceptsOpen .command :=
    ⟨by decide, rfl, request 3, [], _, rfl, rfl⟩
  exact accepts_open_within ⟨2⟩ ⟨3⟩ .dialer ∅ Counter.zero config
    loopConfig 0 run_silence accepts

end TransportTask

end RelayGate.Peer
