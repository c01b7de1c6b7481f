import RelayGate.Peer.Detection

/-!
# Probes and retirement

A probe that waits for its answer is kept, with its number and its deadline, as long
as the transport has streams: only the answer to it in time takes it away, and the
first frame or timer after its deadline ends the transport.  A transport retires
only when it has had no stream for the whole retirement period and no command waits.

The timers may be served late here: the clock passes any deadline.
-/

namespace RelayGate.Peer

open Library

/-! ## The timers -/

namespace TransportLiveness

variable {isEmpty queueEmpty : Bool} {liveness after : TransportLiveness}
  {probe : PendingHeartbeat} {now since : Instant}

theorem isSome_syncStreamState (liveness : TransportLiveness) (isEmpty : Bool) (now : Instant) :
    (liveness.syncStreamState isEmpty now).zeroStreamSince.isSome = isEmpty := by
  cases isEmpty <;> cases since : liveness.zeroStreamSince <;>
    simp [syncStreamState, since]

/-- A transport with streams keeps its probe. -/
theorem pending_syncStreamState (liveness : TransportLiveness) (now : Instant) :
    (liveness.syncStreamState false now).pending = liveness.pending := by
  cases since : liveness.zeroStreamSince <;> simp [syncStreamState, since]

/-- A transport idles since it was first noted to have no stream. -/
theorem since_syncStreamState
    (idles : (liveness.syncStreamState isEmpty now).zeroStreamSince = some since) :
    liveness.zeroStreamSince = some since ∨ since = now := by
  cases isEmpty <;> cases before : liveness.zeroStreamSince <;>
    simp_all [syncStreamState]

/-- Only the answer in time takes a probe away. -/
theorem pending_observeInbound (probed : liveness.pending = some probe) (frame : PeerFrame) :
    (liveness.observeInbound frame now).2 = liveness ∨
      frame = .pong probe.nonce ∧ now < probe.deadline := by
  unfold observeInbound
  rw [probed]
  cases frame with
  | pong =>
    dsimp only
    split
    · rename_i answers
      exact Or.inr ⟨by rw [answers.1], answers.2⟩
    · exact Or.inl rfl
  | _ => exact Or.inl rfl

theorem zeroStreamSince_observeInbound (liveness : TransportLiveness)
    (frame : PeerFrame) (now : Instant) :
    (liveness.observeInbound frame now).2.zeroStreamSince = liveness.zeroStreamSince := by
  unfold observeInbound
  split
  · split <;> rfl
  all_goals rfl

/-- A timer that finds a probe waiting ends the transport, or leaves the timers
alone. -/
theorem onDeadline_of_pending (probed : liveness.pending = some probe) (queueEmpty : Bool) :
    liveness.onDeadline now false queueEmpty =
      (if probe.deadline ≤ now then some .heartbeatTimeout else none, liveness) := by
  simp [onDeadline, probed]

/-- A timer that does not retire the transport lets it idle as before, or from
now on. -/
theorem since_onDeadline {action : Option LivenessAction}
    (served : liveness.onDeadline now isEmpty queueEmpty = (action, after))
    (idles : after.zeroStreamSince = some since) :
    liveness.zeroStreamSince = some since ∨ since = now := by
  unfold onDeadline at served
  grind

theorem onDeadline_idleRetired
    (retires : liveness.onDeadline now isEmpty queueEmpty = (some .idleRetired, after)) :
    queueEmpty = true ∧ ∃ since, liveness.zeroStreamSince = some since ∧
      since + liveness.idleRetirementTimeout ≤ now := by
  unfold onDeadline at retires
  grind [Option.any_eq_true]

end TransportLiveness

/-! ## The task -/

namespace TransportTask

variable {task next target : TransportTask} {event : TaskEvent} {probe : PendingHeartbeat}
  {past : List (TransportTask × TaskEvent)}

/-- As `Possible`, with a clock that may pass a deadline. -/
def Timed (task : TransportTask) (event : TaskEvent) : Prop :=
  match event with
  | .wait _ => task.closed = none
  | _ => task.Possible event

instance (task : TransportTask) (event : TaskEvent) :
    Decidable (task.Timed event) := by
  unfold Timed
  split
  · infer_instance
  · infer_instance

def TimedStep (source : TransportTask) (event : TaskEvent) (target : TransportTask) :
    Prop :=
  source.Timed event ∧ target = source.apply event

theorem Timed.running (timed : task.Timed event) : task.closed = none := by
  cases event with
  | wait => exact timed
  | _ => exact timed.1

/-- The event is the answer to a probe before its deadline. -/
def Answers (probe : PendingHeartbeat) (task : TransportTask) (event : TaskEvent) :
    Prop :=
  event = .inbound (.frame (.pong probe.nonce)) ∧ task.now < probe.deadline

/-- A frame is received, or a timer is served that leaves the transport a stream. -/
inductive Checks (task : TransportTask) : TaskEvent → Prop
  | frame (frame : PeerFrame) : Checks task (.inbound (.frame frame))
  | timer
      (busy : (task.loop.actor.expireOpenDeadlines
        task.now).flushStreamQueues.streams.isEmpty = false) :
      Checks task .deadline

/-- The timer retires the transport. -/
def Retires (task : TransportTask) : Prop :=
  (task.loop.onDeadline task.commands.isEmpty task.now).1 = some .idleRetired

/-! ## A waiting probe -/

/-- What the steps that go on do to the timers: nothing, or a note whether there are
streams after a frame or a timer was served. -/
theorem timers_apply (running : (task.apply event).closed = none) :
    (task.apply event).loop.liveness = task.loop.liveness ∧
        (task.apply event).idle = task.idle ∨
      ∃ liveness, (task.apply event).loop.liveness =
          liveness.syncStreamState (task.apply event).idle task.now ∧
        (liveness = task.loop.liveness ∨
          (∃ frame, event = .inbound (.frame frame) ∧
            liveness = (task.loop.liveness.observeInbound frame task.now).2) ∨
          event = .deadline ∧ ∃ action served,
            task.loop.liveness.onDeadline task.now (task.apply event).idle
              task.commands.isEmpty = (action, served) ∧
            (action = none ∧ liveness = served ∨
              ∃ frame, action = some (.ping frame) ∧
                liveness = served.markProbeCommitted task.now)) := by
  cases event with
  | wait | write | share | closeWriter | closeNotices => exact Or.inl ⟨rfl, rfl⟩
  | cancel reason => cases reason <;> exact Or.inl ⟨rfl, rfl⟩
  | submit =>
    left
    unfold apply
    dsimp only
    split <;> exact ⟨rfl, rfl⟩
  | wake => exact Or.inr ⟨_, rfl, Or.inl rfl⟩
  | command =>
    cases queued : task.commands with
    | nil =>
      left
      simp only [apply, queued]
      exact ⟨trivial, trivial⟩
    | cons =>
      refine Or.inr ⟨task.loop.liveness, ?_, Or.inl rfl⟩
      simp only [apply, queued]
      rfl
  | leave | released | writerEnded => cases running
  | inbound input =>
    cases input with
    | ended | failed => cases running
    | frame frame =>
      refine Or.inr ⟨(task.loop.liveness.observeInbound frame task.now).2, ?_,
        Or.inr (Or.inl ⟨frame, rfl, rfl⟩)⟩
      simp only [apply, TransportLoop.onInbound] at running ⊢
      split at running
      · cases running
      · rename_i timely
        rw [if_neg timely]
        split at running
        · cases running
        · rfl
  | deadline =>
    simp only [apply, TransportLoop.onDeadline] at running ⊢
    generalize (task.loop.actor.expireOpenDeadlines
      task.now).flushStreamQueues = actor at running ⊢
    cases served : task.loop.liveness.onDeadline task.now actor.streams.isEmpty
        task.commands.isEmpty with
    | mk action liveness =>
      rw [served] at running
      cases action with
      | none =>
        exact Or.inr ⟨liveness, rfl, Or.inr (Or.inr ⟨trivial, none, liveness,
          served, Or.inl ⟨rfl, rfl⟩⟩)⟩
      | some action =>
        cases action with
        | heartbeatTimeout | idleRetired => cases running
        | ping frame =>
          dsimp only at running ⊢
          split at running
          · cases running
          · exact Or.inr ⟨liveness.markProbeCommitted task.now, rfl,
              Or.inr (Or.inr ⟨trivial, some (.ping frame), liveness, served,
                Or.inr ⟨frame, rfl, rfl⟩⟩)⟩

/-- A step that leaves the transport open and with streams keeps a waiting probe,
unless it is its answer. -/
theorem pending_apply (probed : task.loop.liveness.pending = some probe)
    (unanswered : ¬Answers probe task event) (running : (task.apply event).closed = none)
    (busy : (task.apply event).idle = false) :
    (task.apply event).loop.liveness.pending = some probe := by
  rcases timers_apply running with ⟨same, -⟩ | ⟨liveness, noted, origin⟩
  · rw [same]
    exact probed
  · rw [noted, busy, TransportLiveness.pending_syncStreamState]
    rcases origin with rfl | ⟨frame, rfl, rfl⟩ | ⟨rfl, action, served, timer, outcome⟩
    · exact probed
    · rcases TransportLiveness.pending_observeInbound probed frame with
        same | ⟨rfl, timely⟩
      · rw [same]
        exact probed
      · exact absurd ⟨rfl, timely⟩ unanswered
    · rw [busy, TransportLiveness.onDeadline_of_pending probed] at timer
      rcases outcome with ⟨rfl, rfl⟩ | ⟨frame, rfl, rfl⟩
      · rw [← (Prod.mk.inj timer).2]
        exact probed
      · split at timer <;> cases timer

/-- A frame or a timer at or after the deadline of a probe ends the transport. -/
theorem closed_of_checks (probed : task.loop.liveness.pending = some probe)
    (late : probe.deadline ≤ task.now) (checks : Checks task event) :
    ∃ actor : TransportActor, (task.apply event).closed =
        some (actor.failure.getD .heartbeatTimeout) ∧
      (actor = task.loop.actor ∨
        actor = (task.loop.actor.expireOpenDeadlines task.now).flushStreamQueues) := by
  cases checks with
  | frame frame =>
    refine ⟨task.loop.actor, ?_, Or.inl rfl⟩
    have kept : (task.loop.liveness.observeInbound frame task.now).2 =
        task.loop.liveness := by
      rcases TransportLiveness.pending_observeInbound probed frame with
        same | ⟨-, timely⟩
      · exact same
      · exact absurd late (Nat.not_le.mpr timely)
    have expired : task.loop.liveness.responseTimedOut task.now = true := by
      simp [TransportLiveness.responseTimedOut, probed, late]
    simp only [apply, TransportLoop.onInbound, kept, expired, if_true]
    rfl
  | timer busy =>
    refine ⟨_, ?_, Or.inr rfl⟩
    simp only [apply, TransportLoop.onDeadline, busy,
      TransportLiveness.onDeadline_of_pending probed, if_pos late]
    rfl

/-- Over a stretch of a run in which the transport keeps a stream and the probe is
not answered, the probe is kept. -/
theorem pending_of_history (run : History TimedStep task past next)
    (probed : task.loop.liveness.pending = some probe) (running : next.closed = none)
    (busy : ∀ entry ∈ past, (entry.1.apply entry.2).idle = false)
    (unanswered : ∀ entry ∈ past, ¬Answers probe entry.1 entry.2) :
    next.loop.liveness.pending = some probe := by
  induction run with
  | refl => exact probed
  | @tail middle target past event run last ih =>
    obtain ⟨timed, rfl⟩ := last
    have before := ih timed.running
      (fun entry member => busy entry (List.mem_append_left _ member))
      (fun entry member => unanswered entry (List.mem_append_left _ member))
    exact pending_apply before (unanswered (middle, event) (by simp)) running
      (busy (middle, event) (by simp))

/-! ## Retirement -/

/-- The transport has had no stream since its timers say so. -/
structure Idled (past : List (TransportTask × TaskEvent)) (task : TransportTask) :
    Prop where
  noted : task.closed = none → task.loop.liveness.zeroStreamSince.isSome = task.idle
  ordered : ∀ entry ∈ past, entry.1.now ≤ task.now
  quiet : task.closed = none → ∀ since,
    task.loop.liveness.zeroStreamSince = some since →
      ∀ entry ∈ past, since < entry.1.now → entry.1.idle = true

theorem now_apply (task : TransportTask) (event : TaskEvent) :
    task.now ≤ (task.apply event).now := by
  cases event with
  | wait => exact Nat.le_add_right _ _
  | submit | command =>
    unfold apply
    dsimp only
    split <;> exact Nat.le_refl _
  | inbound input =>
    simp only [apply]
    generalize task.loop.onInbound input task.now = outcome
    obtain ⟨reason, loop⟩ := outcome
    cases reason <;> exact Nat.le_refl _
  | deadline =>
    simp only [apply]
    generalize task.loop.onDeadline task.commands.isEmpty task.now = outcome
    obtain ⟨reason, loop⟩ := outcome
    cases reason <;> exact Nat.le_refl _
  | _ => exact Nat.le_refl _

theorem Idled.step (idled : Idled past task) (timed : task.Timed event) :
    Idled (past ++ [(task, event)]) (task.apply event) := by
  have open_ := timed.running
  have entries : ∀ entry ∈ past ++ [(task, event)], entry.1.now ≤ task.now := by
    intro entry member
    rcases List.mem_append.mp member with early | last
    · exact idled.ordered entry early
    · cases List.mem_singleton.mp last
      exact Nat.le_refl _
  -- what the timers of the state before say about all entries so far
  have before : ∀ since, task.loop.liveness.zeroStreamSince = some since →
      ∀ entry ∈ past ++ [(task, event)], since < entry.1.now →
        entry.1.idle = true := by
    intro since idles entry member later
    rcases List.mem_append.mp member with early | last
    · exact idled.quiet open_ since idles entry early later
    · cases List.mem_singleton.mp last
      rw [← idled.noted open_, idles]
      rfl
  refine ⟨?_, fun entry member => (entries entry member).trans (now_apply task event), ?_⟩
  · intro running
    rcases timers_apply running with ⟨same, kept⟩ | ⟨liveness, noted, -⟩
    · rw [same, kept]
      exact idled.noted open_
    · rw [noted, TransportLiveness.isSome_syncStreamState]
  · intro running since idles
    have origin : task.loop.liveness.zeroStreamSince = some since ∨
        since = task.now := by
      rcases timers_apply running with ⟨same, -⟩ | ⟨liveness, noted, origin⟩
      · rw [same] at idles
        exact Or.inl idles
      · rw [noted] at idles
        rcases TransportLiveness.since_syncStreamState idles with held | now
        · rcases origin with rfl | ⟨frame, -, rfl⟩ |
            ⟨-, action, served, timer, ⟨-, rfl⟩ | ⟨frame, -, rfl⟩⟩
          · exact Or.inl held
          · rw [TransportLiveness.zeroStreamSince_observeInbound] at held
            exact Or.inl held
          · exact TransportLiveness.since_onDeadline timer held
          · exact TransportLiveness.since_onDeadline timer held
        · exact Or.inr now
    rcases origin with idles | rfl
    · exact before since idles
    · intro entry member later
      exact absurd later (Nat.not_lt.mpr (entries entry member))

section Runs

variable {peerGatewayId : GatewayId} {peerTransportId : PeerTransportId}
  {localEndpoint : StreamEndpoint} {activeOpens : Finset OpenIdentity}
  {streamCount : Counter} {config : TransportConfig} {loopConfig : LoopConfig}
  {begun : Instant}

theorem idled_of_history {past : List (TransportTask × TaskEvent)}
    (run : History TimedStep (start peerGatewayId peerTransportId localEndpoint
      activeOpens streamCount config loopConfig begun) past task) :
    Idled past task := by
  induction run with
  | refl =>
    refine ⟨fun _ => rfl, ?_, ?_⟩
    · intro entry member
      cases member
    · intro _ _ _ entry member
      cases member
  | tail _ last ih =>
    obtain ⟨timed, rfl⟩ := last
    exact ih.step timed

/-- In every timed run of a transport: while it keeps a stream, a waiting probe stays
as it is until its answer comes in time, and the first frame or timer at or after its
deadline ends the transport with a heartbeat timeout, or with the reason for which it
had failed already.  It retires only when it had no stream during the whole preceding
retirement period and no command is queued. -/
theorem probe_kept_and_retirement_idle {past since : List (TransportTask × TaskEvent)}
    (run : History TimedStep (start peerGatewayId peerTransportId localEndpoint
      activeOpens streamCount config loopConfig begun) past task)
    (later : History TimedStep task since next) (running : next.closed = none) :
    (∀ probe, task.loop.liveness.pending = some probe →
      (∀ entry ∈ since, (entry.1.apply entry.2).idle = false) →
      (∀ entry ∈ since, ¬Answers probe entry.1 entry.2) →
      next.loop.liveness.pending = some probe ∧
        ∀ event, TimedStep next event target → Checks next event →
          probe.deadline ≤ next.now →
          ∃ actor : TransportActor,
            target.closed = some (actor.failure.getD .heartbeatTimeout) ∧
            (actor = next.loop.actor ∨ actor =
              (next.loop.actor.expireOpenDeadlines next.now).flushStreamQueues)) ∧
    (task.Retires → task.closed = none → task.commands = [] ∧ task.idle = true ∧
      ∀ entry ∈ past,
        task.now < entry.1.now + task.loop.liveness.idleRetirementTimeout →
          entry.1.idle = true) := by
  refine ⟨?_, ?_⟩
  · intro probe probed busy unanswered
    have kept := pending_of_history later probed running busy unanswered
    refine ⟨kept, ?_⟩
    rintro event ⟨-, rfl⟩ checks late
    exact closed_of_checks kept late checks
  · intro retires live
    have idled := idled_of_history run
    unfold Retires TransportLoop.onDeadline at retires
    generalize (task.loop.actor.expireOpenDeadlines
      task.now).flushStreamQueues = actor at retires
    dsimp only at retires
    cases served : task.loop.liveness.onDeadline task.now actor.streams.isEmpty
        task.commands.isEmpty with
    | mk action liveness =>
        rw [served] at retires
        have retired : action = some .idleRetired := by
          cases action with
          | none => cases retires
          | some action =>
              cases action with
              | ping =>
                  dsimp only at retires
                  split at retires <;> cases retires
              | heartbeatTimeout => cases retires
              | idleRetired => rfl
        subst retired
        obtain ⟨unqueued, instant, idles, due⟩ :=
          TransportLiveness.onDeadline_idleRetired served
        refine ⟨List.isEmpty_iff.mp unqueued, ?_, ?_⟩
        · rw [← idled.noted live, idles]
          rfl
        · intro entry member recent
          exact idled.quiet live instant idles entry member (by lia)

end Runs

namespace Scenario

/-- A stream is opened and answered; after a silent interval the peer is probed. -/
def probing : List TaskEvent :=
  [.submit (.open (request 1)), .command, .write,
    .inbound (.frame (.opened (StreamId.mk 0))), .wait 1200000000, .deadline]

def probed : TransportTask := probing.foldl apply begin

/-- The response timeout passes. -/
def waiting : List TaskEvent := [.wait 1000000000]

/-- The transport is failed from outside before the response timeout passes. -/
def failing : List TaskEvent := [.cancel (some .writerFailed), .wait 1000000000]

theorem run_probing : History TimedStep begin (trail apply begin probing) probed :=
  History.of_allowed probing (by decide)

theorem run_waiting : History TimedStep probed (trail apply probed waiting)
    (waiting.foldl apply probed) :=
  History.of_allowed waiting (by decide)

theorem run_failing : History TimedStep probed (trail apply probed failing)
    (failing.foldl apply probed) :=
  History.of_allowed failing (by decide)

def firstProbe : PendingHeartbeat := ⟨1, 1200000000, 2200000000⟩

end Scenario

open Scenario in
/-- A frame at the deadline of a probe ends the transport. -/
theorem probe_times_out :
    probed.loop.liveness.pending = some firstProbe ∧
      ((waiting.foldl apply probed).apply (.inbound (.frame (.ping 5)))).closed =
        some .heartbeatTimeout := by
  have pending : probed.loop.liveness.pending = some firstProbe := by
    decide
  have run : History TimedStep (start ⟨2⟩ ⟨3⟩ .dialer ∅ Counter.zero config
      loopConfig 0) _ probed := run_probing
  obtain ⟨-, closes⟩ := (probe_kept_and_retirement_idle run run_waiting
    (by decide)).1 firstProbe pending (by decide) (by
      intro entry member answers
      cases List.mem_singleton.mp member
      cases answers.1)
  obtain ⟨actor, closed, rfl | rfl⟩ := closes (.inbound (.frame (.ping 5)))
    ⟨by decide, rfl⟩ (.frame _) (by decide)
  · exact ⟨pending, closed⟩
  · exact ⟨pending, closed⟩

open Scenario in
/-- A transport that was failed from outside while a probe waits does not report the
heartbeat timeout at the deadline of the probe. -/
theorem failed_before_timeout :
    History TimedStep begin (trail apply begin probing) probed ∧
      probed.loop.liveness.pending = some firstProbe ∧
      History TimedStep probed (trail apply probed failing) (failing.foldl apply probed) ∧
      (∀ entry ∈ trail apply probed failing, (entry.1.apply entry.2).idle = false) ∧
      firstProbe.deadline ≤ (failing.foldl apply probed).now ∧
      ((failing.foldl apply probed).apply
        (.inbound (.frame (.ping 5)))).closed = some .writerFailed :=
  ⟨run_probing, by decide, run_failing, by decide, by decide, by decide⟩

end TransportTask

end RelayGate.Peer
