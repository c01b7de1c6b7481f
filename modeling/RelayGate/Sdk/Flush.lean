import RelayGate.Sdk.Outbound

/-!
# Flushes of a handle

A flush is answered with success only when the loop has written every frame that
was accepted from the handle before.  The argument follows one handle: what a step
of the lane can do to the handle is one of a few moves of its view, and the
invariant of the view says that no frame of the handle stands behind the marker it
waits for.
-/

namespace RelayGate.Sdk

open Library

/-- Where an element of a list with a new last element stands. -/
theorem split_of_concat {α : Type} {line before behind : List α} {last item : α}
    (split : line ++ [last] = before ++ item :: behind) :
    behind = [] ∧ last = item ∨
      ∃ rest, behind = rest ++ [last] ∧ line = before ++ item :: rest := by
  rcases List.eq_nil_or_concat behind with rfl | ⟨rest, final, rfl⟩
  · have same := List.append_inj' split rfl
    exact Or.inl ⟨rfl, (List.cons.inj same.2).1⟩
  · have joined : line ++ [last] = (before ++ item :: rest) ++ [final] := by
      simpa using split
    have same := List.append_inj' joined rfl
    cases (List.cons.inj same.2).1
    exact Or.inr ⟨rest, List.concat_eq_append, same.1⟩

variable {ι φ : Type} [DecidableEq ι]

namespace OutboundItem

/-- The frame of an item, if it is one of the handle. -/
def frameOf (handle : ι) : OutboundItem ι φ → Option φ
  | .frame owner content => if owner = handle then some content else none
  | .flush _ => none

@[simp]
theorem frameOf_own (handle : ι) (frame : φ) :
    (OutboundItem.frame handle frame).frameOf handle = some frame :=
  if_pos rfl

theorem frameOf_other {handle owner : ι} (different : owner ≠ handle) (frame : φ) :
    (OutboundItem.frame owner frame).frameOf handle = none :=
  if_neg different

end OutboundItem

/-- The frames of a handle among those of all handles. -/
def framesOf (handle : ι) (frames : List (ι × φ)) : List φ :=
  frames.filterMap fun entry => if entry.1 = handle then some entry.2 else none

/-- The frames of a handle on the lane. -/
def laneFrames (handle : ι) (items : List (OutboundItem ι φ)) : List φ :=
  items.filterMap (OutboundItem.frameOf handle)

/-- The items that the loop has not done yet, the one it is writing first. -/
def Outbound.line (world : Outbound ι φ) : List (OutboundItem ι φ) :=
  world.writing.toList ++ world.lane.queue

theorem framesOf_append (handle : ι) (first second : List (ι × φ)) :
    framesOf handle (first ++ second) = framesOf handle first ++ framesOf handle second :=
  List.filterMap_append

theorem laneFrames_append (handle : ι) (first second : List (OutboundItem ι φ)) :
    laneFrames handle (first ++ second) = laneFrames handle first ++ laneFrames handle second :=
  List.filterMap_append

/-! ## The view of one handle -/

/-- What one handle sees of the lane. -/
structure HandleView (ι φ : Type) where
  line : List (OutboundItem ι φ)
  stopped : Bool
  replies : Nat → Reply
  markers : Nat
  dirty : Bool
  flushing : Option Nat
  accepted : List φ
  consumed : List φ

def Outbound.view (world : Outbound ι φ) (handle : ι) : HandleView ι φ where
  line := world.line
  stopped := world.stopped
  replies := world.replies
  markers := world.markers
  dirty := (world.handles handle).dirty
  flushing := (world.handles handle).flushing
  accepted := framesOf handle world.accepted
  consumed := framesOf handle world.consumed

namespace HandleView

/-- What a step can do to the view of a handle. -/
inductive Move (handle : ι) : HandleView ι φ → HandleView ι φ → Prop
  | same (view : HandleView ι φ) : Move handle view view
  | sent (view : HandleView ι φ) (frame : φ) :
      Move handle view
        { view with
          line := view.line ++ [.frame handle frame]
          dirty := true
          flushing := none
          accepted := view.accepted ++ [frame] }
  | passed (view : HandleView ι φ) {owner : ι} (different : owner ≠ handle)
      (frame : φ) :
      Move handle view { view with line := view.line ++ [.frame owner frame] }
  | marked (view : HandleView ι φ) (flushing : Option Nat)
      (own : flushing = view.flushing ∨ flushing = some view.markers) :
      Move handle view
        { view with
          line := view.line ++ [.flush view.markers]
          markers := view.markers + 1
          flushing := flushing }
  | written (view : HandleView ι φ) {owner : ι} {frame : φ}
      {rest : List (OutboundItem ι φ)} (running : view.stopped = false)
      (first : view.line = .frame owner frame :: rest) :
      Move handle view
        { view with
          line := rest
          consumed := view.consumed ++
            ((OutboundItem.frame owner frame).frameOf handle).toList }
  | answered (view : HandleView ι φ) {marker : Nat}
      {rest : List (OutboundItem ι φ)} (running : view.stopped = false)
      (first : view.line = .flush marker :: rest) :
      Move handle view
        { view with
          line := rest
          replies := Function.update view.replies marker (.sent (.ok ())) }
  | stopped (view : HandleView ι φ) (line : List (OutboundItem ι φ))
      (replies : Nat → Reply)
      (unanswered : ∀ marker, replies marker = .sent (.ok ()) →
        view.replies marker = .sent (.ok ())) :
      Move handle view
        { view with line := line, stopped := true, replies := replies }
  | settled (view : HandleView ι φ) {marker : Nat}
      (waiting : view.flushing = some marker)
      (reply : view.replies marker = .sent (.ok ())) :
      Move handle view { view with dirty := false, flushing := none }
  | forgotten (view : HandleView ι φ) :
      Move handle view { view with flushing := none }

/-- Every frame accepted from the handle is written. -/
def Settled (view : HandleView ι φ) : Prop :=
  view.consumed = view.accepted

/-- While the loop runs, the frames accepted from the handle are written or on the
lane, and none of them is behind the marker the handle waits for.  A clean handle
and one whose marker is answered have nothing left to write. -/
structure Covered (handle : ι) (view : HandleView ι φ) : Prop where
  part : view.consumed <+: view.accepted
  account : view.stopped = false →
    view.consumed ++ laneFrames handle view.line = view.accepted
  listed : view.stopped = false → ∀ marker, .flush marker ∈ view.line →
    marker < view.markers
  fresh : ∀ marker, view.markers ≤ marker → view.replies marker ≠ .sent (.ok ())
  clean : view.dirty = false → view.Settled
  waiting : ∀ marker, view.flushing = some marker →
    marker < view.markers ∧
    (view.replies marker = .sent (.ok ()) → view.Settled) ∧
    (view.stopped = false → ∀ before behind,
      view.line = before ++ .flush marker :: behind → laneFrames handle behind = [])

theorem covered_channel (handle : ι) (capacity : Nat) :
    Covered handle ((Outbound.sessionOutboundChannel capacity : Outbound ι φ).view handle)
    where
  part := List.nil_prefix
  account _ := rfl
  listed _ := nofun
  fresh _ _ := nofun
  clean _ := rfl
  waiting := nofun

section Moves

variable {handle : ι} {view : HandleView ι φ} (covered : view.Covered handle)
include covered

/-- A settled handle has nothing on the lane. -/
theorem Covered.laneFrames_of_settled (running : view.stopped = false)
    (settled : view.Settled) : laneFrames handle view.line = [] := by
  have account := covered.account running
  rw [← settled] at account
  exact List.append_right_eq_self.mp account

/-- An item that is not a frame of the handle joins the line. -/
theorem Covered.joined {item : OutboundItem ι φ} {markers : Nat} {flushing : Option Nat}
    (foreign : item.frameOf handle = none) (more : view.markers ≤ markers)
    (numbered : ∀ marker, item = .flush marker → view.markers ≤ marker ∧ marker < markers)
    (waits : flushing = view.flushing ∨
      ∃ marker, flushing = some marker ∧ view.markers ≤ marker ∧ marker < markers) :
    Covered handle { view with
      line := view.line ++ [item]
      markers := markers
      flushing := flushing } := by
  have silent : laneFrames handle [item] = [] := by
    simp [laneFrames, foreign]
  constructor
  · exact covered.part
  · intro running
    change view.consumed ++ laneFrames handle (view.line ++ [item]) = view.accepted
    rw [laneFrames_append, silent, List.append_nil]
    exact covered.account running
  · intro running marker member
    rcases List.mem_append.mp member with earlier | newest
    · exact Nat.lt_of_lt_of_le (covered.listed running marker earlier) more
    · exact (numbered marker (List.mem_singleton.mp newest).symm).2
  · intro marker above
    exact covered.fresh marker (Nat.le_trans more above)
  · exact covered.clean
  · intro marker waiting
    change flushing = some marker at waiting
    rcases waits with same | ⟨_, rfl, above, below⟩
    · rw [same] at waiting
      obtain ⟨bound, answered, behind⟩ := covered.waiting marker waiting
      refine ⟨Nat.lt_of_lt_of_le bound more, answered, ?_⟩
      intro running before rest split
      rcases split_of_concat split with ⟨rfl, last⟩ | ⟨earlier, rfl, inner⟩
      · rfl
      · rw [laneFrames_append, silent, List.append_nil]
        exact behind running before earlier inner
    · cases waiting
      refine ⟨below, fun answered => absurd answered (covered.fresh marker above), ?_⟩
      intro running before rest split
      rcases split_of_concat split with ⟨rfl, last⟩ | ⟨earlier, rfl, inner⟩
      · rfl
      · have listed := covered.listed running marker (by simp [inner])
        exact absurd listed (Nat.not_lt.mpr above)

/-- The first item of the line is done. -/
theorem Covered.done {item : OutboundItem ι φ} {rest : List (OutboundItem ι φ)}
    {replies : Nat → Reply} (running : view.stopped = false) (first : view.line = item :: rest)
    (answers : ∀ marker, replies marker = .sent (.ok ()) →
      view.replies marker = .sent (.ok ()) ∨ item = .flush marker) :
    Covered handle { view with
      line := rest
      replies := replies
      consumed := view.consumed ++ (item.frameOf handle).toList } := by
  have account : view.consumed ++ (item.frameOf handle).toList ++
      laneFrames handle rest = view.accepted := by
    have before := covered.account running
    rw [first] at before
    rw [← before, List.append_assoc]
    cases frame : item.frameOf handle <;> simp [laneFrames, frame]
  have settles : view.Settled →
      view.consumed ++ (item.frameOf handle).toList = view.accepted := by
    intro settled
    have nothing := covered.laneFrames_of_settled running settled
    have silent : item.frameOf handle = none := by
      rw [first] at nothing
      cases frame : item.frameOf handle with
      | none => rfl
      | some => simp [laneFrames, frame] at nothing
    rw [silent, Option.toList_none, List.append_nil]
    exact settled
  constructor
  · exact ⟨_, account⟩
  · exact fun _ => account
  · intro _ marker member
    exact covered.listed running marker (by rw [first]; exact List.mem_cons_of_mem _ member)
  · intro marker above answered
    rcases answers marker answered with earlier | rfl
    · exact covered.fresh marker above earlier
    · have listed := covered.listed running marker (by simp [first])
      exact absurd listed (Nat.not_lt.mpr above)
  · exact fun clean => settles (covered.clean clean)
  · intro marker waiting
    obtain ⟨bound, answered, behind⟩ := covered.waiting marker waiting
    refine ⟨bound, ?_, ?_⟩
    · intro reply
      rcases answers marker reply with earlier | rfl
      · exact settles (answered earlier)
      · have last := behind running [] rest first
        rw [last, List.append_nil] at account
        exact account
    · intro _ before others split
      change rest = before ++ .flush marker :: others at split
      exact behind running (item :: before) others (by rw [first, split]; rfl)

theorem Covered.move {target : HandleView ι φ} (move : Move handle view target) :
    target.Covered handle := by
  cases move with
  | same => exact covered
  | sent frame =>
    constructor
    · exact covered.part.trans (List.prefix_append _ _)
    · intro running
      change view.consumed ++ laneFrames handle (view.line ++ [.frame handle frame]) =
        view.accepted ++ [frame]
      rw [laneFrames_append, ← List.append_assoc, covered.account running]
      simp [laneFrames]
    · intro running marker member
      apply covered.listed running marker
      simpa using member
    · exact covered.fresh
    · nofun
    · nofun
  | passed different frame =>
    exact covered.joined (OutboundItem.frameOf_other different frame) le_rfl nofun
      (Or.inl rfl)
  | marked flushing own =>
    refine covered.joined rfl (Nat.le_succ _) ?_ ?_
    · rintro marker ⟨⟩
      exact ⟨le_rfl, Nat.lt_succ_self _⟩
    · exact own.imp_right fun fresh => ⟨view.markers, fresh, le_rfl, Nat.lt_succ_self _⟩
  | written running first =>
    exact covered.done running first fun _ answered => Or.inl answered
  | @answered marker rest running first =>
    have finished : Covered handle { view with
        line := rest
        replies := Function.update view.replies marker (.sent (.ok ()))
        consumed := view.consumed ++ [] } := by
      refine covered.done running first ?_
      intro other answered
      by_cases same : other = marker
      · exact Or.inr (by rw [same])
      · rw [Function.update_of_ne same] at answered
        exact Or.inl answered
    simpa only [List.append_nil] using finished
  | stopped line replies unanswered =>
    constructor
    · exact covered.part
    · nofun
    · nofun
    · intro marker above answered
      exact covered.fresh marker above (unanswered marker answered)
    · exact covered.clean
    · intro marker waiting
      obtain ⟨bound, answered, _⟩ := covered.waiting marker waiting
      exact ⟨bound, fun reply => answered (unanswered marker reply), nofun⟩
  | settled waiting reply =>
    have settled := (covered.waiting _ waiting).2.1 reply
    exact { covered with clean := fun _ => settled, waiting := nofun }
  | forgotten =>
    exact { covered with waiting := nofun }

end Moves

end HandleView

/-! ## Steps of the lane -/

namespace Outbound

open HandleView

theorem view_setHandle_of_ne (world : Outbound ι φ) {handle other : ι}
    (different : handle ≠ other) (value : SessionOutbound) :
    (world.setHandle other value).view handle = world.view handle := by
  simp [view, setHandle, line, Function.update_of_ne different]

theorem view_setHandle (world : Outbound ι φ) (handle : ι) (value : SessionOutbound) :
    (world.setHandle handle value).view handle =
      { world.view handle with dirty := value.dirty, flushing := value.flushing } := by
  simp [view, setHandle, line]

@[simp]
theorem view_moveTo (world : Outbound ι φ) (handle other : ι) (point : Point) :
    (world.moveTo other point).view handle = world.view handle := by
  by_cases same : handle = other
  · subst same
    rw [moveTo, view_setHandle]
    rfl
  · exact view_setHandle_of_ne world same _

section Steps

variable {marker : Nat} (world : Outbound ι φ) (handle polled : ι)

theorem move_of_view_eq {world target : Outbound ι φ} {handle : ι}
    (same : target.view handle = world.view handle) :
    Move handle (world.view handle) (target.view handle) := by
  rw [same]
  exact .same _

theorem move_pollFlush (failure : Option Error) :
    Move handle (world.view handle) ((world.pollFlush polled failure).1.view handle) := by
  apply move_of_view_eq
  unfold pollFlush
  split
  · rfl
  · split
    · rfl
    · split <;> exact view_moveTo _ _ _ _

omit [DecidableEq ι] in
theorem queue_of_tryReserve {lane reserved : Lane ι φ}
    (success : lane.tryReserve = .ok reserved) : reserved.queue = lane.queue := by
  unfold Lane.tryReserve at success
  split at success
  · cases success
  · split at success <;> cases success
    rfl

theorem move_tryReserve (job : Job) (retry : Bool) :
    Move handle (world.view handle) ((world.tryReserve polled job retry).1.view handle) := by
  apply move_of_view_eq
  unfold tryReserve
  split
  next lane success =>
    rw [view_moveTo]
    simp [view, line, queue_of_tryReserve success]
  next => exact view_moveTo _ _ _ _
  next => split <;> exact view_moveTo _ _ _ _

theorem move_commitFrame (frame : Option φ) :
    Move handle (world.view handle) ((world.commitFrame polled frame).1.view handle) := by
  cases frame with
  | none => exact move_of_view_eq (view_moveTo _ _ _ _)
  | some frame =>
    by_cases same : polled = handle
    · subst same
      have sent : (world.commitFrame polled (some frame)).1.view polled =
          { world.view polled with
            line := world.line ++ [.frame polled frame]
            dirty := true
            flushing := none
            accepted := framesOf polled world.accepted ++ [frame] } := by
        simp [commitFrame, view, setHandle, line, Lane.push, framesOf]
      rw [sent]
      exact .sent _ frame
    · have passed : (world.commitFrame polled (some frame)).1.view handle =
          { world.view handle with
            line := world.line ++ [.frame polled frame] } := by
        simp [commitFrame, view, setHandle, line, Lane.push, framesOf,
          Function.update_of_ne (Ne.symm same), same]
      rw [passed]
      exact .passed _ same frame

theorem move_commitFlush :
    Move handle (world.view handle) ((world.commitFlush polled).1.view handle) := by
  have marked : (world.commitFlush polled).1.view handle =
      { world.view handle with
        line := world.line ++ [.flush world.markers]
        markers := world.markers + 1
        flushing := if polled = handle then some world.markers
          else (world.handles handle).flushing } := by
    by_cases same : polled = handle
    · subst same
      simp [commitFlush, view, setHandle, line, Lane.push]
    · simp [commitFlush, view, setHandle, line, Lane.push,
        Function.update_of_ne (Ne.symm same), same]
  rw [marked]
  apply Move.marked
  split
  · exact Or.inr rfl
  · exact Or.inl rfl

theorem move_finishFlush {result : Except Error Unit}
    (waiting : (world.handles polled).flushing = some marker)
    (answered : result = .ok () → world.replies marker = .sent (.ok ())) :
    Move handle (world.view handle) ((world.finishFlush polled result).1.view handle) := by
  by_cases same : polled = handle
  · subst same
    rw [finishFlush, view_setHandle]
    cases result with
    | error =>
      simp only [Except.isOk, Except.toBool, Bool.not_false, Bool.and_true]
      exact .forgotten _
    | ok =>
      simp only [Except.isOk, Except.toBool, Bool.not_true, Bool.and_false]
      exact .settled _ waiting (answered rfl)
  · exact move_of_view_eq (view_setHandle_of_ne world (Ne.symm same) _)

theorem move_pollResponse :
    Move handle (world.view handle) ((world.pollResponse polled).1.view handle) := by
  unfold pollResponse
  split
  next => exact move_of_view_eq (view_moveTo _ _ _ _)
  next marker waiting =>
    split
    next => exact move_of_view_eq (view_moveTo _ _ _ _)
    next result reply =>
      apply move_finishFlush world handle polled waiting
      rintro rfl
      exact reply
    next => exact move_finishFlush world handle polled waiting nofun

theorem move_pollEnqueue :
    Move handle (world.view handle) ((world.pollEnqueue polled).1.view handle) := by
  unfold pollEnqueue
  split
  · exact move_tryReserve world handle polled _ _
  · exact .same _

/-- The item the loop takes stays the first of the line. -/
theorem view_recvItem (idle : world.writing.isNone) :
    world.recvItem.view handle = world.view handle := by
  unfold recvItem
  split
  next => rfl
  next item rest queued =>
    have nothing : world.writing = none := Option.isNone_iff_eq_none.mp idle
    simp [view, line, queued, nothing]

theorem move_finishItem (running : world.stopped = false) :
    Move handle (world.view handle) (world.finishItem.view handle) := by
  unfold finishItem
  split
  next => exact .same _
  next owner frame writing =>
    have first : (world.view handle).line = .frame owner frame :: world.lane.queue := by
      simp [view, line, writing]
    have written : view { world with
          writing := none, consumed := world.consumed ++ [(owner, frame)] } handle =
        { world.view handle with
          line := world.lane.queue
          consumed := framesOf handle world.consumed ++
            ((OutboundItem.frame owner frame).frameOf handle).toList } := by
      by_cases own : owner = handle <;>
        simp [view, line, framesOf, OutboundItem.frameOf, own]
    rw [written]
    exact .written _ running first
  next marker writing =>
    have first : (world.view handle).line = .flush marker :: world.lane.queue := by
      simp [view, line, writing]
    exact .answered _ running first

omit [DecidableEq ι] in
/-- What an ended loop answers is an error. -/
theorem replies_drain (answered : world.drain.replies marker = .sent (.ok ())) :
    world.replies marker = .sent (.ok ()) := by
  unfold drain at answered
  split at answered
  next => exact answered
  next => exact answered
  next other rest queued =>
    by_cases same : marker = other
    · subst same
      simp [reply] at answered
    · simpa [reply, Function.update_of_ne same] using answered

omit [DecidableEq ι] in
theorem replies_dropReceiver (answered : world.dropReceiver.replies marker = .sent (.ok ())) :
    world.replies marker = .sent (.ok ()) := by
  simp only [dropReceiver] at answered
  split at answered
  · cases answered
  · exact answered

/-- Nothing but the line and the replies changes after the end of the loop. -/
theorem move_of_stopped {world target : Outbound ι φ} {handle : ι}
    (stopped : target.stopped = true) (markers : target.markers = world.markers)
    (handles : target.handles = world.handles) (accepted : target.accepted = world.accepted)
    (consumed : target.consumed = world.consumed)
    (replies : ∀ marker, target.replies marker = .sent (.ok ()) →
      world.replies marker = .sent (.ok ())) :
    Move handle (world.view handle) (target.view handle) := by
  have same : target.view handle =
      { world.view handle with
        line := target.line, stopped := true, replies := target.replies } := by
    simp [view, stopped, markers, handles, accepted, consumed]
  rw [same]
  exact .stopped _ _ _ replies

theorem move_drain (stopped : world.stopped = true) :
    Move handle (world.view handle) (world.drain.view handle) := by
  have replies : ∀ marker, world.drain.replies marker = .sent (.ok ()) →
      world.replies marker = .sent (.ok ()) := fun _ => replies_drain world
  have same : ∃ lane replies, world.drain =
      { world with lane := lane, replies := replies } := by
    unfold drain
    split <;> exact ⟨_, _, rfl⟩
  obtain ⟨lane, answers, same⟩ := same
  rw [same] at replies ⊢
  exact move_of_stopped stopped rfl rfl rfl rfl replies

end Steps

theorem move_step {source target : Outbound ι φ} {event : OutboundEvent ι φ}
    (handle : ι) (step : Step source event target) :
    Move handle (source.view handle) (target.view handle) := by
  obtain ⟨possible, rfl⟩ := step
  cases event with
  | send => exact move_of_view_eq (view_moveTo _ _ _ _)
  | flush polled failure => exact move_pollFlush source handle polled failure
  | reserve polled => exact move_pollEnqueue source handle polled
  | commit polled frame => exact move_commitFrame source handle polled frame
  | mark polled => exact move_commitFlush source handle polled
  | response polled => exact move_pollResponse source handle polled
  | receive => exact move_of_view_eq (view_recvItem source handle possible.2.1)
  | finish => exact move_finishItem source handle possible.1
  | stop => exact .stopped _ _ _ fun _ answered => answered
  | fail => exact .same _
  | drain => exact move_drain source handle possible.1
  | dropReceiver =>
    exact move_of_stopped possible rfl rfl rfl rfl fun _ answered =>
      replies_dropReceiver source answered

theorem covered_of_history {capacity : Nat}
    {past : List (Outbound ι φ × OutboundEvent ι φ)} {final : Outbound ι φ}
    (run : History Step (sessionOutboundChannel capacity) past final) (handle : ι) :
    (∀ entry ∈ past, (entry.1.view handle).Covered handle) ∧
      (final.view handle).Covered handle := by
  have kept : ∀ (source : Outbound ι φ) (event : OutboundEvent ι φ)
      (target : Outbound ι φ), (source.view handle).Covered handle →
        Step source event target → (target.view handle).Covered handle :=
    fun _ _ _ covered step => covered.move (move_step handle step)
  exact run.invariant kept (covered_channel handle capacity)

/-! ## Answers -/

/-- A reservation never ends a flush with success. -/
theorem unflushed_pollEnqueue (world : Outbound ι φ) (handle : ι) :
    (world.pollEnqueue handle).2 ≠ some (.flushed (.ok ())) := by
  unfold pollEnqueue
  split
  next job retry _ =>
    unfold tryReserve
    split
    · simp
    · cases job <;> simp [refusal]
    · split <;> simp
  next => simp

theorem answered_of_flushed {world : Outbound ι φ} {handle : ι}
    (flushed : (world.pollResponse handle).2 = some (.flushed (.ok ()))) :
    ∃ marker, (world.handles handle).flushing = some marker ∧
      world.replies marker = .sent (.ok ()) := by
  unfold pollResponse at flushed
  split at flushed
  next => simp at flushed
  next marker waiting =>
    split at flushed
    next => simp at flushed
    next result reply =>
      simp only [finishFlush, Option.some.injEq, PollResult.flushed.injEq] at flushed
      rw [flushed] at reply
      exact ⟨marker, waiting, reply⟩
    next => simp [finishFlush] at flushed

/-- A flush is answered with success for a clean handle or an answered marker. -/
theorem settled_of_flushed {world : Outbound ι φ} {event : OutboundEvent ι φ}
    {handle : ι} (covered : (world.view handle).Covered handle)
    (polls : event.handle? = some handle)
    (flushed : world.answer event = some (.flushed (.ok ()))) : (world.view handle).Settled := by
  cases event with
  | flush =>
    cases polls
    simp only [answer, run, pollFlush] at flushed
    split at flushed
    next => simp at flushed
    next =>
      split at flushed
      next clean => exact covered.clean clean
      next => split at flushed <;> simp at flushed
  | reserve polled => exact absurd flushed (unflushed_pollEnqueue world polled)
  | response =>
    cases polls
    obtain ⟨marker, waiting, reply⟩ := answered_of_flushed flushed
    exact (covered.waiting marker waiting).2.1 reply
  | commit polled frame => cases frame <;> simp [answer, run, commitFrame] at flushed
  | send | mark | receive | finish | stop | fail | drain | dropReceiver =>
    simp [answer, run, pollSend, commitFlush] at flushed

/-- In every run of a lane, also of a session that has failed, a flush succeeds only
when every frame accepted before from the handle has been written. -/
theorem flush_covers_accepted {capacity : Nat}
    {past : List (Outbound ι φ × OutboundEvent ι φ)} {final : Outbound ι φ}
    (run : History Step (sessionOutboundChannel capacity) past final) :
    ∀ entry ∈ past, ∀ handle, entry.2.handle? = some handle →
      entry.1.answer entry.2 = some (.flushed (.ok ())) →
        framesOf handle entry.1.consumed = framesOf handle entry.1.accepted := by
  intro entry member handle polls
  have covered := (covered_of_history run handle).1 entry member
  exact settled_of_flushed covered polls

namespace Scenario

/-- Two handles send; the first flushes, gives up waiting and flushes again after
the loop has written everything. -/
def flushing : List (OutboundEvent Bool Nat) :=
  [.send true, .reserve true, .commit true (some 1),
    .send false, .reserve false, .commit false (some 2),
    .flush true none, .reserve true, .mark true, .response true,
    .receive, .finish, .receive, .finish, .receive, .finish,
    .flush true none]

def channel : Outbound Bool Nat :=
  sessionOutboundChannel 4

/-- The lane before the response is polled again. -/
def answered : Outbound Bool Nat :=
  flushing.foldl apply channel

theorem run_flushing : History Step channel (trail apply channel flushing) answered :=
  History.of_allowed flushing (by decide)

end Scenario

open Scenario in
/-- The second flush of the first handle succeeds with its frame written. -/
theorem flush_covers_first :
    answered.answer (.response true) = some (.flushed (.ok ())) ∧
      framesOf true answered.consumed = framesOf true answered.accepted := by
  have flushed : answered.answer (.response true) = some (.flushed (.ok ())) := by
    decide
  have run := History.tail run_flushing
    (show Step answered (.response true) _ from ⟨by decide, rfl⟩)
  exact ⟨flushed, flush_covers_accepted run (answered, .response true)
    (by simp) true rfl flushed⟩

end Outbound

end RelayGate.Sdk
