import RelayGate.Sdk.Flush
import RelayGate.Sdk.Writer

/-!
# The frames written for a Pipe

A Pipe ended by its own handle says DATA, then at most one FIN, then at most one
CLOSE or RESET, and a FIN or CLOSE follows every byte reported as written.  This
rests on a condition: when the loop takes the Pipe from the lane of abandoned
Pipes, no frame of the Pipe waits on the outbound lane.
-/

namespace RelayGate.Sdk

open Library PipeState

/-! ## What a Pipe says -/

inductive Ending where
  | close
  | reset (code : ErrorCode) (message : String)
  deriving DecidableEq, Repr

def Ending.frame : Ending → PipeFrame
  | .close => .close
  | .reset code message => .reset code message

/-- DATA frames, then perhaps a FIN, then perhaps a CLOSE or RESET. -/
structure Talk where
  payloads : List Bytes
  fin : Bool
  last : Option Ending
  deriving DecidableEq, Repr

variable {talk : Talk} {state : PipeState}

namespace Talk

variable {said : List PipeFrame}

def frames (talk : Talk) : List PipeFrame :=
  talk.payloads.map .data ++ ((if talk.fin then [.fin] else []) ++
    (talk.last.map Ending.frame).toList)

/-- The next frame of a Pipe. -/
inductive Says (talk : Talk) : PipeFrame → Talk → Prop
  | data (payload : Bytes) (unfinished : talk.fin = false)
      (unended : talk.last = none) :
      Says talk (.data payload) { talk with payloads := talk.payloads ++ [payload] }
  | fin (unfinished : talk.fin = false) (unended : talk.last = none) :
      Says talk .fin { talk with fin := true }
  | last (ending : Ending) (unended : talk.last = none) :
      Says talk ending.frame { talk with last := some ending }

variable {later : Talk} {frame : PipeFrame}

theorem Says.frames_eq (saying : talk.Says frame later) :
    later.frames = talk.frames ++ [frame] := by
  cases saying with
  | data payload unfinished unended => simp [frames, unfinished, unended]
  | fin unfinished unended => simp [frames, unfinished, unended]
  | last ending unended => simp [frames, unended]

theorem Says.flatten_payloads (saying : talk.Says frame later) :
    later.payloads.flatten = talk.payloads.flatten ++ frame.payload := by
  cases saying with
  | data | fin => simp [PipeFrame.payload]
  | last ending => cases ending <;> simp [PipeFrame.payload, Ending.frame]

/-- What can be said of a FIN and an end. -/
theorem of_prefix_tail {fin : Bool} {last : Option Ending}
    (part : said <+: (if fin then [.fin] else []) ++ (last.map Ending.frame).toList) :
    ∃ (finished : Bool) (ended : Option Ending), said =
      (if finished then [.fin] else []) ++ (ended.map Ending.frame).toList := by
  obtain ⟨rest, joined⟩ := part
  rcases List.append_eq_append_iff.mp joined with ⟨missing, all, _⟩ | ⟨more, all, ended⟩
  · cases said with
    | nil => exact ⟨false, none, rfl⟩
    | cons =>
      cases fin with
      | false => cases all
      | true =>
        rw [if_pos rfl, List.cons_append, List.cons.injEq] at all
        obtain ⟨rfl, empty⟩ := all
        rw [(List.append_eq_nil_iff.mp empty.symm).1]
        exact ⟨true, none, rfl⟩
  · cases more with
    | nil => exact ⟨fin, none, all⟩
    | cons =>
      cases last with
      | none => cases ended
      | some ending =>
        rw [Option.map_some, Option.toList_some, List.cons_append, List.cons.injEq] at ended
        obtain ⟨rfl, empty⟩ := ended
        rw [(List.append_eq_nil_iff.mp empty.symm).1] at all
        exact ⟨fin, some ending, all⟩

/-- A part of a talk that reaches its FIN or its end has all of its payloads. -/
theorem of_prefix (part : said <+: talk.frames) :
    ∃ shorter : Talk, said = shorter.frames ∧
      (shorter.fin = true ∨ shorter.last ≠ none → shorter.payloads = talk.payloads) := by
  obtain ⟨rest, joined⟩ := part
  rcases List.append_eq_append_iff.mp joined with ⟨missing, all, _⟩ | ⟨more, all, tail⟩
  · obtain ⟨first, second, _, same, _⟩ := List.map_eq_append_iff.mp all
    refine ⟨⟨first, false, none⟩, ?_, by simp⟩
    simp [frames, same]
  · obtain ⟨fin, last, same⟩ := of_prefix_tail ⟨rest, tail.symm⟩
    refine ⟨⟨talk.payloads, fin, last⟩, ?_, fun _ => rfl⟩
    rw [all, same]
    rfl

/-- The flags of the Pipe after what it has said. -/
def Matches (talk : Talk) (state : PipeState) : Prop :=
  talk.fin = state.localFin ∧ (talk.last ≠ none → state.terminal ≠ none)

theorem Matches.grow {grown : PipeState} (same : talk.Matches state)
    (fin : grown.localFin = state.localFin)
    (terminal : state.terminal ≠ none → grown.terminal ≠ none) : talk.Matches grown :=
  ⟨same.1.trans fin.symm, fun ended => terminal (same.2 ended)⟩

theorem Matches.unended (same : talk.Matches state)
    (open_ : state.terminal = none) : talk.last = none := by
  by_contra ended
  exact same.2 ended open_

end Talk

namespace PipeState

variable {state : PipeState}

theorem terminal_trySetTerminal_ne (terminal : Terminal) :
    (state.trySetTerminal terminal).terminal ≠ none := by
  unfold trySetTerminal
  split
  next ended => simp [ended]
  next => simp

theorem localFin_trySetTerminal (terminal : Terminal) :
    (state.trySetTerminal terminal).localFin = state.localFin := by
  unfold trySetTerminal
  split <;> rfl

/-- The write direction is open only before a FIN and before an end. -/
theorem open_of_writeError (writable : state.writeError.isNone = true) :
    state.terminal = none ∧ state.localFin = false := by
  unfold writeError at writable
  split at writable
  next => cases writable
  next => cases writable
  next running =>
    split at writable
    · cases writable
    next unfinished => exact ⟨running, by simpa using unfinished⟩

end PipeState

/-- The outcome of making a frame continues what the Pipe has said. -/
inductive Talk.Continues (talk : Talk) : PipeState × Option PipeFrame → Prop
  | silent {state : PipeState} (same : talk.Matches state) :
      Continues talk (state, none)
  | said {state : PipeState} {frame : PipeFrame} {later : Talk}
      (saying : talk.Says frame later) (same : later.Matches state) :
      Continues talk (state, some frame)

theorem Talk.Continues.matches_of_silent
    (continues : talk.Continues (state, none)) : talk.Matches state := by
  cases continues with
  | silent same => exact same

/-- The flags may grow without a word. -/
theorem Talk.Continues.grow {grown : PipeState}
    {made : Option PipeFrame} (continues : talk.Continues (state, made))
    (fin : grown.localFin = state.localFin)
    (terminal : state.terminal ≠ none → grown.terminal ≠ none) :
    talk.Continues (grown, made) := by
  cases continues with
  | silent same => exact .silent (same.grow fin terminal)
  | said saying same => exact .said saying (same.grow fin terminal)

/-- An ending is said with the terminal flag that was still free. -/
theorem Talk.Matches.continues_ending
    (same : talk.Matches state) (ending : Ending) (terminal : Terminal) :
    talk.Continues (state.trySetTerminal terminal,
      if state.terminal.isNone then some ending.frame else none) := by
  have fin : (state.trySetTerminal terminal).localFin = state.localFin :=
    localFin_trySetTerminal terminal
  have ended : (state.trySetTerminal terminal).terminal ≠ none :=
    terminal_trySetTerminal_ne terminal
  split
  next running =>
    have unended := same.unended (Option.isNone_iff_eq_none.mp running)
    exact .said (.last ending unended) ⟨same.1.trans fin.symm, fun _ => ended⟩
  next => exact .silent (same.grow fin fun _ => ended)

theorem Request.continues_makeFrame (same : talk.Matches state) (request : Request) :
    talk.Continues (request.makeFrame state) := by
  cases request with
  | write =>
    simp only [makeFrame]
    split
    next writable =>
      obtain ⟨running, unfinished⟩ := open_of_writeError writable
      exact .said (.data _ (same.1.trans unfinished) (same.unended running)) same
    next => exact .silent same
  | shutdown =>
    simp only [makeFrame]
    split
    next => exact .silent same
    next running =>
      have running : state.terminal = none := by simpa using running
      split
      next finished => exact .silent (same.grow finished.symm id)
      next unfinished =>
        have unfinished : talk.fin = false := same.1.trans (by simpa using unfinished)
        exact .said (.fin unfinished (same.unended running))
          ⟨rfl, fun ended => absurd (same.unended running) ended⟩
  | close => exact same.continues_ending .close .closed
  | reset code message => exact same.continues_ending (.reset code message) _

/-! ## Frames on the lane -/

namespace Outbound

variable {ι φ : Type} [DecidableEq ι]

/-- The frame that an event accepts. -/
def accepts : OutboundEvent ι φ → List (ι × φ)
  | .commit handle (some frame) => [(handle, frame)]
  | _ => []

/-- The frame that an event completes. -/
def completes (world : Outbound ι φ) : OutboundEvent ι φ → List (ι × φ)
  | .finish =>
      match world.writing with
      | some (.frame owner frame) => [(owner, frame)]
      | _ => []
  | _ => []

theorem recorded_apply (world : Outbound ι φ) (event : OutboundEvent ι φ) :
    (world.apply event).accepted = world.accepted ++ accepts event ∧
      (world.apply event).consumed = world.consumed ++ world.completes event := by
  cases event with
  | commit handle frame =>
    cases frame <;>
      simp [apply, run, commitFrame, accepts, completes, setHandle, moveTo]
  | flush =>
    simp only [apply, run, pollFlush, accepts, completes, List.append_nil]
    repeat' split
    all_goals exact ⟨rfl, rfl⟩
  | reserve =>
    simp only [apply, run, pollEnqueue, tryReserve, accepts, completes, List.append_nil]
    repeat' split
    all_goals exact ⟨rfl, rfl⟩
  | response =>
    simp only [apply, run, pollResponse, accepts, completes, List.append_nil]
    repeat' split
    all_goals exact ⟨rfl, rfl⟩
  | receive =>
    simp only [apply, run, recvItem, accepts, completes, List.append_nil]
    split <;> exact ⟨rfl, rfl⟩
  | finish =>
    simp only [apply, run, finishItem, accepts, completes, List.append_nil]
    split <;> simp [reply, *]
  | drain =>
    simp only [apply, run, drain, accepts, completes, List.append_nil]
    split <;> exact ⟨rfl, rfl⟩
  | send | mark | stop | fail | dropReceiver =>
    simp [apply, run, pollSend, commitFlush, stop, fail, dropReceiver, accepts,
      completes, setHandle, moveTo]

/-- Nothing of a settled handle is completed. -/
theorem completes_of_settled {world : Outbound ι φ} {own : ι}
    (covered : (world.view own).Covered own) (settled : (world.view own).Settled)
    {event : OutboundEvent ι φ} (possible : world.Possible event) :
    framesOf own (world.completes event) = [] := by
  cases event with
  | finish =>
    have nothing := covered.laneFrames_of_settled possible.1 settled
    simp only [completes]
    split
    next owner frame writing =>
      by_cases same : owner = own
      · simp [laneFrames, view, line, writing, OutboundItem.frameOf, same] at nothing
      · simp [framesOf, same]
    next => rfl
  | _ => rfl

end Outbound

/-! ## The invariant -/

/-- The frame that is made and not yet committed. -/
def Call.made : Call → Option PipeFrame
  | .chosen _ frame => frame
  | _ => none

namespace Writer

variable {ι : Type} [DecidableEq ι]

/-- What the lane has accepted from the handle, with the frame made next. -/
structure Speaks (own : ι) (world : Writer ι) (talk : Talk) : Prop where
  accepted : framesOf own world.outbound.accepted = talk.frames
  reported : talk.payloads.flatten = world.reported
  flags : talk.Continues (world.state, world.call.made)

/-- What the loop has written: the frames it took from the lane, or everything the
handle said and the CLOSE for a dropped handle. -/
inductive Wrote (own : ι) (world : Writer ι) (talk : Talk) : Prop
  | taken (same : world.written = framesOf own world.outbound.consumed)
  | closed (dropped : world.dropped = true) (gone : world.abandoned = false)
      (unended : talk.last = none) (settled : (world.outbound.view own).Settled)
      (same : world.written = talk.frames ++ [.close])

structure Tells (own : ι) (world : Writer ι) (talk : Talk) : Prop where
  covered : (world.outbound.view own).Covered own
  speaks : world.Speaks own talk
  quiet : world.dropped = true → world.call = .idle
  listed : world.abandoned = true → world.dropped = true ∧ talk.last = none
  wrote : world.Wrote own talk

theorem tells_opened (own : ι) (capacity : Nat) (limits : PipeLimits) :
    (opened capacity limits).Tells own ⟨[], false, none⟩ where
  covered := HandleView.covered_channel own capacity
  speaks := ⟨rfl, rfl, .silent ⟨rfl, nofun⟩⟩
  quiet := nofun
  listed := nofun
  wrote := .taken rfl

section Steps

variable {own : ι} {world : Writer ι} {talk : Talk}

section

variable (tells : world.Tells own talk)
include tells

/-- A change of the call and of the flags that says nothing. -/
theorem Tells.flagged {target : Writer ι} (outbound : target.outbound = world.outbound)
    (reported : target.reported = world.reported) (written : target.written = world.written)
    (abandoned : target.abandoned = world.abandoned) (dropped : target.dropped = world.dropped)
    (quiet : world.dropped = true → target.call = .idle)
    (flags : talk.Continues (target.state, target.call.made)) : target.Tells own talk where
  covered := by
    rw [outbound]
    exact tells.covered
  speaks := by
    refine ⟨?_, ?_, flags⟩
    · rw [outbound]
      exact tells.speaks.accepted
    · rw [reported]
      exact tells.speaks.reported
  quiet := by
    rw [dropped]
    exact quiet
  listed := by
    rw [abandoned, dropped]
    exact tells.listed
  wrote := by
    cases tells.wrote with
    | taken same => exact .taken (by rw [written, outbound, same])
    | closed gone taken unended settled same =>
      exact .closed (by rw [dropped, gone]) (by rw [abandoned, taken]) unended
        (by rw [outbound]; exact settled) (by rw [written, same])

/-- A step of the outbound lane. -/
theorem Tells.onLane {event : OutboundEvent ι PipeFrame}
    (possible : world.outbound.Possible event)
    (silent : framesOf own (Outbound.accepts event) = []) {target : Writer ι}
    (outbound : target.outbound = world.outbound.apply event)
    (state : target.state = world.state) (reported : target.reported = world.reported)
    (abandoned : target.abandoned = world.abandoned) (dropped : target.dropped = world.dropped)
    (quiet : world.dropped = true → target.call = .idle)
    (made : target.call.made = world.call.made)
    (written : target.written = world.written ++ framesOf own (world.outbound.completes event)) :
    target.Tells own talk where
  covered := by
    rw [outbound]
    exact tells.covered.move (Outbound.move_step own ⟨possible, rfl⟩)
  speaks := by
    refine ⟨?_, ?_, ?_⟩
    · rw [outbound, (Outbound.recorded_apply _ event).1, framesOf_append, silent, List.append_nil]
      exact tells.speaks.accepted
    · rw [reported]
      exact tells.speaks.reported
    · rw [state, made]
      exact tells.speaks.flags
  quiet := by
    rw [dropped]
    exact quiet
  listed := by
    rw [abandoned, dropped]
    exact tells.listed
  wrote := by
    cases tells.wrote with
    | taken same =>
      apply Wrote.taken
      rw [written, outbound, (Outbound.recorded_apply _ event).2, framesOf_append, same]
    | closed gone taken unended settled same =>
      have silently := Outbound.completes_of_settled tells.covered settled possible
      refine .closed (by rw [dropped, gone]) (by rw [abandoned, taken]) unended ?_ ?_
      · obtain ⟨accepted, consumed⟩ := Outbound.recorded_apply world.outbound event
        change framesOf own target.outbound.consumed = framesOf own target.outbound.accepted
        rw [outbound, accepted, consumed, framesOf_append, framesOf_append, silent,
          silently, List.append_nil, List.append_nil]
        exact settled
      · rw [written, silently, List.append_nil, same]

/-- The handle exists while a poll of it runs. -/
theorem Tells.undropped (runs : world.call ≠ .idle) : world.dropped = false := by
  cases dropped : world.dropped with
  | false => rfl
  | true => exact absurd (tells.quiet dropped) runs

/-- The poll of the handle commits the frame it has made. -/
theorem Tells.commit (possible : world.Possible own .commit) :
    ∃ later, (world.apply own .commit).Tells own later := by
  obtain ⟨choosing, ready⟩ := possible
  cases call : world.call with
  | chosen request frame =>
    have undropped := tells.undropped (by simp [call])
    have flags := tells.speaks.flags
    rw [call] at flags
    have ended : (request.afterCommit frame).made = none := by
      cases request <;> cases frame <;> rfl
    have covered := tells.covered.move (Outbound.move_step own
      (⟨ready, rfl⟩ : Outbound.Step world.outbound (.commit own frame) _))
    obtain ⟨accepted, consumed⟩ := Outbound.recorded_apply world.outbound (.commit own frame)
    have written : world.written =
        framesOf own (world.outbound.apply (.commit own frame)).consumed := by
      rw [consumed, framesOf_append]
      cases tells.wrote with
      | taken same => exact same.trans (List.append_nil _).symm
      | closed gone => simp [undropped] at gone
    have alive : ¬ world.dropped = true := by
      simp [undropped]
    have unlisted : ¬ world.abandoned = true := fun abandoned =>
      alive (tells.listed abandoned).1
    have said := congrArg (framesOf own) accepted
    rw [framesOf_append, tells.speaks.accepted] at said
    simp only [apply, call]
    cases flags with
    | silent same =>
      refine ⟨talk, covered, ⟨said.trans (List.append_nil _), ?_, ?_⟩,
        fun gone => absurd gone alive, fun listed => absurd listed unlisted,
        .taken written⟩
      · rw [tells.speaks.reported]
        exact (List.append_nil _).symm
      · rw [ended]
        exact .silent same
    | @said _ frame later saying same =>
      have own_frame : framesOf own (Outbound.accepts (.commit own (some frame))) =
          [frame] := by
        simp [Outbound.accepts, framesOf]
      rw [own_frame, ← saying.frames_eq] at said
      refine ⟨later, covered, ⟨said, ?_, ?_⟩, fun gone => absurd gone alive,
        fun listed => absurd listed unlisted, .taken written⟩
      · rw [saying.flatten_payloads, tells.speaks.reported]
        rfl
      · rw [ended]
        exact .silent same
  | _ => simp [call] at choosing

end

omit [DecidableEq ι] in
theorem made_afterReserve (world : Writer ι) :
    (world.afterReserve own).made = world.call.made := by
  unfold afterReserve
  split
  next request call =>
    rw [call]
    split
    · cases request <;> simp only [Request.afterPending] <;> (try split) <;> rfl
    · rfl
  next call =>
    rw [call]
    split <;> rfl
  next => rfl

theorem start_cases (state : PipeState) (request : Request) :
    request.start state = none ∨ request.start state = some .flush ∨
      request.start state = some (.send request) := by
  cases request <;> simp only [Request.start] <;> (repeat' split) <;> simp

/-- The handle is dropped. -/
theorem Tells.drop (tells : world.Tells own talk) (rest : world.AtRest own) :
    (world.apply own .drop).Tells own talk := by
  obtain ⟨undropped, idle, _⟩ := rest
  have same := tells.speaks.flags
  rw [idle] at same
  have grown : talk.Continues (world.state.closeNormal, world.call.made) :=
    tells.speaks.flags.grow (localFin_trySetTerminal _) fun _ =>
      terminal_trySetTerminal_ne _
  refine ⟨tells.covered, ⟨tells.speaks.accepted, tells.speaks.reported, grown⟩,
    fun _ => idle, ?_, ?_⟩
  · intro abandoned
    exact ⟨rfl, same.matches_of_silent.unended (Option.isNone_iff_eq_none.mp abandoned)⟩
  · cases tells.wrote with
    | taken same => exact .taken same
    | closed gone => simp [undropped] at gone

/-- The loop takes the Pipe from the lane of abandoned Pipes when none of its frames
waits on the outbound lane. -/
theorem Tells.abandon (tells : world.Tells own talk) {sent : Bool}
    (possible : world.Possible own (.abandon sent))
    (empty : laneFrames own world.outbound.line = []) :
    (world.apply own (.abandon sent)).Tells own talk := by
  obtain ⟨⟨running, _⟩, _, abandoned⟩ := possible
  obtain ⟨dropped, unended⟩ := tells.listed abandoned
  have settled : (world.outbound.view own).Settled := by
    have account := tells.covered.account running
    rw [show laneFrames own (world.outbound.view own).line = [] from empty,
      List.append_nil] at account
    exact account
  have same : world.written = framesOf own world.outbound.consumed := by
    cases tells.wrote with
    | taken same => exact same
    | closed _ gone => simp [abandoned] at gone
  have unlisted : ∀ {attached}, Tells own { world with
      abandoned := false, attached := attached, looked := false } talk := by
    intro attached
    exact ⟨tells.covered, ⟨tells.speaks.accepted, tells.speaks.reported,
      tells.speaks.flags⟩, tells.quiet, nofun, .taken same⟩
  simp only [apply]
  split
  · split
    · refine ⟨tells.covered, ⟨tells.speaks.accepted, tells.speaks.reported,
        tells.speaks.flags⟩, tells.quiet, nofun, ?_⟩
      refine .closed dropped rfl unended settled ?_
      change world.written ++ [.close] = _
      rw [same, ← tells.speaks.accepted]
      exact congrArg (· ++ [PipeFrame.close]) settled
    · have ready : world.outbound.Possible .stop := running
      exact unlisted.onLane ready rfl rfl rfl rfl rfl rfl tells.quiet rfl
        (List.append_nil _).symm
  · exact unlisted

theorem frames_frameWritten (world : Writer ι) :
    framesOf own (world.outbound.completes .finish) = (world.frameWritten own).toList := by
  simp only [frameWritten, Outbound.completes]
  cases world.outbound.writing with
  | none => rfl
  | some item =>
    cases item with
    | flush => rfl
    | frame owner =>
      by_cases same : owner = own <;> simp [framesOf, same]

/-- A step of another handle or of the loop on the lane. -/
theorem Tells.lane (tells : world.Tells own talk)
    {event : OutboundEvent ι PipeFrame} (foreign : event.handle? ≠ some own)
    (possible : world.outbound.Possible event) :
    (world.apply own (.lane event)).Tells own talk := by
  have silent : framesOf own (Outbound.accepts event) = [] := by
    cases event with
    | commit handle frame =>
      have different : handle ≠ own := fun same => foreign (by rw [same]; rfl)
      cases frame <;> simp [Outbound.accepts, framesOf, different]
    | _ => rfl
  cases event with
  | finish =>
    refine tells.onLane possible silent rfl rfl rfl rfl rfl tells.quiet rfl ?_
    rw [frames_frameWritten]
    rfl
  | _ =>
    exact tells.onLane possible silent rfl rfl rfl rfl rfl tells.quiet rfl
      (List.append_nil _).symm

theorem Tells.step (tells : world.Tells own talk) {event : WriterEvent ι}
    (possible : world.Possible own event)
    (empty : ∀ sent, event = .abandon sent → laneFrames own world.outbound.line = []) :
    ∃ later, (world.apply own event).Tells own later := by
  have flags := tells.speaks.flags
  cases event with
  | poll request =>
    refine ⟨talk, ?_⟩
    obtain ⟨undropped, idle, rest⟩ := possible
    have runs : ∀ {call : Call}, world.dropped = true → call = .idle := by
      simp [undropped]
    rcases start_cases world.state request with start | start | start
    · simpa only [apply, start] using tells
    · simp only [apply, start]
      rw [idle] at flags
      exact tells.flagged rfl rfl rfl rfl rfl runs flags
    · simp only [apply, start]
      exact tells.onLane rest rfl rfl rfl rfl rfl rfl runs (by rw [idle]; rfl)
        (List.append_nil _).symm
  | pollFlush =>
    obtain ⟨undropped, idle, rest⟩ := possible
    rw [idle] at flags
    exact ⟨talk, tells.flagged rfl rfl rfl rfl rfl (by simp [undropped]) flags⟩
  | reserve =>
    have undropped := tells.undropped possible.1
    exact ⟨talk, tells.onLane possible.2 rfl rfl rfl rfl rfl rfl (by simp [undropped])
      (made_afterReserve _) (List.append_nil _).symm⟩
  | choose =>
    cases call : world.call with
    | send request =>
      have undropped := tells.undropped (by simp [call])
      rw [call] at flags
      refine ⟨talk, ?_⟩
      simp only [apply, call]
      exact tells.flagged rfl rfl rfl rfl rfl (by simp [undropped])
        (request.continues_makeFrame flags.matches_of_silent)
    | _ => simp [Possible, call] at possible
  | commit => exact tells.commit possible
  | afterFin =>
    have undropped := tells.undropped (by rw [possible]; simp)
    rw [possible] at flags
    refine ⟨talk, tells.flagged rfl rfl rfl rfl rfl (by simp [undropped]) ?_⟩
    refine flags.grow ?_ ?_
    · simp only [apply]
      split
      · exact localFin_trySetTerminal _
      · rfl
    · simp only [apply]
      split
      · exact fun _ => terminal_trySetTerminal_ne _
      · exact id
  | flush =>
    have undropped := tells.undropped (by rw [possible.1]; simp)
    have ready : world.outbound.Possible (.flush own world.state.terminalFailure) := possible.2
    refine ⟨talk, tells.onLane ready rfl rfl rfl rfl rfl rfl (by simp [undropped])
      ?_ (List.append_nil _).symm⟩
    rw [possible.1]
    simp only [apply]
    split <;> rfl
  | mark =>
    refine ⟨talk, tells.onLane possible.2 rfl rfl rfl rfl rfl rfl tells.quiet rfl
      (List.append_nil _).symm⟩
  | response =>
    have undropped := tells.undropped (by rw [possible.1]; simp)
    exact ⟨talk, tells.onLane possible.2 rfl rfl rfl rfl rfl rfl (by simp [undropped])
      (by rw [possible.1]; rfl) (List.append_nil _).symm⟩
  | drop => exact ⟨talk, tells.drop possible⟩
  | lane => exact ⟨talk, tells.lane possible.1 possible.2.1⟩
  | remoteFin =>
    exact ⟨talk, tells.flagged rfl rfl rfl rfl rfl tells.quiet (flags.grow rfl id)⟩
  | closeFinished =>
    exact ⟨talk, tells.flagged rfl rfl rfl rfl rfl tells.quiet
      (flags.grow (localFin_trySetTerminal _) fun _ =>
        terminal_trySetTerminal_ne _)⟩
  | detach | look => exact ⟨talk, tells.flagged rfl rfl rfl rfl rfl tells.quiet flags⟩
  | abandon sent => exact ⟨talk, tells.abandon possible (empty sent rfl)⟩
  | wake => exact ⟨talk, tells.flagged rfl rfl rfl rfl rfl tells.quiet flags⟩

end Steps

/-- The frames written are DATA, then perhaps a FIN, then perhaps one CLOSE or RESET,
and with a FIN or a CLOSE the payloads are all the bytes reported as written. -/
def Proper (world : Writer ι) : Prop :=
  ∃ talk : Talk, world.written = talk.frames ∧
    (talk.fin = true ∨ talk.last = some .close →
      talk.payloads.flatten = world.reported)

theorem Tells.proper {own : ι} {world : Writer ι} {talk : Talk}
    (tells : world.Tells own talk) : world.Proper := by
  cases tells.wrote with
  | taken same =>
    have part : framesOf own world.outbound.consumed <+: talk.frames := by
      rw [← tells.speaks.accepted]
      exact tells.covered.part
    obtain ⟨shorter, frames, complete⟩ := Talk.of_prefix part
    refine ⟨shorter, same.trans frames, ?_⟩
    intro ended
    rw [complete (ended.imp_right fun last => by simp [last])]
    exact tells.speaks.reported
  | closed dropped gone unended settled same =>
    refine ⟨{ talk with last := some .close }, ?_, fun _ => tells.speaks.reported⟩
    rw [same]
    exact (Talk.Says.frames_eq (.last .close unended)).symm

/-- In every run of a Pipe that only its own handle ends, in which the loop takes the
Pipe from the lane of abandoned Pipes only when no frame of it waits on the outbound
lane, what is written is proper. -/
theorem written_proper {own : ι} {capacity : Nat} {limits : PipeLimits}
    {past : List (Writer ι × WriterEvent ι)} {final : Writer ι}
    (run : History (Step own) (opened capacity limits) past final)
    (empty : ∀ source sent, (source, WriterEvent.abandon sent) ∈ past →
      laneFrames own source.outbound.line = []) :
    final.Proper := by
  suffices ∃ talk, final.Tells own talk by
    obtain ⟨talk, tells⟩ := this
    exact tells.proper
  induction run with
  | refl => exact ⟨_, tells_opened own capacity limits⟩
  | @tail middle target past event _ last ih =>
      obtain ⟨talk, tells⟩ := ih fun source sent member =>
        empty source sent (List.mem_append_left _ member)
      obtain ⟨possible, rfl⟩ := last
      apply tells.step possible
      rintro sent rfl
      exact empty middle sent (by simp)

namespace Scenario

def fresh : Writer Unit :=
  opened 4 ⟨4, 1024⟩

/-- One byte is written. -/
def writing : List (WriterEvent Unit) :=
  [.poll (.write [7]), .reserve, .choose, .commit]

/-- The loop finds the outbound lane empty before the write, and the lane of
abandoned Pipes after the drop of the handle; then it takes the DATA. -/
def overtaken : List (WriterEvent Unit) :=
  .look :: writing ++ [.drop, .abandon true, .lane .receive, .lane .finish]

/-- The loop writes the DATA before the handle is dropped. -/
def orderly : List (WriterEvent Unit) :=
  writing ++ [.lane .receive, .lane .finish, .drop, .look]

theorem run_overtaken :
    History (Step ()) fresh (trail (apply ()) fresh overtaken)
      (overtaken.foldl (apply ()) fresh) :=
  History.of_allowed overtaken (by decide)

theorem run_orderly :
    History (Step ()) fresh (trail (apply ()) fresh orderly) (orderly.foldl (apply ()) fresh) :=
  History.of_allowed orderly (by decide)

end Scenario

open Scenario in
/-- A dropped handle whose DATA is on the lane when the loop takes the Pipe from the
lane of abandoned Pipes: the CLOSE overtakes the DATA. -/
theorem close_overtakes_data :
    History (Step ()) fresh (trail (apply ()) fresh overtaken)
        (overtaken.foldl (apply ()) fresh) ∧
      (overtaken.foldl (apply ()) fresh).written = [.close, .data [7]] ∧
      ¬ (overtaken.foldl (apply ()) fresh).Proper := by
  have written : (overtaken.foldl (apply ()) fresh).written = [.close, .data [7]] := by
    decide
  refine ⟨run_overtaken, written, ?_⟩
  rintro ⟨⟨payloads, fin, last⟩, same, _⟩
  rw [written] at same
  cases payloads with
  | cons => simp [Talk.frames] at same
  | nil => cases fin <;> cases last <;> simp [Talk.frames] at same

open Scenario in
/-- The CLOSE for a handle that is dropped after its DATA was written. -/
theorem written_proper_orderly :
    ((orderly.foldl (apply ()) fresh).apply () (.abandon true)).Proper := by
  have run := History.tail run_orderly (show Step () _ (.abandon true) _ from ⟨by decide, rfl⟩)
  have absent : ∀ sent, WriterEvent.abandon sent ∉ orderly := by
    decide
  refine written_proper run ?_
  intro source sent member
  rcases List.mem_append.mp member with earlier | newest
  · have event := List.mem_map_of_mem (f := Prod.snd) earlier
    rw [map_snd_trail] at event
    exact absurd event (absent sent)
  · cases List.mem_singleton.mp newest
    decide

end Writer

end RelayGate.Sdk
