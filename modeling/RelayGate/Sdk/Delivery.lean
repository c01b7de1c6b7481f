import RelayGate.Sdk.Stream

/-!
# Delivery to the reader of a Pipe

What the reads have returned is a prefix of what was received, unless the queue was
emptied after a failure while a chunk held a slot in it.  After an end that came from
the remote side, and without a failure, the end of the stream is reported only when
everything received before that end has been returned.
-/

namespace RelayGate.Sdk

open Library PipeState

/-! ## Edits of the shared state -/

namespace PipeState

variable (state : PipeState) (terminal : Terminal)

@[simp]
theorem buffer_trySetTerminal : (state.trySetTerminal terminal).buffer = state.buffer := by
  unfold trySetTerminal
  split <;> rfl

@[simp]
theorem pushing_trySetTerminal : (state.trySetTerminal terminal).pushing = state.pushing := by
  unfold trySetTerminal
  split <;> rfl

@[simp]
theorem remoteFin_trySetTerminal :
    (state.trySetTerminal terminal).remoteFin = state.remoteFin := by
  unfold trySetTerminal
  split <;> rfl

@[simp]
theorem terminal_trySetTerminal :
    (state.trySetTerminal terminal).terminal = state.terminal.or (some terminal) := by
  unfold trySetTerminal
  split
  next ended already => simp [already]
  next open_ => simp [open_]

/-- The buffer is to be emptied only after a failure. -/
theorem discarding_trySetTerminal
    (failed : state.discarding = true → ∃ error, state.terminal = some (.failed error))
    (discards : (state.trySetTerminal terminal).discarding = true) :
    ∃ error, (state.trySetTerminal terminal).terminal = some (.failed error) := by
  unfold trySetTerminal at discards ⊢
  split at discards
  next ended already =>
    simpa only [already] using failed discards
  next open_ =>
    cases terminal with
    | closed => cases discards
    | failed error => exact ⟨error, rfl⟩

end PipeState

/-- What the checks of `push_data` decide. -/
inductive Admits (state : PipeState) (payload : Bytes) :
    Except Error (Option BufferedChunk) → Prop
  | late (isOver : state.terminal ≠ none) : Admits state payload (.ok none)
  | empty (running : state.terminal = none) (nothing : payload = []) :
      Admits state payload (.ok none)
  | taken {chunk : BufferedChunk} (running : state.terminal = none)
      (unfinished : state.remoteFin = false) (same : chunk.payload = payload) :
      Admits state payload (.ok (some chunk))
  | refused {error : Error} (running : state.terminal = none) :
      Admits state payload (.error error)

theorem admits_admitData (state : PipeState) (payload : Bytes) (relayRoom : Nat) :
    Admits state payload (state.admitData payload relayRoom) := by
  unfold PipeState.admitData
  split
  next isOver => exact .late (Option.isSome_iff_ne_none.mp isOver)
  next running =>
    have running : state.terminal = none := by simpa using running
    split
    · exact .refused running
    next unfinished =>
      split
      next nothing => exact .empty running nothing
      next =>
        split
        · exact .refused running
        · split
          · exact .refused running
          · split
            · exact .refused running
            · exact .taken running (by simpa using unfinished) rfl

/-! ## The invariant -/

namespace Stream

variable {stream target : Stream}

def bytesOf (chunk : Option BufferedChunk) : Bytes :=
  (chunk.map BufferedChunk.payload).getD []

/-- The bytes that are admitted and not yet in the queue. -/
def pushed (stream : Stream) : Bytes :=
  bytesOf stream.state.buffer.permitted ++ bytesOf stream.state.pushing

/-- No failure has ended the Pipe. -/
def Unfailed (stream : Stream) : Prop :=
  ∀ error, stream.state.terminal ≠ some (.failed error)

/-- Where the received bytes are: returned, buffered or about to be, or lost
because nothing can be buffered any more. -/
inductive Accounted (stream : Stream) : Prop
  | whole (same : stream.returned ++ stream.state.buffer.unread ++ stream.pushed =
      stream.received)
  | lost (isOver : stream.state.terminal ≠ none)
      (stopped : stream.state.pushing = none ∨ stream.state.buffer.closed = true)
      (unslotted : stream.state.buffer.permitted = none)
      (part : stream.returned ++ stream.state.buffer.unread <+: stream.received)

/-- After an end from the remote side nothing is missing and nothing follows. -/
structure Complete (stream : Stream) : Prop where
  sent : stream.state.Settled
  same : stream.returned ++ stream.state.buffer.unread = stream.content
  isOver : stream.attached = false ∨ stream.state.remoteFin = true
  told : stream.state.buffer.readEof = true → stream.state.buffer.unread = []

structure Faithful (stream : Stream) : Prop where
  accounted : stream.torn = false → stream.Accounted
  single : stream.state.pushing = none ∨ stream.state.buffer.permitted = none
  torn : stream.torn = true → stream.state.buffer.closed = true
  closed : stream.state.buffer.closed = true →
    ∃ error, stream.state.terminal = some (.failed error)
  discarding : stream.state.discarding = true →
    ∃ error, stream.state.terminal = some (.failed error)
  terminal : stream.state.terminal = some .closed → stream.ended ≠ none
  finished : stream.state.remoteFin = true → stream.ended ≠ none
  told : stream.state.buffer.readEof = true → stream.Unfailed → stream.ended ≠ none
  content : stream.ended = none → stream.content = stream.received
  complete : stream.ended = some .remote → stream.Unfailed → stream.Complete

theorem faithful_opened (limits : PipeLimits) : (opened limits).Faithful where
  accounted _ := .whole rfl
  single := Or.inl rfl
  torn := nofun
  closed := nofun
  discarding := nofun
  terminal := nofun
  finished := nofun
  told := nofun
  content _ := rfl
  complete := nofun

/-- The queue is emptied only after a failure. -/
theorem Faithful.untorn (faithful : stream.Faithful) (unfailed : stream.Unfailed) :
    stream.torn = false := by
  refine Bool.eq_false_iff.mpr fun torn => ?_
  obtain ⟨error, failed⟩ := faithful.closed (faithful.torn torn)
  exact unfailed error failed

/-- Before either side has ended a Pipe that has not failed, everything received is
returned or buffered. -/
theorem Faithful.whole (faithful : stream.Faithful)
    (running : stream.ended = none) (unfailed : stream.Unfailed) :
    stream.returned ++ stream.state.buffer.unread ++ stream.pushed = stream.received := by
  cases faithful.accounted (faithful.untorn unfailed) with
  | whole same => exact same
  | lost isOver =>
    cases ended : stream.state.terminal with
    | none => exact absurd ended isOver
    | some ending =>
      cases ending with
      | closed => exact absurd running (faithful.terminal ended)
      | failed error => exact absurd ended (unfailed error)

theorem Unfailed.earlier (unfailed : target.Unfailed)
    (sticky : ∀ terminal, stream.state.terminal = some terminal →
      target.state.terminal = some terminal) : stream.Unfailed :=
  fun error failed => unfailed error (sticky _ failed)

/-! ## Steps of the tasks -/

section Take

variable {step : StreamStep} {stream : Stream} {payload : Bytes} {relayRoom : Nat}

theorem received_take (silent : step.payload = []) :
    (stream.take step).received = stream.received := by
  simp [take, silent]

/-- A step that moves no bytes and gives a Pipe that has none the terminal state, if
any. -/
theorem Faithful.quiet (faithful : stream.Faithful) {ending : Option Terminal}
    (silent : step.payload = [])
    (buffer : (stream.take step).state.buffer = stream.state.buffer)
    (pushing : (stream.take step).state.pushing = stream.state.pushing)
    (terminal : (stream.take step).state.terminal = stream.state.terminal.or ending)
    (discarding : (stream.take step).state.discarding = true →
      ∃ error, (stream.take step).state.terminal = some (.failed error))
    (fins : stream.state.remoteFin = true → (stream.take step).state.remoteFin = true)
    (closes : ending = some .closed → (stream.take step).ended ≠ none)
    (finishes : (stream.take step).state.remoteFin = true →
      stream.state.remoteFin = true ∨ (stream.take step).ended ≠ none)
    (ends : stream.ended = none → step.ending = some .remote → stream.state.Settled ∧
      (step.keeps stream.state = false ∨ (stream.take step).state.remoteFin = true)) :
    (stream.take step).Faithful := by
  have received := @received_take _ stream silent
  have content : (stream.take step).content = stream.content := by simp [take, silent]
  have returned : (stream.take step).returned = stream.returned := rfl
  have torn : (stream.take step).torn = stream.torn := rfl
  have attached : (stream.take step).attached =
    (stream.attached && step.keeps stream.state) := rfl
  have ended : (stream.take step).ended = stream.ended.or step.ending := rfl
  have sticky : ∀ terminal, stream.state.terminal = some terminal →
      (stream.take step).state.terminal = some terminal := by
    intro first already
    rw [terminal, already, Option.some_or]
  have unfailed : (stream.take step).Unfailed → stream.Unfailed := fun unfailed =>
    unfailed.earlier sticky
  have whole := faithful.whole
  obtain ⟨accounted, single, wasTorn, closed, -, wasClosed, finished, told, same,
    complete⟩ := faithful
  generalize stream.take step = target at *
  constructor
  · intro untorn
    rcases accounted (torn.symm.trans untorn) with same | ⟨isOver, stopped, unslotted, part⟩
    · apply Accounted.whole
      grind [Stream.pushed]
    · obtain ⟨first, already⟩ := Option.ne_none_iff_exists'.mp isOver
      apply Accounted.lost <;> grind
  · grind
  · grind
  · grind
  · exact discarding
  · grind [Option.or_eq_some_iff]
  · grind
  · grind
  · grind
  · intro remote healthy
    have healthy := unfailed healthy
    cases already : stream.ended with
    | none => constructor <;> grind [Stream.pushed, bytesOf, PipeState.Settled]
    | some => constructor <;> grind [Complete, PipeState.Settled]

/-- A step that gives the Pipe a terminal state, if it has none. -/
theorem Faithful.terminated (faithful : stream.Faithful) {terminal : Terminal}
    (sets : (stream.take step).state = stream.state.trySetTerminal terminal)
    (silent : step.payload = [])
    (closes : terminal = .closed → (stream.take step).ended ≠ none)
    (ends : stream.ended = none → step.ending = some .remote →
      stream.state.Settled ∧ step.keeps stream.state = false) :
    (stream.take step).Faithful := by
  refine @Faithful.quiet _ _ faithful (some terminal) silent ?_ ?_ ?_ ?_ ?_ ?_ ?_ ?_
  · rw [sets, buffer_trySetTerminal]
  · rw [sets, pushing_trySetTerminal]
  · rw [sets, terminal_trySetTerminal]
  · rw [sets]
    exact discarding_trySetTerminal _ _ faithful.discarding
  · rw [sets, remoteFin_trySetTerminal]
    exact id
  · exact fun closed => closes (Option.some.inj closed)
  · rw [sets, remoteFin_trySetTerminal]
    exact Or.inl
  · exact fun running remote => (ends running remote).imp_right Or.inl

/-- What has been returned and buffered is a prefix of what was received. -/
theorem Accounted.part (accounted : stream.Accounted) :
    stream.returned ++ stream.state.buffer.unread <+: stream.received := by
  cases accounted with
  | whole same => exact same ▸ List.prefix_append _ _
  | lost isOver stopped unslotted part => exact part

variable (faithful : stream.Faithful)
include faithful

/-- A failure that drops the payload at hand. -/
theorem Faithful.failed {error : Error}
    (fails : (stream.take step).state =
      { stream.state with pushing := none }.trySetTerminal (.failed error))
    (neutral : step.ending = none) (unslotted : stream.state.buffer.permitted = none)
    (dropped : stream.state.terminal = none ∨ stream.state.pushing ≠ none) :
    (stream.take step).Faithful := by
  have same_end : (stream.take step).ended = stream.ended := by
    simp [Stream.take, neutral]
  have terminal : (stream.take step).state.terminal =
      stream.state.terminal.or (some (.failed error)) := by
    rw [fails, terminal_trySetTerminal]
  have sticky : ∀ ending, stream.state.terminal = some ending →
      (stream.take step).state.terminal = some ending := by
    intro ending already
    rw [terminal, already, Option.some_or]
  have closed_before : (stream.take step).Unfailed →
      stream.state.terminal = some .closed := by
    intro unfailed
    cases already : stream.state.terminal with
    | none => exact absurd (by rw [terminal, already, Option.none_or]) (unfailed error)
    | some ending =>
      cases ending with
      | closed => rfl
      | failed other => exact absurd (sticky _ already) (unfailed other)
  have single : (stream.take step).state.pushing = none := by
    rw [fails, pushing_trySetTerminal]
  have buffer : (stream.take step).state.buffer = stream.state.buffer := by
    rw [fails, buffer_trySetTerminal]
  constructor
  · intro untorn
    apply Accounted.lost
    · rw [terminal]
      cases stream.state.terminal <;> simp
    · exact Or.inl single
    · rwa [buffer]
    · rw [buffer]
      exact (faithful.accounted untorn).part.trans (List.prefix_append _ _)
  · exact Or.inl single
  · rw [buffer]
    exact faithful.torn
  · rw [buffer]
    intro shut
    obtain ⟨other, already⟩ := faithful.closed shut
    exact ⟨other, sticky _ already⟩
  · rw [fails]
    exact discarding_trySetTerminal _ _ faithful.discarding
  · intro closed
    rw [same_end]
    apply faithful.terminal
    cases already : stream.state.terminal with
    | none =>
      rw [terminal, already] at closed
      cases closed
    | some => exact (sticky _ already).symm.trans closed
  · rw [fails, remoteFin_trySetTerminal, same_end]
    exact faithful.finished
  · intro _ unfailed
    rw [same_end]
    exact faithful.terminal (closed_before unfailed)
  · intro running
    rw [same_end] at running
    simp [Stream.take, running, faithful.content running]
  · intro remote unfailed
    rw [same_end] at remote
    have complete := faithful.complete remote (unfailed.earlier sticky)
    rcases dropped with running | pushing
    · rw [closed_before unfailed] at running
      cases running
    · exact absurd complete.sent.1 pushing

/-- DATA that passes the checks is noted, and nothing else changes. -/
theorem Faithful.admitted {pushing : Option BufferedChunk}
    (ready : stream.Ready (.data payload relayRoom))
    (outcome : stream.state.admitData payload relayRoom = .ok pushing)
    (isOver : stream.state.terminal ≠ none → pushing = none)
    (finished : stream.state.remoteFin = true → pushing = none)
    (noted : stream.state.terminal = none →
      bytesOf pushing = payload) :
    (stream.take (.data payload relayRoom)).Faithful := by
  obtain ⟨attached, sent⟩ := ready
  have after : stream.take (.data payload relayRoom) =
      { stream with
        state := { stream.state with pushing := pushing }
        received := stream.received ++ payload
        content := if stream.ended.isNone then stream.content ++ payload
          else stream.content } := by
    simp only [Stream.take, StreamStep.task, StreamStep.keeps, StreamStep.payload,
      StreamStep.ending, Option.elim_some, TaskStep.apply, outcome, Option.or_none,
      Except.isOk, Except.toBool, Bool.and_true]
    rfl
  rw [after]
  have unpushed : stream.pushed = [] := by simp [pushed, bytesOf, sent.1, sent.2]
  refine ⟨fun untorn => ?_, Or.inr sent.2, faithful.torn, faithful.closed,
    faithful.discarding, faithful.terminal, faithful.finished, faithful.told, ?_, ?_⟩
  · cases running : stream.state.terminal with
    | none =>
      apply Accounted.whole
      cases faithful.accounted untorn with
      | whole same =>
        rw [unpushed, List.append_nil] at same
        change _ ++ _ ++ (bytesOf stream.state.buffer.permitted ++ bytesOf pushing) = _
        rw [noted running, sent.2]
        exact congrArg (· ++ payload) same
      | lost ended => exact absurd running ended
    | some =>
      have ended : stream.state.terminal ≠ none := by simp [running]
      exact .lost ended (Or.inl (isOver ended)) sent.2
        ((faithful.accounted untorn).part.trans (List.prefix_append _ _))
  · intro running
    change (if stream.ended.isNone then _ else _) = _
    rw [if_pos (by simp [show stream.ended = none from running]), faithful.content running]
  · intro remote unfailed
    have complete := faithful.complete remote unfailed
    have fin : stream.state.remoteFin = true := by
      simpa [attached] using complete.isOver
    refine ⟨⟨finished fin, sent.2⟩, ?_, Or.inr fin, complete.told⟩
    change _ = (if stream.ended.isNone then _ else _)
    rw [if_neg (by simp [show stream.ended = some .remote from remote])]
    exact complete.same

/-- An arriving DATA: it is admitted, discarded because the Pipe is over, or fails
the Pipe. -/
theorem Faithful.data (ready : stream.Ready (.data payload relayRoom)) :
    (stream.take (.data payload relayRoom)).Faithful := by
  have decided := admits_admitData stream.state payload relayRoom
  generalize outcome : stream.state.admitData payload relayRoom = result at decided
  cases decided with
  | late isOver =>
    exact faithful.admitted ready outcome (fun _ => rfl) (fun _ => rfl)
      (fun running => absurd running isOver)
  | empty running nothing =>
    exact faithful.admitted ready outcome (fun _ => rfl) (fun _ => rfl)
      (fun _ => nothing.symm)
  | taken running unfinished same =>
    refine faithful.admitted ready outcome (fun isOver => absurd running isOver) ?_
      (fun _ => same)
    intro fin
    rw [unfinished] at fin
    cases fin
  | @refused error running =>
    have fails : (stream.take (.data payload relayRoom)).state =
        { stream.state with pushing := none }.trySetTerminal (.failed error) := by
      simp only [Stream.take, StreamStep.task, Option.elim_some, TaskStep.apply, outcome]
      rw [← ready.2.1]
      rfl
    exact faithful.failed fails rfl ready.2.2 (Or.inl running)

/-- A chunk moves on towards the queue. -/
theorem Faithful.forwarded {buffer : PipeReadBuffer} (busy : ¬ stream.state.Settled)
    (whole : stream.Accounted →
      stream.returned ++ buffer.unread ++ bytesOf buffer.permitted = stream.received)
    (closed : buffer.closed = stream.state.buffer.closed)
    (told : buffer.readEof = stream.state.buffer.readEof) :
    Faithful { stream with
      state := { stream.state with buffer := buffer, pushing := none } } where
  __ := faithful
  accounted untorn := by
    apply Accounted.whole
    rw [← whole (faithful.accounted untorn)]
    exact congrArg (_ ++ ·) (List.append_nil _)
  single := Or.inl rfl
  torn torn := closed.trans (faithful.torn torn)
  closed shut := faithful.closed (closed.symm.trans shut)
  told isOver := faithful.told (told.symm.trans isOver)
  complete remote unfailed := absurd (faithful.complete remote unfailed).sent busy

/-- Taking the slot for the admitted chunk, which fails the Pipe if there is none. -/
theorem Faithful.send (ready : stream.Ready .send) : (stream.take .send).Faithful := by
  obtain ⟨chunk, pushing⟩ := Option.ne_none_iff_exists'.mp ready
  have unslotted := faithful.single.resolve_left ready
  have sending : (stream.take .send).state =
      { stream.state with pushing := none }.orFail
        ({ stream.state with pushing := none }.sendData chunk) := by
    simp only [Stream.take, StreamStep.task, Option.elim_some, TaskStep.apply, pushing]
  unfold PipeState.sendData at sending
  split at sending
  · exact faithful.failed sending rfl unslotted (Or.inr ready)
  next fits =>
    have moved : stream.take .send = { stream with
        state := { stream.state with
          buffer := { stream.state.buffer with permitted := some chunk }
          pushing := none } } := by
      simp [Stream.take, StreamStep.task, StreamStep.keeps, StreamStep.payload,
        StreamStep.ending, TaskStep.apply, pushing, PipeState.sendData, if_neg fits,
        PipeState.orFail, Except.isOk, Except.toBool]
    rw [moved]
    refine faithful.forwarded (fun settled => ready settled.1) ?_ rfl rfl
    rintro (same | ⟨-, stopped, -, -⟩)
    · rw [← same, pushed, unslotted, pushing]
      rfl
    · exact absurd (stopped.resolve_left ready) fun shut => fits (Or.inl shut)

/-- Storing the chunk in its slot. -/
theorem Faithful.store (ready : stream.Ready .store) : (stream.take .store).Faithful := by
  obtain ⟨chunk, permitted⟩ := Option.ne_none_iff_exists'.mp ready
  have sent := faithful.single.resolve_right ready
  have moved : stream.take .store = { stream with
      state := { stream.state with buffer := stream.state.buffer.store, pushing := none } } := by
    simp [Stream.take, StreamStep.task, StreamStep.keeps, StreamStep.payload,
      StreamStep.ending, TaskStep.apply, sent]
  rw [moved]
  refine faithful.forwarded (fun settled => ready settled.2) ?_ rfl rfl
  rintro (same | ⟨-, -, unslotted, -⟩)
  · rw [← same]
    simp [pushed, bytesOf, PipeReadBuffer.store, PipeReadBuffer.unread, permitted, sent]
  · exact absurd unslotted ready

theorem Faithful.take (ready : stream.Ready step) : (stream.take step).Faithful := by
  cases step with
  | data => exact faithful.data ready
  | send => exact faithful.send ready
  | store => exact faithful.store ready
  | fin =>
    refine faithful.quiet rfl rfl rfl (Option.or_none).symm faithful.discarding
      (fun _ => rfl) nofun (fun _ => Or.inr ?_) fun _ _ => ⟨ready.2, Or.inr rfl⟩
    cases already : stream.ended <;> simp [Stream.take, already, StreamStep.ending]
  | finish =>
    refine faithful.terminated rfl rfl (fun _ => ?_) nofun
    simpa [Stream.take, StreamStep.ending] using faithful.finished ready.1
  | close =>
    refine faithful.terminated rfl rfl ?_ (fun _ _ => ⟨ready.2, rfl⟩)
    intro _
    cases already : stream.ended <;> simp [Stream.take, already, StreamStep.ending]
  | lose => exact faithful.terminated rfl rfl nofun nofun
  | detach | shutdown =>
    exact faithful.quiet rfl rfl rfl (Option.or_none).symm faithful.discarding id nofun
      Or.inl nofun
  | closeOwn =>
    refine faithful.terminated rfl rfl ?_ nofun
    intro _
    cases already : stream.ended <;> simp [Stream.take, already, StreamStep.ending]
  | reset => exact faithful.terminated rfl rfl nofun nofun

theorem Faithful.advance {steps : List StreamStep} (orderly : stream.Orderly steps) :
    (stream.advance steps).Faithful := by
  induction steps generalizing stream with
  | nil => exact faithful
  | cons step steps ih => exact ih (faithful.take orderly.1) orderly.2

end Take

/-! ## Reads -/

section Reads

variable {length : Nat} {stream : Stream} {buffer : PipeReadBuffer}
  {outcome : ReadResult × PipeState} {event : StreamEvent}

/-- Emptying the buffer after a failure. -/
theorem Faithful.discard (faithful : stream.Faithful)
    (discards : stream.state.discarding = true) : (stream.apply .discard).Faithful := by
  obtain ⟨error, failed⟩ := faithful.discarding discards
  have ruined : ¬ (stream.apply .discard).Unfailed := fun unfailed =>
    unfailed error failed
  refine ⟨fun untorn => ?_, faithful.single, fun _ => rfl, fun _ => ⟨error, failed⟩, nofun,
    faithful.terminal, faithful.finished, fun _ unfailed => absurd unfailed ruined,
    faithful.content, fun _ unfailed => absurd unfailed ruined⟩
  obtain ⟨untorn, unslotted⟩ := Bool.or_eq_false_iff.mp untorn
  apply Accounted.lost
  · exact (by simp [failed] : stream.state.terminal ≠ none)
  · exact Or.inr rfl
  · exact Option.isNone_iff_eq_none.mp (Option.isSome_eq_false_iff.mp unslotted)
  · have emptied : (stream.apply .discard).state.buffer.unread = [] := rfl
    rw [emptied, List.append_nil]
    exact (List.prefix_append _ _).trans (faithful.accounted untorn).part

/-- Bytes move from the buffer to the reader. -/
theorem Faithful.copied (faithful : stream.Faithful) {bytes : Bytes}
    (moved : bytes ++ buffer.unread = stream.state.buffer.unread)
    (permitted : buffer.permitted = stream.state.buffer.permitted)
    (closed : buffer.closed = stream.state.buffer.closed)
    (told : buffer.readEof = stream.state.buffer.readEof) :
    Faithful { stream with
      state := { stream.state with buffer := buffer }
      returned := stream.returned ++ bytes } := by
  have joined : stream.returned ++ bytes ++ buffer.unread =
      stream.returned ++ stream.state.buffer.unread := by
    rw [List.append_assoc, moved]
  refine ⟨fun untorn => ?_, ?_, fun torn => closed.trans (faithful.torn torn), ?_,
    faithful.discarding, faithful.terminal, faithful.finished, ?_, faithful.content, ?_⟩
  · cases faithful.accounted untorn with
    | whole same =>
      apply Accounted.whole
      change stream.returned ++ bytes ++ buffer.unread ++
        (bytesOf buffer.permitted ++ bytesOf stream.state.pushing) = _
      rw [joined, permitted]
      exact same
    | lost isOver stopped unslotted =>
      refine Accounted.lost isOver ?_ (permitted.trans unslotted) ?_
      · change _ ∨ buffer.closed = true
        rwa [closed]
      · change stream.returned ++ bytes ++ buffer.unread <+: _
        rwa [joined]
  · change _ ∨ buffer.permitted = none
    rw [permitted]
    exact faithful.single
  · change buffer.closed = true → _
    rw [closed]
    exact faithful.closed
  · change buffer.readEof = true → _
    rw [told]
    exact faithful.told
  · intro remote unfailed
    have complete := faithful.complete remote unfailed
    refine ⟨⟨complete.sent.1, permitted.trans complete.sent.2⟩,
      joined.trans complete.same, complete.isOver, ?_⟩
    change buffer.readEof = true → buffer.unread = []
    rw [told]
    intro isOver
    have empty := complete.told isOver
    rw [← moved] at empty
    exact (List.append_eq_nil_iff.mp empty).2

/-- The reader reaches the end of the stream. -/
theorem Faithful.reachEof (faithful : stream.Faithful) (empty : stream.state.buffer.unread = [])
    (isOver : stream.Unfailed → stream.ended ≠ none) :
    Faithful { stream with state := stream.state.reachEof } where
  __ := faithful
  accounted untorn := by
    cases faithful.accounted untorn with
    | whole same => exact .whole same
    | lost isOver stopped unslotted part => exact .lost isOver stopped unslotted part
  told _ unfailed := isOver unfailed
  complete remote unfailed := by
    have complete := faithful.complete remote unfailed
    exact { complete with told := fun _ => empty }

/-- Nothing is buffered behind an empty queue. -/
theorem unread_eq_nil (idle : buffer.current = [])
    (empty : buffer.inbound = []) : buffer.unread = [] := by
  simp [PipeReadBuffer.unread, idle, empty]

/-- The end of a poll, in the state the other tasks left. -/
theorem Faithful.polled (faithful : stream.Faithful)
    (polled : PipeState.Polled length stream.state outcome) :
    Faithful { stream with
      state := outcome.2
      returned := stream.returned ++ outcome.1.bytes } := by
  have same : ∀ {result : ReadResult}, result.bytes = [] →
      Faithful { stream with returned := stream.returned ++ result.bytes } := by
    intro result silent
    rw [silent, List.append_nil]
    exact faithful
  cases polled with
  | nothing | repeated => exact same rfl
  | @unready result silent =>
    apply same
    rcases result with _ | (error | bytes)
    · rfl
    · rfl
    · exact absurd rfl (silent bytes)
  | copied =>
    exact faithful.copied (PipeReadBuffer.copy_append_unread _ length) rfl rfl rfl
  | loaded wanted idle queued =>
    refine faithful.copied ?_ rfl rfl rfl
    rw [← PipeReadBuffer.unread_load idle queued]
    exact PipeReadBuffer.copy_append_unread _ length
  | cut closed idle empty =>
    obtain ⟨error, failed⟩ := faithful.closed closed
    have silent : ReadResult.bytes
        (some (stream.state.terminalFailure.elim (.ok []) .error)) = [] := by
      simp [PipeState.terminalFailure, failed, ReadResult.bytes]
    rw [silent, List.append_nil]
    exact faithful.reachEof (unread_eq_nil idle empty) fun unfailed =>
      absurd failed (unfailed error)
  | ended idle empty isOver =>
    change Faithful { stream with
      state := stream.state.reachEof, returned := stream.returned ++ [] }
    rw [List.append_nil]
    exact faithful.reachEof (unread_eq_nil idle empty) fun _ =>
      isOver.elim faithful.terminal faithful.finished

theorem Faithful.read (faithful : stream.Faithful) {budget : Bool} {gaps : StreamGaps}
    (orderly : stream.Orderly (stream.passed length budget gaps)) :
    (stream.apply (.read length budget gaps)).Faithful :=
  (faithful.advance orderly).polled (stream.polled length budget gaps)

theorem Faithful.step {source target : Stream}
    (faithful : source.Faithful) (step : Step source event target) : target.Faithful := by
  obtain ⟨possible, rfl⟩ := step
  cases event with
  | task => exact faithful.take possible
  | discard => exact faithful.discard possible
  | read => exact faithful.read possible

/-! ## The end of the stream -/

/-- A poll that reports the end leaves the reader at the end, with nothing
buffered. -/
theorem readEof_of_polled
    (polled : PipeState.Polled length stream.state outcome) (wanted : 0 < length)
    (reported : outcome.1 = some (.ok [])) : outcome.2.buffer.readEof = true := by
  cases polled with
  | nothing none_wanted => exact absurd none_wanted (Nat.ne_of_gt wanted)
  | repeated told => exact told
  | copied wanted held =>
    have nonempty := PipeReadBuffer.copy_nonempty wanted held
    simp only [PipeState.copyCurrent, Option.some.injEq, Except.ok.injEq] at reported
    exact absurd reported nonempty
  | @loaded chunk rest wanted idle queued =>
    have nonempty := PipeReadBuffer.copy_nonempty wanted
      (show (stream.state.buffer.load chunk rest).current ≠ [] from chunk.nonempty)
    simp only [PipeState.copyChunk, PipeState.copyCurrent, Option.some.injEq,
      Except.ok.injEq] at reported
    exact absurd reported nonempty
  | cut => rfl
  | unready silent => exact absurd reported (silent [])
  | ended => rfl

/-- At the end of the stream everything received before the end is returned. -/
theorem Faithful.returned_of_readEof (faithful : stream.Faithful)
    (told : stream.state.buffer.readEof = true) (unfailed : stream.Unfailed)
    (foreign : stream.ended ≠ some .own) :
    stream.ended = some .remote ∧ stream.returned = stream.content := by
  have remote : stream.ended = some .remote := by
    cases ended : stream.ended with
    | none => exact absurd ended (faithful.told told unfailed)
    | some side =>
      cases side with
      | remote => rfl
      | own => exact absurd ended foreign
  have complete := faithful.complete remote unfailed
  have same := complete.same
  rw [complete.told told, List.append_nil] at same
  exact ⟨remote, same⟩

/-- A read with room for bytes reports the end of the stream. -/
def ReportsEnd (stream : Stream) : StreamEvent → Prop
  | .task _ => False
  | .discard => False
  | .read length budget gaps =>
      0 < length ∧ (stream.pollRead length budget gaps).1 = some (.ok [])

theorem readEof_of_reportsEnd (reports : stream.ReportsEnd event) :
    (stream.apply event).state.buffer.readEof = true := by
  cases event with
  | task | discard => cases reports
  | read length budget gaps =>
    exact readEof_of_polled (stream.polled length budget gaps) reports.1 reports.2

theorem faithful_of_history {limits : PipeLimits}
    {past : List (Stream × StreamEvent)} {final : Stream}
    (run : History Step (opened limits) past final) :
    (∀ entry ∈ past, (entry.1.apply entry.2).Faithful) ∧ final.Faithful := by
  induction run with
  | refl =>
    refine ⟨?_, faithful_opened limits⟩
    intro entry member
    cases member
  | @tail middle target past event _ last ih =>
    have next := ih.2.step last
    refine ⟨?_, next⟩
    intro entry member
    rcases List.mem_append.mp member with earlier | newest
    · exact ih.1 entry earlier
    · cases List.mem_singleton.mp newest
      rw [last.2] at next
      exact next

/-- What the reads have returned is a prefix of what was received, unless the queue
was emptied while a chunk held a slot, which takes a failure.  A read reports the end
of a Pipe that has not failed, and that its own side did not close or reset first,
only after the remote FIN or CLOSE and when the reads have returned everything
received before it. -/
theorem reads_deliver {limits : PipeLimits} {past : List (Stream × StreamEvent)}
    {final : Stream} (run : History Step (opened limits) past final) :
    (final.torn = false → final.returned <+: final.received) ∧
    (final.Unfailed → final.torn = false) ∧
    ∀ entry ∈ past, entry.1.ReportsEnd entry.2 →
      (entry.1.apply entry.2).Unfailed →
      (entry.1.apply entry.2).ended ≠ some .own →
      (entry.1.apply entry.2).ended = some .remote ∧
        (entry.1.apply entry.2).returned = (entry.1.apply entry.2).content := by
  obtain ⟨always, finishing⟩ := faithful_of_history run
  refine ⟨fun untorn => ?_, finishing.untorn, ?_⟩
  · exact (List.prefix_append _ _).trans (finishing.accounted untorn).part
  · intro entry member reports unfailed foreign
    exact (always entry member).returned_of_readEof (readEof_of_reportsEnd reports)
      unfailed foreign

end Reads

namespace Scenario

/-- One DATA, a remote FIN and a local half-close, which closes the Pipe. -/
def halves : List StreamEvent :=
  [.task (.data [7] 1024), .task .send, .task .store, .task .fin, .task .shutdown,
    .task .finish]

/-- The reader takes the buffered byte and is then told the end. -/
def reading : List StreamEvent :=
  [.read 1 true .none, .read 1 true .none]

/-- A second DATA arrives before the loop removes the entry of the Pipe. -/
def lateData : List StreamEvent :=
  halves ++ .task (.data [8] 1024) :: .task .detach :: reading

/-- The handle resets the Pipe while the second DATA holds its slot. -/
def tearing : List StreamEvent :=
  [.task (.data [7] 1024), .task .send, .task .store, .task (.data [8] 1024), .task .send,
    .task (.reset PipeState.Scenario.lost), .discard, .task .store, .read 1 true .none]

def fresh : Stream :=
  opened ⟨4, 1024⟩

/-- The Pipe with its byte read. -/
def drained : Stream :=
  (halves ++ [StreamEvent.read 1 true .none]).foldl apply fresh

theorem run_reading :
    History Step fresh (trail apply fresh (halves ++ reading))
      ((halves ++ reading).foldl apply fresh) :=
  History.of_allowed (halves ++ reading) (by decide)

theorem run_lateData :
    History Step fresh (trail apply fresh lateData) (lateData.foldl apply fresh) :=
  History.of_allowed lateData (by decide)

end Scenario

open Scenario in
/-- A reader of a Pipe that both sides half-closed reaches its end with everything
returned. -/
theorem reads_deliver_halves :
    History Step fresh (trail apply fresh (halves ++ reading))
        ((halves ++ reading).foldl apply fresh) ∧
      (drained.apply (.read 1 true .none)).returned =
        (drained.apply (.read 1 true .none)).content := by
  refine ⟨run_reading, ?_⟩
  have unfailed : (drained.apply (.read 1 true .none)).Unfailed := by
    intro error
    nofun
  have delivered := (reads_deliver run_reading).2.2
    (drained, .read 1 true .none) (by decide) ⟨Nat.one_pos, by decide⟩
  exact (delivered unfailed (by decide)).2

open Scenario in
/-- A DATA that follows the remote FIN on a Pipe already closed by both halves is
received and discarded: the end is reported although its byte was never returned.  A
DATA that is stored after a reset has emptied the queue is read although the one
before it never was. -/
theorem late_data_unread :
    History Step fresh (trail apply fresh lateData) (lateData.foldl apply fresh) ∧
      History Step fresh (trail apply fresh tearing) (tearing.foldl apply fresh) ∧
      ¬ (tearing.foldl apply fresh).returned <+: (tearing.foldl apply fresh).received ∧
      ∃ entry ∈ trail apply fresh lateData, entry.1.ReportsEnd entry.2 ∧
        (entry.1.apply entry.2).Unfailed ∧
        (entry.1.apply entry.2).ended = some .remote ∧
        (entry.1.apply entry.2).returned ≠ (entry.1.apply entry.2).received := by
  refine ⟨run_lateData, History.of_allowed tearing (by decide),
    by decide, (lateData.dropLast.foldl apply fresh,
    .read 1 true .none), by decide, ⟨Nat.one_pos, by decide⟩, ?_, by decide, by decide⟩
  intro error
  nofun

end Stream

end RelayGate.Sdk
