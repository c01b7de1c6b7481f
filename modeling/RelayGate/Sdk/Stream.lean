import RelayGate.Sdk.Reading

/-!
# A Pipe between the session loop and its handle

The session loop handles the frames of a Pipe one after the other while the
entry of the Pipe is in its table; the handle of the application may half-close,
close or reset the Pipe at any moment, also while a read is under way.  Beside
the shared state a `Stream` records the bytes received for the Pipe and those its
reads have returned.
-/

namespace RelayGate.Sdk

open Library

/-! ## What one poll does -/

namespace PipeReadBuffer

variable {buffer : PipeReadBuffer} {chunk : BufferedChunk} {rest : List BufferedChunk}
  {budget : Bool}

/-- The bytes that are buffered and not yet returned. -/
def unread (buffer : PipeReadBuffer) : Bytes :=
  buffer.current ++ (buffer.inbound.map BufferedChunk.payload).flatten

theorem copy_append_unread (buffer : PipeReadBuffer) (length : Nat) :
    (buffer.copy length).1 ++ (buffer.copy length).2.unread = buffer.unread := by
  simp only [copy, unread, ← List.append_assoc, List.take_append_drop]

theorem unread_load (idle : buffer.current = []) (queued : buffer.inbound = chunk :: rest) :
    (buffer.load chunk rest).unread = buffer.unread := by
  simp [unread, load, idle, queued]

theorem inbound_of_chunk (received : buffer.pollRecv budget = .chunk chunk rest) :
    buffer.inbound = chunk :: rest := by
  unfold pollRecv at received
  split at received <;> cases received
  assumption

theorem closed_of_ended (received : buffer.pollRecv budget = .ended) :
    buffer.closed = true ∧ buffer.inbound = [] := by
  unfold pollRecv at received
  split at received <;> cases received
  rename_i empty isOver
  exact ⟨(Bool.and_eq_true_iff.mp isOver).1, empty⟩

end PipeReadBuffer

namespace PipeState

/-- How many of its gaps a poll passes whose first look at the queue found
nothing. -/
def passesFlags (state : PipeState) (gaps : Gaps) : Nat :=
  let looked := state.advance gaps.beforeTerminal
  match looked.terminal with
  | some (.failed _) => 1
  | terminal =>
      if terminal = some .closed ∨ (looked.advance gaps.beforeFin).remoteFin then 3
      else 2

/-- How many of its gaps a poll passes. -/
def passes (state : PipeState) (length : Nat) (budget : Bool) (gaps : Gaps) : Nat :=
  if length = 0 ∨ state.buffer.current ≠ [] ∨ state.buffer.readEof = true then
    0
  else
    match state.buffer.pollRecv budget with
    | .chunk _ _ => 0
    | .ended => 0
    | .pending => state.passesFlags gaps

end PipeState

/-- The steps in the first gaps of a poll. -/
def Gaps.upTo (gaps : Gaps) (count : Nat) : List TaskStep :=
  ([gaps.beforeTerminal, gaps.beforeFin, gaps.beforeReceive].take count).flatten

namespace PipeState

variable {state : PipeState} {length : Nat}

/-- What the reader does at the end of a poll, in the state the other tasks have
left. -/
inductive Polled (length : Nat) (state : PipeState) : ReadResult × PipeState → Prop
  | nothing (none_wanted : length = 0) : Polled length state (some (.ok []), state)
  | repeated (told : state.buffer.readEof = true)
      (idle : state.buffer.current = []) : Polled length state (some (.ok []), state)
  | copied (wanted : 0 < length) (held : state.buffer.current ≠ []) :
      Polled length state (state.copyCurrent length)
  | loaded {chunk : BufferedChunk} {rest : List BufferedChunk} (wanted : 0 < length)
      (idle : state.buffer.current = [])
      (queued : state.buffer.inbound = chunk :: rest) :
      Polled length state (state.copyChunk length chunk rest)
  | cut (closed : state.buffer.closed = true) (idle : state.buffer.current = [])
      (empty : state.buffer.inbound = []) :
      Polled length state
        (some (state.terminalFailure.elim (.ok []) .error), state.reachEof)
  | unready {result : ReadResult} (nothing : ∀ bytes, result ≠ some (.ok bytes)) :
      Polled length state (result, state)
  | ended (idle : state.buffer.current = []) (empty : state.buffer.inbound = [])
      (isOver : state.terminal = some .closed ∨ state.remoteFin = true) :
      Polled length state (some (.ok []), state.reachEof)

theorem polled_drain (wanted : 0 < length) (idle : state.buffer.current = [])
    (isOver : state.terminal = some .closed ∨ state.remoteFin = true) :
    Polled length state (state.drain length) := by
  unfold drain
  split
  next chunk rest queued => exact .loaded wanted idle queued
  next empty => exact .ended idle empty isOver

theorem advance_append (state : PipeState) (first second : List TaskStep) :
    state.advance (first ++ second) = (state.advance first).advance second :=
  List.foldl_append

/-- The FIN flags are never taken back. -/
theorem remoteFin_apply (step : TaskStep)
    (finished : state.remoteFin = true) : (step.apply state).remoteFin = true := by
  have kept : ∀ terminal, (state.trySetTerminal terminal).remoteFin = true := by
    intro terminal
    unfold trySetTerminal
    split <;> exact finished
  cases step with
  | admitData payload relayRoom =>
    simp only [TaskStep.apply]
    cases state.admitData payload relayRoom with
    | ok => exact finished
    | error error => exact kept (.failed error)
  | sendData =>
    simp only [TaskStep.apply]
    split
    · exact finished
    next chunk pushing =>
      unfold PipeState.sendData
      split
      · unfold orFail fail trySetTerminal
        dsimp only
        split <;> exact finished
      · exact finished
  | remoteFin => rfl
  | localFin | storeData => exact finished
  | closeNormal => exact kept .closed
  | fail error => exact kept (.failed error)

theorem remoteFin_advance (steps : List TaskStep) (finished : state.remoteFin = true) :
    (state.advance steps).remoteFin = true := by
  induction steps generalizing state with
  | nil => exact finished
  | cons step steps ih => exact ih (remoteFin_apply step finished)

theorem polled_pollFlags (wanted : 0 < length) (idle : state.buffer.current = []) (gaps : Gaps) :
    Polled length (state.advance (gaps.upTo (state.passesFlags gaps)))
      (state.pollFlags length gaps) := by
  have checked : state.advance (gaps.upTo 2) =
      (state.advance gaps.beforeTerminal).advance gaps.beforeFin := by
    simp [Gaps.upTo, advance_append]
  have drained : state.advance (gaps.upTo 3) =
      (state.advance (gaps.upTo 2)).advance gaps.beforeReceive := by
    simp [Gaps.upTo, advance_append]
  have still_idle : (state.advance (gaps.upTo 3)).buffer.current = [] :=
    (Undisturbed.advance state _).current.trans idle
  have still_closed : (state.advance gaps.beforeTerminal).terminal = some .closed →
      (state.advance (gaps.upTo 3)).terminal = some .closed := by
    intro closed
    rw [drained, checked]
    exact (Undisturbed.advance _ _).terminal _
      ((Undisturbed.advance _ _).terminal _ closed)
  unfold pollFlags passesFlags
  rcases ending : (state.advance gaps.beforeTerminal).terminal with _ | (_ | error)
  · simp only [ending, ← checked, ← drained, reduceCtorEq, false_or]
    split
    next finished =>
      apply polled_drain wanted still_idle
      rw [drained]
      exact Or.inr (remoteFin_advance gaps.beforeReceive finished)
    next => exact .unready (by simp)
  · simp only [ending, ← checked, ← drained, true_or, if_true]
    exact polled_drain wanted still_idle (Or.inl (still_closed ending))
  · have first : state.advance (gaps.upTo 1) = state.advance gaps.beforeTerminal := by
      simp [Gaps.upTo]
    simp only [ending, first]
    exact .unready (by simp)

/-- Every poll is one of these, after the steps of the gaps it passed. -/
theorem polled_pollRead (state : PipeState) (length : Nat) (budget : Bool) (gaps : Gaps) :
    Polled length
      (state.advance (gaps.upTo (state.passes length budget gaps)))
      (state.pollRead length budget gaps) := by
  unfold pollRead passes
  rcases Nat.eq_zero_or_pos length with rfl | wanted
  · simp only [true_or, if_true]
    exact .nothing rfl
  · rw [if_neg (Nat.ne_of_gt wanted)]
    by_cases held : state.buffer.current = []
    · by_cases told : state.buffer.readEof = true
      · simp only [held, told, ne_eq, not_true_eq_false, or_true, if_true, if_false]
        exact .repeated told held
      · have running : ¬ (length = 0 ∨ state.buffer.current ≠ [] ∨
            state.buffer.readEof = true) := by
          simp [held, told, Nat.ne_of_gt wanted]
        rw [if_neg running, if_neg (not_not.mpr held), if_neg told]
        cases received : state.buffer.pollRecv budget with
        | chunk =>
          exact .loaded wanted held (PipeReadBuffer.inbound_of_chunk received)
        | ended =>
          obtain ⟨closed, empty⟩ := PipeReadBuffer.closed_of_ended received
          exact .cut closed held empty
        | pending => exact polled_pollFlags wanted held gaps
    · simp only [ne_eq, held, not_false_eq_true, true_or, or_true, if_true]
      exact .copied wanted held

end PipeState

/-! ## Tasks of a Pipe -/

/-- The side that ended a Pipe first. -/
inductive Side where
  | remote
  | own
  deriving DecidableEq, Repr

/-- The steps of the session loop for one Pipe (an arriving DATA, the slot and the
storing of its chunk, FIN, the close after both FINs, CLOSE, a RESET or the end of
the session, the removal of the table entry) and of the handle (half-close, close,
reset). -/
inductive StreamStep where
  | data (payload : Bytes) (relayRoom : Nat)
  | send
  | store
  | fin
  | finish
  | close
  | lose (error : Error)
  | detach
  | shutdown
  | closeOwn
  | reset (error : Error)
  deriving DecidableEq, Repr

namespace StreamStep

/-- What the step does to the shared state. -/
def task : StreamStep → Option TaskStep
  | .data payload relayRoom => some (.admitData payload relayRoom)
  | .send => some .sendData
  | .store => some .storeData
  | .fin => some .remoteFin
  | .finish | .close | .closeOwn => some .closeNormal
  | .lose error | .reset error => some (.fail error)
  | .detach => none
  | .shutdown => some .localFin

def payload : StreamStep → Bytes
  | .data payload _ => payload
  | _ => []

/-- The side whose end of the Pipe the step is. -/
def ending : StreamStep → Option Side
  | .fin | .close => some .remote
  | .closeOwn | .reset _ => some .own
  | _ => none

/-- Whether the entry of the Pipe stays in the table: the loop removes it with the
Pipe's end and when its DATA is not taken. -/
def keeps (state : PipeState) : StreamStep → Bool
  | .data payload relayRoom => (state.admitData payload relayRoom).isOk
  | .send =>
      match state.pushing with
      | none => true
      | some chunk => ({ state with pushing := none }.sendData chunk).isOk
  | .close | .lose _ | .detach => false
  | .store | .fin | .finish | .shutdown | .closeOwn | .reset _ => true

end StreamStep

/-- A Pipe with its entry in the table of the session loop, the bytes received for
it, those of them received before either side ended it, and the bytes its reads
have returned.  `torn` once the queue has been emptied while a chunk held a slot. -/
structure Stream where
  state : PipeState
  attached : Bool
  received : Bytes
  content : Bytes
  returned : Bytes
  ended : Option Side
  torn : Bool
  deriving DecidableEq

/-- The steps taken in the gaps of a poll. -/
structure StreamGaps where
  beforeTerminal : List StreamStep
  beforeFin : List StreamStep
  beforeReceive : List StreamStep
  deriving DecidableEq, Repr

namespace StreamGaps

def none : StreamGaps :=
  ⟨[], [], []⟩

/-- The steps of the gaps, as the shared state sees them. -/
def tasks (gaps : StreamGaps) : Gaps :=
  ⟨gaps.beforeTerminal.filterMap StreamStep.task,
    gaps.beforeFin.filterMap StreamStep.task,
    gaps.beforeReceive.filterMap StreamStep.task⟩

/-- The steps in the first gaps of a poll. -/
def upTo (gaps : StreamGaps) (count : Nat) : List StreamStep :=
  ([gaps.beforeTerminal, gaps.beforeFin, gaps.beforeReceive].take count).flatten

theorem filterMap_upTo (gaps : StreamGaps) (count : Nat) :
    (gaps.upTo count).filterMap StreamStep.task = gaps.tasks.upTo count := by
  unfold upTo Gaps.upTo tasks
  rw [List.filterMap_flatten, List.map_take]
  rfl

end StreamGaps

/-- The bytes a poll returned. -/
def ReadResult.bytes : ReadResult → Bytes
  | some (.ok bytes) => bytes
  | some (.error _) => []
  | none => []

/-- What can happen to a Pipe. -/
inductive StreamEvent where
  | task (step : StreamStep)
  | discard
  | read (length : Nat) (budget : Bool) (gaps : StreamGaps)
  deriving DecidableEq, Repr

namespace Stream

/-- A fresh Pipe. -/
def opened (limits : PipeLimits) : Stream :=
  ⟨PipeState.pair limits, true, [], [], [], none, false⟩

/-- A step of a task. -/
def take (stream : Stream) (step : StreamStep) : Stream :=
  { state := step.task.elim stream.state fun task => task.apply stream.state
    attached := stream.attached && step.keeps stream.state
    received := stream.received ++ step.payload
    content := if stream.ended.isNone then stream.content ++ step.payload
      else stream.content
    returned := stream.returned
    ended := stream.ended.or step.ending
    torn := stream.torn }

def advance (stream : Stream) (steps : List StreamStep) : Stream :=
  steps.foldl take stream

/-- The steps that other tasks take during a poll. -/
def passed (stream : Stream) (length : Nat) (budget : Bool) (gaps : StreamGaps) :
    List StreamStep :=
  gaps.upTo (stream.state.passes length budget gaps.tasks)

def pollRead (stream : Stream) (length : Nat) (budget : Bool) (gaps : StreamGaps) :
    ReadResult × PipeState :=
  stream.state.pollRead length budget gaps.tasks

def apply (stream : Stream) : StreamEvent → Stream
  | .task step => stream.take step
  | .discard =>
      { stream with
        state := stream.state.apply .discard
        torn := stream.torn || stream.state.buffer.permitted.isSome }
  | .read length budget gaps =>
      let others := stream.advance (stream.passed length budget gaps)
      let (result, state) := stream.pollRead length budget gaps
      { others with
        state := state
        returned := others.returned ++ result.bytes }

/-- The session loop handles one frame of the Pipe after the other, and only while
the Pipe is in its table.  It removes the entry of a Pipe that is terminal or has
both FINs. -/
def Ready (stream : Stream) : StreamStep → Prop
  | .data _ _ | .fin | .close | .lose _ =>
      stream.attached = true ∧ stream.state.Settled
  | .send => stream.state.pushing ≠ none
  | .store => stream.state.buffer.permitted ≠ none
  | .finish => stream.state.remoteFin = true ∧ stream.state.localFin = true
  | .detach => stream.state.Settled ∧ (stream.state.terminal ≠ none ∨
      stream.state.remoteFin = true ∧ stream.state.localFin = true)
  | .shutdown | .closeOwn | .reset _ => True

/-- Each step is ready when it is taken. -/
def Orderly (stream : Stream) : List StreamStep → Prop
  | [] => True
  | step :: steps => stream.Ready step ∧ (stream.take step).Orderly steps

def Possible (stream : Stream) : StreamEvent → Prop
  | .task step => stream.Ready step
  | .discard => stream.state.discarding = true
  | .read length budget gaps => stream.Orderly (stream.passed length budget gaps)

def Step (source : Stream) (event : StreamEvent) (target : Stream) : Prop :=
  source.Possible event ∧ target = source.apply event

instance (stream : Stream) : (step : StreamStep) → Decidable (stream.Ready step)
  | .data _ _ | .fin | .close | .lose _ => inferInstanceAs (Decidable (_ ∧ _))
  | .send | .store => inferInstanceAs (Decidable (_ ≠ _))
  | .finish => inferInstanceAs (Decidable (_ ∧ _))
  | .detach => inferInstanceAs (Decidable (_ ∧ (_ ∨ _ ∧ _)))
  | .shutdown | .closeOwn | .reset _ => inferInstanceAs (Decidable True)

instance decidableOrderly : (stream : Stream) → (steps : List StreamStep) →
    Decidable (stream.Orderly steps)
  | _, [] => inferInstanceAs (Decidable True)
  | stream, step :: steps =>
      have := decidableOrderly (stream.take step) steps
      inferInstanceAs (Decidable (_ ∧ _))

instance (stream : Stream) : (event : StreamEvent) → Decidable (stream.Possible event)
  | .task step => inferInstanceAs (Decidable (stream.Ready step))
  | .discard => inferInstanceAs (Decidable (_ = _))
  | .read length budget gaps =>
      inferInstanceAs (Decidable (stream.Orderly (stream.passed length budget gaps)))

theorem state_advance (stream : Stream) (steps : List StreamStep) :
    (stream.advance steps).state = stream.state.advance (steps.filterMap StreamStep.task) := by
  induction steps generalizing stream with
  | nil => rfl
  | cons step steps ih =>
    change ((stream.take step).advance steps).state = _
    rw [ih]
    cases step <;> rfl

/-- A poll at the level of the Pipe ends in the state the other tasks left. -/
theorem polled (stream : Stream) (length : Nat) (budget : Bool) (gaps : StreamGaps) :
    PipeState.Polled length
      (stream.advance (stream.passed length budget gaps)).state
      (stream.pollRead length budget gaps) := by
  rw [state_advance, passed, StreamGaps.filterMap_upTo]
  exact PipeState.polled_pollRead _ _ _ _

end Stream

end RelayGate.Sdk
