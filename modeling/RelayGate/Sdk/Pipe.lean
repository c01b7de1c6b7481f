import RelayGate.Library.ByteCodec
import RelayGate.Library.Execution
import RelayGate.Protocol.Frame

/-!
# The SDK Pipe

The receiving side of one Pipe in the SDK: the session loop pushes DATA into a
bounded queue and sets the end-of-stream flags, the application polls the queue.
`poll_read` holds the lock of the read buffer but not of the flags, so other
tasks may change the flags and push further DATA at three moments of a poll.
-/

namespace RelayGate.Sdk

open Library

/-! ## Errors -/

/-- The boundary at which the SDK observed a failure. -/
inductive ErrorOrigin where
  | sdk
  | tokenSource
  | transport
  | gateway
  deriving DecidableEq, Repr

/-- A terminal error of an SDK operation. -/
structure Error where
  code : ErrorCode
  observation : PeerObservation
  origin : ErrorOrigin
  message : String
  deriving DecidableEq, Repr

def Error.new (code : ErrorCode) (observation : PeerObservation)
    (message : String) : Error :=
  ⟨code, observation, .sdk, message⟩

/-- The limits a received DATA frame can exhaust. -/
inductive ResourceLimitKind where
  | pipeBufferedFrames
  | pipeBufferedBytes
  | relayBufferedBytes
  deriving DecidableEq, Repr

def ResourceLimitKind.message : ResourceLimitKind → String
  | .pipeBufferedFrames => "Pipe buffered frame limit is exhausted"
  | .pipeBufferedBytes => "Pipe buffered byte limit is exhausted"
  | .relayBufferedBytes => "Relay buffered byte limit is exhausted"

def resourceExhausted (kind : ResourceLimitKind) (observation : PeerObservation) :
    Error :=
  Error.new .resourceExhausted observation kind.message

/-! ## The read buffer -/

/-- A queued payload.  Empty payloads are never queued. -/
structure BufferedChunk where
  payload : Bytes
  nonempty : payload ≠ []
  deriving DecidableEq

/-- The queue, and what the lock of the reader protects: its receiving end, the
chunk being read with the bytes reserved for it, and whether the end of the
stream has been reached.  `permitted` is a chunk that has taken its slot in the
queue and is not yet in it. -/
structure PipeReadBuffer where
  inbound : List BufferedChunk
  permitted : Option BufferedChunk
  closed : Bool
  current : Bytes
  currentBytes : Option Nat
  readEof : Bool
  deriving DecidableEq

namespace PipeReadBuffer

/-- `try_send` then stores the chunk in its slot, also in a queue that has been
closed in between. -/
def store (buffer : PipeReadBuffer) : PipeReadBuffer :=
  { buffer with
    inbound := buffer.inbound ++ buffer.permitted.toList
    permitted := none }

def empty : PipeReadBuffer :=
  ⟨[], none, false, [], none, false⟩

/-- The frame permits in use: one for each queued chunk and one for the chunk
being read. -/
def usedFrames (buffer : PipeReadBuffer) : Nat :=
  buffer.inbound.length + (if buffer.currentBytes.isSome then 1 else 0)

/-- The bytes reserved in the budget of the Pipe. -/
def usedBytes (buffer : PipeReadBuffer) : Nat :=
  (buffer.inbound.map fun chunk => chunk.payload.length).sum +
    buffer.currentBytes.getD 0

/-- Close the queue and drop everything in it that has not been read. -/
def discard (buffer : PipeReadBuffer) : PipeReadBuffer :=
  { buffer with inbound := [], closed := true, current := [], currentBytes := none }

/-- Make a chunk, taken from the front of the queue, the one being read. -/
def load (buffer : PipeReadBuffer) (chunk : BufferedChunk)
    (rest : List BufferedChunk) : PipeReadBuffer :=
  { buffer with
    inbound := rest
    current := chunk.payload
    currentBytes := some chunk.payload.length }

/-- Copy as many bytes of the current chunk as the destination takes. -/
def copy (buffer : PipeReadBuffer) (length : Nat) : Bytes × PipeReadBuffer :=
  let count := min length buffer.current.length
  let rest := buffer.current.drop count
  (buffer.current.take count,
    { buffer with
      current := rest
      currentBytes := if rest.isEmpty then none else buffer.currentBytes })

end PipeReadBuffer

/-! ## The state of a Pipe -/

/-- How a Pipe ended. -/
inductive Terminal where
  | closed
  | failed (error : Error)
  deriving DecidableEq, Repr

/-- The bounds on what a Pipe buffers. -/
structure PipeLimits where
  inboundCapacity : Nat
  maxBufferedBytes : Nat
  deriving DecidableEq, Repr

/-- The state shared by the session loop and the halves of the Pipe.  `pushing`
is the chunk `push_data` has admitted and not yet sent; `discarding` says that a
failure has been recorded whose task has not yet emptied the read buffer. -/
structure PipeState where
  limits : PipeLimits
  remoteFin : Bool
  localFin : Bool
  terminal : Option Terminal
  buffer : PipeReadBuffer
  pushing : Option BufferedChunk
  discarding : Bool
  deriving DecidableEq

namespace PipeState

def pair (limits : PipeLimits) : PipeState :=
  ⟨limits, false, false, none, PipeReadBuffer.empty, none, false⟩

/-- The first terminal state is kept. -/
def trySetTerminal (state : PipeState) (terminal : Terminal) : PipeState :=
  match state.terminal with
  | some _ => state
  | none =>
      { state with
        terminal := some terminal
        discarding := terminal matches .failed _ }

def closeNormal (state : PipeState) : PipeState :=
  state.trySetTerminal .closed

def fail (state : PipeState) (error : Error) : PipeState :=
  state.trySetTerminal (.failed error)

def terminalFailure (state : PipeState) : Option Error :=
  match state.terminal with
  | some (.failed error) => some error
  | some .closed => none
  | none => none

/-- The checks `push_data` makes before it sends: the chunk to send, if any.
`relayRoom` is what the other Pipes leave of the byte budget of the Relay. -/
def admitData (state : PipeState) (payload : Bytes) (relayRoom : Nat) :
    Except Error (Option BufferedChunk) :=
  if state.terminal.isSome then
    -- a local terminal frame is already queued; late DATA is discarded
    .ok none
  else if state.remoteFin then
    .error (Error.new .protocolError .observed
      "DATA arrived after the remote direction closed")
  else if nonempty : payload = [] then
    .ok none
  else if state.limits.inboundCapacity ≤ state.buffer.usedFrames then
    .error (resourceExhausted .pipeBufferedFrames .observed)
  else if state.limits.maxBufferedBytes <
      state.buffer.usedBytes + payload.length then
    .error (resourceExhausted .pipeBufferedBytes .observed)
  else if relayRoom < payload.length then
    .error (resourceExhausted .relayBufferedBytes .observed)
  else
    .ok (some ⟨payload, nonempty⟩)

/-- `try_send` first takes a slot for an admitted chunk. -/
def sendData (state : PipeState) (chunk : BufferedChunk) :
    Except Error PipeState :=
  if state.buffer.closed ∨
      state.limits.inboundCapacity ≤ state.buffer.inbound.length then
    .error (resourceExhausted .pipeBufferedFrames .observed)
  else
    .ok { state with
      buffer := { state.buffer with permitted := some chunk } }

/-- No `push_data` is under way. -/
def Settled (state : PipeState) : Prop :=
  state.pushing = none ∧ state.buffer.permitted = none

instance (state : PipeState) : Decidable state.Settled :=
  inferInstanceAs (Decidable (_ ∧ _))

/-- The session loop fails a Pipe that does not take its DATA. -/
def orFail (state : PipeState) (result : Except Error PipeState) : PipeState :=
  match result with
  | .ok after => after
  | .error error => state.fail error

end PipeState

/-! ## Steps of the other tasks -/

/-- Steps of the session loop and of the writing half.  None of them needs the
lock of the read buffer, so they also happen while a read is under way.  A FIN
in the second direction closes the Pipe in a step of its own. -/
inductive TaskStep where
  | admitData (payload : Bytes) (relayRoom : Nat)
  | sendData
  | storeData
  | remoteFin
  | localFin
  | closeNormal
  | fail (error : Error)
  deriving DecidableEq, Repr

def TaskStep.apply (state : PipeState) : TaskStep → PipeState
  | .admitData payload relayRoom =>
      state.orFail do
        let pushing ← state.admitData payload relayRoom
        return { state with pushing := pushing }
  | .sendData =>
      match state.pushing with
      | none => state
      | some chunk =>
          let settled := { state with pushing := none }
          settled.orFail (settled.sendData chunk)
  | .storeData => { state with buffer := state.buffer.store }
  | .remoteFin => { state with remoteFin := true }
  | .localFin => { state with localFin := true }
  | .closeNormal => state.closeNormal
  | .fail error => state.fail error

/-- The steps other tasks take during one poll: before the terminal state is
looked at, before the FIN flag is looked at, and before the queue is tried a
second time. -/
structure Gaps where
  beforeTerminal : List TaskStep
  beforeFin : List TaskStep
  beforeReceive : List TaskStep
  deriving DecidableEq, Repr

def Gaps.none : Gaps :=
  ⟨[], [], []⟩

/-- Other tasks take their steps. -/
def PipeState.advance (state : PipeState) (steps : List TaskStep) : PipeState :=
  steps.foldl TaskStep.apply state

/-! ## Reading -/

/-- What polling the queue yields. -/
inductive Received where
  | chunk (chunk : BufferedChunk) (rest : List BufferedChunk)
  | ended
  | pending

/-- Poll the queue.  A task that has used up its scheduling budget is told to
come back later whatever the queue holds; a closed queue has not ended while a slot
is taken. -/
def PipeReadBuffer.pollRecv (buffer : PipeReadBuffer) (budget : Bool) : Received :=
  match budget, buffer.inbound, buffer.closed && buffer.permitted.isNone with
  | false, _, _ => .pending
  | true, chunk :: rest, _ => .chunk chunk rest
  | true, [], true => .ended
  | true, [], false => .pending

/-- The result of a poll: still pending, an error, or the bytes copied. -/
abbrev ReadResult := Option (Except Error Bytes)

namespace PipeState

/-- Copy from the chunk being read. -/
def copyCurrent (state : PipeState) (length : Nat) : ReadResult × PipeState :=
  (some (.ok (state.buffer.copy length).1),
    { state with buffer := (state.buffer.copy length).2 })

/-- Make a received chunk the current one and copy from it. -/
def copyChunk (state : PipeState) (length : Nat) (chunk : BufferedChunk)
    (rest : List BufferedChunk) : ReadResult × PipeState :=
  { state with buffer := state.buffer.load chunk rest }.copyCurrent length

/-- The reader has reached the end of the stream. -/
def reachEof (state : PipeState) : PipeState :=
  { state with buffer := { state.buffer with readEof := true } }

/-- The second try of the queue, once no more DATA is expected. -/
def drain (state : PipeState) (length : Nat) : ReadResult × PipeState :=
  match state.buffer.inbound with
  | chunk :: rest => state.copyChunk length chunk rest
  | [] => (some (.ok []), state.reachEof)

/-- A poll whose first look at the queue found nothing. -/
def pollFlags (state : PipeState) (length : Nat) (gaps : Gaps) :
    ReadResult × PipeState :=
  let looked := state.advance gaps.beforeTerminal
  match looked.terminal with
  | some (.failed error) => (some (.error error), looked)
  | terminal =>
      let checked := looked.advance gaps.beforeFin
      if terminal = some .closed ∨ checked.remoteFin then
        (checked.advance gaps.beforeReceive).drain length
      else
        (none, checked)

/-- One poll of the reader for a destination of the given length. -/
def pollRead (state : PipeState) (length : Nat) (budget : Bool) (gaps : Gaps) :
    ReadResult × PipeState :=
  if length = 0 then
    (some (.ok []), state)
  else if state.buffer.current ≠ [] then
    state.copyCurrent length
  else if state.buffer.readEof then
    (some (.ok []), state)
  else
    match state.buffer.pollRecv budget with
    | .chunk chunk rest => state.copyChunk length chunk rest
    | .ended =>
        (some (state.terminalFailure.elim (.ok []) .error), state.reachEof)
    | .pending => state.pollFlags length gaps

end PipeState

/-! ## Runs -/

/-- What can happen to a Pipe: a step of another task, the emptying of the read
buffer after a failure, which needs its lock, and a poll of the reader. -/
inductive PipeEvent where
  | task (step : TaskStep)
  | discard
  | read (length : Nat) (budget : Bool) (gaps : Gaps)
  deriving DecidableEq, Repr

namespace PipeState

def Possible (state : PipeState) : PipeEvent → Prop
  | .task _ => True
  | .discard => state.discarding = true
  | .read .. => True

instance (state : PipeState) : (event : PipeEvent) →
    Decidable (state.Possible event)
  | .task _ => inferInstanceAs (Decidable True)
  | .discard => inferInstanceAs (Decidable (_ = true))
  | .read .. => inferInstanceAs (Decidable True)

def apply (state : PipeState) : PipeEvent → PipeState
  | .task step => step.apply state
  | .discard => { state with buffer := state.buffer.discard, discarding := false }
  | .read length budget gaps => (state.pollRead length budget gaps).2

/-- One event of a Pipe. -/
def Step (source : PipeState) (event : PipeEvent) (target : PipeState) : Prop :=
  source.Possible event ∧ target = source.apply event

end PipeState

end RelayGate.Sdk
