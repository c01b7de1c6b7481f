import RelayGate.Sdk.Outbound

/-!
# The writing side of a Pipe

The handle of a Pipe writes, half-closes, closes and resets through the outbound
lane of its session.  Dropping it enqueues the Pipe on a second lane.  The session
loop polls its lanes in a fixed order: the lane of abandoned Pipes is looked at
last, after the outbound lane was found empty, and other tasks may act between the
two looks.
-/

namespace RelayGate.Sdk

open Library

/-- The largest payload of one DATA frame. -/
def dataChunkLen : Nat := 64 * 1024

/-- The longest message of a RESET. -/
def maxResetMessageLen : Nat := 65535

/-- The frames of one Pipe. -/
inductive PipeFrame where
  | data (payload : Bytes)
  | fin
  | close
  | reset (code : ErrorCode) (message : String)
  deriving DecidableEq, Repr

namespace PipeState

def writeClosed : Error :=
  Error.new .failedPrecondition .notObserved "Pipe write direction is closed"

def writeError (state : PipeState) : Option Error :=
  match state.terminal with
  | some (.failed error) => some error
  | some .closed => some writeClosed
  | none => if state.localFin then some writeClosed else none

/-- Both directions are FIN-closed. -/
def isProtocolFinished (state : PipeState) : Bool :=
  state.localFin && state.remoteFin

end PipeState

/-- What the application asks the handle to send. -/
inductive Request where
  | write (payload : Bytes)
  | shutdown
  | close
  | reset (code : ErrorCode) (message : String)
  deriving DecidableEq, Repr

/-- Where a poll of the handle stands: none runs, `poll_send` runs, its frame is
chosen, a FIN was sent, `poll_flush` is next, `poll_flush` runs. -/
inductive Call where
  | idle
  | send (request : Request)
  | chosen (request : Request) (frame : Option PipeFrame)
  | sentFin
  | flush
  | flushing
  deriving DecidableEq, Repr

namespace Request

/-- The check before `poll_send`: `some` when the poll goes on, with what it does
next. -/
def start (state : PipeState) (request : Request) : Option Call :=
  match request with
  | .write payload =>
      if state.writeError.isSome ∨ payload = [] then none else some (.send request)
  | .shutdown =>
      if state.terminalFailure.isSome then none
      else if state.terminal.isSome ∨ state.localFin then some .flush
      else some (.send request)
  | .close => if state.terminal.isSome then none else some (.send request)
  | .reset _ message =>
      if state.terminal.isSome then none
      else if maxResetMessageLen < message.utf8ByteSize then none
      else some (.send request)

/-- The frame that `poll_send` commits, and the flags set when it is made. -/
def makeFrame (state : PipeState) (request : Request) :
    PipeState × Option PipeFrame :=
  match request with
  | .write payload =>
      (state, if state.writeError.isNone then
        some (.data (payload.take dataChunkLen)) else none)
  | .shutdown =>
      if state.terminal.isSome then (state, none)
      else ({ state with localFin := true },
        if state.localFin then none else some .fin)
  | .close =>
      (state.closeNormal, if state.terminal.isNone then some .close else none)
  | .reset code message =>
      (state.fail (Error.new code .observed message),
        if state.terminal.isNone then some (.reset code message) else none)

/-- What follows when the lane was full: a half-close that another call has done in
the meantime waits for its flush. -/
def afterPending (state : PipeState) (request : Request) : Call :=
  match request with
  | .shutdown =>
      if state.terminalFailure.isNone ∧ (state.terminal.isSome ∨ state.localFin)
      then .flush else .idle
  | .write _ | .close | .reset _ _ => .idle

/-- What follows the commit. -/
def afterCommit (request : Request) (frame : Option PipeFrame) : Call :=
  match request, frame with
  | .shutdown, some _ => .sentFin
  | .shutdown, none => .flush
  | _, _ => .idle

end Request

/-- The payload of a DATA frame. -/
def PipeFrame.payload : PipeFrame → Bytes
  | .data payload => payload
  | .fin | .close | .reset _ _ => []

/-- A Pipe between its handle and the session loop.  `abandoned` says that the
Pipe is on the lane of abandoned Pipes, `attached` that it is in the table of the
loop, `looked` that the loop has found the outbound lane empty and goes on to the
lane of abandoned Pipes, `removes` that the table entry goes with the frame being
written.  The bytes reported as written and the frames written are recorded. -/
structure Writer (ι : Type) where
  outbound : Outbound ι PipeFrame
  state : PipeState
  call : Call
  dropped : Bool
  abandoned : Bool
  attached : Bool
  looked : Bool
  removes : Bool
  reported : Bytes
  written : List PipeFrame

/-- What can happen: the polls of the handle in their steps, its drop, steps of the
other handles and of the loop on the outbound lane, the handling of a remote FIN,
and the look at the two lanes. -/
inductive WriterEvent (ι : Type) where
  | poll (request : Request)
  | pollFlush
  | reserve
  | choose
  | commit
  | afterFin
  | flush
  | mark
  | response
  | drop
  | lane (event : OutboundEvent ι PipeFrame)
  | remoteFin
  | closeFinished
  | detach
  | look
  | abandon (sent : Bool)
  | wake
  deriving DecidableEq

namespace Writer

variable {ι : Type} [DecidableEq ι] (own : ι)

def opened (capacity : Nat) (limits : PipeLimits) : Writer ι where
  outbound := .sessionOutboundChannel capacity
  state := PipeState.pair limits
  call := .idle
  dropped := false
  abandoned := false
  attached := true
  looked := false
  removes := false
  reported := []
  written := []

/-- A step of the outbound lane. -/
def onLane (world : Writer ι) (event : OutboundEvent ι PipeFrame) : Writer ι :=
  { world with outbound := world.outbound.apply event }

/-- Whether the poll of the handle on the lane has returned. -/
def returned (world : Writer ι) : Bool :=
  (world.outbound.handles own).point = .rest

/-- The call after a step of `poll_enqueue`. -/
def afterReserve (world : Writer ι) : Call :=
  match world.call with
  | .send request =>
      if world.returned own then request.afterPending world.state else .send request
  | .flushing => if world.returned own then .idle else .flushing
  | call => call

/-- `on_outbound` looks before it writes whether the frame ends the Pipe. -/
def endsPipe (world : Writer ι) : OutboundItem ι PipeFrame → Bool
  | .frame owner frame =>
      decide (owner = own) &&
        match frame with
        | .close | .reset _ _ => true
        | .fin => world.attached && world.state.isProtocolFinished
        | .data _ => false
  | .flush _ => false

/-- The frame of this Pipe that the loop is writing. -/
def frameWritten (world : Writer ι) : Option PipeFrame :=
  match world.outbound.writing with
  | some (.frame owner frame) => if owner = own then some frame else none
  | some (.flush _) => none
  | none => none

/-- A step of another handle or of the loop on the lane. -/
def stepLane (world : Writer ι) (event : OutboundEvent ι PipeFrame) : Writer ι :=
  let next := world.onLane event
  match event with
  | .receive =>
      { next with removes := (world.outbound.lane.queue.head?.map
          (world.endsPipe own)).getD false }
  | .finish =>
      { next with
        attached := next.attached && !world.removes
        removes := false
        written := next.written ++ (world.frameWritten own).toList }
  | _ => next

def apply (world : Writer ι) : WriterEvent ι → Writer ι
  | .poll request =>
      match request.start world.state with
      | none => world
      | some (.send request) =>
          { world.onLane (.send own) with call := .send request }
      | some call => { world with call := call }
  | .pollFlush => { world with call := .flush }
  | .reserve =>
      let next := world.onLane (.reserve own)
      { next with call := next.afterReserve own }
  | .choose =>
      match world.call with
      | .send request =>
          { world with
            state := (request.makeFrame world.state).1
            call := .chosen request (request.makeFrame world.state).2 }
      | _ => world
  | .commit =>
      match world.call with
      | .chosen request frame =>
          { world.onLane (.commit own frame) with
            call := request.afterCommit frame
            reported := world.reported ++ (frame.map PipeFrame.payload).getD [] }
      | _ => world
  | .afterFin =>
      { world with
        state := if world.state.remoteFin then world.state.closeNormal else world.state
        call := .flush }
  | .flush =>
      let next := world.onLane (.flush own world.state.terminalFailure)
      { next with call := if next.returned own then .idle else .flushing }
  | .mark => world.onLane (.mark own)
  | .response => { world.onLane (.response own) with call := .idle }
  | .drop =>
      { world with
        state := world.state.closeNormal
        dropped := true
        abandoned := world.state.terminal.isNone }
  | .lane event => world.stepLane own event
  | .remoteFin => { world with state := { world.state with remoteFin := true } }
  | .closeFinished => { world with state := world.state.closeNormal }
  | .detach => { world with attached := false }
  | .look => { world with looked := true }
  | .abandon sent =>
      let taken := { world with abandoned := false, attached := false, looked := false }
      if world.attached then
        if sent then { taken with written := world.written ++ [.close] }
        else taken.onLane .stop
      else taken
  | .wake => { world with looked := false }

/-- The loop runs and is between two items. -/
def Idle (world : Writer ι) : Prop :=
  world.outbound.stopped = false ∧ world.outbound.writing = none

/-- The handle exists and no poll of it runs. -/
def AtRest (world : Writer ι) : Prop :=
  world.dropped = false ∧ world.call = .idle ∧ world.outbound.Possible (.send own)

def Possible (world : Writer ι) : WriterEvent ι → Prop
  | .poll _ | .pollFlush | .drop => world.AtRest own
  | .reserve => world.call ≠ .idle ∧ world.outbound.Possible (.reserve own)
  | .choose => (world.call matches .send _) ∧
      world.outbound.Possible (.commit own none)
  | .commit => (world.call matches .chosen _ _) ∧
      world.outbound.Possible (.commit own none)
  | .afterFin => world.call = .sentFin
  | .flush => world.call = .flush ∧ world.outbound.Possible (.flush own none)
  | .mark => world.call = .flushing ∧ world.outbound.Possible (.mark own)
  | .response => world.call = .flushing ∧ world.outbound.Possible (.response own)
  | .lane event => event.handle? ≠ some own ∧ world.outbound.Possible event ∧
      (event = .receive → world.looked = false)
  | .remoteFin => world.Idle ∧ world.looked = false ∧ world.attached = true
  | .closeFinished | .detach => world.Idle ∧ world.looked = false ∧
      world.state.isProtocolFinished = true
  | .look => world.Idle ∧ world.looked = false ∧ world.outbound.lane.queue = []
  | .abandon _ => world.Idle ∧ world.looked = true ∧ world.abandoned = true
  | .wake => world.looked = true

instance (world : Writer ι) : Decidable world.Idle :=
  inferInstanceAs (Decidable (_ ∧ _))

instance (world : Writer ι) : Decidable (world.AtRest own) :=
  inferInstanceAs (Decidable (_ ∧ _ ∧ _))

instance (world : Writer ι) : (event : WriterEvent ι) →
    Decidable (world.Possible own event)
  | .poll _ | .pollFlush | .drop => inferInstanceAs (Decidable (world.AtRest own))
  | .reserve => inferInstanceAs (Decidable (_ ≠ _ ∧ _))
  | .choose | .commit | .flush | .mark | .response =>
      inferInstanceAs (Decidable (_ ∧ _))
  | .afterFin | .wake => inferInstanceAs (Decidable (_ = _))
  | .lane _ => inferInstanceAs (Decidable (_ ≠ _ ∧ _ ∧ (_ → _)))
  | .remoteFin | .closeFinished | .detach | .look | .abandon _ =>
      inferInstanceAs (Decidable (_ ∧ _ ∧ _))

def Step (source : Writer ι) (event : WriterEvent ι) (target : Writer ι) : Prop :=
  source.Possible own event ∧ target = source.apply own event

end Writer

end RelayGate.Sdk
