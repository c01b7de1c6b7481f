import RelayGate.Sdk.Pipe

/-!
# The outbound lane of a session

The Pipes of a session share one bounded lane of frames, which the session loop
takes from and writes.  A flush sends a marker through the lane and waits for the
loop to answer it.  Each poll of a handle runs in several steps: a reservation,
which is tried twice, the commit of the reserved slot, and the poll of a flush
response; other handles and the loop may act between any two of them.
-/

namespace RelayGate.Sdk

open Library

def Error.withObservation (error : Error) (observation : PeerObservation) : Error :=
  { error with observation := observation }

def Error.maybeObserved (message : String) : Error :=
  ⟨.unavailable, .maybeObserved, .transport, message⟩

/-! ## The lane -/

/-- A frame of one handle, or the marker of a flush. -/
inductive OutboundItem (ι φ : Type) where
  | frame (owner : ι) (frame : φ)
  | flush (marker : Nat)
  deriving DecidableEq, Repr

inductive TrySendError where
  | closed
  | full
  deriving DecidableEq, Repr

inductive FrameCommit where
  | sent
  | skipped
  deriving DecidableEq, Repr

/-- A bounded queue with the slots that are reserved and not yet used.  A slot
reserved before the queue was closed may still be used afterwards. -/
structure Lane (ι φ : Type) where
  capacity : Nat
  queue : List (OutboundItem ι φ)
  permits : Nat
  closed : Bool
  deriving DecidableEq, Repr

namespace Lane

variable {ι φ : Type}

def tryReserve (lane : Lane ι φ) : Except TrySendError (Lane ι φ) :=
  if lane.closed then
    .error .closed
  else if lane.queue.length + lane.permits < lane.capacity then
    .ok { lane with permits := lane.permits + 1 }
  else
    .error .full

/-- Give a reserved slot back. -/
def release (lane : Lane ι φ) : Lane ι φ :=
  { lane with permits := lane.permits - 1 }

/-- Use a reserved slot. -/
def push (lane : Lane ι φ) (item : OutboundItem ι φ) : Lane ι φ :=
  { lane with permits := lane.permits - 1, queue := lane.queue ++ [item] }

def close (lane : Lane ι φ) : Lane ι φ :=
  { lane with closed := true }

end Lane

/-- The answer to a flush: none yet, a result, or the marker was dropped. -/
inductive Reply where
  | waiting
  | sent (result : Except Error Unit)
  | dropped
  deriving DecidableEq

/-! ## Handles -/

/-- What a handle enqueues. -/
inductive Job where
  | send
  | flush
  deriving DecidableEq, Repr

/-- Where a poll of a handle stands: not polled, before its first or second
reservation, with a reserved slot, before the poll of the flush response. -/
inductive Point where
  | rest
  | reserve (job : Job) (retry : Bool)
  | commit (job : Job)
  | response
  deriving DecidableEq, Repr

/-- The part of the lane that belongs to one handle. -/
structure SessionOutbound where
  dirty : Bool
  flushing : Option Nat
  point : Point
  deriving DecidableEq, Repr

namespace SessionOutbound

def fresh : SessionOutbound :=
  ⟨false, none, .rest⟩

def atPoint (handle : SessionOutbound) (point : Point) : SessionOutbound :=
  { handle with point := point }

end SessionOutbound

/-- What a poll returns. -/
inductive PollResult where
  | pending
  | committed (commit : FrameCommit)
  | refused
  | flushed (result : Except Error Unit)
  deriving DecidableEq

/-- The lane with its handles, the answers to its markers, the item the session
loop is writing and whether the loop has ended.  The frames accepted from the
handles and those the loop has written are recorded. -/
structure Outbound (ι φ : Type) where
  lane : Lane ι φ
  failure : Option Error
  replies : Nat → Reply
  markers : Nat
  writing : Option (OutboundItem ι φ)
  stopped : Bool
  handles : ι → SessionOutbound
  accepted : List (ι × φ)
  consumed : List (ι × φ)

namespace Outbound

variable {ι φ : Type} [DecidableEq ι]

def sessionOutboundChannel (capacity : Nat) : Outbound ι φ where
  lane := ⟨capacity, [], 0, false⟩
  failure := none
  replies _ := .waiting
  markers := 0
  writing := none
  stopped := false
  handles _ := .fresh
  accepted := []
  consumed := []

def setHandle (world : Outbound ι φ) (handle : ι) (value : SessionOutbound) :
    Outbound ι φ :=
  { world with handles := Function.update world.handles handle value }

def moveTo (world : Outbound ι φ) (handle : ι) (point : Point) : Outbound ι φ :=
  world.setHandle handle ((world.handles handle).atPoint point)

def failureError (world : Outbound ι φ) (fallbackMessage : String) : Error :=
  (world.failure.getD (Error.maybeObserved fallbackMessage)).withObservation
    .maybeObserved

def flushError (world : Outbound ι φ) : Error :=
  world.failureError "RelaySession ended before Pipe flush completed"

/-! ### Polls -/

/-- What a poll returns when the lane is closed. -/
def refusal (world : Outbound ι φ) : Job → PollResult
  | .send => .refused
  | .flush => .flushed (.error world.flushError)

/-- The start of `poll_send`. -/
def pollSend (world : Outbound ι φ) (handle : ι) :
    Outbound ι φ × Option PollResult :=
  (world.moveTo handle (.reserve .send false), none)

/-- The start of `poll_flush` of a Pipe, with the failure that has ended it. -/
def pollFlush (world : Outbound ι φ) (handle : ι) (failure : Option Error) :
    Outbound ι φ × Option PollResult :=
  match failure with
  | some error => (world, some (.flushed (.error error)))
  | none =>
      if (world.handles handle).dirty = false then
        (world, some (.flushed (.ok ())))
      else if (world.handles handle).flushing.isNone then
        (world.moveTo handle (.reserve .flush false), none)
      else
        (world.moveTo handle .response, none)

/-- A reservation of `poll_enqueue`, its second one if `retry` is set. -/
def tryReserve (world : Outbound ι φ) (handle : ι) (job : Job) (retry : Bool) :
    Outbound ι φ × Option PollResult :=
  match world.lane.tryReserve with
  | .ok lane => ({ world with lane := lane }.moveTo handle (.commit job), none)
  | .error .closed => (world.moveTo handle .rest, some (world.refusal job))
  | .error .full =>
      if retry then (world.moveTo handle .rest, some .pending)
      else (world.moveTo handle (.reserve job true), none)

def pollEnqueue (world : Outbound ι φ) (handle : ι) :
    Outbound ι φ × Option PollResult :=
  match (world.handles handle).point with
  | .reserve job retry => world.tryReserve handle job retry
  | _ => (world, none)

/-- The commit of a frame, or of none when the Pipe has none to send any more.  A
frame that is sent must be covered by a later marker. -/
def commitFrame (world : Outbound ι φ) (handle : ι) :
    Option φ → Outbound ι φ × Option PollResult
  | none =>
      ({ world with lane := world.lane.release }.moveTo handle .rest,
        some (.committed .skipped))
  | some frame =>
      ({ world with
          lane := world.lane.push (.frame handle frame)
          accepted := world.accepted ++ [(handle, frame)] }.setHandle handle
        ⟨true, none, .rest⟩, some (.committed .sent))

/-- The commit of a fresh marker. -/
def commitFlush (world : Outbound ι φ) (handle : ι) :
    Outbound ι φ × Option PollResult :=
  ({ world with
      lane := world.lane.push (.flush world.markers)
      markers := world.markers + 1 }.setHandle handle
    ⟨(world.handles handle).dirty, some world.markers, .response⟩, none)

/-- The end of a flush that was answered. -/
def finishFlush (world : Outbound ι φ) (handle : ι) (result : Except Error Unit) :
    Outbound ι φ × Option PollResult :=
  (world.setHandle handle
    ⟨(world.handles handle).dirty && !result.isOk, none, .rest⟩,
    some (.flushed result))

/-- The poll of the flush response. -/
def pollResponse (world : Outbound ι φ) (handle : ι) :
    Outbound ι φ × Option PollResult :=
  match (world.handles handle).flushing with
  | none => (world.moveTo handle .rest, some (.flushed (.error world.flushError)))
  | some marker =>
      match world.replies marker with
      | .waiting => (world.moveTo handle .rest, some .pending)
      | .sent result => world.finishFlush handle result
      | .dropped => world.finishFlush handle (.error world.flushError)

/-! ### The session loop -/

def reply (world : Outbound ι φ) (marker : Nat) (reply : Reply) : Outbound ι φ :=
  { world with replies := Function.update world.replies marker reply }

/-- Take an item from the lane. -/
def recvItem (world : Outbound ι φ) : Outbound ι φ :=
  match world.lane.queue with
  | [] => world
  | item :: rest =>
      { world with lane := { world.lane with queue := rest }, writing := some item }

/-- The item that was taken is done: its frame is written, or its marker
answered. -/
def finishItem (world : Outbound ι φ) : Outbound ι φ :=
  match world.writing with
  | none => world
  | some (.frame owner frame) =>
      { world with writing := none, consumed := world.consumed ++ [(owner, frame)] }
  | some (.flush marker) =>
      { world with writing := none }.reply marker (.sent (.ok ()))

/-- The loop ends, at the latest with the item it could not write. -/
def stop (world : Outbound ι φ) : Outbound ι φ :=
  { world with writing := none, stopped := true }

/-- The failure that `fail` reports, and the close of the lane. -/
def fail (world : Outbound ι φ) (failure : Error) : Outbound ι φ :=
  { world with
    lane := world.lane.close
    failure := some (failure.withObservation .maybeObserved) }

/-- One turn of the loop by which `fail` empties the lane. -/
def drain (world : Outbound ι φ) : Outbound ι φ :=
  match world.lane.queue with
  | [] => world
  | .frame _ _ :: rest => { world with lane := { world.lane with queue := rest } }
  | .flush marker :: rest =>
      { world with lane := { world.lane with queue := rest } }.reply marker
        (.sent (.error world.flushError))

/-- The receiver goes away with everything it holds. -/
def dropReceiver (world : Outbound ι φ) : Outbound ι φ :=
  { world with
    lane := { world.lane.close with queue := [] }
    replies := fun marker =>
      if world.lane.queue.any fun item =>
          match item with
          | .frame _ _ => false
          | .flush dropped => dropped == marker
      then .dropped else world.replies marker }

end Outbound

/-! ## Runs -/

/-- What can happen on a lane. -/
inductive OutboundEvent (ι φ : Type) where
  | send (handle : ι)
  | flush (handle : ι) (failure : Option Error)
  | reserve (handle : ι)
  | commit (handle : ι) (frame : Option φ)
  | mark (handle : ι)
  | response (handle : ι)
  | receive
  | finish
  | stop
  | fail (failure : Error)
  | drain
  | dropReceiver
  deriving DecidableEq

/-- The handle that is polled. -/
def OutboundEvent.handle? {ι φ : Type} : OutboundEvent ι φ → Option ι
  | .send handle | .flush handle _ | .reserve handle | .commit handle _
  | .mark handle | .response handle => some handle
  | .receive | .finish | .stop | .fail _ | .drain | .dropReceiver => none

namespace Outbound

variable {ι φ : Type} [DecidableEq ι]

def run (world : Outbound ι φ) :
    OutboundEvent ι φ → Outbound ι φ × Option PollResult
  | .send handle => world.pollSend handle
  | .flush handle failure => world.pollFlush handle failure
  | .reserve handle => world.pollEnqueue handle
  | .commit handle frame => world.commitFrame handle frame
  | .mark handle => world.commitFlush handle
  | .response handle => world.pollResponse handle
  | .receive => (world.recvItem, none)
  | .finish => (world.finishItem, none)
  | .stop => (world.stop, none)
  | .fail failure => (world.fail failure, none)
  | .drain => (world.drain, none)
  | .dropReceiver => (world.dropReceiver, none)

def apply (world : Outbound ι φ) (event : OutboundEvent ι φ) : Outbound ι φ :=
  (world.run event).1

def answer (world : Outbound ι φ) (event : OutboundEvent ι φ) : Option PollResult :=
  (world.run event).2

/-- A handle is polled by one task at a time and each poll runs to its end; the
loop takes one item after the other until it ends. -/
def Possible (world : Outbound ι φ) : OutboundEvent ι φ → Prop
  | .send handle | .flush handle _ => (world.handles handle).point = .rest
  | .reserve handle =>
      (world.handles handle).point = .reserve .send false ∨
        (world.handles handle).point = .reserve .send true ∨
        (world.handles handle).point = .reserve .flush false ∨
        (world.handles handle).point = .reserve .flush true
  | .commit handle _ => (world.handles handle).point = .commit .send
  | .mark handle => (world.handles handle).point = .commit .flush
  | .response handle => (world.handles handle).point = .response
  | .receive => world.stopped = false ∧ world.writing.isNone ∧ world.lane.queue ≠ []
  | .finish => world.stopped = false ∧ world.writing.isSome
  | .stop => world.stopped = false
  | .fail _ | .dropReceiver => world.stopped = true
  | .drain => world.stopped = true ∧ world.failure.isSome

instance (world : Outbound ι φ) : (event : OutboundEvent ι φ) →
    Decidable (world.Possible event)
  | .send _ | .flush _ _ | .commit _ _ | .mark _ | .response _ | .stop
  | .fail _ | .dropReceiver => inferInstanceAs (Decidable (_ = _))
  | .reserve _ => inferInstanceAs (Decidable (_ ∨ _ ∨ _ ∨ _))
  | .receive =>
      have : Decidable (world.lane.queue ≠ []) := inferInstanceAs (Decidable (¬ _))
      inferInstanceAs (Decidable (_ ∧ _ ∧ _))
  | .finish | .drain => inferInstanceAs (Decidable (_ ∧ _))

def Step (source : Outbound ι φ) (event : OutboundEvent ι φ)
    (target : Outbound ι φ) : Prop :=
  source.Possible event ∧ target = source.apply event

end Outbound

end RelayGate.Sdk
