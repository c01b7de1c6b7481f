import RelayGate.Sdk.Outbound

/-!
# Dialing over reconnecting sessions

A `dial` call waits for a session, obtains a token and a Pipe slot, takes the
session's lock for its connection id and sends one command; the session loop
writes the DIAL and answers the call.  The steps of any number of calls, of any
number of session loops and of the supervisor that replaces sessions interleave.
-/

namespace RelayGate.Sdk

open Library

/-! ## Errors of a dial -/

namespace Error

def withOrigin (error : Error) (origin : ErrorOrigin) : Error :=
  { error with origin := origin }

def closed : Error :=
  Error.new .cancelled .notObserved "SDK runtime is closed"

def deadline (observation : PeerObservation) : Error :=
  Error.new .deadlineExceeded observation "operation deadline exceeded"

def transportDeadline (message : String) : Error :=
  (Error.new .deadlineExceeded .notObserved message).withOrigin .transport

def connectionIdsExhausted : Error :=
  Error.new .resourceExhausted .notObserved "RelaySession exhausted ConnectionId space"

def relayLivePipesExhausted : Error :=
  Error.new .resourceExhausted .notObserved "Relay live Pipe limit is exhausted"

def connectionIdInFlight : Error :=
  Error.new .alreadyExists .notObserved "ConnectionId is already in flight"

def dialCancelled : Error :=
  Error.new .cancelled .maybeObserved "committed DIAL was cancelled"

def waitingForSession : Error :=
  transportDeadline "DIAL deadline exceeded while waiting for a RelaySession"

def dialResponseDeadline : Error :=
  (transportDeadline "DIAL response deadline exceeded").withObservation .maybeObserved

def endedAfterCommit : Error :=
  maybeObserved "RelaySession ended after DIAL commit"

end Error

/-- The last number, which has no successor and is not used as a connection id. -/
def connectionIdEnd : Nat := 2 ^ 64 - 1

/-- Who made an error: the SDK itself, or the Gateway that reported it. -/
inductive Issuer where
  | sdk
  | gateway
  deriving DecidableEq, Repr

inductive DialResult (σ : Type) where
  | opened (session : σ) (connectionId : Nat)
  | failed (issuer : Issuer) (error : Error)
  deriving DecidableEq

/-- The answer to a command: none yet, a result, or it was dropped unanswered. -/
inductive DialReply (σ : Type) where
  | waiting
  | sent (result : DialResult σ)
  | dropped
  deriving DecidableEq

/-! ## States -/

/-- A DIAL command of a call. -/
structure DialCommand (κ : Type) where
  connectionId : Nat
  call : κ
  deriving DecidableEq, Repr

/-- One session: the lock over its connection ids, the bounded command queue with
the slots reserved in it, the cancellations, the dials that wait for the Gateway
and why the loop has ended.  The connection ids of its OPENED frames are
recorded. -/
structure RelaySession (κ : Type) where
  nextConnectionId : Nat
  lock : Option κ
  commands : List (DialCommand κ)
  permits : Nat
  closed : Bool
  cancellations : List Nat
  pendingDials : List (DialCommand κ)
  failure : Option Error
  opened : List Nat

def RelaySession.fresh {κ : Type} : RelaySession κ :=
  ⟨1, none, [], 0, false, [], [], none, []⟩

/-- Where a call of `dial` stands. -/
inductive Stage (σ : Type) where
  | starting
  | looping
  | supplying (session : σ)
  | reserving (session : σ)
  | locking (session : σ)
  | sending (session : σ) (connectionId : Nat)
  | permitted (session : σ) (connectionId : Nat)
  | waiting
  | awaiting (session : σ) (connectionId : Nat)
  | returned (result : DialResult σ)
  | dropped
  deriving DecidableEq

/-- A call, whether its token has been supplied, and where its command went. -/
structure DialCall (σ : Type) where
  stage : Stage σ
  supplied : Bool
  committed : Option (σ × Nat)
  deriving DecidableEq

/-- A DIAL frame handed to the link of a session. -/
structure DialFrame (σ κ : Type) where
  session : σ
  connectionId : Nat
  call : κ
  deriving DecidableEq, Repr

/-- The Relay with its sessions and calls. -/
structure Relay (σ κ : Type) where
  capacity : Nat
  current : Option σ
  cancelled : Bool
  sessions : σ → RelaySession κ
  calls : κ → DialCall σ
  replies : κ → DialReply σ
  dials : List (DialFrame σ κ)

namespace Relay

variable {σ κ : Type} [DecidableEq σ] [DecidableEq κ]

def connect (capacity : Nat) : Relay σ κ where
  capacity := capacity
  current := none
  cancelled := false
  sessions _ := .fresh
  calls _ := ⟨.starting, false, none⟩
  replies _ := .waiting
  dials := []

def setSession (relay : Relay σ κ) (session : σ) (value : RelaySession κ) :
    Relay σ κ :=
  { relay with sessions := Function.update relay.sessions session value }

def setCall (relay : Relay σ κ) (call : κ) (value : DialCall σ) : Relay σ κ :=
  { relay with calls := Function.update relay.calls call value }

def moveTo (relay : Relay σ κ) (call : κ) (stage : Stage σ) : Relay σ κ :=
  relay.setCall call { relay.calls call with stage := stage }

/-- The call returns an error of the SDK. -/
def giveUp (relay : Relay σ κ) (call : κ) (error : Error) : Relay σ κ :=
  relay.moveTo call (.returned (.failed .sdk error))

def reply (relay : Relay σ κ) (call : κ) (reply : DialReply σ) : Relay σ κ :=
  { relay with replies := Function.update relay.replies call reply }

/-- The lock over the connection ids is released. -/
def unlock (relay : Relay σ κ) (session : σ) : Relay σ κ :=
  relay.setSession session { relay.sessions session with lock := none }

/-! ## The call -/

/-- The top of the loop of `dial_inner`. -/
def look (relay : Relay σ κ) (call : κ) : Relay σ κ :=
  if relay.cancelled then
    relay.giveUp call Error.closed
  else
    match relay.current with
    | none => relay.moveTo call .waiting
    | some session =>
        relay.moveTo call
          (if (relay.calls call).supplied then .reserving session
          else .supplying session)

/-- The token source answers. -/
def supply (relay : Relay σ κ) (call : κ) (session : σ) :
    Option Error → Relay σ κ
  | some error => relay.giveUp call error
  | none =>
      relay.setCall call
        { relay.calls call with stage := .reserving session, supplied := true }

def reserveOutgoing (relay : Relay σ κ) (call : κ) (session : σ) (granted : Bool) :
    Relay σ κ :=
  if granted then relay.moveTo call (.locking session)
  else relay.giveUp call Error.relayLivePipesExhausted

/-- The lock is free: take it with the next connection id, unless there is none. -/
def lockId (relay : Relay σ κ) (call : κ) (session : σ) : Relay σ κ :=
  let value := relay.sessions session
  if value.nextConnectionId < connectionIdEnd then
    (relay.setSession session
      { value with
        nextConnectionId := value.nextConnectionId + 1
        lock := some call }).moveTo call (.sending session value.nextConnectionId)
  else
    relay.giveUp call Error.connectionIdsExhausted

def permit (relay : Relay σ κ) (call : κ) (session : σ) (connectionId : Nat) :
    Relay σ κ :=
  let value := relay.sessions session
  (relay.setSession session { value with permits := value.permits + 1 }).moveTo call
    (.permitted session connectionId)

/-- The command is in the queue; the lock is released. -/
def push (relay : Relay σ κ) (call : κ) (session : σ) (connectionId : Nat) :
    Relay σ κ :=
  let value := relay.sessions session
  (relay.setSession session
    { value with
      permits := value.permits - 1
      commands := value.commands ++ [⟨connectionId, call⟩]
      lock := none }).setCall call
    { relay.calls call with
      stage := .awaiting session connectionId
      committed := some (session, connectionId) }

/-- The queue is closed: wait for another session if this is still the current
one. -/
def refuse (relay : Relay σ κ) (call : κ) (session : σ) : Relay σ κ :=
  (relay.unlock session).moveTo call
    (if relay.current = some session then .waiting else .looping)

/-- The guard of a call that ends without its answer asks for the cancellation of
the dial. -/
def cancelDial (relay : Relay σ κ) (session : σ) (connectionId : Nat) : Relay σ κ :=
  let value := relay.sessions session
  relay.setSession session
    { value with cancellations := value.cancellations ++ [connectionId] }

/-- The deadline of the call has passed. -/
def expire (relay : Relay σ κ) (call : κ) : Stage σ → Relay σ κ
  | .locking _ => relay.giveUp call (Error.deadline .notObserved)
  | .sending session _ =>
      (relay.unlock session).giveUp call (Error.deadline .notObserved)
  | .waiting => relay.giveUp call Error.waitingForSession
  | .awaiting session connectionId =>
      (relay.cancelDial session connectionId).giveUp call Error.dialResponseDeadline
  | .starting | .looping | .supplying _ | .reserving _ | .permitted _ _
  | .returned _ | .dropped => relay

/-- The response is ready. -/
def answer (relay : Relay σ κ) (call : κ) : Relay σ κ :=
  match relay.replies call with
  | .waiting => relay
  | .sent result => relay.moveTo call (.returned result)
  | .dropped => relay.giveUp call Error.endedAfterCommit

/-- The future of the call is dropped at one of its await points. -/
def dropCall (relay : Relay σ κ) (call : κ) : Stage σ → Relay σ κ
  | .supplying _ | .locking _ | .waiting => relay.moveTo call .dropped
  | .sending session _ => (relay.unlock session).moveTo call .dropped
  | .awaiting session connectionId =>
      (relay.cancelDial session connectionId).moveTo call .dropped
  | .starting | .looping | .reserving _ | .permitted _ _ | .returned _ | .dropped =>
      relay

/-! ## The session loop -/

/-- `on_command`: the DIAL is handed to the link, which may fail. -/
def onCommand (relay : Relay σ κ) (session : σ) (written : Except Error Unit) :
    Relay σ κ :=
  let value := relay.sessions session
  match value.commands with
  | [] => relay
  | command :: rest =>
      if value.pendingDials.any fun pending =>
          pending.connectionId = command.connectionId then
        (relay.setSession session { value with commands := rest }).reply command.call
          (.sent (.failed .sdk Error.connectionIdInFlight))
      else
        { relay.setSession session
            { value with
              commands := rest
              pendingDials := value.pendingDials ++ [command]
              failure := match written with
                | .ok () => value.failure
                | .error error => some error } with
          dials := relay.dials ++ [⟨session, command.connectionId, command.call⟩] }

/-- Take the dial of a connection id from the table and answer it. -/
def resolve (relay : Relay σ κ) (session : σ) (connectionId : Nat)
    (answer : DialReply σ) : Relay σ κ :=
  let value := relay.sessions session
  match value.pendingDials.find? fun pending =>
      pending.connectionId = connectionId with
  | none => relay
  | some pending =>
      (relay.setSession session
        { value with pendingDials := value.pendingDials.filter fun other =>
            other.connectionId ≠ connectionId }).reply pending.call answer

/-- `on_opened`.  When the runtime is going away the response is dropped and the loop
ends. -/
def onOpened (relay : Relay σ κ) (session : σ) (connectionId : Nat) (alive : Bool) :
    Relay σ κ :=
  let value := relay.sessions session
  let noted := { value with opened := value.opened ++ [connectionId] }
  if alive then
    (relay.setSession session noted).resolve session connectionId
      (.sent (.opened session connectionId))
  else
    (relay.setSession session { noted with failure := some Error.closed }).resolve
      session connectionId .dropped

/-- `on_dial_failed`, and `on_reset` for a dial that is not open. -/
def onRefused (relay : Relay σ κ) (session : σ) (connectionId : Nat) (error : Error) :
    Relay σ κ :=
  relay.resolve session connectionId (.sent (.failed .gateway error))

def onCancelled (relay : Relay σ κ) (session : σ) : Relay σ κ :=
  let value := relay.sessions session
  match value.cancellations with
  | [] => relay
  | connectionId :: rest =>
      (relay.setSession session { value with cancellations := rest }).resolve session
        connectionId (.sent (.failed .sdk Error.dialCancelled))

/-- The loop ends. -/
def stop (relay : Relay σ κ) (session : σ) (failure : Error) : Relay σ κ :=
  relay.setSession session
    { relay.sessions session with failure := some failure }

def closeCommands (relay : Relay σ κ) (session : σ) : Relay σ κ :=
  relay.setSession session { relay.sessions session with closed := true }

/-- One turn of `fail_queued_dials`. -/
def failQueuedDial (relay : Relay σ κ) (session : σ) (failure : Error) : Relay σ κ :=
  let value := relay.sessions session
  match value.commands with
  | [] => relay
  | command :: rest =>
      (relay.setSession session { value with commands := rest }).reply command.call
        (.sent (.failed .sdk (failure.withObservation .notObserved)))

/-- One turn of `cleanup_relay_session` over the dials that wait. -/
def cleanupDial (relay : Relay σ κ) (session : σ) (connectionId : Nat)
    (failure : Error) : Relay σ κ :=
  relay.resolve session connectionId
    (.sent (.failed .sdk (failure.withObservation .maybeObserved)))

/-- The loop's future goes away with a command it still holds. -/
def dropCommand (relay : Relay σ κ) (session : σ) : Relay σ κ :=
  let value := relay.sessions session
  match value.commands with
  | [] => relay
  | command :: rest =>
      (relay.setSession session { value with commands := rest }).reply command.call
        .dropped

/-- The loop's future goes away with a dial that waits. -/
def dropDial (relay : Relay σ κ) (session : σ) (connectionId : Nat) : Relay σ κ :=
  relay.resolve session connectionId .dropped

end Relay

/-! ## Runs -/

inductive RelayEvent (σ κ : Type) where
  | start (call : κ) (invalid : Option Error)
  | look (call : κ)
  | supply (call : κ) (session : σ) (failure : Option Error)
  | reserveOutgoing (call : κ) (session : σ) (granted : Bool)
  | lock (call : κ) (session : σ)
  | permit (call : κ) (session : σ) (connectionId : Nat)
  | push (call : κ) (session : σ) (connectionId : Nat)
  | refuse (call : κ) (session : σ) (connectionId : Nat)
  | expire (call : κ)
  | answer (call : κ)
  | closing (call : κ)
  | change (call : κ)
  | drop (call : κ)
  | command (session : σ) (written : Except Error Unit)
  | opened (session : σ) (connectionId : Nat) (alive : Bool)
  | refused (session : σ) (connectionId : Nat) (error : Error)
  | cancelled (session : σ)
  | stop (session : σ) (failure : Error)
  | closeCommands (session : σ)
  | failQueuedDial (session : σ)
  | cleanupDial (session : σ) (connectionId : Nat)
  | dropCommand (session : σ)
  | dropDial (session : σ) (connectionId : Nat)
  | setCurrent (session : Option σ)
  | close

namespace Relay

variable {σ κ : Type} [DecidableEq σ] [DecidableEq κ]

def apply (relay : Relay σ κ) : RelayEvent σ κ → Relay σ κ
  | .start call none => relay.moveTo call .looping
  | .start call (some error) => relay.giveUp call error
  | .look call => relay.look call
  | .supply call session failure => relay.supply call session failure
  | .reserveOutgoing call session granted => relay.reserveOutgoing call session granted
  | .lock call session => relay.lockId call session
  | .permit call session connectionId => relay.permit call session connectionId
  | .push call session connectionId => relay.push call session connectionId
  | .refuse call session _ => relay.refuse call session
  | .expire call => relay.expire call (relay.calls call).stage
  | .answer call => relay.answer call
  | .closing call => relay.giveUp call Error.closed
  | .change call => relay.moveTo call .looping
  | .drop call => relay.dropCall call (relay.calls call).stage
  | .command session written => relay.onCommand session written
  | .opened session connectionId alive => relay.onOpened session connectionId alive
  | .refused session connectionId error => relay.onRefused session connectionId error
  | .cancelled session => relay.onCancelled session
  | .stop session failure => relay.stop session failure
  | .closeCommands session => relay.closeCommands session
  | .failQueuedDial session =>
      match (relay.sessions session).failure with
      | none => relay
      | some failure => relay.failQueuedDial session failure
  | .cleanupDial session connectionId =>
      match (relay.sessions session).failure with
      | none => relay
      | some failure => relay.cleanupDial session connectionId failure
  | .dropCommand session => relay.dropCommand session
  | .dropDial session connectionId => relay.dropDial session connectionId
  | .setCurrent session => { relay with current := session }
  | .close => { relay with cancelled := true }

/-- The loop of a session takes commands and frames until it ends. -/
def Running (relay : Relay σ κ) (session : σ) : Prop :=
  (relay.sessions session).failure = none

/-- Each call moves along its own program; a queue that is open and has room gives
out slots; a loop that has ended only cleans up. -/
def Possible (relay : Relay σ κ) : RelayEvent σ κ → Prop
  | .start call _ => (relay.calls call).stage = .starting
  | .look call => (relay.calls call).stage = .looping
  | .supply call session _ => (relay.calls call).stage = .supplying session
  | .reserveOutgoing call session _ => (relay.calls call).stage = .reserving session
  | .lock call session => (relay.calls call).stage = .locking session ∧
      (relay.sessions session).lock = none
  | .permit call session connectionId =>
      (relay.calls call).stage = .sending session connectionId ∧
        (relay.sessions session).closed = false ∧
        (relay.sessions session).commands.length +
          (relay.sessions session).permits < relay.capacity
  | .push call session connectionId =>
      (relay.calls call).stage = .permitted session connectionId
  | .refuse call session connectionId =>
      (relay.calls call).stage = .sending session connectionId ∧
        (relay.sessions session).closed = true
  | .expire call | .drop call =>
      ¬ ((relay.calls call).stage matches .returned _ | .dropped)
  | .answer call => ((relay.calls call).stage matches .awaiting _ _)
  | .closing call | .change call => (relay.calls call).stage = .waiting
  | .command session _ | .opened session _ _ | .refused session _ _
  | .cancelled session | .stop session _ => relay.Running session
  | .closeCommands session | .failQueuedDial session | .cleanupDial session _
  | .dropCommand session | .dropDial session _ => ¬ relay.Running session
  | .setCurrent _ | .close => True

instance (relay : Relay σ κ) (session : σ) : Decidable (relay.Running session) :=
  inferInstanceAs (Decidable (_ = _))

instance (relay : Relay σ κ) : (event : RelayEvent σ κ) →
    Decidable (relay.Possible event)
  | .start _ _ | .look _ | .supply _ _ _ | .reserveOutgoing _ _ _ | .push _ _ _
  | .closing _ | .change _ | .answer _ => inferInstanceAs (Decidable (_ = _))
  | .lock _ _ | .refuse _ _ _ => inferInstanceAs (Decidable (_ ∧ _))
  | .permit _ _ _ => inferInstanceAs (Decidable (_ ∧ _ ∧ _))
  | .expire _ | .drop _ => inferInstanceAs (Decidable (¬ _))
  | .command session _ | .opened session _ _ | .refused session _ _
  | .cancelled session | .stop session _ =>
      inferInstanceAs (Decidable (relay.Running session))
  | .closeCommands session | .failQueuedDial session | .cleanupDial session _
  | .dropCommand session | .dropDial session _ =>
      inferInstanceAs (Decidable (¬ relay.Running session))
  | .setCurrent _ | .close => inferInstanceAs (Decidable True)

def Step (source : Relay σ κ) (event : RelayEvent σ κ) (target : Relay σ κ) : Prop :=
  source.Possible event ∧ target = source.apply event

end Relay

end RelayGate.Sdk
