import RelayGate.Routing.Lifecycle
import RelayGate.RouteTable.Shard

/-!
# Operation completions

How the result of one lease operation reaches the registration its ticket
names.  A completion from an earlier connection epoch counts as a transient
failure, whatever it says.
-/

namespace RelayGate.Routing

open Library
open RouteTable

/-! ## Transport errors -/

/-- Stable error categories of the private RouteTable transport. -/
inductive ErrorCode
  | invalidArgument
  | unauthenticated
  | permissionDenied
  | notFound
  | failedPrecondition
  | unavailable
  | deadlineExceeded
  | resourceExhausted
  | protocolError
  | internal
deriving DecidableEq, Repr

structure TransportError where
  code : ErrorCode
  message : String
deriving DecidableEq, Repr

/-- The category of a shard error. -/
def errorCode : RouteTableError → ErrorCode
  | .invalidArgument _ => .invalidArgument
  | .permissionDenied => .permissionDenied
  | .notFound => .notFound
  | .failedPrecondition _ => .failedPrecondition
  | .deadlineOverflow => .internal

/-- A shard error as the transport reports it. -/
def TransportError.ofRouteTable (error : RouteTableError) : TransportError :=
  ⟨errorCode error, displayError error⟩

def isConnectionError : ErrorCode → Bool
  | .unavailable | .deadlineExceeded | .protocolError | .internal => true
  | _ => false

def isTerminalControlError : ErrorCode → Bool
  | .unauthenticated | .permissionDenied | .failedPrecondition => true
  | _ => false

/-- The failures after which a Deregister is retried. -/
def isDeregisterRetryable : ErrorCode → Bool
  | .unavailable | .deadlineExceeded | .resourceExhausted | .internal => true
  | _ => false

/-! ## Results -/

inductive OperationResult
  | registration (result : Except TransportError RegistrationAck)
  | deregister (result : Except TransportError Unit)

structure OperationCompletion where
  epoch : Nat
  ticket : OperationTicket
  result : OperationResult

/-- The registrations of one shard worker. -/
abbrev Registrations := Table RelaySessionId RegistrationState

/-- What a completed Deregister does to its registration. -/
def RegistrationState.deregisterCompleted (state : RegistrationState)
    (ticket : OperationTicket) (result : Except TransportError Unit)
    (now : Instant) : RegistrationState :=
  match result with
  | .ok () => state.finishDeregister ticket
  | .error error =>
      if isDeregisterRetryable error.code && !state.leaseExpired now then
        state.transientFailure ticket now
      else
        state.finishDeregister ticket

/-- What a refused Register, Update or KeepAlive does to its registration. -/
def RegistrationState.registrationFailed (state : RegistrationState)
    (ticket : OperationTicket) (error : TransportError) (now : Instant) :
    RegistrationState :=
  match error.code with
  | .failedPrecondition => state.preconditionFailed ticket now
  | .unauthenticated | .permissionDenied | .invalidArgument | .notFound =>
      state.terminalFailure ticket
  | .unavailable | .deadlineExceeded | .resourceExhausted | .protocolError
  | .internal =>
      state.transientFailure ticket now

/-- The error of a result. -/
def errorOf {Value : Type} : Except TransportError Value → Option TransportError
  | .ok _ => none
  | .error error => some error

/-- What a completion does to the registration of its ticket, and the error
the worker sees. -/
def RegistrationState.completed (state : RegistrationState)
    (ticket : OperationTicket) (result : OperationResult) (now : Instant) :
    Option TransportError × RegistrationState :=
  match ticket.action, result with
  | .deregister _ _, .deregister result =>
      (errorOf result, state.deregisterCompleted ticket result now)
  | .register _, .registration (.ok ack) =>
      (none, state.registerSucceeded ticket ack now)
  | .update _ _ _ _, .registration (.ok ack) =>
      (none, state.updateSucceeded ticket ack now)
  | .keepAlive _ _, .registration (.ok ack) =>
      (none, state.keepAliveSucceeded ticket ack now)
  | _, .registration (.error error) =>
      (some error, state.registrationFailed ticket error now)
  | _, _ => (none, state.markTerminal)

/-- Apply a completion to the registration of its ticket's key. -/
def applyOperationCompletion (registrations : Registrations)
    (completion : OperationCompletion) (now : Instant) :
    Option TransportError × Registrations :=
  let sessionId := completion.ticket.action.key.relaySessionId
  match registrations.get sessionId with
  | none => (none, registrations)
  | some state =>
      let (error, state) :=
        state.completed completion.ticket completion.result now
      (error, registrations.insert sessionId state)

def applyEpochScopedOperationCompletion (registrations : Registrations)
    (completion : OperationCompletion) (currentEpoch : Option Nat)
    (now : Instant) : Option TransportError × Registrations :=
  if completion.epoch ≠ currentEpoch.getD 0 then
    (none, registrations.modify completion.ticket.action.key.relaySessionId
      fun state => state.transientFailure completion.ticket now)
  else
    applyOperationCompletion registrations completion now

end RelayGate.Routing
