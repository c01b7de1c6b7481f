import RelayGate.Gateway.Verifier
import RelayGate.Gateway.Warrant

/-!
# Admission of control operations

The loops that read the frames of the sessions, one for each session, beside the
state core.  A loop hands frames to the core one after another; a PUBLISH or DIAL
waits in its loop until the verification of its token has ended, and is then
committed or refused.  Everything that a Gateway holds for its own sessions goes
back to an operation that was committed in this way.
-/

namespace RelayGate.Gateway

open Library

/-- Where the loop that reads the frames of a session stands. -/
inductive Reader
  | ended
  | idle
  | verifying (operation : ControlOperation) (token : BearerToken)
      (deadline : Instant)
  | settled (operation : ControlOperation)
      (verified : Except ErrorCode VerifiedAuthorization) (since : Instant)

/-- How the wait for a verification ends. -/
inductive Verdict
  | completed (readings : Readings)
  | late
  | failed

/-- What a Gateway verifies tokens with. -/
structure Authority (Key : Type) where
  library : JwtLibrary Key
  config : AuthorizationConfig Key
  timeout : Duration

/-- The result of a verification that was waited for until its deadline. -/
def Authority.finish {Key : Type} (authority : Authority Key)
    (operation : ControlOperation) (token : BearerToken)
    (deadline now : Instant) :
    Verdict → Except ErrorCode VerifiedAuthorization
  | .completed readings =>
      if deadline ≤ now then .error .deadlineExceeded
      else authority.config.verify authority.library token operation readings
  | .late => .error .deadlineExceeded
  | .failed => .error .internal

/-- The state core and the loops of the sessions. -/
structure Service where
  world : World
  reader : SessionId → Reader

/-- What the loops and the other tasks of a Gateway do. -/
inductive Service.Event
  | accept (draws : Draws SessionId) (now : Instant)
  | receive (sessionId : SessionId) (frame : Frame) (now startedAt : Instant)
      (slot : Bool)
  | finish (sessionId : SessionId) (verdict : Verdict) (now : Instant)
  | conclude (sessionId : SessionId) (draws : Draws BindingId) (now : Instant)
  | stop (sessionId : SessionId)
  | cleanup (sessionId : SessionId)
  | other (event : Gateway.Event)

namespace Service

variable {core : Gateway.Event} {sessionId : SessionId}

def initial (limits : GatewayLimits) (gatewayId : Option GatewayId)
    (now : Instant) : Service :=
  ⟨World.initial limits gatewayId now, fun _ => .ended⟩

def setReader (service : Service) (sessionId : SessionId) (reader : Reader) :
    Service :=
  { service with reader := Function.update service.reader sessionId reader }

/-- Let the state core take an event. -/
def perform (service : Service) (event : Gateway.Event) : Service :=
  { service with world := service.world.apply event }

/-- The loop after a frame: a control operation that is admitted goes to
verification when a slot is free. -/
def readFrame {Key : Type} (authority : Authority Key) (service : Service)
    (sessionId : SessionId) (frame : Frame) (now startedAt : Instant)
    (slot : Bool) : Service :=
  match ControlOperation.take frame with
  | .error frame =>
      let next := service.perform (.handle sessionId frame now)
      match (service.world.state.handle sessionId frame now).1 with
      | .ok _ => next
      | .error _ => next.setReader sessionId .ended
  | .ok (operation, token) =>
      let next := service.perform (.prepare sessionId operation now)
      match (service.world.state.prepareAuthorization sessionId operation now).1 with
      | some _ => next
      | none =>
          match checkedAdd startedAt authority.timeout with
          | none => next.setReader sessionId .ended
          | some deadline =>
              if slot then
                next.setReader sessionId (.verifying operation token deadline)
              else
                next.setReader sessionId
                  (.settled operation (.error .resourceExhausted) startedAt)

def apply {Key : Type} (authority : Authority Key) (service : Service) :
    Event → Service
  | .accept draws now =>
      let next := service.perform (.addSession draws now)
      match (service.world.state.addSession draws now).1 with
      | none => next
      | some sessionId => next.setReader sessionId .idle
  | .receive sessionId frame now startedAt slot =>
      service.readFrame authority sessionId frame now startedAt slot
  | .finish sessionId verdict now =>
      match service.reader sessionId with
      | .verifying operation token deadline =>
          service.setReader sessionId (.settled operation
            (authority.finish operation token deadline now verdict) now)
      | _ => service
  | .conclude sessionId draws now =>
      match service.reader sessionId with
      | .settled operation (.ok verified) _ =>
          (service.perform (.commit sessionId operation verified draws
            now)).setReader sessionId .idle
      | .settled operation (.error code) _ =>
          (service.perform (.refuse sessionId operation code)).setReader
            sessionId .idle
      | _ => service
  | .stop sessionId => service.setReader sessionId .ended
  | .cleanup sessionId => service.perform (.removeSession sessionId)
  | .other event => service.perform event

/-- A session gets its loop with its identity, a loop takes its steps in order,
its clock does not run backwards, and what SDK frames ask for reaches the state
core through a loop only. -/
def Possible (service : Service) : Event → Prop
  | .accept draws now =>
      ∀ sessionId, (service.world.state.addSession draws now).1 = some sessionId →
        service.reader sessionId = .ended
  | .receive sessionId _ _ _ _ => service.reader sessionId = .idle
  | .finish sessionId verdict now =>
      (∃ operation token deadline,
        service.reader sessionId = .verifying operation token deadline) ∧
        ∀ readings, verdict = .completed readings → readings.checkedAt ≤ now
  | .conclude sessionId _ now =>
      ∃ operation verified since,
        service.reader sessionId = .settled operation verified since ∧
          since ≤ now
  | .stop _ => True
  | .cleanup sessionId => service.reader sessionId = .ended
  | .other event => service.world.Arranges event ∧ event.session? = none

def Step {Key : Type} (authority : Authority Key) (service : Service)
    (event : Event) (target : Service) : Prop :=
  service.Possible event ∧ target = service.apply authority event

/-! ## What an event asks of the state core -/

variable {Key : Type} {authority : Authority Key} {service target : Service}
  {event : Event}

/-- The session whose loop takes a step. -/
def Event.loop? : Event → Option SessionId
  | .receive sessionId _ _ _ _ | .finish sessionId _ _ | .conclude sessionId _ _
  | .stop sessionId => some sessionId
  | _ => none

/-- The session whose loop reads a frame. -/
def Event.reads? : Event → Option SessionId
  | .receive sessionId _ _ _ _ => some sessionId
  | _ => none

/-- Where the loop of a session stands after an event. -/
inductive Turn (authority : Authority Key) (service : Service) (event : Event)
    (sessionId : SessionId) : Reader → Prop
  | kept (unread : event.reads? ≠ some sessionId) :
      Turn authority service event sessionId (service.reader sessionId)
  | rests {reader : Reader} (rest : reader = .idle ∨ reader = .ended) :
      Turn authority service event sessionId reader
  | asked {frame : Frame} {now startedAt deadline : Instant} {slot : Bool}
      {operation : ControlOperation} {token : BearerToken}
      (reads : event = .receive sessionId frame now startedAt slot)
      (taken : ControlOperation.take frame = .ok (operation, token)) :
      Turn authority service event sessionId
        (.verifying operation token deadline)
  | refused {operation : ControlOperation} {code : ErrorCode} {since : Instant} :
      Turn authority service event sessionId
        (.settled operation (.error code) since)
  | answered {operation : ControlOperation} {token : BearerToken}
      {deadline now : Instant} {verdict : Verdict}
      (finishes : event = .finish sessionId verdict now)
      (waited : service.reader sessionId = .verifying operation token deadline)
      (later : ∀ readings, verdict = .completed readings →
        readings.checkedAt ≤ now) :
      Turn authority service event sessionId
        (.settled operation
          (authority.finish operation token deadline now verdict) now)

theorem reader_setReader (service : Service) (sessionId other : SessionId) (reader : Reader) :
    (service.setReader sessionId reader).reader other =
      if other = sessionId then reader else service.reader other :=
  Function.update_apply _ _ _ _

/-- A loop is set by an event of its own session, or left alone. -/
theorem Turn.set {other : SessionId} {reader : Reader}
    (unread : other ≠ sessionId → event.reads? ≠ some other)
    (own : Turn authority service event sessionId reader) :
    Turn authority service event other ((service.setReader sessionId reader).reader other) := by
  rw [reader_setReader]
  split
  · rename_i same
    rw [same]
    exact own
  · rename_i different
    exact .kept (unread different)

/-- What an event does to the loop of a session. -/
theorem turn (authority : Authority Key) (possible : service.Possible event)
    (sessionId : SessionId) :
    Turn authority service event sessionId
      ((service.apply authority event).reader sessionId) := by
  cases event with
  | accept =>
    simp only [apply]
    split
    · exact .kept nofun
    · exact Turn.set (fun _ => nofun) (.rests (Or.inl rfl))
  | receive sender frame now startedAt slot =>
    have waits : ∀ other, Turn authority service
        (.receive sender frame now startedAt slot) other
        (service.reader other) := by
      intro other
      by_cases same : other = sender
      · rw [same]
        exact .rests (Or.inl possible)
      · refine .kept fun reads => same ?_
        cases reads
        rfl
    have set : ∀ reader, Turn authority service
        (.receive sender frame now startedAt slot) sender reader →
        Turn authority service (.receive sender frame now startedAt slot)
          sessionId ((service.setReader sender reader).reader sessionId) := by
      intro reader own
      refine Turn.set (fun different reads => different ?_) own
      cases reads
      rfl
    simp only [apply, readFrame]
    split
    · split
      · exact waits sessionId
      · exact set _ (.rests (Or.inr rfl))
    · rename_i operation token taken
      split
      · exact waits sessionId
      · split
        · exact set _ (.rests (Or.inr rfl))
        · split
          · exact set _ (.asked rfl taken)
          · exact set _ .refused
  | finish =>
    obtain ⟨-, later⟩ := possible
    simp only [apply]
    split
    · rename_i operation token deadline waited
      exact Turn.set (fun _ => nofun) (.answered rfl waited later)
    · exact .kept nofun
  | conclude =>
    simp only [apply]
    split
    · exact Turn.set (fun _ => nofun) (.rests (Or.inl rfl))
    · exact Turn.set (fun _ => nofun) (.rests (Or.inl rfl))
    · exact .kept nofun
  | stop => exact Turn.set (fun _ => nofun) (.rests (Or.inr rfl))
  | cleanup | other => exact .kept nofun

end Service

end RelayGate.Gateway
