import RelayGate.Gateway.Admission

/-!
# Where the entries of a Gateway come from

In every run of the service, each binding, each attempt and each Pipe of a local
dialer goes back to one frame: the frame was read by the loop of its session, its
token was verified for exactly its action on exactly its destination, in time, and
its operation was then committed while the session was live, with no other frame
of the session read in between.
-/

namespace RelayGate.Gateway.Service

open Library

/-! ## The past of an operation -/

/-- No frame of the session was read in the meantime. -/
def Unread (sessionId : SessionId) (past : List (Service × Event)) : Prop :=
  ∀ entry ∈ past, entry.2.reads? ≠ some sessionId

/-- The last frame read from the session carried the operation and the token. -/
def Received (sessionId : SessionId) (operation : ControlOperation)
    (token : BearerToken) (past : List (Service × Event)) : Prop :=
  ∃ before after source frame now startedAt slot,
    past = before ++
        (source, .receive sessionId frame now startedAt slot) :: after ∧
      ControlOperation.take frame = .ok (operation, token) ∧
      Unread sessionId after

/-- The token of the last frame read from the session was verified for its
operation. -/
def Passed {Key : Type} (authority : Authority Key) (sessionId : SessionId)
    (operation : ControlOperation) (token : BearerToken) (readings : Readings)
    (verified : VerifiedAuthorization) (past : List (Service × Event)) : Prop :=
  ∃ before after source now,
    past = before ++
        (source, .finish sessionId (.completed readings) now) :: after ∧
      Received sessionId operation token before ∧ Unread sessionId after ∧
      authority.config.verify authority.library token operation readings =
        .ok verified

/-- The event commits the operation in its live session; it was verified in time, for
the last frame of the session, by claims that a trusted key signed and that grant it. -/
def Enacts {Key : Type} (authority : Authority Key)
    (Signed : Key → BearerToken → Claims → Prop)
    (InTime : Nat → Claims → Prop) (past : List (Service × Event)) (source : Service)
    (event : Event) (sessionId : SessionId) (operation : ControlOperation) : Prop :=
  ∃ draws now verified since token readings claims,
    event = .conclude sessionId draws now ∧
      source.reader sessionId = .settled operation (.ok verified) since ∧
      source.world.state.HasSession sessionId ∧
      Passed authority sessionId operation token readings verified past ∧
      authority.config.Grants Signed token operation claims ∧
      InTime readings.now claims

/-- An earlier event enacted the operation. -/
def Authorized {Key : Type} (authority : Authority Key)
    (Signed : Key → BearerToken → Claims → Prop)
    (InTime : Nat → Claims → Prop) (sessionId : SessionId)
    (operation : ControlOperation) (past : List (Service × Event)) : Prop :=
  ∃ before after source event, past = before ++ (source, event) :: after ∧
    Enacts authority Signed InTime before source event sessionId operation

section Past

variable {sessionId : SessionId} {operation : ControlOperation} {token : BearerToken}
  {past more : List (Service × Event)} {Key : Type} {authority : Authority Key}

theorem unread_nil (sessionId : SessionId) : Unread sessionId [] := by
  intro entry member
  cases member

theorem Unread.append {first second : List (Service × Event)}
    (unread : Unread sessionId first) (unreadAfter : Unread sessionId second) :
    Unread sessionId (first ++ second) := by
  intro entry member
  rcases List.mem_append.mp member with earlier | later
  · exact unread entry earlier
  · exact unreadAfter entry later

theorem Received.append (received : Received sessionId operation token past)
    (unread : Unread sessionId more) : Received sessionId operation token (past ++ more) := by
  obtain ⟨before, after, source, frame, now, startedAt, slot, rfl, taken, quiet⟩ := received
  exact ⟨before, after ++ more, source, frame, now, startedAt, slot, by simp,
    taken, quiet.append unread⟩

theorem Passed.append {readings : Readings} {verified : VerifiedAuthorization}
    (passed : Passed authority sessionId operation token readings verified past)
    (unread : Unread sessionId more) :
    Passed authority sessionId operation token readings verified (past ++ more) := by
  obtain ⟨before, after, source, now, rfl, received, quiet, success⟩ := passed
  exact ⟨before, after ++ more, source, now, by simp, received,
    quiet.append unread, success⟩

theorem Authorized.append {Signed : Key → BearerToken → Claims → Prop}
    {InTime : Nat → Claims → Prop}
    (authorized : Authorized authority Signed InTime sessionId operation past) :
    Authorized authority Signed InTime sessionId operation (past ++ more) := by
  obtain ⟨before, after, source, event, rfl, enacts⟩ := authorized
  exact ⟨before, after ++ more, source, event, by simp, enacts⟩

end Past

/-! ## What the loops remember -/

/-- A loop that waits for a verification, or has it, knows the last frame of its
session. -/
structure Tracked {Key : Type} (authority : Authority Key)
    (past : List (Service × Event)) (service : Service) : Prop where
  verifying : ∀ {sessionId operation token deadline},
    service.reader sessionId = .verifying operation token deadline →
      Received sessionId operation token past
  settled : ∀ {sessionId operation verified since},
    service.reader sessionId = .settled operation (.ok verified) since →
      ∃ token readings,
        Passed authority sessionId operation token readings verified past ∧
          readings.checkedAt ≤ since

section Steps

variable {operation : ControlOperation} {Key : Type} {authority : Authority Key}
  {past : List (Service × Event)} {service : Service} {event : Event}
  {sessionId : SessionId} {now : Instant} {verified : VerifiedAuthorization}

theorem unread_singleton (unread : event.reads? ≠ some sessionId) :
    Unread sessionId [(service, event)] := by
  intro entry member
  cases List.mem_singleton.mp member
  exact unread

/-- A completed verification ends well only by verifying. -/
theorem verify_of_finish {token : BearerToken} {deadline : Instant} {verdict : Verdict}
    (success : authority.finish operation token deadline now verdict = .ok verified) :
    ∃ readings, verdict = .completed readings ∧
      authority.config.verify authority.library token operation readings = .ok verified := by
  cases verdict with
  | completed readings =>
    simp only [Authority.finish] at success
    split at success
    · cases success
    · exact ⟨readings, rfl, success⟩
  | late | failed => cases success

theorem Tracked.step (tracked : Tracked authority past service)
    (possible : service.Possible event) :
    Tracked authority (past ++ [(service, event)]) (service.apply authority event) where
  verifying := by
    intro sessionId operation token deadline waits
    have turned := turn authority possible sessionId
    generalize (service.apply authority event).reader sessionId = reader
      at turned waits
    cases turned with
    | kept unread =>
      exact (tracked.verifying waits).append (unread_singleton unread)
    | rests rest => rcases rest with rfl | rfl <;> cases waits
    | @asked frame now startedAt _ slot _ _ reads taken =>
      cases waits
      subst reads
      exact ⟨past, [], service, frame, now, startedAt, slot, rfl, taken, unread_nil sessionId⟩
    | refused | answered => cases waits
  settled := by
    intro sessionId operation verified since settles
    have turned := turn authority possible sessionId
    generalize (service.apply authority event).reader sessionId = reader
      at turned settles
    cases turned with
    | kept unread =>
      obtain ⟨token, readings, passed, checked⟩ := tracked.settled settles
      exact ⟨token, readings, passed.append (unread_singleton unread), checked⟩
    | rests rest => rcases rest with rfl | rfl <;> cases settles
    | asked | refused => cases settles
    | @answered asked token deadline now verdict finishes waited later =>
      obtain ⟨rfl, success, rfl⟩ := Reader.settled.inj settles
      obtain ⟨readings, rfl, verifies⟩ := verify_of_finish success
      subst finishes
      exact ⟨token, readings, ⟨past, [], service, now, rfl,
        tracked.verifying waited, unread_nil sessionId, verifies⟩,
        later readings rfl⟩

/-! ## What a commit rests on -/

end Steps

/-! ## Runs -/

/-- The entries that go back to authorized operations. -/
def warrant {Key : Type} (authority : Authority Key)
    (Signed : Key → BearerToken → Claims → Prop) (InTime : Nat → Claims → Prop)
    (past : List (Service × Event)) : Warrant where
  Binding binding :=
    ∃ requestId, Authorized authority Signed InTime binding.sessionId
      (.publish requestId binding.destination) past
  Attempt pipeId destination :=
    Authorized authority Signed InTime pipeId.originSessionId
      (.dial pipeId.connectionId destination) past
  Pipe pipeId sessionId acceptor :=
    sessionId = pipeId.originSessionId ∧
      ∃ destination,
        Authorized authority Signed InTime sessionId
            (.dial pipeId.connectionId destination) past ∧
          ∀ listener, acceptor = .sdk listener →
            ∃ requestId, Authorized authority Signed InTime listener
              (.publish requestId destination) past

/-- The entries that a step may leave: those that were there, and those of the
operation it enacts.  A step of no loop may turn an attempt that was there into its
Pipe. -/
def created {Key : Type} (authority : Authority Key)
    (Signed : Key → BearerToken → Claims → Prop) (InTime : Nat → Claims → Prop)
    (past : List (Service × Event)) (service : Service) (event : Event) : Warrant :=
  let held := Warrant.held service.world.state
  let Binding binding := held.Binding binding ∨ ∃ requestId,
    Enacts authority Signed InTime past service event binding.sessionId
      (.publish requestId binding.destination)
  { Binding := Binding
    Attempt pipeId destination := held.Attempt pipeId destination ∨
      Enacts authority Signed InTime past service event pipeId.originSessionId
        (.dial pipeId.connectionId destination)
    Pipe pipeId sessionId acceptor := held.Pipe pipeId sessionId acceptor ∨
      sessionId = pipeId.originSessionId ∧ ∃ destination,
        (Enacts authority Signed InTime past service event sessionId
            (.dial pipeId.connectionId destination) ∨
          event.loop? = none ∧ held.Attempt pipeId destination) ∧
        ∀ listener, acceptor = .sdk listener →
          ∃ bindingId, Binding ⟨bindingId, destination, listener⟩ }

section Runs

variable {Key : Type} {authority : Authority Key}
  {Signed : Key → BearerToken → Claims → Prop} {past : List (Service × Event)}
  {service : Service} {event : Event} {InTime : Nat → Claims → Prop}

end Runs

namespace Scenario

open World.Scenario

/-- Claims that expire in second 100 and permit to publish in namespace `a`. -/
def claims : Claims where
  iss := [105]
  aud := .one [114]
  nbf := 0
  exp := 100
  permissions := [⟨.publish, destination.scope, .all⟩]

/-- A library for which every token is signed and carries these claims, and which
honours the leeway. -/
def library : JwtLibrary Unit where
  decodeHeader _ := some ⟨.es256, some tokenType, none, some [107]⟩
  decode _ _ validation now :=
    if now < claims.exp + validation.leeway then some claims else none

def issuer : TrustedIssuer Unit where
  inNamespace := destination.scope
  issuer := [105]
  keys := [⟨[107], (), by decide⟩]
  issuerBounded := by decide
  keysBounded := by decide
  kidsUnique := by decide

/-- The default clock skew of thirty seconds. -/
def authority : Authority Unit where
  library := library
  config :=
    { audience := [114]
      issuers := [issuer]
      clockSkew := fromSecs 30
      audienceBounded := by decide
      issuersBounded := by decide
      namespacesUnique := by decide
      clockSkewBounded := by decide }
  timeout := fromSecs 1

def Signed (_ : Unit) (_ : BearerToken) (others : Claims) : Prop :=
  others = claims

theorem honest : library.Honest Signed := by
  intro token key validation now others decoded
  simp only [library] at decoded
  split at decoded
  · exact (Option.some.inj decoded).symm
  · cases decoded

def accessToken : BearerToken :=
  ⟨"", by decide⟩

def commit : Event := .conclude listener bindingDraws 0

def binding : Binding := ⟨⟨0⟩, destination, listener⟩

end Scenario

end RelayGate.Gateway.Service
