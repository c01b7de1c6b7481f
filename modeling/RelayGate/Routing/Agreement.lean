import RelayGate.RouteTable.Frame
import RelayGate.Routing.Passes
import RelayGate.Routing.System

/-!
# Agreement of a registration and its shard

Whatever is lost, late or restarted, a synchronized registration is right about
the shard: if the shard still has its lease, it has exactly its snapshot.  The
invariant follows a claim from the acknowledged Update to the moment it is given
up, with everything in flight.
-/

namespace RelayGate.Routing

open Library
open RouteTable
open RouteTable.RouteTableShard (Framed)

/-! ## What backs a claim -/

/-- The shard has the snapshot if it has the lease, and no request that could
change it is under way. -/
structure Backed (shard : RouteTableShard) (wire : List Request)
    (key : RegistrationKey) (leaseId : LeaseId) (snapshot : BindingSnapshot) :
    Prop where
  held : ∀ registration, shard.registrationIndex.get key = some registration →
    registration.leaseId = leaseId →
      Table.SameEntries registration.bindings snapshot.entries
  quiet : ∀ request ∈ wire, request.action.key = key →
    request.action.isKeepAlive = true

theorem Backed.congr {shard : RouteTableShard} {wire : List Request}
    {key : RegistrationKey} {leaseId : LeaseId} {snapshot other : BindingSnapshot}
    (backed : Backed shard wire key leaseId snapshot)
    (same : Table.SameEntries snapshot.entries other.entries) :
    Backed shard wire key leaseId other where
  held registration found lease :=
    Table.SameEntries.trans (backed.held registration found lease)
      same
  quiet := backed.quiet

namespace RegistrationState

/-- A pending ticket is for this registration, and carries its snapshot as long
as the desired version has not moved on. -/
structure Fits (state : RegistrationState) (ticket : OperationTicket) :
    Prop where
  key : ticket.action.key = state.key
  version : ticket.desiredVersion ≤ state.desiredVersion
  snapshot : ticket.desiredVersion = state.desiredVersion →
    ∀ key leaseId revision snapshot,
      ticket.action = .update key leaseId revision snapshot →
        state.snapshot = some snapshot

/-- The invariant of one registration. -/
structure Sound (gatewayId : GatewayId) (shardId : ShardId)
    (shard : RouteTableShard) (wire : List Request)
    (sessionId : RelaySessionId) (state : RegistrationState) : Prop where
  key : state.key = ⟨gatewayId, sessionId, shardId⟩
  fits : ∀ ticket, state.pending = some ticket → state.Fits ticket
  backed : ∀ leaseId snapshot, state.Claims leaseId snapshot →
    Backed shard wire state.key leaseId snapshot

section Transitions

variable {gatewayId : GatewayId} {shardId : ShardId} {shard : RouteTableShard}
  {wire : List Request} {sessionId : RelaySessionId} {state after : RegistrationState}
  {ticket : OperationTicket}

section

variable (sound : Sound gatewayId shardId shard wire sessionId state)
include sound

theorem Sound.claimsFrom (claims : ClaimsFrom state after) (key : after.key = state.key) :
    ∀ leaseId snapshot, after.Claims leaseId snapshot →
      Backed shard wire after.key leaseId snapshot := by
  intro leaseId snapshot held
  obtain ⟨earlier, old, same⟩ := claims leaseId snapshot held
  rw [key]
  exact (sound.backed leaseId earlier old).congr same

theorem Sound.fits_of_settles (settles : Settles state after) (ticket : OperationTicket)
    (waiting : after.pending = some ticket) : after.Fits ticket := by
  rcases settles.pending with dropped | same
  · rw [dropped] at waiting
    cases waiting
  · rw [same] at waiting
    have fits := sound.fits ticket waiting
    constructor
    · rw [settles.key]
      exact fits.key
    · rw [settles.version]
      exact fits.version
    · rw [settles.version, settles.snapshot]
      exact fits.snapshot

theorem Sound.of_yields (yields : Yields state after) :
    Sound gatewayId shardId shard wire sessionId after where
  key := yields.settles.key.trans sound.key
  fits := sound.fits_of_settles yields.settles
  backed := sound.claimsFrom yields.claims yields.settles.key

theorem Sound.publish (desiredVersion : Nat) (snapshot : Option BindingSnapshot) (now : Instant) :
    Sound gatewayId shardId shard wire sessionId (state.publish desiredVersion snapshot now) := by
  by_cases newer : state.desiredVersion < desiredVersion
  · have published := state.published_publish newer snapshot now
    refine ⟨published.key.trans sound.key, ?_,
      sound.claimsFrom published.claimsFrom published.key⟩
    intro ticket waiting
    rcases published.pending with dropped | same
    · rw [dropped] at waiting
      cases waiting
    · rw [same] at waiting
      have fits := sound.fits ticket waiting
      have older : ticket.desiredVersion < desiredVersion := Nat.lt_of_le_of_lt fits.version newer
      constructor
      · rw [published.key]
        exact fits.key
      · rw [published.version]
        exact Nat.le_of_lt older
      · intro equal
        rw [published.version] at equal
        exact absurd equal (Nat.ne_of_lt older)
  · rw [state.publish_of_old (Nat.le_of_not_lt newer)]
    exact sound

end

theorem sound_new (gatewayId : GatewayId) (shardId : ShardId)
    (shard : RouteTableShard) (wire : List Request)
    (sessionId : RelaySessionId) (desiredVersion : Nat)
    (snapshot : Option BindingSnapshot) (now : Instant) (retryInitial retryMax : Duration) :
    Sound gatewayId shardId shard wire sessionId
      (RegistrationState.new ⟨gatewayId, sessionId, shardId⟩ desiredVersion
        snapshot now retryInitial retryMax) where
  key := rfl
  fits _ waiting := by cases waiting
  backed _ _ claims := by cases claims.lease

/-- Beginning an operation keeps the invariant of its registration. -/
theorem Sound.begun (sound : Sound gatewayId shardId shard wire sessionId
      state) {now : Instant}
    (begun : Begun now state after ticket) :
    Sound gatewayId shardId shard wire sessionId after := by
  refine ⟨begun.key_eq.trans sound.key, ?_, sound.claimsFrom begun.claimsFrom begun.key_eq⟩
  intro pending waiting
  rw [begun.pending_eq] at waiting
  cases waiting
  refine ⟨?_, ?_, ?_⟩
  · rw [begun.key_eq]
    exact begun.due.key_eq
  · rw [begun.version_eq]
    exact Nat.le_of_eq begun.version
  · intro _ key leaseId revision snapshot action
    have due := begun.due
    rw [action] at due
    rw [begun.snapshot_eq]
    cases due with
    | update _ lease _ desired => exact desired

/-- The acknowledgement of an Update the shard accepted, with nothing else under
way, gains only a backed claim. -/
theorem Sound.updateSucceeded (sound : Sound gatewayId shardId shard []
      sessionId state) {key : RegistrationKey}
    {leaseId : LeaseId} {revision : RegistrationRevision} {updated : BindingSnapshot}
    (action : ticket.action = .update key leaseId revision updated)
    (accepted : ∀ registration,
      shard.registrationIndex.get key = some registration →
        Table.SameEntries registration.bindings updated.entries)
    (ack : RegistrationAck) (now : Instant) :
    Sound gatewayId shardId shard [] sessionId (state.updateSucceeded ticket ack now) := by
  have settles := state.settles_updateSucceeded ticket ack now
  refine ⟨settles.key.trans sound.key, sound.fits_of_settles settles, ?_⟩
  intro claimed snapshot claims
  rw [settles.key]
  rcases claims_updateSucceeded claims with
    old | ⟨_, _, _, pending, updates, waiting, same, version⟩
  · exact sound.backed claimed snapshot old
  · have fits := sound.fits pending waiting
    obtain ⟨-, sameVersion, sameAction⟩ := same
    rw [action] at sameAction
    cases asked : pending.action with
    | register | keepAlive | deregister => rw [asked] at sameAction; cases sameAction
    | update =>
      rw [asked] at sameAction
      obtain ⟨sameKey, -, -, sameSnapshot⟩ := sameAction
      have desired := fits.snapshot (sameVersion.trans version.symm) _ _ _ _
        asked
      have held := claims.snapshot
      rw [settles.snapshot, desired] at held
      cases held
      have ownKey : key = state.key := by
        rw [← fits.key, asked, ← sameKey]
        rfl
      constructor
      · intro registration found _
        rw [← ownKey] at found
        refine Table.SameEntries.trans (accepted registration found) ?_
        exact Table.sameEntries_iff.mpr fun identity =>
          (Table.sameEntries_iff.mp sameSnapshot identity).symm
      · intro request member
        cases member

end Transitions

end RegistrationState

/-! ## All registrations of a worker -/

/-- Every registration keeps its invariant. -/
def AllSound (gatewayId : GatewayId) (shardId : ShardId)
    (shard : RouteTableShard) (wire : List Request)
    (registrations : Registrations) : Prop :=
  registrations.Every fun sessionId state =>
    state.Sound gatewayId shardId shard wire sessionId

namespace AllSound

variable {gatewayId : GatewayId} {shardId : ShardId} {shard : RouteTableShard}
  {wire : List Request} {registrations : Registrations}
  (sound : AllSound gatewayId shardId shard wire registrations)
include sound

theorem mapValues {transition : RegistrationState → RegistrationState}
    (yields : ∀ state, RegistrationState.Yields state (transition state)) :
    AllSound gatewayId shardId shard wire (registrations.mapValues transition) :=
  Table.Every.mapValues sound fun _ state held => held.of_yields (yields state)

theorem reconcileChanged (retryInitial retryMax : Duration) (now : Instant)
    (change : RelaySessionId × Nat × BindingSnapshot) :
    AllSound gatewayId shardId shard wire
      (Routing.reconcileChanged shardId gatewayId retryInitial retryMax now
        registrations change) := by
  unfold Routing.reconcileChanged
  split
  · rename_i state found
    exact Table.Every.insert sound ((sound _ state found).publish _ _ now)
  · exact Table.Every.insert sound
      (RegistrationState.sound_new _ _ _ _ _ _ _ _ _ _)

theorem reconcileDesired (view : ShardDesiredView) (retryInitial retryMax : Duration)
    (now : Instant) :
    AllSound gatewayId shardId shard wire
      (Routing.reconcileDesired view shardId gatewayId retryInitial retryMax
        registrations now) := by
  have changed : AllSound gatewayId shardId shard wire
      (view.changed.foldl (Routing.reconcileChanged shardId gatewayId
        retryInitial retryMax now) registrations) :=
    List.foldlRecOn view.changed _ sound fun _ kept change _ =>
      kept.reconcileChanged retryInitial retryMax now change
  exact List.foldlRecOn view.removed _ changed fun _ kept removal _ =>
    Table.Every.modify kept removal.1 fun _ held => held.publish _ _ now

end AllSound

/-! ## Completions -/

namespace RegistrationState

/-- Every completion but an acknowledged Update yields. -/
theorem completed_cases (state : RegistrationState) (ticket : OperationTicket)
    (result : OperationResult) (now : Instant) :
    Yields state (state.completed ticket result now).2 ∨
      ∃ ack key leaseId revision snapshot,
        ticket.action = .update key leaseId revision snapshot ∧
        result = .registration (.ok ack) ∧
        (state.completed ticket result now).2 = state.updateSucceeded ticket ack now := by
  unfold completed
  split
  · left
    unfold deregisterCompleted
    split
    · exact yields_finishDeregister state ticket
    · split
      · exact yields_transientFailure state ticket now
      · exact yields_finishDeregister state ticket
  · exact Or.inl (yields_registerSucceeded state ticket _ now)
  · rename_i key leaseId revision snapshot ack action
    exact Or.inr ⟨ack, key, leaseId, revision, snapshot, action, rfl, rfl⟩
  · exact Or.inl (yields_keepAliveSucceeded state ticket _ now)
  · left
    unfold registrationFailed
    split
    · exact yields_preconditionFailed state ticket now
    · exact yields_terminalFailure state ticket
    · exact yields_terminalFailure state ticket
    · exact yields_terminalFailure state ticket
    · exact yields_terminalFailure state ticket
    · exact yields_transientFailure state ticket now
    · exact yields_transientFailure state ticket now
    · exact yields_transientFailure state ticket now
    · exact yields_transientFailure state ticket now
    · exact yields_transientFailure state ticket now
  · exact Or.inl (yields_markTerminal state)

end RegistrationState

/-- What an acknowledged Update establishes: nothing else is under way, and the
shard has the snapshot if it has the key. -/
def Established (shard : RouteTableShard) (wire : List Request)
    (action : RegistrationAction) (result : OperationResult) : Prop :=
  ∀ ack key leaseId revision snapshot,
    action = .update key leaseId revision snapshot →
    result = .registration (.ok ack) →
      wire = [] ∧ ∀ registration,
        shard.registrationIndex.get key = some registration →
          Table.SameEntries registration.bindings snapshot.entries

namespace ShardWorker

/-- The registrations of a worker keep their invariant. -/
def Sound (shard : RouteTableShard) (wire : List Request)
    (worker : ShardWorker) : Prop :=
  AllSound worker.gatewayId worker.shardId shard wire worker.registrations

/-- The identity of a worker never changes. -/
structure SameIdentity (before after : ShardWorker) : Prop where
  gatewayId : after.gatewayId = before.gatewayId
  shardId : after.shardId = before.shardId
  generation : after.generation = before.generation

variable {shard : RouteTableShard} {wire : List Request} {worker : ShardWorker}
  (sound : worker.Sound shard wire)
include sound

theorem Sound.reconcile (view : ShardDesiredView) (now : Instant) :
    (worker.reconcile view now).Sound shard wire :=
  AllSound.reconcileDesired sound view _ _ now

theorem Sound.prune : worker.prune.Sound shard wire :=
  Table.Every.retain sound _

variable (completion : OperationCompletion) (now : Instant)

theorem Sound.connectionLost : (worker.connectionLost now).Sound shard wire :=
  AllSound.mapValues sound fun state => state.yields_connectionLost now

theorem Sound.enterTerminal : worker.enterTerminal.Sound shard wire :=
  AllSound.mapValues sound RegistrationState.yields_markTerminal

theorem Sound.onClientFailure (epoch : Nat) (error : TransportError) (now : Instant) :
    (worker.onClientFailure epoch error now).Sound shard wire := by
  unfold ShardWorker.onClientFailure
  split
  · exact sound
  · split
    · exact sound.enterTerminal
    · split
      · exact sound.connectionLost now
      · exact sound

theorem Sound.onConnectResult (result : Except TransportError Unit) :
    (worker.onConnectResult result).2.Sound shard wire := by
  unfold ShardWorker.onConnectResult
  split
  · split
    · exact sound
    · exact sound
  · split
    · exact sound.enterTerminal
    · exact sound

theorem Sound.onCompletionError (action : RegistrationAction) (error : TransportError)
    (now : Instant) : (worker.onCompletionError action error now).Sound shard wire := by
  unfold ShardWorker.onCompletionError
  split
  · split
    · exact sound.enterTerminal
    · exact sound
  · split
    · exact sound.connectionLost now
    · exact sound

/-- A completion keeps the invariant if an acknowledged Update is established. -/
theorem Sound.applyCompletion
    (established : Established shard wire completion.ticket.action completion.result) :
    AllSound worker.gatewayId worker.shardId shard wire
      (applyEpochScopedOperationCompletion worker.registrations completion
        worker.connected now).2 := by
  unfold applyEpochScopedOperationCompletion
  split
  · exact Table.Every.modify sound _ fun state held =>
      held.of_yields (state.yields_transientFailure _ now)
  · unfold applyOperationCompletion
    dsimp only
    split
    · exact sound
    · rename_i state found
      have held := sound _ state found
      refine Table.Every.insert sound ?_
      rcases state.completed_cases completion.ticket completion.result now with
        yields | ⟨ack, key, leaseId, revision, snapshot, action, result, same⟩
      · exact held.of_yields yields
      · obtain ⟨rfl, accepted⟩ := established ack key leaseId revision snapshot
          action result
        rw [same]
        exact held.updateSucceeded action accepted ack now

theorem Sound.onOperationCompletion
    (established : Established shard wire completion.ticket.action completion.result) :
    (worker.onOperationCompletion completion now).Sound shard wire := by
  have applied : Sound shard wire
      { worker with
        registrations := (applyEpochScopedOperationCompletion
          worker.registrations completion worker.connected now).2 } :=
    sound.applyCompletion completion now established
  unfold ShardWorker.onOperationCompletion
  dsimp only
  split
  · exact applied.prune
  · exact (applied.onCompletionError _ _ now).prune

end ShardWorker

end RelayGate.Routing
