import RelayGate.Library.BucketIndex
import RelayGate.Library.Counter
import RelayGate.RouteTable.Model

/-!
# The RouteTable shard

One memory-only logical RouteTable shard: its four indexes, its two maintained
counters, and every public operation as a function from the shard to the
result of the call and the shard afterwards.
-/

namespace RelayGate.RouteTable

open Library

/-- The lease-bound state of one registration. -/
structure RegistrationState where
  leaseId : LeaseId
  revision : Option RegistrationRevision
  deadline : Instant
  bindings : BindingMap

/-- What the expiry index files under a deadline. -/
structure ExpiryKey where
  registrationKey : RegistrationKey
  leaseId : LeaseId
deriving DecidableEq

/-- Bindings by destination and identity. -/
abbrev DestinationIndex := BucketIndex Destination BindingIdentity BindingProjection

/-- Expiry records by deadline; a set is a map to the unit type. -/
abbrev ExpiryIndex := BucketIndex Instant ExpiryKey Unit

/-- One READY shard. -/
structure RouteTableShard where
  directory : ShardDirectory
  shardId : ShardId
  config : RouteTableConfig
  destinationIndex : DestinationIndex
  registrationIndex : Table RegistrationKey RegistrationState
  activeLeaseIds : Finset LeaseId
  expiryIndex : ExpiryIndex
  bindingCount : Counter
  expiryRecordCount : Counter

/-- A shard without registrations. -/
def RouteTableShard.empty (directory : ShardDirectory) (shardId : ShardId)
    (config : RouteTableConfig) : RouteTableShard where
  directory := directory
  shardId := shardId
  config := config
  destinationIndex := ∅
  registrationIndex := ∅
  activeLeaseIds := ∅
  expiryIndex := ∅
  bindingCount := Counter.zero
  expiryRecordCount := Counter.zero

/-- `RouteTableShard::new`. -/
def RouteTableShard.new (directory : ShardDirectory) (shardId : ShardId)
    (config : RouteTableConfig) : Except RouteTableError RouteTableShard :=
  match directory.shard shardId with
  | none =>
      .error (.invalidArgument
        "RouteTable shard is not present in ShardDirectory")
  | some _ => .ok (RouteTableShard.empty directory shardId config)

namespace RouteTableShard

/-- The maintained statistics. -/
def stats (shard : RouteTableShard) : RouteTableStats where
  registrationCount := shard.registrationIndex.len
  bindingCount := shard.bindingCount.value
  destinationCount := shard.destinationIndex.len
  expiryRecordCount := shard.expiryRecordCount.value

/-! ## Index maintenance -/

/-- File an expiry record, counting it when it is new. -/
def insertExpiry (shard : RouteTableShard) (key : RegistrationKey)
    (leaseId : LeaseId) (deadline : Instant) : RouteTableShard :=
  { shard with
    expiryIndex := shard.expiryIndex.put deadline ⟨key, leaseId⟩ ()
    expiryRecordCount :=
      if (shard.expiryIndex.find deadline ⟨key, leaseId⟩).isSome then
        shard.expiryRecordCount
      else
        shard.expiryRecordCount.add 1 }

/-- Remove an expiry record, discounting it when it was there. -/
def removeExpiry (shard : RouteTableShard) (key : RegistrationKey)
    (leaseId : LeaseId) (deadline : Instant) : RouteTableShard :=
  { shard with
    expiryIndex := shard.expiryIndex.drop deadline ⟨key, leaseId⟩
    expiryRecordCount :=
      if (shard.expiryIndex.find deadline ⟨key, leaseId⟩).isSome then
        shard.expiryRecordCount.sub 1
      else
        shard.expiryRecordCount }

/-- File every binding of a map under its destination. -/
def insertBindings (index : DestinationIndex) (bindings : BindingMap) :
    DestinationIndex :=
  bindings.toList.foldl
    (fun index entry => index.put entry.2.destination entry.1 entry.2) index

/-- Remove every binding of a map from its destination's bucket. -/
def removeBindings (index : DestinationIndex) (bindings : BindingMap) :
    DestinationIndex :=
  bindings.toList.foldl
    (fun index entry => index.drop entry.2.destination entry.1) index

/-- Remove a registration from every index. -/
def removeRegistration (shard : RouteTableShard) (key : RegistrationKey) :
    RouteTableShard :=
  match shard.registrationIndex.get key with
  | none => shard
  | some registration =>
      let shard : RouteTableShard :=
        { shard with
          registrationIndex := shard.registrationIndex.remove key
          bindingCount := shard.bindingCount.sub registration.bindings.len
          activeLeaseIds := shard.activeLeaseIds.erase registration.leaseId }
      let shard := shard.removeExpiry key registration.leaseId
        registration.deadline
      { shard with
        destinationIndex :=
          removeBindings shard.destinationIndex registration.bindings }

/-! ## Expiry -/

/-- The earliest active lease deadline. -/
def nextExpiryDeadline (shard : RouteTableShard) : Option Instant :=
  shard.expiryIndex.keys.min?

/-- One candidate of an expired bucket: its registration goes when it still has
the candidate's lease and is due. -/
def expireCandidate (now : Instant) (progress : Nat × RouteTableShard)
    (candidate : ExpiryKey) : Nat × RouteTableShard :=
  match progress.2.registrationIndex.get candidate.registrationKey with
  | none => progress
  | some registration =>
      if registration.leaseId = candidate.leaseId ∧
          registration.deadline ≤ now then
        (progress.1 + 1,
          progress.2.removeRegistration candidate.registrationKey)
      else
        progress

/-- Take the bucket of a deadline out of the expiry index. -/
def popBucket (shard : RouteTableShard) (deadline : Instant)
    (candidates : Table ExpiryKey Unit) : RouteTableShard :=
  { shard with
    expiryIndex := shard.expiryIndex.remove deadline
    expiryRecordCount := shard.expiryRecordCount.sub candidates.len }

/-- The loop of `expire_due`; every round takes one bucket, so the number of
buckets bounds the rounds. -/
def expireLoop (now : Instant) : Nat → Nat × RouteTableShard →
    Nat × RouteTableShard
  | 0, progress => progress
  | rounds + 1, progress =>
      match progress.2.nextExpiryDeadline with
      | none => progress
      | some deadline =>
          if deadline ≤ now then
            match progress.2.expiryIndex.get deadline with
            | none => progress
            | some candidates =>
                expireLoop now rounds
                  (candidates.keys.foldl (expireCandidate now)
                    (progress.1, progress.2.popBucket deadline candidates))
          else
            progress

/-- Remove all registrations whose deadline is at or before `now`; the result
counts them. -/
def expireDue (shard : RouteTableShard) (now : Instant) :
    Nat × RouteTableShard :=
  expireLoop now shard.expiryIndex.len (0, shard)

/-! ## Validation -/

def validateGeneration (shard : RouteTableShard)
    (generation : ShardDirectoryGeneration) : Except RouteTableError Unit :=
  if generation ≠ shard.directory.generation then
    .error (.failedPrecondition "ShardDirectoryGeneration mismatch")
  else
    .ok ()

def validateAuthenticatedOwner (context : RequestContext)
    (key : RegistrationKey) : Except RouteTableError Unit :=
  if context.authenticatedGatewayId ≠ key.gatewayId then
    .error .permissionDenied
  else
    .ok ()

def validateRegistrationScope (shard : RouteTableShard)
    (key : RegistrationKey) : Except RouteTableError Unit :=
  if key.shardId ≠ shard.shardId then
    .error (.invalidArgument "RegistrationKey targets a different shard")
  else
    .ok ()

def validateDestinationAuthority (shard : RouteTableShard)
    (destination : Destination) : Except RouteTableError Unit :=
  if (shard.directory.authority destination).id ≠ shard.shardId then
    .error (.invalidArgument
      "Destination belongs to a different authority shard")
  else
    .ok ()

/-- The checks on one binding of a snapshot. -/
def validateBinding (shard : RouteTableShard) (key : RegistrationKey)
    (binding : BindingProjection) : Except RouteTableError Unit :=
  if binding.identity.gatewayId ≠ key.gatewayId ∨
      binding.identity.relaySessionId ≠ key.relaySessionId then
    .error (.invalidArgument
      "snapshot binding is outside the RegistrationKey scope")
  else
    shard.validateDestinationAuthority binding.destination

/-- The bindings of a snapshot are checked in order; the first failure is the
answer. -/
def validateSnapshot (shard : RouteTableShard) (key : RegistrationKey)
    (snapshot : BindingSnapshot) : Except RouteTableError Unit :=
  (orderedValues snapshot.entries).forM (shard.validateBinding key)

/-- The checks every lease operation starts with, in order: owner, directory
generation, shard scope. -/
def validateRequest (shard : RouteTableShard) (context : RequestContext)
    (generation : ShardDirectoryGeneration) (key : RegistrationKey) :
    Except RouteTableError Unit := do
  validateAuthenticatedOwner context key
  shard.validateGeneration generation
  shard.validateRegistrationScope key

/-- No binding that stays active may change its destination or locator. -/
def validateCurrentBindingIdentityStability
    (registration : RegistrationState) (snapshot : BindingSnapshot) :
    Except RouteTableError Unit :=
  if snapshot.entries.toList.any fun entry =>
      (registration.bindings.get entry.1).any (· ≠ entry.2) then
    .error (.failedPrecondition
      "an active BindingIdentity cannot change Destination or GatewayLocator")
  else
    .ok ()

/-- The active registration for a key, when `leaseId` is its current lease. -/
def currentRegistration (shard : RouteTableShard) (key : RegistrationKey)
    (leaseId : LeaseId) : Except RouteTableError RegistrationState :=
  match shard.registrationIndex.get key with
  | none => .error (.failedPrecondition "registration lease is not active")
  | some registration =>
      if registration.leaseId ≠ leaseId then
        .error (.failedPrecondition "LeaseId is not the current active lease")
      else
        .ok registration

/-- The acknowledgement of an unchanged registration. -/
def ack (registration : RegistrationState) (now : Instant) : RegistrationAck where
  leaseId := registration.leaseId
  acceptedRevision := registration.revision
  expiresIn := registration.deadline - now

/-! ## Operations -/

/-- The registration a successful `register` files for a free key. -/
def fileRegistration (shard : RouteTableShard) (key : RegistrationKey)
    (leaseId : LeaseId) (deadline : Instant) : RouteTableShard :=
  insertExpiry
    { shard with
      registrationIndex :=
        shard.registrationIndex.insert key ⟨leaseId, none, deadline, ∅⟩
      activeLeaseIds := insert leaseId shard.activeLeaseIds }
    key leaseId deadline

def register (shard : RouteTableShard) (draws : LeaseDraws)
    (context : RequestContext) (generation : ShardDirectoryGeneration)
    (key : RegistrationKey) (now : Instant) :
    Except RouteTableError RegistrationAck × RouteTableShard :=
  match shard.validateRequest context generation key with
  | .error error => (.error error, shard)
  | .ok () =>
      let shard := (shard.expireDue now).2
      match shard.registrationIndex.get key with
      | some registration => (.ok (ack registration now), shard)
      | none =>
          match checkedAdd now shard.config.leaseTtl with
          | none => (.error .deadlineOverflow, shard)
          | some deadline =>
              let leaseId := uniqueLeaseId draws shard.activeLeaseIds
              (.ok ⟨leaseId, none, shard.config.leaseTtl⟩,
                shard.fileRegistration key leaseId deadline)

/-- What an update's revision means for the current registration. -/
inductive RevisionCheck
  | refused (error : RouteTableError)
  | repeated
  | advances
deriving DecidableEq

/-- The revision rules: the first accepted revision is one, an equal revision
must repeat its snapshot, a lower one is refused. -/
def checkRevision (registration : RegistrationState)
    (revision : RegistrationRevision) (snapshot : BindingSnapshot) :
    RevisionCheck :=
  match registration.revision with
  | none =>
      if revision ≠ RegistrationRevision.first then
        .refused (.failedPrecondition
          "the first accepted RegistrationRevision must be 1")
      else
        .advances
  | some current =>
      if revision = current then
        if Table.SameEntries registration.bindings snapshot.entries then
          .repeated
        else
          .refused (.failedPrecondition
            "the same RegistrationRevision has a different snapshot")
      else if revision.number < current.number then
        .refused (.failedPrecondition
          "RegistrationRevision is lower than the accepted revision")
      else
        .advances

/-- Replace the bindings of a registration and move its destination entries. -/
def replaceBindings (shard : RouteTableShard) (key : RegistrationKey)
    (registration : RegistrationState) (revision : RegistrationRevision)
    (bindings : BindingMap) : RouteTableShard :=
  { shard with
    registrationIndex := shard.registrationIndex.insert key
      { registration with bindings := bindings, revision := some revision }
    bindingCount :=
      (shard.bindingCount.sub registration.bindings.len).add bindings.len
    destinationIndex := insertBindings
      (removeBindings shard.destinationIndex registration.bindings) bindings }

def update (shard : RouteTableShard) (context : RequestContext)
    (generation : ShardDirectoryGeneration) (key : RegistrationKey)
    (leaseId : LeaseId) (revision : RegistrationRevision)
    (snapshot : BindingSnapshot) (now : Instant) :
    Except RouteTableError RegistrationAck × RouteTableShard :=
  match (do
    shard.validateRequest context generation key
    shard.validateSnapshot key snapshot) with
  | .error error => (.error error, shard)
  | .ok () =>
      let shard := (shard.expireDue now).2
      match shard.currentRegistration key leaseId with
      | .error error => (.error error, shard)
      | .ok registration =>
          match checkRevision registration revision snapshot with
          | .refused error => (.error error, shard)
          | .repeated => (.ok (ack registration now), shard)
          | .advances =>
              match validateCurrentBindingIdentityStability registration
                  snapshot with
              | .error error => (.error error, shard)
              | .ok () =>
                  (.ok ⟨leaseId, some revision, registration.deadline - now⟩,
                    shard.replaceBindings key registration revision
                      snapshot.entries)

/-- Move a registration and its expiry record to a new deadline. -/
def moveDeadline (shard : RouteTableShard) (key : RegistrationKey)
    (registration : RegistrationState) (deadline : Instant) :
    RouteTableShard :=
  let shard : RouteTableShard :=
    { shard with
      registrationIndex := shard.registrationIndex.insert key
        { registration with deadline := deadline } }
  let shard := shard.removeExpiry key registration.leaseId registration.deadline
  shard.insertExpiry key registration.leaseId deadline

def keepAlive (shard : RouteTableShard) (context : RequestContext)
    (generation : ShardDirectoryGeneration) (key : RegistrationKey)
    (leaseId : LeaseId) (now : Instant) :
    Except RouteTableError RegistrationAck × RouteTableShard :=
  match shard.validateRequest context generation key with
  | .error error => (.error error, shard)
  | .ok () =>
      let shard := (shard.expireDue now).2
      match shard.currentRegistration key leaseId with
      | .error error => (.error error, shard)
      | .ok registration =>
          match checkedAdd now shard.config.leaseTtl with
          | none => (.error .deadlineOverflow, shard)
          | some deadline =>
              (.ok ⟨leaseId, registration.revision, shard.config.leaseTtl⟩,
                shard.moveDeadline key registration deadline)

def deregister (shard : RouteTableShard) (context : RequestContext)
    (generation : ShardDirectoryGeneration) (key : RegistrationKey)
    (leaseId : LeaseId) (now : Instant) :
    Except RouteTableError Unit × RouteTableShard :=
  match shard.validateRequest context generation key with
  | .error error => (.error error, shard)
  | .ok () =>
      let shard := (shard.expireDue now).2
      match shard.registrationIndex.get key with
      | none => (.ok (), shard)
      | some registration =>
          if registration.leaseId ≠ leaseId then
            (.error (.failedPrecondition
              "LeaseId is not the current active lease"), shard)
          else
            (.ok (), shard.removeRegistration key)

def resolve (shard : RouteTableShard)
    (generation : ShardDirectoryGeneration) (destination : Destination)
    (now : Instant) :
    Except RouteTableError (List BindingProjection) × RouteTableShard :=
  match (do
    shard.validateGeneration generation
    shard.validateDestinationAuthority destination) with
  | .error error => (.error error, shard)
  | .ok () =>
      let shard := (shard.expireDue now).2
      match shard.destinationIndex.get destination with
      | none => (.error .notFound, shard)
      | some bindings =>
          if bindings.isEmpty then
            (.error .notFound, shard)
          else
            (.ok (orderedValues bindings), shard)

/-! ## Calls -/

/-- One call on a shard, with every argument it reads. -/
inductive Call
  | register (draws : LeaseDraws) (context : RequestContext)
      (generation : ShardDirectoryGeneration) (key : RegistrationKey)
      (now : Instant)
  | update (context : RequestContext) (generation : ShardDirectoryGeneration)
      (key : RegistrationKey) (leaseId : LeaseId)
      (revision : RegistrationRevision) (snapshot : BindingSnapshot)
      (now : Instant)
  | keepAlive (context : RequestContext)
      (generation : ShardDirectoryGeneration) (key : RegistrationKey)
      (leaseId : LeaseId) (now : Instant)
  | deregister (context : RequestContext)
      (generation : ShardDirectoryGeneration) (key : RegistrationKey)
      (leaseId : LeaseId) (now : Instant)
  | resolve (generation : ShardDirectoryGeneration)
      (destination : Destination) (now : Instant)
  | expireDue (now : Instant)

/-- The clock value a call is made at. -/
def Call.now : Call → Instant
  | .register _ _ _ _ now => now
  | .update _ _ _ _ _ _ now => now
  | .keepAlive _ _ _ _ now => now
  | .deregister _ _ _ _ now => now
  | .resolve _ _ now => now
  | .expireDue now => now

/-- The answer to a call. -/
inductive Answer
  | acknowledged (result : Except RouteTableError RegistrationAck)
  | deregistered (result : Except RouteTableError Unit)
  | resolved (result : Except RouteTableError (List BindingProjection))
  | expired (count : Nat)

/-- Make one call. -/
def answer (shard : RouteTableShard) : Call → Answer × RouteTableShard
  | .register draws context generation key now =>
      let (result, shard) := shard.register draws context generation key now
      (.acknowledged result, shard)
  | .update context generation key leaseId revision snapshot now =>
      let (result, shard) :=
        shard.update context generation key leaseId revision snapshot now
      (.acknowledged result, shard)
  | .keepAlive context generation key leaseId now =>
      let (result, shard) :=
        shard.keepAlive context generation key leaseId now
      (.acknowledged result, shard)
  | .deregister context generation key leaseId now =>
      let (result, shard) :=
        shard.deregister context generation key leaseId now
      (.deregistered result, shard)
  | .resolve generation destination now =>
      let (result, shard) := shard.resolve generation destination now
      (.resolved result, shard)
  | .expireDue now =>
      let (count, shard) := shard.expireDue now
      (.expired count, shard)

end RouteTableShard

end RelayGate.RouteTable
