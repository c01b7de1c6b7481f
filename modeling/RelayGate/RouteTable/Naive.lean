import RelayGate.RouteTable.Shard

/-!
# The index-free RouteTable

The purpose of a shard, stated without its indexes: one map from registration
keys to lease, last revision, deadline and full snapshot.  Every entry whose
deadline has passed is discarded before a lease-dependent operation, and
`resolve` answers from the entries that are left.
-/

namespace RelayGate.RouteTable

open Library
open RouteTableShard (Call Answer checkRevision ack
  validateCurrentBindingIdentityStability)

/-- The abstract RouteTable: its fixed configuration and its live entries. -/
structure NaiveTable where
  directory : ShardDirectory
  shardId : ShardId
  config : RouteTableConfig
  entries : Table RegistrationKey RegistrationState

namespace NaiveTable

def empty (directory : ShardDirectory) (shardId : ShardId)
    (config : RouteTableConfig) : NaiveTable :=
  ⟨directory, shardId, config, ∅⟩

/-- Discard every entry whose deadline is at or before `now`. -/
def discard (table : NaiveTable) (now : Instant) : NaiveTable :=
  { table with
    entries := table.entries.retain fun _ entry => now < entry.deadline }

/-- The leases of the entries. -/
def leaseIds (table : NaiveTable) : Finset LeaseId :=
  (table.entries.values.map RegistrationState.leaseId).toFinset

/-- The bindings the entries hold for a destination. -/
def bindingsFor (table : NaiveTable) (destination : Destination) :
    List BindingProjection :=
  table.entries.values.flatMap fun entry =>
    entry.bindings.values.filter fun binding =>
      binding.destination = destination

/-! ## Refusals that do not look at the entries -/

def generationError (table : NaiveTable)
    (generation : ShardDirectoryGeneration) : Option RouteTableError :=
  if generation = table.directory.generation then none
  else some (.failedPrecondition "ShardDirectoryGeneration mismatch")

def authorityError (table : NaiveTable) (destination : Destination) :
    Option RouteTableError :=
  if (table.directory.authority destination).id = table.shardId then none
  else some (.invalidArgument
    "Destination belongs to a different authority shard")

/-- Why a request for a key is refused: caller, then generation, then scope. -/
def requestError (table : NaiveTable) (context : RequestContext)
    (generation : ShardDirectoryGeneration) (key : RegistrationKey) :
    Option RouteTableError :=
  if context.authenticatedGatewayId ≠ key.gatewayId then
    some .permissionDenied
  else
    (table.generationError generation).or
      (if key.shardId = table.shardId then none
      else some (.invalidArgument "RegistrationKey targets a different shard"))

/-- Why a snapshot is refused: the first binding, by identity, that is outside
the key's scope or belongs to another shard. -/
def snapshotError (table : NaiveTable) (key : RegistrationKey)
    (snapshot : BindingSnapshot) : Option RouteTableError :=
  (orderedValues snapshot.entries).findSome? fun binding =>
    if binding.identity.gatewayId = key.gatewayId ∧
        binding.identity.relaySessionId = key.relaySessionId then
      table.authorityError binding.destination
    else
      some (.invalidArgument
        "snapshot binding is outside the RegistrationKey scope")

/-! ## Operations -/

def register (table : NaiveTable) (draws : LeaseDraws)
    (context : RequestContext) (generation : ShardDirectoryGeneration)
    (key : RegistrationKey) (now : Instant) :
    Except RouteTableError RegistrationAck × NaiveTable :=
  match table.requestError context generation key with
  | some error => (.error error, table)
  | none =>
      let table := table.discard now
      match table.entries.get key with
      | some entry => (.ok (ack entry now), table)
      | none =>
          match checkedAdd now table.config.leaseTtl with
          | none => (.error .deadlineOverflow, table)
          | some deadline =>
              let leaseId := uniqueLeaseId draws table.leaseIds
              (.ok ⟨leaseId, none, table.config.leaseTtl⟩,
                { table with
                  entries :=
                    table.entries.insert key ⟨leaseId, none, deadline, ∅⟩ })

/-- The entry of a key under its current lease. -/
def current (table : NaiveTable) (key : RegistrationKey) (leaseId : LeaseId) :
    Except RouteTableError RegistrationState :=
  match table.entries.get key with
  | none => .error (.failedPrecondition "registration lease is not active")
  | some entry =>
      if entry.leaseId = leaseId then .ok entry
      else .error (.failedPrecondition "LeaseId is not the current active lease")

def update (table : NaiveTable) (context : RequestContext)
    (generation : ShardDirectoryGeneration) (key : RegistrationKey)
    (leaseId : LeaseId) (revision : RegistrationRevision)
    (snapshot : BindingSnapshot) (now : Instant) :
    Except RouteTableError RegistrationAck × NaiveTable :=
  match (table.requestError context generation key).or
      (table.snapshotError key snapshot) with
  | some error => (.error error, table)
  | none =>
      let table := table.discard now
      match table.current key leaseId with
      | .error error => (.error error, table)
      | .ok entry =>
          match checkRevision entry revision snapshot with
          | .refused error => (.error error, table)
          | .repeated => (.ok (ack entry now), table)
          | .advances =>
              match validateCurrentBindingIdentityStability entry snapshot with
              | .error error => (.error error, table)
              | .ok () =>
                  (.ok ⟨leaseId, some revision, entry.deadline - now⟩,
                    { table with
                      entries := table.entries.insert key
                        { entry with
                          bindings := snapshot.entries
                          revision := some revision } })

def keepAlive (table : NaiveTable) (context : RequestContext)
    (generation : ShardDirectoryGeneration) (key : RegistrationKey)
    (leaseId : LeaseId) (now : Instant) :
    Except RouteTableError RegistrationAck × NaiveTable :=
  match table.requestError context generation key with
  | some error => (.error error, table)
  | none =>
      let table := table.discard now
      match table.current key leaseId with
      | .error error => (.error error, table)
      | .ok entry =>
          match checkedAdd now table.config.leaseTtl with
          | none => (.error .deadlineOverflow, table)
          | some deadline =>
              (.ok ⟨leaseId, entry.revision, table.config.leaseTtl⟩,
                { table with
                  entries := table.entries.insert key
                    { entry with deadline := deadline } })

def deregister (table : NaiveTable) (context : RequestContext)
    (generation : ShardDirectoryGeneration) (key : RegistrationKey)
    (leaseId : LeaseId) (now : Instant) :
    Except RouteTableError Unit × NaiveTable :=
  match table.requestError context generation key with
  | some error => (.error error, table)
  | none =>
      let table := table.discard now
      match table.entries.get key with
      | none => (.ok (), table)
      | some entry =>
          if entry.leaseId = leaseId then
            (.ok (), { table with entries := table.entries.remove key })
          else
            (.error (.failedPrecondition
              "LeaseId is not the current active lease"), table)

/-- The bindings of the live entries for a destination; not found exactly when
there is none. -/
def resolve (table : NaiveTable) (generation : ShardDirectoryGeneration)
    (destination : Destination) (now : Instant) :
    Except RouteTableError (List BindingProjection) × NaiveTable :=
  match (table.generationError generation).or
      (table.authorityError destination) with
  | some error => (.error error, table)
  | none =>
      let table := table.discard now
      if table.bindingsFor destination = [] then
        (.error .notFound, table)
      else
        (.ok (table.bindingsFor destination), table)

/-- Discard what is due and count it. -/
def expireDue (table : NaiveTable) (now : Instant) : Nat × NaiveTable :=
  (table.entries.countWhere fun _ entry => entry.deadline ≤ now,
    table.discard now)

/-- Make one call. -/
def answer (table : NaiveTable) : Call → Answer × NaiveTable
  | .register draws context generation key now =>
      let (result, table) := table.register draws context generation key now
      (.acknowledged result, table)
  | .update context generation key leaseId revision snapshot now =>
      let (result, table) :=
        table.update context generation key leaseId revision snapshot now
      (.acknowledged result, table)
  | .keepAlive context generation key leaseId now =>
      let (result, table) :=
        table.keepAlive context generation key leaseId now
      (.acknowledged result, table)
  | .deregister context generation key leaseId now =>
      let (result, table) :=
        table.deregister context generation key leaseId now
      (.deregistered result, table)
  | .resolve generation destination now =>
      let (result, table) := table.resolve generation destination now
      (.resolved result, table)
  | .expireDue now =>
      let (count, table) := table.expireDue now
      (.expired count, table)

end NaiveTable

end RelayGate.RouteTable
