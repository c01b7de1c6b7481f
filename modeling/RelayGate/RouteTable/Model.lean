import RelayGate.Destination
import RelayGate.Library.Draws
import RelayGate.Library.Table

/-!
# RouteTable data model

Identities, registrations, binding snapshots and the shard directory of the
memory-only RouteTable.  UUIDs are wrapped natural numbers, instants and
durations are nanoseconds, and SHA-256 is a parameter of the directory.
-/

namespace RelayGate

open Library

/-- A monotonic clock reading, in nanoseconds. -/
abbrev Instant := Nat

/-- A span of time, in nanoseconds. -/
abbrev Duration := Nat

/-- The number of nanoseconds an `Instant` can count: `i64` seconds. -/
def instantLimit : Nat := 2 ^ 63 * 1000000000

/-- `Instant::checked_add`. -/
def checkedAdd (now : Instant) (span : Duration) : Option Instant :=
  if now + span < instantLimit then some (now + span) else none

/-- Identifies one Gateway runtime incarnation. -/
structure GatewayId where
  uuid : Nat
deriving DecidableEq, Repr

/-- Identifies one Relay session within its Gateway incarnation. -/
structure RelaySessionId where
  uuid : Nat
deriving DecidableEq, Repr

/-- Identifies one Binding incarnation. -/
structure BindingId where
  uuid : Nat
deriving DecidableEq, Repr

/-- Identifies one active registration lease. -/
structure LeaseId where
  uuid : Nat
deriving DecidableEq, Repr

/-- Logical RouteTable shard identity; never empty. -/
structure ShardId where
  value : String
  nonempty : value ≠ ""
deriving DecidableEq

/-- Routable location of one Gateway runtime; never empty. -/
structure GatewayLocator where
  value : String
  nonempty : value ≠ ""
deriving DecidableEq

/-- SHA-256 of the shard-directory artifact. -/
structure ShardDirectoryGeneration where
  digest : Nat
deriving DecidableEq, Repr

/-- Monotonic snapshot revision scoped to one active lease; never zero. -/
structure RegistrationRevision where
  number : Nat
  positive : 0 < number
deriving DecidableEq

theorem RegistrationRevision.eq_of_number {first second : RegistrationRevision}
    (same : first.number = second.number) : first = second := by
  cases first
  cases second
  cases same
  rfl

/-- The revision every lease starts with. -/
def RegistrationRevision.first : RegistrationRevision :=
  ⟨1, by decide⟩

namespace RouteTable

/-- A terminal RouteTable operation error. -/
inductive RouteTableError
  | invalidArgument (message : String)
  | permissionDenied
  | notFound
  | failedPrecondition (message : String)
  | deadlineOverflow
deriving DecidableEq, Repr

/-- The text of an error. -/
def displayError : RouteTableError → String
  | .invalidArgument message => "invalid argument: " ++ message
  | .permissionDenied =>
      "authenticated Gateway does not own the requested registration"
  | .notFound => "no live binding exists for the requested Destination"
  | .failedPrecondition message =>
      "operation is not valid for the current RouteTable state: " ++ message
  | .deadlineOverflow => "RouteTable deadline cannot be represented"

/-- What one registration is filed under. -/
structure RegistrationKey where
  gatewayId : GatewayId
  relaySessionId : RelaySessionId
  shardId : ShardId
deriving DecidableEq

/-- What one binding is filed under. -/
structure BindingIdentity where
  gatewayId : GatewayId
  relaySessionId : RelaySessionId
  bindingId : BindingId
deriving DecidableEq, Repr

/-- One binding as it is published to a shard. -/
structure BindingProjection where
  destination : Destination
  identity : BindingIdentity
  gatewayLocator : GatewayLocator
deriving DecidableEq

/-- The bindings of one registration or of one destination bucket. -/
abbrev BindingMap := Table BindingIdentity BindingProjection

variable {bindings : BindingMap}

/-- The order of the identities in an ordered map. -/
def BindingIdentity.le (first second : BindingIdentity) : Prop :=
  first.gatewayId.uuid < second.gatewayId.uuid ∨
    (first.gatewayId = second.gatewayId ∧
      (first.relaySessionId.uuid < second.relaySessionId.uuid ∨
        (first.relaySessionId = second.relaySessionId ∧
          first.bindingId.uuid ≤ second.bindingId.uuid)))

instance : DecidableRel BindingIdentity.le :=
  fun _ _ => inferInstanceAs (Decidable (_ ∨ _))

/-- The values of an ordered map of bindings: ascending by identity. -/
def orderedValues (bindings : BindingMap) : List BindingProjection :=
  (bindings.toList.insertionSort fun first second =>
    first.1.le second.1).map Prod.snd

theorem mem_orderedValues {binding : BindingProjection} :
    binding ∈ orderedValues bindings ↔ ∃ identity, bindings.get identity = some binding := by
  unfold orderedValues
  rw [((List.perm_insertionSort _ bindings.toList).map Prod.snd).mem_iff]
  exact Table.mem_values

/-! ## Binding snapshots -/

/-- The destination scope of a binding within its session. -/
def BindingProjection.sessionDestination (binding : BindingProjection) :
    GatewayId × RelaySessionId × Destination :=
  (binding.identity.gatewayId, binding.identity.relaySessionId,
    binding.destination)

/-- The loop of `BindingSnapshot::new`: file every entry, refusing a repeated
destination scope or a repeated identity. -/
def collectBindings : List BindingProjection →
    List (GatewayId × RelaySessionId × Destination) → BindingMap →
    Except RouteTableError BindingMap
  | [], _, byIdentity => .ok byIdentity
  | entry :: entries, bySessionDestination, byIdentity =>
      if entry.sessionDestination ∈ bySessionDestination then
        .error (.invalidArgument
          "snapshot contains duplicate Destination scope for one RelaySession")
      else if byIdentity.contains entry.identity then
        .error (.invalidArgument "snapshot contains a duplicate BindingIdentity")
      else
        collectBindings entries
          (entry.sessionDestination :: bySessionDestination)
          (byIdentity.insert entry.identity entry)

/-- A nonempty, complete current binding snapshot for one registration.  Its
map was filed by `collectBindings`. -/
structure BindingSnapshot where
  entries : BindingMap
  collected : ∃ bindings, collectBindings bindings [] ∅ = .ok entries
  nonempty : entries.isEmpty = false

/-- `BindingSnapshot::new`. -/
def BindingSnapshot.new (bindings : List BindingProjection) :
    Except RouteTableError BindingSnapshot :=
  match collected : collectBindings bindings [] ∅ with
  | .error error => .error error
  | .ok entries =>
      match nonempty : entries.isEmpty with
      | true =>
          .error (.invalidArgument
            "Update snapshot must contain at least one binding")
      | false => .ok ⟨entries, ⟨bindings, collected⟩, nonempty⟩

/-- Every binding of a map is filed under its own identity. -/
def Keyed (bindings : BindingMap) : Prop :=
  ∀ identity binding, bindings.get identity = some binding →
    binding.identity = identity

theorem keyed_empty : Keyed ∅ := by
  intro identity binding found
  cases found

theorem Keyed.insert (keyed : Keyed bindings) (binding : BindingProjection) :
    Keyed (bindings.insert binding.identity binding) := by
  intro identity other found
  rw [Table.get_insert] at found
  split at found
  · rename_i equal
    cases found
    exact equal.symm
  · exact keyed identity other found

theorem collectBindings_keyed {bindings : List BindingProjection}
    {scopes : List (GatewayId × RelaySessionId × Destination)}
    {filed entries : BindingMap} (keyed : Keyed filed)
    (collected : collectBindings bindings scopes filed = .ok entries) : Keyed entries := by
  induction bindings generalizing scopes filed with
  | nil =>
    cases collected
    exact keyed
  | cons binding bindings ih =>
    simp only [collectBindings] at collected
    split at collected
    · cases collected
    · split at collected
      · cases collected
      · exact ih (keyed.insert binding) collected

/-- Every snapshot files its bindings under their own identities. -/
theorem BindingSnapshot.keyed (snapshot : BindingSnapshot) : Keyed snapshot.entries := by
  obtain ⟨bindings, collected⟩ := snapshot.collected
  exact collectBindings_keyed keyed_empty collected

/-! ## Directory, requests and answers -/

/-- One shard of the directory. -/
structure ShardRecord where
  id : ShardId
deriving DecidableEq

/-- Immutable, ordered shard directory.  `sha256Prefix` is the big-endian value
of the first eight bytes of SHA-256. -/
structure ShardDirectory where
  generation : ShardDirectoryGeneration
  shards : List ShardRecord
  nonempty : 0 < shards.length
  distinct : (shards.map ShardRecord.id).Nodup
  sha256Prefix : Text → Nat

/-- The shard that owns a destination. -/
def ShardDirectory.authority (directory : ShardDirectory)
    (destination : Destination) : ShardRecord :=
  directory.shards.get
    ⟨directory.sha256Prefix destination.canonicalKey % directory.shards.length,
      Nat.mod_lt _ directory.nonempty⟩

/-- The record of a shard identity. -/
def ShardDirectory.shard (directory : ShardDirectory) (shardId : ShardId) :
    Option ShardRecord :=
  directory.shards.find? fun record => record.id = shardId

/-- Shard configuration; the lease TTL is positive. -/
structure RouteTableConfig where
  leaseTtl : Duration
  positive : 0 < leaseTtl

/-- `RouteTableConfig::new`. -/
def RouteTableConfig.new (leaseTtl : Duration) :
    Except RouteTableError RouteTableConfig :=
  if positive : 0 < leaseTtl then
    .ok ⟨leaseTtl, positive⟩
  else
    .error (.invalidArgument "lease TTL must be greater than zero")

/-- Per-operation context supplied after transport authentication. -/
structure RequestContext where
  authenticatedGatewayId : GatewayId
deriving DecidableEq

/-- The acknowledgement of a lease operation. -/
structure RegistrationAck where
  leaseId : LeaseId
  acceptedRevision : Option RegistrationRevision
  expiresIn : Duration
deriving DecidableEq

/-- The maintained sizes of a shard. -/
structure RouteTableStats where
  registrationCount : Nat
  bindingCount : Nat
  destinationCount : Nat
  expiryRecordCount : Nat
deriving DecidableEq, Repr

/-- The UUIDs one call of `unique_lease_id` may draw. -/
abbrev LeaseDraws := Draws LeaseId

/-- The loop of `unique_lease_id`. -/
def uniqueLeaseId (draws : LeaseDraws) (active : Finset LeaseId) : LeaseId :=
  draws.unique active

end RouteTable

end RelayGate
