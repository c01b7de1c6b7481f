import RelayGate.Library.BucketIndex
import RelayGate.Protocol.Frame

/-!
# The local binding registry

The bindings published by the sessions of one Gateway, indexed by identity, by
destination and by session, with the round-robin cursor of each destination.
-/

namespace RelayGate.Gateway

open Library

/-- One live binding. -/
structure Binding where
  id : BindingId
  destination : Destination
  sessionId : SessionId
deriving DecidableEq

/-- The outcome of a registration. -/
inductive Registration
  | created (binding : Binding)
  | existing (binding : Binding)

/-- The binding a registration answers with. -/
def Registration.binding : Registration → Binding
  | .created binding => binding
  | .existing binding => binding

structure LocalRegistry where
  byId : Table BindingId Binding
  byDestination : Table Destination (List BindingId)
  bySession : BucketIndex SessionId BindingId Unit
  nextSelection : Table Destination Nat

namespace LocalRegistry

def empty : LocalRegistry :=
  ⟨∅, ∅, ∅, ∅⟩

def bindingCount (registry : LocalRegistry) : Nat :=
  registry.byId.len

/-- The identities filed for a session. -/
def sessionBindingIds (registry : LocalRegistry) (sessionId : SessionId) :
    List BindingId :=
  ((registry.bySession.get sessionId).map Table.keys).getD []

def bindingForSessionDestination (registry : LocalRegistry)
    (sessionId : SessionId) (destination : Destination) : Option Binding :=
  (registry.sessionBindingIds sessionId).findSome? fun id =>
    (registry.byId.get id).filter fun binding =>
      binding.destination = destination

def containsSessionDestination (registry : LocalRegistry)
    (sessionId : SessionId) (destination : Destination) : Bool :=
  (registry.bindingForSessionDestination sessionId destination).isSome

/-- File a new binding in every index. -/
def insert (registry : LocalRegistry) (binding : Binding) : LocalRegistry :=
  { registry with
    byId := registry.byId.insert binding.id binding
    byDestination := registry.byDestination.insert binding.destination
      (((registry.byDestination.get binding.destination).getD []) ++
        [binding.id])
    bySession := registry.bySession.put binding.sessionId binding.id () }

/-- Register a destination for a session; an identity is drawn until one that
is not in use appears. -/
def register (registry : LocalRegistry) (draws : Draws BindingId)
    (sessionId : SessionId) (destination : Destination) :
    Registration × LocalRegistry :=
  match registry.bindingForSessionDestination sessionId destination with
  | some binding => (.existing binding, registry)
  | none =>
      let binding : Binding :=
        ⟨draws.unique registry.byId.keys.toFinset, destination, sessionId⟩
      (.created binding, registry.insert binding)

/-- Drop an identity from its destination's list, and the list with its cursor
when it becomes empty. -/
def unlinkDestination (registry : LocalRegistry) (destination : Destination)
    (bindingId : BindingId) : LocalRegistry :=
  match registry.byDestination.get destination with
  | none => registry
  | some ids =>
      let rest := ids.filter fun id => id ≠ bindingId
      if rest.isEmpty then
        { registry with
          byDestination := registry.byDestination.remove destination
          nextSelection := registry.nextSelection.remove destination }
      else
        { registry with
          byDestination := registry.byDestination.insert destination rest }

/-- Remove a binding from every index. -/
def remove (registry : LocalRegistry) (bindingId : BindingId) :
    Option Binding × LocalRegistry :=
  match registry.byId.get bindingId with
  | none => (none, registry)
  | some binding =>
      let registry := { registry with byId := registry.byId.remove bindingId }
      let registry := registry.unlinkDestination binding.destination bindingId
      (some binding,
        { registry with
          bySession := registry.bySession.drop binding.sessionId bindingId })

def removeOwned (registry : LocalRegistry) (sessionId : SessionId)
    (bindingId : BindingId) : Option Binding × LocalRegistry :=
  match registry.byId.get bindingId with
  | none => (none, registry)
  | some binding =>
      if binding.sessionId ≠ sessionId then (none, registry)
      else registry.remove bindingId

/-- Remove one binding and list it after those removed before. -/
def removeNext (progress : List Binding × LocalRegistry)
    (bindingId : BindingId) : List Binding × LocalRegistry :=
  match progress.2.remove bindingId with
  | (some binding, registry) => (progress.1 ++ [binding], registry)
  | (none, registry) => (progress.1, registry)

/-- Remove every binding of a session; the removed bindings are listed. -/
def removeSession (registry : LocalRegistry) (sessionId : SessionId) :
    List Binding × LocalRegistry :=
  (registry.sessionBindingIds sessionId).foldl removeNext ([], registry)

/-- The current bindings of a session, ascending by identity. -/
def bindingsForSession (registry : LocalRegistry) (sessionId : SessionId) :
    List Binding :=
  ((registry.sessionBindingIds sessionId).filterMap fun id =>
    registry.byId.get id).insertionSort fun first second =>
      first.id.uuid ≤ second.id.uuid

/-- The current binding, only when every component matches. -/
def exact (registry : LocalRegistry) (sessionId : SessionId)
    (bindingId : BindingId) (destination : Destination) : Option Binding :=
  (registry.byId.get bindingId).filter fun binding =>
    binding.sessionId = sessionId ∧ binding.destination = destination

/-- The bindings of a destination that another session may reach. -/
def eligible (registry : LocalRegistry) (ids : List BindingId)
    (excluded : SessionId) : List Binding :=
  (ids.filterMap fun id => registry.byId.get id).filter fun binding =>
    binding.sessionId ≠ excluded

/-- Round-robin selection among the bindings of the other sessions; the cursor
is a wrapping 64-bit counter. -/
def selectExcluding (registry : LocalRegistry) (destination : Destination)
    (excluded : SessionId) : Option Binding × LocalRegistry :=
  match registry.byDestination.get destination with
  | none => (none, registry)
  | some ids =>
      let candidates := registry.eligible ids excluded
      if candidates.length = 0 then
        (none, registry)
      else
        let cursor := (registry.nextSelection.get destination).getD 0
        (candidates[cursor % candidates.length]?,
          { registry with
            nextSelection := registry.nextSelection.insert destination
              ((cursor + 1) % 2 ^ 64) })

end LocalRegistry

end RelayGate.Gateway
