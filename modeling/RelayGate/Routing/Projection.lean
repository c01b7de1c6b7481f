import RelayGate.Gateway.Publicity
import RelayGate.RouteTable.Consistency

/-!
# Projection of a session

A Gateway publishes the bindings of a session shard by shard: every binding goes
to the authority of its destination, and a shard without bindings is named with
no snapshot because that removes its prior state.  The registry of the Gateway,
the projection and the checks of the shards fit together: what is projected is
accepted where it is sent and nowhere else.
-/

namespace RelayGate.Routing

open Library Table
open RouteTable
open Gateway (Binding LocalRegistry World)

variable {bindings : List BindingProjection} {shard : RouteTableShard}
  {key : RegistrationKey}

/-! ## The projection -/

/-- A Gateway-local failure to project a session. -/
inductive RoutingError
  | invalidProjection (message : String)
deriving DecidableEq

/-- `RoutingError::from(RouteTableError)`. -/
def RoutingError.ofRouteTable (error : RouteTableError) : RoutingError :=
  .invalidProjection (displayError error)

/-- What one shard is told about a session. -/
structure ProjectedShardSnapshot where
  shardId : ShardId
  snapshot : Option BindingSnapshot

def projectSessionId (sessionId : SessionId) : RelaySessionId :=
  ⟨sessionId.uuid⟩

/-- One binding as the Gateway publishes it. -/
def projectBinding (gatewayId : GatewayId) (gatewayLocator : GatewayLocator)
    (sessionId : SessionId) (binding : Binding) : BindingProjection where
  destination := binding.destination
  identity := ⟨gatewayId, projectSessionId sessionId, binding.id⟩
  gatewayLocator := gatewayLocator

/-- The bindings collected for each shard. -/
abbrev ShardMap := Table ShardId (List BindingProjection)

/-- Every shard of the directory, with nothing collected. -/
def emptyShards (shards : List ShardRecord) : ShardMap :=
  shards.foldl (fun byShard record => byShard.insert record.id []) ∅

/-- The loop of `project_session`: collect every binding for the authority of its
destination. -/
def collectShards (directory : ShardDirectory) (gatewayId : GatewayId)
    (gatewayLocator : GatewayLocator) (sessionId : SessionId) :
    List Binding → ShardMap → Except RoutingError ShardMap
  | [], byShard => .ok byShard
  | binding :: bindings, byShard =>
      if binding.sessionId ≠ sessionId then
        .error (.invalidProjection "binding belongs to a different RelaySession")
      else
        let shardId := (directory.authority binding.destination).id
        match byShard.get shardId with
        | none =>
            .error (.invalidProjection "authority shard is absent from directory")
        | some entries =>
            collectShards directory gatewayId gatewayLocator sessionId bindings
              (byShard.insert shardId (entries ++
                [projectBinding gatewayId gatewayLocator sessionId binding]))

/-- The snapshot of one shard; none when nothing was collected for it. -/
def projectShard (entry : ShardId × List BindingProjection) :
    Except RoutingError ProjectedShardSnapshot :=
  if entry.2.isEmpty then
    .ok ⟨entry.1, none⟩
  else
    match BindingSnapshot.new entry.2 with
    | .error error => .error (RoutingError.ofRouteTable error)
    | .ok snapshot => .ok ⟨entry.1, some snapshot⟩

/-- The complete snapshot of a session, shard by shard in the order of the shard
identities. -/
def projectSession (directory : ShardDirectory) (gatewayId : GatewayId)
    (gatewayLocator : GatewayLocator) (sessionId : SessionId)
    (bindings : List Binding) :
    Except RoutingError (List ProjectedShardSnapshot) :=
  match collectShards directory gatewayId gatewayLocator sessionId bindings
      (emptyShards directory.shards) with
  | .error error => .error error
  | .ok byShard =>
      (byShard.toList.insertionSort fun first second =>
        first.1.value ≤ second.1.value).mapM projectShard

/-! ## What is collected -/

/-- The projections that belong to a shard. -/
def shardProjections (directory : ShardDirectory) (gatewayId : GatewayId)
    (gatewayLocator : GatewayLocator) (sessionId : SessionId)
    (bindings : List Binding) (shardId : ShardId) : List BindingProjection :=
  (bindings.filter fun binding =>
    (directory.authority binding.destination).id = shardId).map
      (projectBinding gatewayId gatewayLocator sessionId)

theorem get_emptyShards (shards : List ShardRecord) (shardId : ShardId) :
    (emptyShards shards).get shardId =
      if shardId ∈ shards.map ShardRecord.id then some [] else none := by
  have loop : ∀ (shards : List ShardRecord) (byShard : ShardMap),
      (shards.foldl (fun byShard record => byShard.insert record.id [])
        byShard).get shardId =
        if shardId ∈ shards.map ShardRecord.id then some []
        else byShard.get shardId := by
    intro shards
    induction shards with
    | nil => simp
    | cons record shards ih =>
      intro byShard
      rw [List.foldl_cons, ih, get_insert]
      simp only [List.map_cons, List.mem_cons]
      by_cases later : shardId ∈ shards.map ShardRecord.id
      · simp [later]
      · by_cases first : shardId = record.id <;> simp [later, first]
  exact loop shards ∅

theorem authority_mem (directory : ShardDirectory) (destination : Destination) :
    (directory.authority destination).id ∈ directory.shards.map ShardRecord.id :=
  List.mem_map.mpr ⟨_, List.get_mem _ _, rfl⟩

section Collecting

variable {directory : ShardDirectory} {sessionId : SessionId}

/-- The loop succeeds for bindings of the session and appends to every shard what
belongs to it. -/
theorem collectShards_eq_ok (gatewayId : GatewayId)
    (gatewayLocator : GatewayLocator) {bindings : List Binding}
    (own : ∀ binding ∈ bindings, binding.sessionId = sessionId) {byShard : ShardMap}
    (known : ∀ shardId ∈ directory.shards.map ShardRecord.id,
      ∃ entries, byShard.get shardId = some entries) :
    ∃ collected,
      collectShards directory gatewayId gatewayLocator sessionId bindings byShard =
        .ok collected ∧
      ∀ shardId, collected.get shardId = (byShard.get shardId).map fun entries =>
        entries ++ shardProjections directory gatewayId gatewayLocator sessionId
          bindings shardId := by
  induction bindings generalizing byShard with
  | nil =>
    refine ⟨byShard, rfl, ?_⟩
    intro shardId
    cases byShard.get shardId <;> simp [shardProjections]
  | cons binding bindings ih =>
    obtain ⟨entries, found⟩ := known _ (authority_mem directory binding.destination)
    have later : ∀ shardId ∈ directory.shards.map ShardRecord.id,
        ∃ entries', (byShard.insert (directory.authority binding.destination).id
          (entries ++ [projectBinding gatewayId gatewayLocator sessionId
            binding])).get shardId = some entries' := by
      intro shardId listed
      rw [get_insert]
      split
      · exact ⟨_, rfl⟩
      · exact known shardId listed
    obtain ⟨collected, outcome, stored⟩ :=
      ih (fun other member => own other (List.mem_cons_of_mem _ member)) later
    refine ⟨collected, ?_, ?_⟩
    · unfold collectShards
      rw [if_neg (not_not.mpr (own binding List.mem_cons_self))]
      simp only [found]
      exact outcome
    · intro shardId
      rw [stored, get_insert]
      by_cases here : shardId = (directory.authority binding.destination).id
      · rw [if_pos here, here, found]
        simp [shardProjections]
      · rw [if_neg here]
        simp [shardProjections, Ne.symm here]

end Collecting

/-! ## Snapshots of distinct bindings -/

/-- Entries that differ in identity and in destination are filed without a
refusal. -/
theorem collectBindings_eq_ok {entries : List BindingProjection}
    {scopes : List (GatewayId × RelaySessionId × Destination)} {filed : BindingMap}
    (identities : (entries.map BindingProjection.identity).Nodup)
    (destinations : (entries.map BindingProjection.sessionDestination).Nodup)
    (newScope : ∀ entry ∈ entries, entry.sessionDestination ∉ scopes)
    (newIdentity : ∀ entry ∈ entries, filed.get entry.identity = none) :
    ∃ final, collectBindings entries scopes filed = .ok final ∧
      ∀ identity entry, final.get identity = some entry ↔
        (entry ∈ entries ∧ entry.identity = identity) ∨ filed.get identity = some entry := by
  induction entries generalizing scopes filed with
  | nil => exact ⟨filed, rfl, fun _ _ => by simp⟩
  | cons first entries ih =>
    rw [List.map_cons, List.nodup_cons] at identities destinations
    have unfiled := newIdentity first List.mem_cons_self
    have laterScopes : ∀ entry ∈ entries,
        entry.sessionDestination ∉ first.sessionDestination :: scopes := by
      intro entry member repeated
      rcases List.mem_cons.mp repeated with same | old
      · exact destinations.1 (List.mem_map.mpr ⟨entry, member, same⟩)
      · exact newScope entry (List.mem_cons_of_mem _ member) old
    have laterIdentities : ∀ entry ∈ entries,
        (filed.insert first.identity first).get entry.identity = none := by
      intro entry member
      rw [get_insert, if_neg]
      · exact newIdentity entry (List.mem_cons_of_mem _ member)
      · intro same
        exact identities.1 (List.mem_map.mpr ⟨entry, member, same⟩)
    obtain ⟨final, outcome, stored⟩ := ih identities.2 destinations.2 laterScopes laterIdentities
    refine ⟨final, ?_, ?_⟩
    · unfold collectBindings
      rw [if_neg (newScope first List.mem_cons_self), contains_eq, unfiled]
      exact outcome
    · intro identity entry
      rw [stored, get_insert_eq_some_iff]
      constructor
      · rintro (⟨member, same⟩ | ⟨same, rfl⟩ | ⟨-, old⟩)
        · exact Or.inl ⟨List.mem_cons_of_mem _ member, same⟩
        · exact Or.inl ⟨List.mem_cons_self, same.symm⟩
        · exact Or.inr old
      · rintro (⟨member, same⟩ | old)
        · rcases List.mem_cons.mp member with rfl | later
          · exact Or.inr (Or.inl ⟨same.symm, rfl⟩)
          · exact Or.inl ⟨later, same⟩
        · refine Or.inr (Or.inr ⟨?_, old⟩)
          rintro rfl
          rw [unfiled] at old
          cases old

theorem new_eq_ok {entries : BindingMap} (collected : collectBindings bindings [] ∅ = .ok entries)
    (nonempty : entries.isEmpty = false) :
    ∃ snapshot, BindingSnapshot.new bindings = .ok snapshot ∧ snapshot.entries = entries := by
  unfold BindingSnapshot.new
  split
  · rename_i refused
    rw [collected] at refused
    cases refused
  · rename_i other accepted
    obtain rfl := Except.ok.inj (collected.symm.trans accepted)
    split
    · rename_i emptied
      rw [nonempty] at emptied
      cases emptied
    · exact ⟨_, rfl, rfl⟩

/-- A nonempty list of distinct bindings is a snapshot of exactly these. -/
theorem new_of_distinct (occupied : bindings ≠ [])
    (identities : (bindings.map BindingProjection.identity).Nodup)
    (destinations : (bindings.map BindingProjection.sessionDestination).Nodup) :
    ∃ snapshot, BindingSnapshot.new bindings = .ok snapshot ∧
      ∀ identity binding, snapshot.entries.get identity = some binding ↔
        binding ∈ bindings ∧ binding.identity = identity := by
  obtain ⟨entries, collected, stored⟩ := collectBindings_eq_ok identities
    destinations (fun _ _ => List.not_mem_nil)
    fun entry _ => get_empty (V := BindingProjection) entry.identity
  have nonempty : entries.isEmpty = false := by
    obtain ⟨binding, member⟩ := List.exists_mem_of_ne_nil _ occupied
    exact BucketIndex.isEmpty_eq_false_iff.mpr ⟨binding.identity, binding,
      (stored _ _).mpr (Or.inl ⟨member, rfl⟩)⟩
  obtain ⟨snapshot, outcome, same⟩ := new_eq_ok collected nonempty
  refine ⟨snapshot, outcome, ?_⟩
  intro identity binding
  rw [same, stored]
  simp

/-! ## The checks of a shard -/

theorem forM_eq_ok_iff {check : BindingProjection → Except RouteTableError Unit} :
    bindings.forM check = .ok () ↔ ∀ binding ∈ bindings, check binding = .ok () := by
  constructor
  · intro valid binding member
    exact RouteTableShard.forM_eq_ok valid member
  · intro valid
    induction bindings with
    | nil => rfl
    | cons first rest ih =>
      have passed := ih fun binding member =>
        valid binding (List.mem_cons_of_mem _ member)
      change (do check first; rest.forM check) = _
      rw [valid first List.mem_cons_self]
      exact passed

theorem validateBinding_eq_ok_iff {binding : BindingProjection} :
    shard.validateBinding key binding = .ok () ↔
      (binding.identity.gatewayId = key.gatewayId ∧
        binding.identity.relaySessionId = key.relaySessionId) ∧
      (shard.directory.authority binding.destination).id = shard.shardId := by
  unfold RouteTableShard.validateBinding
    RouteTableShard.validateDestinationAuthority
  split
  · rename_i outside
    simp only [reduceCtorEq, false_iff]
    tauto
  · rename_i inside
    split <;> simp_all

theorem validateSnapshot_eq_ok_iff {snapshot : BindingSnapshot} :
    shard.validateSnapshot key snapshot = .ok () ↔
      ∀ identity binding, snapshot.entries.get identity = some binding →
        shard.validateBinding key binding = .ok () := by
  unfold RouteTableShard.validateSnapshot
  rw [forM_eq_ok_iff]
  simp only [mem_orderedValues, forall_exists_index]
  exact ⟨fun valid identity binding found => valid binding identity found,
    fun valid binding identity found => valid identity binding found⟩

/-! ## The projected list -/

theorem shardId_of_projectShard {entry : ShardId × List BindingProjection}
    {projected : ProjectedShardSnapshot} (outcome : projectShard entry = .ok projected) :
    projected.shardId = entry.1 := by
  unfold projectShard at outcome
  split at outcome
  · cases outcome
    rfl
  · split at outcome
    · cases outcome
    · cases outcome
      rfl

/-- The final pass succeeds when every shard does, and answers shard by shard. -/
theorem mapM_projectShard {entries : List (ShardId × List BindingProjection)}
    (projects : ∀ entry ∈ entries, ∃ projected, projectShard entry = .ok projected) :
    ∃ final, entries.mapM projectShard = .ok final ∧
      final.map ProjectedShardSnapshot.shardId = entries.map Prod.fst ∧
      ∀ projected ∈ final, ∃ entry ∈ entries, projectShard entry = .ok projected := by
  induction entries with
  | nil => exact ⟨[], rfl, rfl, fun _ member => absurd member List.not_mem_nil⟩
  | cons entry entries ih =>
    obtain ⟨projected, first⟩ := projects entry List.mem_cons_self
    obtain ⟨final, rest, order, origin⟩ :=
      ih fun other member => projects other (List.mem_cons_of_mem _ member)
    refine ⟨projected :: final, ?_, ?_, ?_⟩
    · rw [List.mapM_cons, first, rest]
      rfl
    · rw [List.map_cons, List.map_cons, order, shardId_of_projectShard first]
    · intro other member
      rcases List.mem_cons.mp member with rfl | later
      · exact ⟨entry, List.mem_cons_self, first⟩
      · obtain ⟨source, listed, outcome⟩ := origin other later
        exact ⟨source, List.mem_cons_of_mem _ listed, outcome⟩

/-- The shard's snapshot has the binding. -/
def ProjectedShardSnapshot.Carries (projected : ProjectedShardSnapshot)
    (binding : BindingProjection) : Prop :=
  ∃ snapshot, projected.snapshot = some snapshot ∧
    snapshot.entries.get binding.identity = some binding

section Session

variable {registry : LocalRegistry} {gatewayId : GatewayId}
variable {gatewayLocator : GatewayLocator} {sessionId : SessionId}
variable {directory : ShardDirectory} {shardId : ShardId} (filed : registry.Filed)
include filed

theorem nodup_identity_shardProjections :
    ((shardProjections directory gatewayId gatewayLocator sessionId
      (registry.bindingsForSession sessionId) shardId).map BindingProjection.identity).Nodup := by
  unfold shardProjections
  rw [List.map_map]
  apply ((filed.nodup_bindingsForSession sessionId).filter _).map_on
  intro first firstMember second secondMember same
  have firstStored := filed.mem_bindingsForSession.mp
    (List.mem_filter.mp firstMember).1
  have secondStored := filed.mem_bindingsForSession.mp
    (List.mem_filter.mp secondMember).1
  have sameId : first.id = second.id := congrArg BindingIdentity.bindingId same
  rw [sameId] at firstStored
  exact Option.some.inj (firstStored.1.symm.trans secondStored.1)

theorem nodup_destination_shardProjections :
    ((shardProjections directory gatewayId gatewayLocator sessionId
      (registry.bindingsForSession sessionId) shardId).map
        BindingProjection.sessionDestination).Nodup := by
  unfold shardProjections
  rw [List.map_map]
  apply ((filed.nodup_bindingsForSession sessionId).filter _).map_on
  intro first firstMember second secondMember same
  obtain ⟨firstStored, firstOwner⟩ := filed.mem_bindingsForSession.mp
    (List.mem_filter.mp firstMember).1
  obtain ⟨secondStored, secondOwner⟩ := filed.mem_bindingsForSession.mp
    (List.mem_filter.mp secondMember).1
  exact filed.single first second firstStored secondStored
    (firstOwner.trans secondOwner.symm)
    (congrArg (fun scope => scope.2.2) same)

/-- The part of a shard is empty, or is a snapshot of exactly its projections. -/
theorem projectShard_of_filed :
    ∃ projected, projectShard (shardId, shardProjections directory gatewayId
        gatewayLocator sessionId (registry.bindingsForSession sessionId)
        shardId) = .ok projected ∧
      (∀ snapshot, projected.snapshot = some snapshot →
        BindingSnapshot.new (shardProjections directory gatewayId gatewayLocator
          sessionId (registry.bindingsForSession sessionId) shardId) =
          .ok snapshot) ∧
      ∀ binding, projected.Carries binding ↔
        binding ∈ shardProjections directory gatewayId gatewayLocator sessionId
          (registry.bindingsForSession sessionId) shardId := by
  unfold projectShard
  generalize shape : shardProjections directory gatewayId gatewayLocator sessionId
    (registry.bindingsForSession sessionId) shardId = entries
  cases entries with
  | nil =>
    refine ⟨⟨shardId, none⟩, rfl, fun _ absent => (nomatch absent), ?_⟩
    intro binding
    simp [ProjectedShardSnapshot.Carries]
  | cons first rest =>
    obtain ⟨snapshot, outcome, stored⟩ := new_of_distinct
      (List.cons_ne_nil first rest)
      (shape ▸ nodup_identity_shardProjections filed)
      (shape ▸ nodup_destination_shardProjections filed)
    refine ⟨⟨shardId, some snapshot⟩, ?_, ?_, ?_⟩
    · rw [outcome]
      rfl
    · intro other same
      cases same
      exact outcome
    · intro binding
      simp [ProjectedShardSnapshot.Carries, stored]

/-- The projection of a filed registry names every shard of the directory once,
each with its own part. -/
theorem projectSession_of_filed (directory : ShardDirectory) (gatewayId : GatewayId)
    (gatewayLocator : GatewayLocator) (sessionId : SessionId) :
    ∃ final, projectSession directory gatewayId gatewayLocator sessionId
        (registry.bindingsForSession sessionId) = .ok final ∧
      (final.map ProjectedShardSnapshot.shardId).Perm (directory.shards.map ShardRecord.id) ∧
      ∀ projected ∈ final, projectShard (projected.shardId,
        shardProjections directory gatewayId gatewayLocator sessionId
          (registry.bindingsForSession sessionId) projected.shardId) =
        .ok projected := by
  have own : ∀ binding ∈ registry.bindingsForSession sessionId,
      binding.sessionId = sessionId :=
    fun binding member => (filed.mem_bindingsForSession.mp member).2
  have known : ∀ shardId ∈ directory.shards.map ShardRecord.id,
      ∃ entries, (emptyShards directory.shards).get shardId = some entries := by
    intro shardId listed
    exact ⟨[], by rw [get_emptyShards, if_pos listed]⟩
  obtain ⟨collected, outcome, stored⟩ := collectShards_eq_ok gatewayId gatewayLocator own known
  have parts : ∀ shardId entries, collected.get shardId = some entries ↔
      shardId ∈ directory.shards.map ShardRecord.id ∧
        shardProjections directory gatewayId gatewayLocator sessionId
          (registry.bindingsForSession sessionId) shardId = entries := by
    intro shardId entries
    rw [stored, get_emptyShards]
    split <;> simp_all
  have part_of_mem : ∀ entry ∈ collected.toList.insertionSort
      (fun first second => first.1.value ≤ second.1.value),
        entry.2 = shardProjections directory gatewayId gatewayLocator sessionId
          (registry.bindingsForSession sessionId) entry.1 := by
    intro entry member
    have found := mem_toList.mp ((List.mem_insertionSort _).mp member)
    exact ((parts _ _).mp found).2.symm
  have every : ∀ entry ∈ collected.toList.insertionSort
      (fun first second => first.1.value ≤ second.1.value),
        ∃ projected, projectShard entry = .ok projected := by
    intro entry member
    obtain ⟨projected, projects, -⟩ := projectShard_of_filed filed
    refine ⟨projected, ?_⟩
    rw [← projects, ← part_of_mem entry member]
  obtain ⟨final, pass, order, origin⟩ := mapM_projectShard every
  refine ⟨final, ?_, ?_, ?_⟩
  · unfold projectSession
    rw [outcome]
    exact pass
  · rw [order]
    refine ((List.perm_insertionSort _ _).map Prod.fst).trans ?_
    apply (List.perm_ext_iff_of_nodup collected.nodup_keys directory.distinct).mpr
    intro shardId
    rw [mem_keys]
    simp [parts]
  · intro projected member
    obtain ⟨entry, listed, projects⟩ := origin projected member
    rw [shardId_of_projectShard projects, ← part_of_mem entry listed]
    exact projects

end Session

/-! ## Agreement with the shards -/

/-- A session is projected without a failure: every shard of the directory is
named once, a binding is in the snapshot of the authority of its destination and
in no other, and a snapshot passes the checks of the shard it is for and of no
other. -/
structure Projects (directory : ShardDirectory) (gatewayId : GatewayId)
    (gatewayLocator : GatewayLocator) (sessionId : SessionId)
    (bindings : List Binding) (final : List ProjectedShardSnapshot) : Prop where
  outcome : projectSession directory gatewayId gatewayLocator sessionId bindings =
    .ok final
  shards : (final.map ProjectedShardSnapshot.shardId).Perm
    (directory.shards.map ShardRecord.id)
  placed : ∀ binding ∈ bindings, ∀ projected ∈ final,
    projected.Carries (projectBinding gatewayId gatewayLocator sessionId binding) ↔
      projected.shardId = (directory.authority binding.destination).id
  complete : ∀ projected ∈ final, ∀ snapshot,
    projected.snapshot = some snapshot →
      BindingSnapshot.new (shardProjections directory gatewayId gatewayLocator
        sessionId bindings projected.shardId) = .ok snapshot
  accepted : ∀ projected ∈ final, ∀ snapshot,
    projected.snapshot = some snapshot →
      ∀ shard : RouteTableShard, shard.directory = directory →
        ∀ key : RegistrationKey, key.gatewayId = gatewayId →
          key.relaySessionId = projectSessionId sessionId →
            (shard.validateSnapshot key snapshot = .ok () ↔
              shard.shardId = projected.shardId)

theorem mem_shardProjections {directory : ShardDirectory} {gatewayId : GatewayId}
    {gatewayLocator : GatewayLocator} {sessionId : SessionId}
    {bindings : List Binding} {shardId : ShardId} {projection : BindingProjection} :
    projection ∈ shardProjections directory gatewayId gatewayLocator sessionId
        bindings shardId ↔
      ∃ binding ∈ bindings,
        (directory.authority binding.destination).id = shardId ∧
        projectBinding gatewayId gatewayLocator sessionId binding = projection := by
  unfold shardProjections
  simp [and_assoc]

theorem projects_of_filed {registry : LocalRegistry} (filed : registry.Filed)
    (directory : ShardDirectory) (gatewayId : GatewayId)
    (gatewayLocator : GatewayLocator) (sessionId : SessionId) :
    ∃ final, Projects directory gatewayId gatewayLocator sessionId
      (registry.bindingsForSession sessionId) final := by
  obtain ⟨final, outcome, shards, parts⟩ := projectSession_of_filed filed directory
    gatewayId gatewayLocator sessionId
  have part : ∀ projected ∈ final,
      (∀ snapshot, projected.snapshot = some snapshot →
        BindingSnapshot.new (shardProjections directory gatewayId gatewayLocator
          sessionId (registry.bindingsForSession sessionId) projected.shardId) =
          .ok snapshot) ∧
      ∀ binding, projected.Carries binding ↔
        binding ∈ shardProjections directory gatewayId gatewayLocator sessionId
          (registry.bindingsForSession sessionId) projected.shardId := by
    intro projected member
    obtain ⟨other, projects, complete, carries⟩ := projectShard_of_filed filed
    obtain rfl := Except.ok.inj (projects.symm.trans (parts projected member))
    exact ⟨complete, carries⟩
  refine ⟨final, outcome, shards, ?_, fun projected member =>
    (part projected member).1, ?_⟩
  · intro binding listed projected member
    rw [(part projected member).2, mem_shardProjections]
    constructor
    · rintro ⟨other, otherListed, authority, same⟩
      have sameDestination : other.destination = binding.destination :=
        congrArg BindingProjection.destination same
      rw [← authority, sameDestination]
    · intro authority
      exact ⟨binding, listed, authority.symm, rfl⟩
  · intro projected member snapshot carried shard sameDirectory key sameGateway
      sameSession
    have checked : ∀ identity projection,
        snapshot.entries.get identity = some projection →
          (shard.validateBinding key projection = .ok () ↔
            shard.shardId = projected.shardId) := by
      intro identity projection found
      have keyed := snapshot.keyed identity projection found
      obtain ⟨binding, -, authority, rfl⟩ := mem_shardProjections.mp
        (((part projected member).2 projection).mp ⟨snapshot, carried, keyed ▸ found⟩)
      rw [validateBinding_eq_ok_iff, sameDirectory, sameGateway, sameSession]
      change (_ ∧ _) ∧ (directory.authority binding.destination).id = _ ↔ _
      rw [authority]
      exact ⟨fun valid => valid.2.symm, fun same => ⟨⟨rfl, rfl⟩, same.symm⟩⟩
    rw [validateSnapshot_eq_ok_iff]
    constructor
    · intro valid
      obtain ⟨identity, projection, found⟩ :=
        BucketIndex.isEmpty_eq_false_iff.mp snapshot.nonempty
      exact (checked identity projection found).mp
        (valid identity projection found)
    · intro same identity projection found
      exact (checked identity projection found).mpr same

/-! ## Results -/

/-- In every state of every run, the bindings the registry lists for a session are
projected without a failure, each to the authority of its destination, and every
snapshot is accepted by the shard it is for and by no other. -/
theorem session_projection_is_accepted
    {Condition : World → Gateway.Event → Prop} {limits : Gateway.GatewayLimits}
    {localId : Option GatewayId} {start : Instant} {events : List Gateway.Event}
    {world : World}
    (run : Execution (World.Step Condition) (World.initial limits localId start)
      events world)
    (directory : ShardDirectory) (gatewayId : GatewayId)
    (gatewayLocator : GatewayLocator) (sessionId : SessionId) :
    ∃ final, Projects directory gatewayId gatewayLocator sessionId
      (world.state.registry.bindingsForSession sessionId) final :=
  projects_of_filed (World.hosted_of_execution run).filed directory gatewayId
    gatewayLocator sessionId

namespace TwoShards

/-- Two shards; the hash of a destination is the length of its key. -/
def directory : ShardDirectory where
  generation := ⟨0⟩
  shards := [⟨⟨"a", by decide⟩⟩, ⟨⟨"b", by decide⟩⟩]
  nonempty := by decide
  distinct := by decide
  sha256Prefix := List.length

def locator : GatewayLocator := ⟨"gateway:1", by decide⟩

/-- The destination `a/bc`. -/
def longer : Destination := ⟨⟨[97], validateNamespace_a⟩, ⟨[98, 99], rfl⟩⟩

open Gateway.World.Scenario

/-- The listener publishes this destination too. -/
def both : List Gateway.Event :=
  publishing ++ [.prepare listener (.publish 2 longer) 0] ++
    [.commit listener (.publish 2 longer) ⟨longer, .publish, 10⟩ bindingDraws 0]

theorem execution_both : Execution (World.Step fun _ _ => True)
    (World.initial limits (some ⟨1⟩) 0) both (after both) :=
  extend (extend (execution_publishing _ fun _ _ _ => trivial) (.prepare ..) trivial trivial)
    (.commit ..) (by change _ ∈ World.authorizing _; decide) trivial

end TwoShards

open Gateway.World.Scenario TwoShards in
/-- The published bindings of the scenario go to different shards. -/
theorem projection_of_published_bindings :
    (after both).state.registry.bindingsForSession listener =
        [⟨⟨0⟩, destination, listener⟩, ⟨⟨1⟩, longer, listener⟩] ∧
      directory.authority destination ≠ directory.authority longer ∧
      ∃ final, Projects directory ⟨1⟩ locator listener
        ((after both).state.registry.bindingsForSession listener) final :=
  ⟨by decide, by decide, session_projection_is_accepted execution_both _ _ _ _⟩

end RelayGate.Routing
