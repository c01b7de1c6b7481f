import RelayGate.Gateway.Parts

/-!
# What the outside knows of the registry

A registration publication replaces the whole list of a session's bindings.  An
observer that keeps the last list of every session always has the registry's own
list, or the empty one when the Gateway is draining or the session is gone.
-/

namespace RelayGate.Gateway

open Library GatewayState LocalRegistry

variable {event : Event} {sessionId : SessionId}

/-! ## The list of a session -/

namespace LocalRegistry

variable {registry target : LocalRegistry} {sessionId : SessionId}

/-- Filed registries with the same bindings of a session list them alike. -/
theorem bindingsForSession_congr (filed : registry.Filed) (after : target.Filed)
    (same : ∀ binding, target.byId.get binding.id = some binding ∧
        binding.sessionId = sessionId ↔
      registry.byId.get binding.id = some binding ∧ binding.sessionId = sessionId) :
    target.bindingsForSession sessionId = registry.bindingsForSession sessionId := by
  have members : ∀ binding, binding ∈ target.bindingsForSession sessionId ↔
      binding ∈ registry.bindingsForSession sessionId := by
    intro binding
    rw [after.mem_bindingsForSession, filed.mem_bindingsForSession, same]
  have sorted : ∀ other : LocalRegistry,
      (other.bindingsForSession sessionId).Pairwise
        fun first second => first.id.uuid ≤ second.id.uuid := by
    intro other
    have total : Std.Total fun first second : Binding =>
        first.id.uuid ≤ second.id.uuid :=
      ⟨fun first second => Nat.le_total _ _⟩
    have transitive : IsTrans Binding fun first second =>
        first.id.uuid ≤ second.id.uuid :=
      ⟨fun _ _ _ => Nat.le_trans⟩
    exact List.pairwise_insertionSort _ _
  have perm := (List.perm_ext_iff_of_nodup
    (after.nodup_bindingsForSession sessionId)
    (filed.nodup_bindingsForSession sessionId)).mpr members
  refine perm.eq_of_pairwise ?_ (sorted target) (sorted registry)
  intro first second listed other below above
  have uuids := Nat.le_antisymm below above
  have identities : first.id = second.id := by
    cases hfirst : first.id
    cases hsecond : second.id
    rw [hfirst, hsecond] at uuids
    exact congrArg BindingId.mk uuids
  have stored := (filed.mem_bindingsForSession.mp ((members first).mp listed)).1
  rw [identities, (filed.mem_bindingsForSession.mp other).1] at stored
  exact (Option.some.inj stored).symm

theorem Filed.bindingsForSession_eq_nil (filed : registry.Filed)
    (unowned : ∀ bindingId binding,
      registry.byId.get bindingId = some binding → binding.sessionId ≠ sessionId) :
    registry.bindingsForSession sessionId = [] := by
  apply List.eq_nil_iff_forall_not_mem.mpr
  intro binding member
  obtain ⟨stored, owner⟩ := filed.mem_bindingsForSession.mp member
  exact unowned _ _ stored owner

/-- Nothing is listed as removed when nothing was there. -/
theorem foldl_removeNext_fst_eq_nil_iff (bindingIds : List BindingId)
    (progress : List Binding × LocalRegistry) :
    (bindingIds.foldl removeNext progress).1 = [] ↔
      progress.1 = [] ∧ ∀ bindingId ∈ bindingIds, progress.2.byId.get bindingId = none := by
  induction bindingIds generalizing progress with
  | nil => simp
  | cons bindingId bindingIds ih =>
    rw [List.foldl_cons, ih]
    cases stored : progress.2.byId.get bindingId with
    | none =>
      have unchanged : removeNext progress bindingId = progress := by
        unfold removeNext remove
        rw [stored]
      simp [unchanged, stored]
    | some =>
      simp [removeNext, remove, stored]

theorem Filed.removeSession_fst_eq_nil_iff (filed : registry.Filed) (sessionId : SessionId) :
    (registry.removeSession sessionId).1 = [] ↔
      ∀ bindingId binding, registry.byId.get bindingId = some binding →
        binding.sessionId ≠ sessionId := by
  unfold LocalRegistry.removeSession
  rw [foldl_removeNext_fst_eq_nil_iff]
  constructor
  · rintro ⟨-, missing⟩ bindingId binding stored owner
    have listed := mem_sessionBindingIds.mpr
      ((filed.listed sessionId bindingId).mpr ⟨binding, stored, owner⟩)
    cases stored.symm.trans (missing bindingId listed)
  · intro unowned
    refine ⟨rfl, ?_⟩
    intro bindingId listed
    obtain ⟨binding, stored, owner⟩ :=
      (filed.listed sessionId bindingId).mp (mem_sessionBindingIds.mp listed)
    exact absurd owner (unowned bindingId binding stored)

end LocalRegistry

/-! ## An observer -/

/-- What an observer of the publications believes of a session: the last list. -/
def remembered (sessionId : SessionId) (believed : List Binding)
    (published : List Publication) : List Binding :=
  published.foldl (fun current publication =>
    if publication.1 = sessionId then publication.2 else current) believed

section

variable (sessionId : SessionId) (believed : List Binding)

@[simp]
theorem remembered_append (first second : List Publication) :
    remembered sessionId believed (first ++ second) =
      remembered sessionId (remembered sessionId believed first) second :=
  List.foldl_append

@[simp]
theorem remembered_singleton (sessionId other : SessionId) (believed bindings : List Binding) :
    remembered sessionId believed [(other, bindings)] =
      if other = sessionId then bindings else believed :=
  rfl

theorem remembered_withdrawn (sessionIds : List SessionId) :
    remembered sessionId believed
        (sessionIds.map fun other => (other, ([] : List Binding))) =
      if sessionId ∈ sessionIds then [] else believed := by
  induction sessionIds generalizing believed with
  | nil => rfl
  | cons other sessionIds ih =>
    have first : remembered sessionId believed
        ((other, ([] : List Binding)) ::
          sessionIds.map fun other => (other, ([] : List Binding))) =
        remembered sessionId (if other = sessionId then [] else believed)
          (sessionIds.map fun other => (other, ([] : List Binding))) := rfl
    rw [List.map_cons, first, ih]
    by_cases here : other = sessionId
    · simp [here]
    · simp [here, Ne.symm here]

end

/-! ## What a part does to the registry -/

/-- The registry is filed and every binding belongs to a live session. -/
structure GatewayState.Hosted (state : GatewayState) : Prop where
  filed : state.registry.Filed
  owned : state.registry.Owned state.HasSession

/-- The event applies a PUBLISH. -/
def Event.Registers (event : Event) : Prop :=
  ∃ sessionId requestId destination,
    event.Applies sessionId (.publish requestId destination)

theorem Event.session?_of_applies
    {operation : ControlOperation} (applies : event.Applies sessionId operation) :
    event.session? = some sessionId := by
  cases event with
  | commit | handleAt =>
    obtain ⟨rfl, -⟩ := applies
    rfl
  | _ => cases applies

theorem Event.not_registers_of_outside (outside : event.session? = none) : ¬ event.Registers := by
  rintro ⟨sessionId, requestId, destination, applies⟩
  cases outside.symm.trans (Event.session?_of_applies applies)

theorem Event.not_registers_of_unpublish {requestId : Nat} {bindingId : BindingId}
    (sent : event.frame? = some (sessionId, .unpublish requestId bindingId)) :
    ¬ event.Registers := by
  rintro ⟨other, number, destination, applies⟩
  cases event with
  | handleAt =>
    cases sent
    obtain ⟨-, token, taken⟩ := applies
    cases taken
  | handle => cases applies
  | _ => cases sent

/-- How a part changes the stored bindings, and what it publishes. -/
inductive Republished (event : Event) (state target : GatewayState) :
    List Publication → Prop
  | unchanged
      (bindings : ∀ key,
        target.registry.byId.get key = state.registry.byId.get key)
      (draining : target.draining = state.draining) :
      Republished event state target []
  | created (binding : Binding) (registers : event.Registers)
      (asked : event.session? = some binding.sessionId)
      (new : state.registry.byId.get binding.id = none)
      (bindings : target.registry.byId =
        state.registry.byId.insert binding.id binding)
      (draining : target.draining = state.draining) :
      Republished event state target
        [(binding.sessionId, target.advertised binding.sessionId)]
  | withdrawn {sessionId : SessionId} (gone : Binding → Prop)
      (removes : ¬ event.Registers)
      (own : ∀ sender, event.session? = some sender → sender = sessionId)
      (some_gone : ∃ binding, state.registry.byId.get binding.id = some binding ∧
        gone binding)
      (owner : ∀ binding, gone binding → binding.sessionId = sessionId)
      (bindings : ∀ key binding, target.registry.byId.get key = some binding ↔
        state.registry.byId.get key = some binding ∧ ¬ gone binding)
      (draining : target.draining = state.draining) :
      Republished event state target
        [(sessionId, target.advertised sessionId)]
  | drained (removes : ¬ event.Registers) (outside : event.session? = none)
      (registry : target.registry = state.registry)
      (serving : state.draining = false) (draining : target.draining = true) :
      Republished event state target
        (state.sessions.keys.map fun sessionId => (sessionId, []))

namespace GatewayState

variable (state : GatewayState) (pipeId : PipeId) (pipe : PipeEntry)

@[simp]
theorem draining_removePipe : (state.removePipe pipeId).2.draining = state.draining := by
  unfold removePipe
  split <;> rfl

@[simp]
theorem draining_promoteOffer : (state.promoteOffer pipeId).2.draining = state.draining := by
  unfold promoteOffer
  split
  · rfl
  · split <;> rfl

@[simp]
theorem draining_takeRemoteAttempt (openIdentity : OpenIdentity) :
    (state.takeRemoteAttempt openIdentity).2.draining = state.draining := by
  unfold takeRemoteAttempt
  split <;> rfl

theorem draining_indexPeerPipe : (state.indexPeerPipe pipeId pipe).draining = state.draining := by
  unfold indexPeerPipe
  split <;> rfl

@[simp]
theorem draining_insertOffer : (state.insertOffer pipeId pipe).draining = state.draining :=
  state.draining_indexPeerPipe pipeId pipe

@[simp]
theorem draining_insertOpen : (state.insertOpen pipeId pipe).draining = state.draining :=
  state.draining_indexPeerPipe pipeId pipe

end GatewayState

section Parts

variable {sessionId : SessionId} {event : Event} {state target : GatewayState}
  {published : List Publication}

/-- A part that leaves the registry and the drain flag alone. -/
theorem Republished.untouched (registry : target.registry = state.registry)
    (draining : target.draining = state.draining) : Republished event state target [] :=
  .unchanged (fun key => by rw [registry]) draining

theorem GatewayState.removeOwned_eq_remove {registry rest : LocalRegistry}
    {bindingId : BindingId} {binding : Binding}
    (removed : registry.removeOwned sessionId bindingId = (some binding, rest)) :
    rest = (registry.remove bindingId).2 := by
  obtain ⟨stored, owner⟩ := removeOwned_eq_some removed
  unfold LocalRegistry.removeOwned at removed
  simp only [stored, owner, ne_eq, not_true_eq_false, if_false] at removed
  rw [removed]

theorem Part.republished (hosted : state.Hosted) (part : Part event state published target) :
    Republished event state target published := by
  cases part with
  | removed | finished | promoted | offered | offeredPeer | relocated | admitted
  | started | asked | awaited | dropped | joined | noted =>
    exact .untouched (by simp [GatewayState.startAttempt, GatewayState.startPeer,
      GatewayState.awaitPeer]) (by simp [GatewayState.startAttempt,
      GatewayState.startPeer, GatewayState.awaitPeer])
  | registered draws applies present room created =>
    obtain ⟨-, rfl, rfl⟩ := register_eq_created created
    have unused := draws.unique_notMem state.registry.byId.keys.toFinset
    rw [List.mem_toFinset, Table.mem_keys, not_exists] at unused
    exact Republished.created ⟨_, _, _⟩ ⟨_, _, _, applies⟩
      (Event.session?_of_applies applies)
      (Option.eq_none_iff_forall_ne_some.mpr unused) (by rfl) (by rfl)
  | @unregistered sessionId requestId bindingId binding registry sent removed =>
    obtain ⟨stored, owner⟩ := removeOwned_eq_some removed
    have keyed := hosted.filed.keyed _ _ stored
    have rest := removeOwned_eq_remove removed
    subst rest
    apply Republished.withdrawn (fun other => other = binding)
      (Event.not_registers_of_unpublish sent)
    · intro sender asks
      exact Option.some.inj (asks.symm.trans (Event.session?_of_frame? sent))
    · exact ⟨binding, by rwa [keyed], rfl⟩
    · rintro other rfl
      exact owner
    · intro key other
      rw [get_byId_remove_eq_some_iff, and_comm]
      apply and_congr_right
      intro found
      rw [not_iff_not]
      constructor
      · rintro rfl
        exact Option.some.inj (found.symm.trans stored)
      · rintro rfl
        exact (hosted.filed.keyed _ _ found).symm.trans keyed
    · rfl
  | lapsed stored gone => exact absurd (hosted.owned _ _ stored).1 gone
  | selected =>
    exact .unchanged (fun key => by simp) rfl
  | left sessionId outside =>
    have removal := hosted.filed.get_byId_removeSession sessionId
    split
    next some_removed =>
      have owns : ¬ ∀ bindingId binding,
          state.registry.byId.get bindingId = some binding →
            binding.sessionId ≠ sessionId := by
        rw [← hosted.filed.removeSession_fst_eq_nil_iff]
        exact List.ne_nil_of_length_pos some_removed
      simp only [not_forall, not_not] at owns
      obtain ⟨bindingId, binding, stored, owner⟩ := owns
      apply Republished.withdrawn (fun other => other.sessionId = sessionId)
        (Event.not_registers_of_outside outside)
      · intro sender asks
        cases outside.symm.trans asks
      · exact ⟨binding, by rwa [hosted.filed.keyed _ _ stored], owner⟩
      · exact fun _ same => same
      · intro key other
        rw [removal, Option.filter_eq_some_iff, decide_eq_true_eq]
      · rfl
    next none_removed =>
      have unowned := (hosted.filed.removeSession_fst_eq_nil_iff sessionId).mp
        (List.eq_nil_of_length_eq_zero (Nat.eq_zero_of_not_pos none_removed))
      apply Republished.unchanged
      · intro key
        rw [removal]
        cases stored : state.registry.byId.get key with
        | none => rfl
        | some binding => simp [unowned key binding stored]
      · rfl
  | drained drains serving =>
    subst drains
    exact .drained (Event.not_registers_of_outside rfl) rfl rfl serving rfl
  | rehashed same => exact .unchanged same.byId same.draining

theorem GatewayState.Hosted.of_eq (hosted : state.Hosted)
    (registry : target.registry = state.registry)
    (sessions : ∀ sessionId, state.HasSession sessionId →
      target.HasSession sessionId) : target.Hosted := by
  refine ⟨registry ▸ hosted.filed, ?_⟩
  rw [registry]
  exact hosted.owned.imp fun _ _ stored =>
    sessions _ (hosted.owned _ _ stored).1

theorem GatewayState.hasSession_insert {other : SessionId} {entry : SessionEntry}
    (sessions : target.sessions = state.sessions.insert other entry)
    (present : state.HasSession sessionId) : target.HasSession sessionId := by
  obtain ⟨session, found⟩ := present
  unfold HasSession
  rw [sessions, Table.get_insert]
  split
  · exact ⟨entry, rfl⟩
  · exact ⟨session, found⟩

theorem Part.hosted (hosted : state.Hosted)
    (part : Part event state published target) : target.Hosted := by
  cases part with
  | finished | started | asked | awaited =>
    exact hosted.of_eq rfl fun _ present => present
  | promoted pipeId =>
    refine hosted.of_eq (by simp) fun sessionId present => ?_
    unfold GatewayState.HasSession
    rwa [(state.keeps_promoteOffer pipeId).sessions]
  | removed | offered | offeredPeer | relocated | admitted | dropped =>
    refine hosted.of_eq (by simp) fun _ present => ?_
    simpa [GatewayState.HasSession] using present
  | @registered sessionId _ destination _ _ draws applies present room created =>
    have filed := hosted.filed.register draws sessionId destination
    have owned := hosted.owned.register draws present destination
    rw [created] at filed owned
    exact ⟨filed, owned⟩
  | @unregistered sessionId _ bindingId _ _ sent removed =>
    have filed := hosted.filed.removeOwned sessionId bindingId
    have owned := hosted.owned.removeOwned sessionId bindingId
    rw [removed] at filed owned
    exact ⟨filed, owned⟩
  | lapsed stored gone => exact absurd (hosted.owned _ _ stored).1 gone
  | selected destination excluded =>
    exact ⟨hosted.filed.evolves
        (LocalRegistry.Evolves.refl.select destination excluded),
      hosted.owned.selectExcluding destination excluded⟩
  | joined | noted =>
    exact hosted.of_eq rfl fun _ => hasSession_insert rfl
  | left sessionId =>
    refine ⟨hosted.filed.removeSession sessionId, ?_⟩
    have owned := hosted.owned.removeSession sessionId
    apply owned.imp
    intro bindingId binding stored
    obtain ⟨⟨⟨session, found⟩, other⟩, -⟩ := owned _ _ stored
    exact ⟨session, (Table.get_remove_of_ne _ other).trans found⟩
  | drained => exact hosted.of_eq rfl fun _ present => present
  | rehashed same =>
    refine ⟨hosted.filed.congr same.byId same.byDestination same.bySession, ?_⟩
    intro bindingId binding stored
    rw [same.byId] at stored
    obtain ⟨⟨session, found⟩, filed⟩ := hosted.owned _ _ stored
    exact ⟨⟨session, (same.sessions _).trans found⟩, (same.bySession _ _).trans filed⟩

theorem GatewayState.advertised_congr (draining : target.draining = state.draining)
    (bindings : target.registry.bindingsForSession sessionId =
      state.registry.bindingsForSession sessionId) :
    target.advertised sessionId = state.advertised sessionId := by
  unfold advertised
  rw [draining, bindings]

/-- An observer that knows the state before a part knows the state after it. -/
theorem Republished.follows (hosted : state.Hosted) (after : target.Hosted)
    (republished : Republished event state target published) (sessionId : SessionId) :
    remembered sessionId (state.advertised sessionId) published =
      target.advertised sessionId := by
  cases republished with
  | unchanged bindings draining =>
    apply Eq.symm
    apply advertised_congr draining
    apply bindingsForSession_congr hosted.filed after.filed
    intro binding
    rw [bindings]
  | created binding registers asked new bindings draining =>
    rw [remembered_singleton]
    split
    next own => rw [own]
    next other =>
      apply Eq.symm
      apply advertised_congr draining
      apply bindingsForSession_congr hosted.filed after.filed
      intro found
      apply and_congr_left
      rintro rfl
      rw [bindings, Table.get_insert_eq_some_iff]
      constructor
      · rintro (⟨-, rfl⟩ | ⟨-, old⟩)
        · exact absurd rfl other
        · exact old
      · intro old
        refine Or.inr ⟨?_, old⟩
        intro same
        rw [same, new] at old
        cases old
  | withdrawn gone removes own some_gone owner bindings draining =>
    rw [remembered_singleton]
    split
    next same => rw [same]
    next other =>
      apply Eq.symm
      apply advertised_congr draining
      apply bindingsForSession_congr hosted.filed after.filed
      intro found
      apply and_congr_left
      rintro rfl
      rw [bindings]
      apply and_iff_left
      intro removed
      exact other (owner found removed).symm
  | drained removes outside registry serving draining =>
    rw [remembered_withdrawn]
    unfold GatewayState.advertised
    rw [draining, serving]
    split
    next => rfl
    next absent =>
      apply hosted.filed.bindingsForSession_eq_nil
      rintro bindingId binding stored rfl
      exact absent (Table.mem_keys.mpr (hosted.owned _ _ stored).1)

/-! ## Publications come with changes -/

/-- A sequence of parts either only adds bindings or only takes them away, and what
it publishes for a session it has changed. -/
structure Changed (event : Event) (state target : GatewayState)
    (published : List Publication) : Prop where
  grows : event.Registers → ∀ binding,
    state.registry.byId.get binding.id = some binding →
      target.registry.byId.get binding.id = some binding
  shrinks : ¬ event.Registers → ∀ binding,
    target.registry.byId.get binding.id = some binding →
      state.registry.byId.get binding.id = some binding
  drains : state.draining = true → target.draining = true
  added : event.Registers → ∀ publication ∈ published, ∃ binding,
    binding.sessionId = publication.1 ∧
      target.registry.byId.get binding.id = some binding ∧
      state.registry.byId.get binding.id ≠ some binding
  taken : ¬ event.Registers → ∀ publication ∈ published,
    (∃ binding, binding.sessionId = publication.1 ∧
      state.registry.byId.get binding.id = some binding ∧
      target.registry.byId.get binding.id ≠ some binding) ∨
    state.draining = false ∧ target.draining = true
  own : ∀ publication ∈ published, ∀ sender,
    event.session? = some sender → sender = publication.1

theorem Changed.refl (event : Event) (state : GatewayState) : Changed event state state [] where
  grows _ _ := id
  shrinks _ _ := id
  drains := id
  added _ _ member := nomatch member
  taken _ _ member := nomatch member
  own _ member := nomatch member

theorem Changed.trans {middle : GatewayState} {first second : List Publication}
    (before : Changed event state middle first) (after : Changed event middle target second) :
    Changed event state target (first ++ second) where
  grows registers binding stored :=
    after.grows registers binding (before.grows registers binding stored)
  shrinks removes binding stored :=
    before.shrinks removes binding (after.shrinks removes binding stored)
  drains draining := after.drains (before.drains draining)
  added := by
    intro registers publication member
    rcases List.mem_append.mp member with earlier | later
    · obtain ⟨binding, owner, stored, new⟩ :=
        before.added registers publication earlier
      exact ⟨binding, owner, after.grows registers binding stored, new⟩
    · obtain ⟨binding, owner, stored, new⟩ :=
        after.added registers publication later
      exact ⟨binding, owner, stored, fun old =>
        new (before.grows registers binding old)⟩
  taken := by
    intro removes publication member
    rcases List.mem_append.mp member with earlier | later
    · rcases before.taken removes publication earlier with
        ⟨binding, owner, stored, gone⟩ | ⟨serving, draining⟩
      · exact Or.inl ⟨binding, owner, stored, fun kept =>
          gone (after.shrinks removes binding kept)⟩
      · exact Or.inr ⟨serving, after.drains draining⟩
    · rcases after.taken removes publication later with
        ⟨binding, owner, stored, gone⟩ | ⟨serving, draining⟩
      · exact Or.inl ⟨binding, owner, before.shrinks removes binding stored, gone⟩
      · refine Or.inr ⟨?_, draining⟩
        cases earlier : state.draining with
        | false => rfl
        | true => exact (before.drains earlier).symm.trans serving
  own := by
    intro publication member
    rcases List.mem_append.mp member with earlier | later
    · exact before.own publication earlier
    · exact after.own publication later

theorem Republished.changed (republished : Republished event state target published) :
    Changed event state target published := by
  cases republished with
  | unchanged bindings draining =>
    constructor
    · intro _ binding stored
      rwa [bindings]
    · intro _ binding stored
      rwa [bindings] at stored
    · intro drains
      rwa [draining]
    · nofun
    · nofun
    · nofun
  | created binding registers asked new bindings draining =>
    have stored : target.registry.byId.get binding.id = some binding := by
      rw [bindings, Table.get_insert_self]
    constructor
    · intro _ other found
      rw [bindings, Table.get_insert_of_ne _ _ ?_]
      · exact found
      · intro same
        rw [same, new] at found
        cases found
    · exact fun removes => absurd registers removes
    · intro drains
      rwa [draining]
    · intro _ publication member
      rw [List.mem_singleton.mp member]
      exact ⟨binding, rfl, stored, by simp [new]⟩
    · exact fun removes => absurd registers removes
    · intro publication member sender asks
      rw [List.mem_singleton.mp member]
      exact Option.some.inj (asks.symm.trans asked)
  | withdrawn gone removes own some_gone owner bindings draining =>
    constructor
    · exact fun registers => absurd registers removes
    · intro _ binding stored
      exact ((bindings _ _).mp stored).1
    · intro drains
      rwa [draining]
    · exact fun registers => absurd registers removes
    · intro _ publication member
      rw [List.mem_singleton.mp member]
      obtain ⟨binding, stored, removed⟩ := some_gone
      exact Or.inl ⟨binding, owner binding removed, stored, fun kept =>
        ((bindings _ _).mp kept).2 removed⟩
    · intro publication member sender asks
      rw [List.mem_singleton.mp member]
      exact own sender asks
  | drained removes outside registry serving draining =>
    constructor
    · exact fun registers => absurd registers removes
    · intro _ binding stored
      rwa [registry] at stored
    · exact fun _ => draining
    · exact fun registers => absurd registers removes
    · exact fun _ _ _ => Or.inr ⟨serving, draining⟩
    · intro publication _ sender asks
      cases outside.symm.trans asks

/-! ## Events and runs -/

theorem Parts.publicity (parts : Parts event state published target) (hosted : state.Hosted) :
    target.Hosted ∧ Changed event state target published ∧ ∀ sessionId,
      remembered sessionId (state.advertised sessionId) published =
        target.advertised sessionId := by
  induction parts with
  | refl => exact ⟨hosted, .refl event _, fun _ => rfl⟩
  | head part _ ih =>
    have after := part.hosted hosted
    have republished := part.republished hosted
    obtain ⟨final, changed, follows⟩ := ih after
    refine ⟨final, republished.changed.trans changed, ?_⟩
    intro sessionId
    rw [remembered_append, republished.follows hosted after, follows]

end Parts

namespace World

variable {world : World}

theorem hosted_initial (limits : GatewayLimits) (gatewayId : Option GatewayId)
    (now : Instant) : (initial limits gatewayId now).state.Hosted :=
  ⟨filed_empty, owned_empty _⟩

variable {gatewayId : Option GatewayId}

/-- The registry is in order in every state of every run. -/
theorem hosted_of_execution {Condition : World → Event → Prop} {limits : GatewayLimits}
    {start : Instant} {events : List Event}
    (run : Execution (Step Condition) (initial limits gatewayId start) events world) :
    world.state.Hosted := by
  have kept : ∀ (source : World) (event : Event) (target : World),
      source.state.Hosted → Step Condition source event target →
        target.state.Hosted := by
    rintro source event target hosted ⟨possible, -, rfl⟩
    exact ((parts_apply (arranges_of_possible possible)).publicity hosted).1
  exact run.invariant kept (hosted_initial limits gatewayId start)

/-- The publications of a history, in the order in which they were emitted. -/
def emitted (past : List (World × Event)) : List Publication :=
  past.flatMap fun entry => publications (entry.1.actions entry.2)

/-- A session's bindings as the outside should see them: none once the Gateway is
draining or the session is gone. -/
def exposed (world : World) (sessionId : SessionId) : List Binding :=
  if world.state.draining = true ∨ world.state.sessions.get sessionId = none then []
  else world.state.registry.bindingsForSession sessionId

theorem exposed_eq_advertised (hosted : world.state.Hosted) (sessionId : SessionId) :
    world.exposed sessionId = world.state.advertised sessionId := by
  unfold exposed GatewayState.advertised
  by_cases gone : world.state.sessions.get sessionId = none
  · have unowned : world.state.registry.bindingsForSession sessionId = [] := by
      apply hosted.filed.bindingsForSession_eq_nil
      rintro bindingId binding stored rfl
      obtain ⟨session, found⟩ := (hosted.owned _ _ stored).1
      cases gone.symm.trans found
    simp [gone, unowned]
  · simp [gone]

/-- What the publications of a history leave behind, and what they rest on. -/
theorem publicity_of_history {limits : GatewayLimits} {start : Instant}
    {past : List (World × Event)}
    (run : History AnyStep (initial limits gatewayId start) past world) :
    world.state.Hosted ∧ ∀ sessionId,
      remembered sessionId [] (emitted past) = world.state.advertised sessionId := by
  induction run with
  | refl => exact ⟨hosted_initial limits gatewayId start, fun _ => rfl⟩
  | tail _ last ih =>
    obtain ⟨arranges, rfl⟩ := last
    obtain ⟨hosted, _, follows⟩ := (parts_apply arranges).publicity ih.1
    refine ⟨hosted, ?_⟩
    intro sessionId
    simp only [emitted, List.flatMap_append, remembered_append, List.flatMap_singleton]
    have known := ih.2 sessionId
    unfold emitted at known
    rw [known, follows]

/-- In every state of every run: the last publication of each session is the list
of its current bindings, a publication comes with a change of those bindings or of
the drain flag, and the frames of a session publish for that session only. -/
theorem publications_follow_registry {limits : GatewayLimits}
    {gatewayId : Option GatewayId} {start : Instant}
    {past : List (World × Event)} {world : World}
    (run : History AnyStep (initial limits gatewayId start) past world)
    (sessionId : SessionId) :
    remembered sessionId [] (emitted past) = world.exposed sessionId ∧
      ∀ event, world.Arranges event → ∀ bindings,
        .publishRegistration sessionId bindings ∈ world.actions event →
          ((world.apply event).state.registry.bindingsForSession sessionId ≠
              world.state.registry.bindingsForSession sessionId ∨
            (world.apply event).state.draining ≠ world.state.draining) ∧
          ∀ sender, event.session? = some sender → sender = sessionId := by
  obtain ⟨hosted, known⟩ := publicity_of_history run
  refine ⟨(known sessionId).trans (exposed_eq_advertised hosted sessionId).symm, ?_⟩
  intro event arranges bindings sent
  obtain ⟨after, changed, _⟩ := (parts_apply arranges).publicity hosted
  have member := mem_publications.mpr sent
  refine ⟨?_, changed.own _ member⟩
  have differs : ∀ binding : Binding, binding.sessionId = sessionId →
      ¬ (world.state.registry.byId.get binding.id = some binding ↔
        (world.apply event).state.registry.byId.get binding.id = some binding) →
      (world.apply event).state.registry.bindingsForSession sessionId ≠
        world.state.registry.bindingsForSession sessionId := by
    rintro binding rfl different same
    apply different
    have listed : binding ∈ world.state.registry.bindingsForSession
        binding.sessionId ↔ _ := hosted.filed.mem_bindingsForSession
    rw [← same, after.filed.mem_bindingsForSession] at listed
    simpa using listed.symm
  by_cases registers : event.Registers
  · obtain ⟨binding, owner, stored, new⟩ := changed.added registers _ member
    exact Or.inl (differs binding owner fun same => new (same.mpr stored))
  · rcases changed.taken registers _ member with
      ⟨binding, owner, stored, gone⟩ | ⟨serving, draining⟩
    · exact Or.inl (differs binding owner fun same => gone (same.mp stored))
    · right
      rw [serving, draining]
      nofun

namespace Scenario

/-- The listener publishes, then the Gateway drains. -/
def publishingThenDraining : List Event :=
  publishing ++ [.beginDraining]

theorem history_publishing : History AnyStep (World.initial limits (some ⟨1⟩) 0)
    (trail World.apply (World.initial limits (some ⟨1⟩) 0) publishing) (after publishing) :=
  History.of_allowed publishing ⟨trivial, trivial, trivial, trivial, trivial⟩

theorem history_draining : History AnyStep (World.initial limits (some ⟨1⟩) 0)
    (trail World.apply (World.initial limits (some ⟨1⟩) 0) publishingThenDraining)
    (after publishingThenDraining) :=
  History.of_allowed publishingThenDraining
    ⟨trivial, trivial, trivial, trivial, trivial, trivial⟩

end Scenario

open Scenario in
/-- The observer first has the listener's binding, then nothing. -/
theorem publications_until_draining :
    remembered listener [] (emitted
        (trail World.apply (World.initial limits (some ⟨1⟩) 0) publishing)) =
      [⟨⟨0⟩, destination, listener⟩] ∧
    remembered listener [] (emitted
        (trail World.apply (World.initial limits (some ⟨1⟩) 0)
          publishingThenDraining)) = [] :=
  ⟨(publications_follow_registry history_publishing listener).1.trans (by decide),
    (publications_follow_registry history_draining listener).1.trans (by decide)⟩

end World

end RelayGate.Gateway
