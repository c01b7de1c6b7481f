import RelayGate.Peer.Candidates

/-!
# Slots, candidates and transports

Which transport holds which direction slot.  A candidate claims an idle slot, is
admitted to it or gives it back, and a transport that is lost frees it.  As long as
every number announced by a peer is a new one, each number belongs to one slot; a
number that is in use already is accepted all the same, and the second transport
replaces the first.
-/

namespace RelayGate.Peer

open Library PeerPool

namespace Manager

variable {before after manager source target : Manager} {task : HandshakeTask}
  {transportId : PeerTransportId} {remote localGatewayId : GatewayId} {key : PeerSlotKey}
  {event : ManagerEvent}

def slotAt (manager : Manager) (key : PeerSlotKey) : PeerSlotState :=
  manager.pool.slot key.dialer key.acceptor

/-- A handshake in flight works for a slot. -/
def Claims (manager : Manager) (key : PeerSlotKey) (transportId : PeerTransportId) :
    Prop :=
  ∃ task ∈ manager.tasks,
    task.claim? manager.localGatewayId = some (key, transportId)

/-! ## What an event does to the slots -/

/-- The ways in which the slots, the handshakes and the transports change. -/
inductive SlotChange (before after : Manager) : Prop
  | same (slots : ∀ key, after.slotAt key = before.slotAt key)
      (claims : ∀ key number, after.Claims key number ↔ before.Claims key number)
      (transports : after.transports = before.transports)
  | claim (key : PeerSlotKey) (transportId : PeerTransportId)
      (free : before.slotAt key = .idle) (fresh : ¬before.Uses transportId)
      (slots : ∀ other, after.slotAt other =
        if other = key then .connecting transportId else before.slotAt other)
      (claims : ∀ other number, after.Claims other number ↔
        other = key ∧ number = transportId ∨ before.Claims other number)
      (transports : after.transports = before.transports)
  | admission (key : PeerSlotKey) (transportId : PeerTransportId) (remote : GatewayId)
      (between : key = ⟨before.localGatewayId, remote⟩ ∨
        key = ⟨remote, before.localGatewayId⟩)
      (held : before.slotAt key = .connecting transportId)
      (slots : ∀ other, after.slotAt other =
        if other = key then .ready transportId else before.slotAt other)
      (claims : ∀ other number, after.Claims other number ↔
        before.Claims other number ∧ number ≠ transportId)
      (unknown : before.transports.contains transportId = false)
      (transports : after.transports = before.transports.insert transportId remote)
  | drop (transportId : PeerTransportId)
      (slots : ∀ key, after.slotAt key =
        if (before.slotAt key).transportId = some transportId then .idle
        else before.slotAt key)
      (claims : ∀ other number, after.Claims other number ↔
        before.Claims other number ∧ number ≠ transportId)
      (transports : ∀ other, after.transports.get other =
        if other = transportId then none else before.transports.get other)

theorem SlotChange.of_same (pool : after.pool = before.pool)
    (localGatewayId : after.localGatewayId = before.localGatewayId)
    (tasks : after.tasks = before.tasks)
    (transports : after.transports = before.transports) : SlotChange before after :=
  .same (fun key => by rw [slotAt, slotAt, pool])
    (fun key number => by rw [Claims, Claims, tasks, localGatewayId]) transports

theorem SameSlots.slotChange (same : SameSlots before after) : SlotChange before after :=
  .of_same same.pool same.localGatewayId same.tasks same.transports

/-- A change does not depend on the waiting OPENs. -/
theorem SlotChange.congr {middle : Manager}
    (change : SlotChange before middle) (same : SameSlots middle after) :
    SlotChange before after := by
  have slots : ∀ key, after.slotAt key = middle.slotAt key := by
    intro key
    rw [slotAt, slotAt, same.pool]
  have claims : ∀ key number, after.Claims key number ↔ middle.Claims key number := by
    intro key number
    rw [Claims, Claims, same.tasks, same.localGatewayId]
  cases change with
  | same first second third =>
    exact .same (fun key => (slots key).trans (first key))
      (fun key number => (claims key number).trans (second key number))
      (same.transports.trans third)
  | claim key transportId free fresh first second third =>
    exact .claim key transportId free fresh (fun key => (slots key).trans (first key))
      (fun key number => (claims key number).trans (second key number))
      (same.transports.trans third)
  | admission key transportId remote between held first second unknown third =>
    exact .admission key transportId remote between held
      (fun key => (slots key).trans (first key))
      (fun key number => (claims key number).trans (second key number)) unknown
      (same.transports.trans third)
  | drop transportId first second third =>
    exact .drop transportId (fun key => (slots key).trans (first key))
      (fun key number => (claims key number).trans (second key number))
      (fun other => by rw [same.transports]; exact third other)

theorem hello_claim? : HandshakeTask.hello.claim? localGatewayId = none :=
  rfl

theorem reject_claim? : HandshakeTask.reject.claim? localGatewayId = none :=
  rfl

theorem claims_cons_of_none (manager : Manager)
    (none : task.claim? manager.localGatewayId = none) (key : PeerSlotKey)
    (number : PeerTransportId) :
    (∃ other ∈ task :: manager.tasks,
      other.claim? manager.localGatewayId = some (key, number)) ↔
      manager.Claims key number := by
  simp [Claims, none]

theorem claims_taskEnded_of_none (manager : Manager)
    (none : task.claim? manager.localGatewayId = none) (key : PeerSlotKey)
    (number : PeerTransportId) :
    (manager.taskEnded task).Claims key number ↔ manager.Claims key number := by
  constructor
  · rintro ⟨other, member, claims⟩
    exact ⟨other, List.mem_of_mem_erase member, claims⟩
  · rintro ⟨other, member, claims⟩
    refine ⟨other, (List.mem_erase_of_ne ?_).mpr member, claims⟩
    rintro rfl
    rw [none] at claims
    cases claims

/-- The end of a handshake ends the claims of its number. -/
theorem Matched.claims_taskEnded (matched : Matched manager)
    (running : task ∈ manager.tasks) (owns : task.transportId? = some transportId)
    (key : PeerSlotKey) (number : PeerTransportId) :
    (manager.taskEnded task).Claims key number ↔
      manager.Claims key number ∧ number ≠ transportId := by
  constructor
  · rintro ⟨other, member, claims⟩
    refine ⟨⟨other, List.mem_of_mem_erase member, claims⟩, ?_⟩
    rintro rfl
    exact matched.notMem_erase running owns (List.mem_filterMap.mpr
      ⟨other, member, HandshakeTask.transportId?_of_claim? claims⟩)
  · rintro ⟨⟨other, member, claims⟩, different⟩
    refine ⟨other, (List.mem_erase_of_ne ?_).mpr member, claims⟩
    rintro rfl
    rw [HandshakeTask.transportId?_of_claim? claims] at owns
    exact different (Option.some.inj owns)

theorem slotAt_insert (manager : Manager) (key : PeerSlotKey) (state : PeerSlotState)
    (other : PeerSlotKey) :
    (⟨manager.pool.slots.insert key state⟩ : PeerPool).slot other.dialer
        other.acceptor =
      if other = key then state else manager.slotAt other := by
  rw [slot_insert]
  simp only [eq_comm]
  rfl

/-- A candidate that holds its slot is admitted to it. -/
theorem admitEstablished_eq (manager : Manager) (queues : Queues)
    (between : key = ⟨manager.localGatewayId, remote⟩ ∨
      key = ⟨remote, manager.localGatewayId⟩ ∧
        manager.pool.slot manager.localGatewayId remote ≠ .connecting transportId)
    (held : manager.slotAt key = .connecting transportId) :
    manager.admitEstablished ⟨remote, transportId⟩ queues =
      { manager with
        pool := ⟨manager.pool.slots.insert key (.ready transportId)⟩
        transports := manager.transports.insert transportId remote
        }.flushPendingFor remote transportId queues := by
  rcases between with rfl | ⟨rfl, other⟩
  · have ready := ready_eq_ok_iff.mpr ⟨held, rfl⟩
    simp only at ready
    simp only [admitEstablished, ready]
  · have ready := ready_eq_ok_iff.mpr ⟨held, rfl⟩
    simp only at ready
    cases first : manager.pool.ready manager.localGatewayId remote transportId with
    | ok => exact absurd (ready_eq_ok_iff.mp first).1 other
    | error => simp only [admitEstablished, first, ready]

theorem Matched.slotChange_established (matched : Matched source) (running : task ∈ source.tasks)
    (claims : task.claim? source.localGatewayId = some (key, transportId))
    (between : key = ⟨source.localGatewayId, remote⟩ ∨
      key = ⟨remote, source.localGatewayId⟩ ∧
        source.pool.slot source.localGatewayId remote ≠ .connecting transportId)
    (queues : Queues) :
    SlotChange source ((source.taskEnded task).admitEstablished ⟨remote, transportId⟩
      queues).1 := by
  have owns := HandshakeTask.transportId?_of_claim? claims
  have held := matched.held task running key transportId claims
  rw [admitEstablished_eq (source.taskEnded task) queues between held]
  refine SlotChange.congr ?_ (sameSlots_flushPendingFor _ _ _ _)
  exact .admission key transportId remote (between.imp_right And.left) held
    (slotAt_insert source key _) (matched.claims_taskEnded running owns)
    (matched.apart transportId (List.mem_filterMap.mpr ⟨task, running, owns⟩)) rfl

theorem Matched.slotChange_giveUp (matched : Matched source)
    (running : task ∈ source.tasks) (owns : task.transportId? = some transportId)
    (failure : PeerFailure) :
    SlotChange source ({ source.taskEnded task with
      pool := source.pool.removeTransport transportId }.failPendingFor remote
        failure).1 := by
  refine SlotChange.congr ?_ (sameSlots_failPendingFor _ _ _)
  refine .drop transportId (fun key => slot_removeTransport _ _ _ _)
    (matched.claims_taskEnded running owns) ?_
  intro other
  split
  · rename_i same
    have unknown := matched.apart transportId
      (List.mem_filterMap.mpr ⟨task, running, owns⟩)
    rw [same]
    exact Option.isSome_eq_false_iff.mp unknown |> Option.isNone_iff_eq_none.mp
  · rfl

theorem slotChange_hello {hello : InboundHello}
    (fresh : source.pool.slot hello.remoteGatewayId source.localGatewayId = .idle →
      ¬source.Uses hello.peerTransportId) :
    SlotChange source ((source.taskEnded .hello).answerHello hello) := by
  unfold answerHello
  split
  · rename_i pool claimed
    obtain ⟨free, rfl⟩ := connect_eq_ok_iff.mp claimed
    refine .claim ⟨hello.remoteGatewayId, source.localGatewayId⟩
      hello.peerTransportId free (fresh free) (slotAt_insert source _ _) ?_ rfl
    intro key number
    have ended := claims_taskEnded_of_none source hello_claim? key number
    constructor
    · rintro ⟨task, member, claims⟩
      rcases List.mem_cons.mp member with rfl | earlier
      · cases claims
        exact Or.inl ⟨rfl, rfl⟩
      · exact Or.inr (ended.mp ⟨task, earlier, claims⟩)
    · rintro (⟨rfl, rfl⟩ | before)
      · exact ⟨_, List.mem_cons_self, rfl⟩
      · obtain ⟨task, member, claims⟩ := ended.mpr before
        exact ⟨task, List.mem_cons_of_mem _ member, claims⟩
  · refine .same (fun _ => rfl) (fun key number => ?_) rfl
    exact (claims_cons_of_none (source.taskEnded .hello) reject_claim? key
      number).trans (claims_taskEnded_of_none source hello_claim? key number)
  · exact .same (fun _ => rfl) (claims_taskEnded_of_none source hello_claim?) rfl

/-- The outbound slot would be held by another handshake of this number. -/
theorem Matched.not_outward (matched : Matched source)
    (running : .complete remote transportId ∈ source.tasks) :
    source.pool.slot source.localGatewayId remote ≠ .connecting transportId := by
  intro outward
  have rest : .outbound remote transportId ∈
      source.tasks.erase (.complete remote transportId) :=
    (List.mem_erase_of_ne (by rintro ⟨⟩)).mpr (matched.served remote transportId outward)
  exact matched.notMem_erase running rfl (List.mem_filterMap.mpr ⟨_, rest, rfl⟩)

theorem Matched.slotChange_handshake (matched : Matched source)
    {notice : HandshakeNotice} {queues : Queues}
    (running : notice.task ∈ source.tasks) (reports : source.Reports notice)
    (fresh : source.Fresh (.handshake notice queues)) :
    SlotChange source (source.handleHandshakeNotice notice queues).1 := by
  cases notice with
  | outbound remote transportId result =>
    cases result with
    | error => exact matched.slotChange_giveUp running rfl _
    | ok =>
      cases reports
      exact matched.slotChange_established running rfl (Or.inl rfl) queues
  | inboundHello result =>
    cases result with
    | error =>
      exact .same (fun _ => rfl) (claims_taskEnded_of_none source hello_claim?) rfl
    | ok => exact slotChange_hello fresh
  | inboundComplete remote transportId result =>
    cases result with
    | error => exact matched.slotChange_giveUp running rfl _
    | ok =>
      cases reports
      exact matched.slotChange_established running rfl
        (Or.inr ⟨rfl, matched.not_outward running⟩) queues
  | rejected =>
    exact .same (fun _ => rfl) (claims_taskEnded_of_none source reject_claim?) rfl

/-- A candidate that is claimed and given up at once leaves the slots as they were. -/
theorem slot_removeTransport_insert (free : source.slotAt key = .idle)
    (unheld : ∀ key, (source.slotAt key).transportId ≠ some transportId)
    (other : PeerSlotKey) :
    (PeerPool.removeTransport ⟨source.pool.slots.insert key (.connecting transportId)⟩
      transportId).slot other.dialer other.acceptor = source.slotAt other := by
  rw [slot_removeTransport, slotAt_insert]
  by_cases own : other = key
  · rw [if_pos own, own]
    exact (if_pos rfl).trans free.symm
  · rw [if_neg own, if_neg (unheld other)]

theorem slotChange_enqueueOpen {opening : PendingOpen} (fresh : ¬source.Uses transportId)
    (unheld : ∀ key, (source.slotAt key).transportId ≠ some transportId)
    (active : Finset OpenIdentity) :
    SlotChange source ({ source with activeOpens := active }.enqueueOpen opening
      transportId).1 := by
  rcases enqueueOpen_cases { source with activeOpens := active } opening transportId with
    ⟨free, refused⟩ | ⟨free, started⟩ | ⟨-, waits⟩
  · rw [refused]
    refine SlotChange.congr ?_ (sameSlots_failPendingFor _ _ _)
    exact .same (slot_removeTransport_insert free unheld) (fun _ _ => Iff.rfl) rfl
  · rw [started]
    refine .claim ⟨source.localGatewayId, opening.target.gatewayId⟩ transportId free
      fresh (slotAt_insert source _ _) ?_ rfl
    intro key number
    constructor
    · rintro ⟨task, member, claims⟩
      rcases List.mem_cons.mp member with rfl | earlier
      · cases claims
        exact Or.inl ⟨rfl, rfl⟩
      · exact Or.inr ⟨task, earlier, claims⟩
    · rintro (⟨rfl, rfl⟩ | ⟨task, member, claims⟩)
      · exact ⟨_, List.mem_cons_self, rfl⟩
      · exact ⟨task, List.mem_cons_of_mem _ member, claims⟩
  · rw [waits]
    exact .of_same rfl rfl rfl rfl

theorem Matched.slotChange_transportLost (matched : Matched source)
    (ready : source.transports.contains transportId = true) :
    SlotChange source (source.transportLost transportId) := by
  refine .drop transportId (fun key => slot_removeTransport _ _ _ _) ?_
    (Table.get_remove _ _)
  intro key number
  refine ⟨fun claims => ⟨claims, ?_⟩, And.left⟩
  rintro rfl
  obtain ⟨task, member, claimed⟩ := claims
  have candidate := List.mem_filterMap.mpr
    ⟨task, member, HandshakeTask.transportId?_of_claim? claimed⟩
  rw [matched.apart number candidate] at ready
  cases ready

/-- A transport becomes ready when its candidate holds a slot of its Gateway. -/
theorem admitEstablished_of_held (queues : Queues)
    (held :
      manager.pool.slot manager.localGatewayId remote = .connecting transportId ∨
      manager.pool.slot remote manager.localGatewayId = .connecting transportId) :
    ∃ pool, manager.admitEstablished ⟨remote, transportId⟩ queues =
      { manager with
        pool := pool
        transports := manager.transports.insert transportId remote
        }.flushPendingFor remote transportId queues := by
  by_cases outward :
      manager.pool.slot manager.localGatewayId remote = .connecting transportId
  · exact ⟨_, admitEstablished_eq manager queues (Or.inl rfl) outward⟩
  · exact ⟨_, admitEstablished_eq manager queues (Or.inr ⟨rfl, outward⟩)
      (held.resolve_left outward)⟩

/-- Every event claims a slot, admits a candidate, drops a transport or leaves the
slots as they are. -/
theorem Matched.slotChange (matched : Matched source)
    (unheld : ∀ number, ¬source.Uses number →
      ∀ key, (source.slotAt key).transportId ≠ some number) (fresh : source.Fresh event)
    (step : Step source event target) : SlotChange source target := by
  obtain ⟨possible, rfl⟩ := step
  cases event with
  | «open» opening transportId queues =>
    have new := possible.2.1
    rcases startOpen_cases source opening transportId queues with
      ⟨same, -⟩ | ⟨-, waits⟩
    · exact same.slotChange
    · simp only [apply, run, waits]
      exact slotChange_enqueueOpen new (unheld transportId new) _
  | cancel identity reply queues =>
    rcases cancelOpen_cases source identity reply queues with
      ⟨_, _, _, _, _, same, _⟩ | ⟨same, _⟩
    · exact .of_same same.pool same.localGatewayId same.tasks same.transports
    · exact same.slotChange
  | stream => exact .of_same rfl rfl rfl rfl
  | accepted =>
    simp only [apply, run, startInboundHandshake]
    split
    · exact .of_same rfl rfl rfl rfl
    · exact .same (fun _ => rfl) (claims_cons_of_none source hello_claim?) rfl
  | handshake =>
    exact matched.slotChange_handshake possible.1 possible.2 fresh
  | streamEnded key openIdentity =>
    exact (sameSlots_streamEnded source key openIdentity).slotChange
  | attemptEnded openIdentity =>
    exact (sameSlots_attemptEnded source openIdentity).slotChange
  | transportLost => exact matched.slotChange_transportLost possible
  | released | shutdown => exact .of_same rfl rfl rfl rfl

/-- A candidate that is admitted, or refused, starts no handshake and leaves no OPEN
of its Gateway waiting. -/
theorem settled_admitEstablished (manager : Manager) (established : EstablishedPeer)
    (queues : Queues) :
    (manager.admitEstablished established queues).1.localGatewayId =
        manager.localGatewayId ∧
      (manager.admitEstablished established queues).1.tasks = manager.tasks ∧
      (manager.admitEstablished established queues).1.pending =
        manager.retainedFor established.remoteGatewayId := by
  simp only [admitEstablished]
  split
  · exact ⟨rfl, rfl, rfl⟩
  · exact ⟨(sameSlots_flushPendingFor _ _ _ _).localGatewayId,
      (sameSlots_flushPendingFor _ _ _ _).tasks,
      (sameSlots_flushPendingFor _ _ _ _).pending⟩

/-- The Gateway of a manager is fixed. -/
theorem localGatewayId_apply (source : Manager) (event : ManagerEvent) :
    (source.apply event).localGatewayId = source.localGatewayId := by
  cases event with
  | «open» opening transportId queues =>
    rcases startOpen_cases source opening transportId queues with
      ⟨same, -⟩ | ⟨-, waits⟩
    · exact same.localGatewayId
    · simp only [apply, run, waits, enqueueOpen]
      split
      · split <;> rfl
      · rfl
      · rfl
  | cancel identity reply queues =>
    rcases cancelOpen_cases source identity reply queues with
      ⟨_, _, _, _, _, same, _⟩ | ⟨same, _⟩
    · exact same.localGatewayId
    · exact same.localGatewayId
  | accepted =>
    simp only [apply, run, startInboundHandshake]
    split <;> rfl
  | handshake notice =>
    cases notice with
    | outbound remote transportId result =>
      cases result with
      | error => rfl
      | ok => exact (settled_admitEstablished _ _ _).1
    | inboundHello result =>
      cases result with
      | error => rfl
      | ok =>
        simp only [apply, run, handleHandshakeNotice, answerHello]
        split <;> rfl
    | inboundComplete remote transportId result =>
      cases result with
      | error => rfl
      | ok => exact (settled_admitEstablished _ _ _).1
    | rejected => rfl
  | streamEnded key openIdentity =>
    exact (sameSlots_streamEnded source key openIdentity).localGatewayId
  | attemptEnded openIdentity =>
    exact (sameSlots_attemptEnded source openIdentity).localGatewayId
  | stream | transportLost | released | shutdown => rfl

/-! ## Each number belongs to one slot -/

/-- The slots say which handshakes are in flight and which transports are ready, and
no number holds two of them. -/
structure Owned (manager : Manager) : Prop where
  connecting : ∀ key number,
    manager.slotAt key = .connecting number ↔ manager.Claims key number
  ready : ∀ key number, manager.slotAt key = .ready number →
    manager.transports.contains number = true
  live : ∀ number remote, manager.transports.get number = some remote →
    manager.slotAt ⟨manager.localGatewayId, remote⟩ = .ready number ∨
      manager.slotAt ⟨remote, manager.localGatewayId⟩ = .ready number
  distinct : ∀ first second number,
    (manager.slotAt first).transportId = some number →
      (manager.slotAt second).transportId = some number → first = second

theorem owned_new (localGatewayId : GatewayId) (maxPendingOpens maxHandshakes : Nat) :
    Owned (new localGatewayId maxPendingOpens maxHandshakes) where
  connecting key number := ⟨nofun, fun ⟨_, member, _⟩ => by cases member⟩
  ready := nofun
  live := nofun
  distinct := nofun

namespace Owned

variable {source target : Manager} (owned : Owned source)
include owned

/-- The numbers in use are those that hold a slot. -/
theorem uses_iff (number : PeerTransportId) :
    source.Uses number ↔ ∃ key, (source.slotAt key).transportId = some number := by
  constructor
  · rintro (candidate | known)
    · obtain ⟨task, member, owns⟩ := List.mem_filterMap.mp candidate
      obtain ⟨key, claims⟩ := task.exists_claim? source.localGatewayId owns
      exact ⟨key, by rw [(owned.connecting key number).mpr ⟨task, member, claims⟩]; rfl⟩
    · obtain ⟨remote, found⟩ := Option.isSome_iff_exists.mp known
      rcases owned.live number remote found with held | held
      · exact ⟨_, by rw [held]; rfl⟩
      · exact ⟨_, by rw [held]; rfl⟩
  · rintro ⟨key, held⟩
    cases state : source.slotAt key with
    | idle =>
      rw [state] at held
      cases held
    | connecting =>
      rw [state] at held
      cases held
      obtain ⟨task, member, claims⟩ := (owned.connecting key number).mp state
      exact Or.inl (List.mem_filterMap.mpr
        ⟨task, member, HandshakeTask.transportId?_of_claim? claims⟩)
    | ready =>
      rw [state] at held
      cases held
      exact Or.inr (owned.ready key number state)

theorem unheld (number : PeerTransportId) (unused : ¬source.Uses number)
    (key : PeerSlotKey) : (source.slotAt key).transportId ≠ some number := by
  intro held
  exact unused ((owned.uses_iff number).mpr ⟨key, held⟩)

section

variable (sameLocal : target.localGatewayId = source.localGatewayId)
include sameLocal

variable {transportId : PeerTransportId}

/-- A candidate takes a free slot. -/
theorem claim {key : PeerSlotKey} (free : source.slotAt key = .idle)
    (fresh : ¬source.Uses transportId)
    (slots : ∀ other, target.slotAt other =
      if other = key then .connecting transportId else source.slotAt other)
    (claims : ∀ other number, target.Claims other number ↔
      other = key ∧ number = transportId ∨ source.Claims other number)
    (transports : target.transports = source.transports) : Owned target where
  connecting other number := by
    rw [slots, claims, ← owned.connecting]
    split
    · rename_i same
      simp only [same, free, PeerSlotState.connecting.injEq, true_and, reduceCtorEq,
        or_false, eq_comm]
    · rename_i apart
      simp only [apart, false_and, false_or]
  ready other number held := by
    rw [slots] at held
    rw [transports]
    split at held
    · cases held
    · exact owned.ready other number held
  live number remote found := by
    rw [transports] at found
    rw [sameLocal, slots, slots]
    refine (owned.live number remote found).imp ?_ ?_
    all_goals
      intro held
      rw [if_neg]
      · exact held
      · rintro rfl
        rw [free] at held
        cases held
  distinct first second number one other := by
    have unheld := owned.unheld transportId fresh
    rw [slots] at one other
    split at one <;> split at other
    · rename_i here there
      exact here.trans there.symm
    · cases one
      exact absurd other (unheld second)
    · cases other
      exact absurd one (unheld first)
    · exact owned.distinct first second number one other

/-- The candidate of a slot becomes ready there. -/
theorem admission {key : PeerSlotKey} {remote : GatewayId}
    (between : key = ⟨source.localGatewayId, remote⟩ ∨ key = ⟨remote, source.localGatewayId⟩)
    (held : source.slotAt key = .connecting transportId)
    (slots : ∀ other, target.slotAt other =
      if other = key then .ready transportId else source.slotAt other)
    (claims : ∀ other number, target.Claims other number ↔
      source.Claims other number ∧ number ≠ transportId)
    (transports : target.transports = source.transports.insert transportId remote) :
    Owned target where
  connecting other number := by
    have own : source.slotAt other = .connecting number →
        (other = key ↔ number = transportId) := by
      intro here
      constructor
      · rintro rfl
        rw [held] at here
        cases here
        rfl
      · rintro rfl
        exact owned.distinct other key number (by rw [here]; rfl) (by rw [held]; rfl)
    rw [slots, claims, ← owned.connecting]
    split
    · rename_i same
      refine ⟨nofun, fun ⟨here, apart⟩ => ?_⟩
      exact absurd ((own here).mp same) apart
    · rename_i apart
      refine ⟨fun here => ⟨here, fun same => ?_⟩, And.left⟩
      exact apart ((own here).mpr same)
  ready other number state := by
    rw [slots] at state
    rw [transports, Table.contains_eq, Table.get_insert]
    split at state
    · cases state
      simp
    · have known := owned.ready other number state
      split
      · rfl
      · exact known
  live number gateway found := by
    rw [transports] at found
    rw [sameLocal, slots, slots]
    rcases Table.get_insert_eq_some_iff.mp found with ⟨rfl, rfl⟩ | ⟨-, old⟩
    · rcases between with rfl | rfl
      · exact Or.inl (if_pos rfl)
      · exact Or.inr (if_pos rfl)
    · refine (owned.live number gateway old).imp ?_ ?_
      all_goals
        intro here
        rw [if_neg]
        · exact here
        · rintro rfl
          rw [held] at here
          cases here
  distinct first second number one other := by
    -- the number of the slot stays, only its state changes
    have same : ∀ other, (target.slotAt other).transportId =
        (source.slotAt other).transportId := by
      intro other
      rw [slots]
      split
      · rename_i here
        rw [here, held]
        rfl
      · rfl
    rw [same] at one other
    exact owned.distinct first second number one other

/-- A number gives up what it holds. -/
theorem drop
    (slots : ∀ key, target.slotAt key =
      if (source.slotAt key).transportId = some transportId then .idle
      else source.slotAt key)
    (claims : ∀ other number, target.Claims other number ↔
      source.Claims other number ∧ number ≠ transportId)
    (transports : ∀ other, target.transports.get other =
      if other = transportId then none else source.transports.get other) :
    Owned target := by
  have kept : ∀ key number, (target.slotAt key).transportId = some number →
      target.slotAt key = source.slotAt key ∧ number ≠ transportId := by
    intro key number held
    rw [slots] at held ⊢
    split at held
    · cases held
    · rename_i other
      rw [if_neg other]
      refine ⟨rfl, ?_⟩
      rintro rfl
      exact other held
  have stays : ∀ key number, (source.slotAt key).transportId = some number →
      number ≠ transportId → target.slotAt key = source.slotAt key := by
    intro key number held different
    rw [slots, if_neg]
    rw [held]
    exact fun same => different (Option.some.inj same)
  constructor
  · intro key number
    rw [claims, ← owned.connecting]
    constructor
    · intro here
      obtain ⟨same, different⟩ := kept key number (by rw [here]; rfl)
      exact ⟨same.symm.trans here, different⟩
    · rintro ⟨here, different⟩
      exact (stays key number (by rw [here]; rfl) different).trans here
  · intro key number here
    obtain ⟨same, different⟩ := kept key number (by rw [here]; rfl)
    rw [Table.contains_eq, transports, if_neg different]
    exact owned.ready key number (same.symm.trans here)
  · intro number remote found
    rw [transports] at found
    split at found
    · cases found
    · rename_i different
      rw [sameLocal]
      refine (owned.live number remote found).imp ?_ ?_
      all_goals
        intro here
        exact (stays _ number (by rw [here]; rfl) different).trans here
  · intro first second number one other
    have here := kept first number one
    have there := kept second number other
    rw [here.1] at one
    rw [there.1] at other
    exact owned.distinct first second number one other

end

theorem step (change : SlotChange source target)
    (sameLocal : target.localGatewayId = source.localGatewayId) : Owned target := by
  cases change with
  | same slots claims transports =>
    exact ⟨by simpa only [slots, claims] using owned.connecting,
      by simpa only [slots, transports] using owned.ready,
      by simpa only [slots, transports, sameLocal] using owned.live,
      by simpa only [slots] using owned.distinct⟩
  | claim key transportId free fresh slots claims transports =>
    exact owned.claim sameLocal free fresh slots claims transports
  | admission key transportId remote between held slots claims unknown transports =>
    exact owned.admission sameLocal between held slots claims transports
  | drop transportId slots claims transports =>
    exact owned.drop sameLocal slots claims transports

end Owned

/-! ## The handshakes in flight and the waiting OPENs -/

/-- Every candidate has a number of its own and comes from another Gateway, every
waiting OPEN waits for one, and has a reply channel of its own. -/
structure Queued (manager : Manager) : Prop where
  distinct : manager.candidates.Nodup
  foreign : ∀ remote number, .complete remote number ∈ manager.tasks →
    remote ≠ manager.localGatewayId
  waits : ∀ opening ∈ manager.pending, ∃ number,
    .outbound opening.target.gatewayId number ∈ manager.tasks
  replies : (manager.pending.map PendingOpen.reply).Nodup

theorem queued_new (localGatewayId : GatewayId) (maxPendingOpens maxHandshakes : Nat) :
    Queued (new localGatewayId maxPendingOpens maxHandshakes) where
  distinct := List.nodup_nil
  foreign := nofun
  waits := nofun
  replies := List.nodup_nil

/-- With the slots, this gives every handshake its slot. -/
theorem Owned.matched (owned : Owned manager) (queued : Queued manager) : Matched manager where
  __ := queued
  held task running key number claims :=
    (owned.connecting key number).mpr ⟨task, running, claims⟩
  served := by
    intro remote number holds
    obtain ⟨task, running, claims⟩ :=
      (owned.connecting ⟨manager.localGatewayId, remote⟩ number).mp holds
    cases task with
    | outbound =>
      cases claims
      exact running
    | complete other own =>
      simp only [HandshakeTask.claim?, Option.some.injEq, Prod.mk.injEq,
        PeerSlotKey.mk.injEq] at claims
      exact absurd claims.1.1 (queued.foreign other own running)
    | hello | reject => cases claims
  apart := by
    intro number member
    obtain ⟨task, running, owns⟩ := List.mem_filterMap.mp member
    obtain ⟨key, claims⟩ := task.exists_claim? manager.localGatewayId owns
    have held := (owned.connecting key number).mpr ⟨task, running, claims⟩
    rw [Bool.eq_false_iff]
    intro known
    obtain ⟨remote, found⟩ := Option.isSome_iff_exists.mp known
    rcases owned.live number remote found with ready | ready
    all_goals
      have same := owned.distinct key _ number (by rw [held]; rfl) (by rw [ready]; rfl)
      rw [same, ready] at held
      cases held

namespace Queued

/-- The handshakes stay, and what waits has one. -/
theorem kept (queued : Queued source) (sameLocal : target.localGatewayId = source.localGatewayId)
    (tasks : target.tasks = source.tasks)
    (waits : ∀ opening ∈ target.pending, opening ∈ source.pending ∨
      ∃ number, .outbound opening.target.gatewayId number ∈ source.tasks)
    (replies : (target.pending.map PendingOpen.reply).Nodup) : Queued target where
  distinct := by rw [candidates, tasks]; exact queued.distinct
  foreign := by rw [tasks, sameLocal]; exact queued.foreign
  waits := by
    intro opening member
    rw [tasks]
    exact (waits opening member).elim (queued.waits opening) id
  replies := replies

theorem same (queued : Queued source) (same : SameSlots source target) : Queued target := by
  refine queued.kept same.localGatewayId same.tasks ?_ ?_
  · rw [same.pending]
    exact fun _ => Or.inl
  · rw [same.pending]
    exact queued.replies

/-- A handshake starts, with a number that is not in use. -/
theorem started (queued : Queued source)
    (sameLocal : target.localGatewayId = source.localGatewayId)
    (tasks : target.tasks = task :: source.tasks)
    (unused : ∀ number, task.transportId? = some number → number ∉ source.candidates)
    (foreign : ∀ remote number, task = .complete remote number → remote ≠ source.localGatewayId)
    (waits : ∀ opening ∈ target.pending, opening ∈ source.pending ∨
      ∃ number, task = .outbound opening.target.gatewayId number)
    (replies : (target.pending.map PendingOpen.reply).Nodup) : Queued target where
  distinct := by
    rw [candidates, tasks]
    cases owns : task.transportId? with
    | none =>
      rw [List.filterMap_cons_none owns]
      exact queued.distinct
    | some number =>
      rw [List.filterMap_cons_some owns]
      exact List.nodup_cons.mpr ⟨unused number owns, queued.distinct⟩
  foreign := by
    intro remote number member
    rw [sameLocal]
    rw [tasks] at member
    rcases List.mem_cons.mp member with own | earlier
    · exact foreign remote number own.symm
    · exact queued.foreign remote number earlier
  waits := by
    intro opening member
    rw [tasks]
    rcases waits opening member with earlier | ⟨number, own⟩
    · obtain ⟨number, running⟩ := queued.waits opening earlier
      exact ⟨number, List.mem_cons_of_mem _ running⟩
    · exact ⟨number, List.mem_cons.mpr (Or.inl own.symm)⟩
  replies := replies

/-- A handshake ends, and the OPENs that waited for it with it. -/
theorem ended (queued : Queued source) (sameLocal : target.localGatewayId = source.localGatewayId)
    (tasks : target.tasks = source.tasks.erase task)
    (pending : target.pending.Sublist source.pending)
    (others : ∀ opening ∈ target.pending, ∀ number,
      HandshakeTask.outbound opening.target.gatewayId number ≠ task) :
    Queued target where
  distinct := by
    rw [candidates, tasks]
    exact queued.distinct.sublist (List.erase_sublist.filterMap _)
  foreign := by
    intro remote number member
    rw [tasks] at member
    rw [sameLocal]
    exact queued.foreign remote number (List.mem_of_mem_erase member)
  waits := by
    intro opening member
    obtain ⟨number, running⟩ := queued.waits opening (pending.subset member)
    rw [tasks]
    exact ⟨number, (List.mem_erase_of_ne (others opening member number)).mpr running⟩
  replies := queued.replies.sublist (pending.map _)

/-- What an outbound handshake leaves waiting waits for other Gateways. -/
theorem ne_of_retained {number : PeerTransportId}
    {opening : PendingOpen} (member : opening ∈ source.retainedFor remote)
    (other : PeerTransportId) :
    HandshakeTask.outbound opening.target.gatewayId other ≠ .outbound remote number := by
  rintro ⟨own, -⟩
  have apart := (List.mem_filter.mp member).2
  simp at apart

theorem enqueueOpen (queued : Queued source) (matched : Matched source)
    {opening : PendingOpen} (fresh : ¬source.Uses transportId)
    (new : ∀ waiting ∈ source.pending, waiting.reply ≠ opening.reply)
    (notReady : source.pool.readyTransport opening.target.gatewayId = none)
    (active : Finset OpenIdentity) :
    Queued ({ source with activeOpens := active }.enqueueOpen opening
      transportId).1 := by
  have replies :
      ((source.pending ++ [opening]).map PendingOpen.reply).Nodup := by
    rw [List.map_append, List.nodup_append]
    refine ⟨queued.replies, by simp, ?_⟩
    intro reply member other own same
    obtain ⟨waiting, listed, rfl⟩ := List.mem_map.mp member
    rw [List.map_singleton, List.mem_singleton] at own
    exact new waiting listed (same.trans own)
  rcases enqueueOpen_cases { source with activeOpens := active } opening transportId with
    ⟨free, refused⟩ | ⟨free, begun⟩ | ⟨taken, joined⟩
  · rw [refused]
    refine queued.kept rfl rfl ?_ (replies.sublist (List.filter_sublist.map _))
    intro waiting member
    obtain ⟨listed, other⟩ := List.mem_filter.mp member
    rcases List.mem_append.mp listed with earlier | own
    · exact Or.inl earlier
    · cases List.mem_singleton.mp own
      simp at other
  · rw [begun]
    refine queued.started rfl rfl ?_ ?_ ?_ replies
    · rintro number ⟨⟩ candidate
      exact fresh (Or.inl candidate)
    · intro remote number same
      cases same
    · intro waiting member
      rcases List.mem_append.mp member with earlier | own
      · exact Or.inl earlier
      · cases List.mem_singleton.mp own
        exact Or.inr ⟨transportId, rfl⟩
  · rw [joined]
    refine queued.kept rfl rfl ?_ replies
    intro waiting member
    rcases List.mem_append.mp member with earlier | own
    · exact Or.inl earlier
    · cases List.mem_singleton.mp own
      -- the slot is taken and not ready, so a candidate is connecting there
      cases state : source.pool.slot source.localGatewayId
          opening.target.gatewayId with
      | idle => exact absurd state taken
      | connecting number => exact Or.inr ⟨number, matched.served _ _ state⟩
      | ready number => exact absurd state (slot_ne_ready notReady _ _)

/-- A report ends its task; a HELLO starts another one. -/
theorem handshake (queued : Queued source) {notice : HandshakeNotice} {queues : Queues}
    (reports : source.Reports notice)
    (fresh : ∀ hello, notice = .inboundHello (.ok hello) →
      source.pool.slot hello.remoteGatewayId source.localGatewayId = .idle →
        ¬source.Uses hello.peerTransportId) :
    Queued (source.handleHandshakeNotice notice queues).1 := by
  cases notice with
  | outbound remote number result =>
    cases result with
    | error =>
      exact queued.ended rfl rfl List.filter_sublist fun _ => ne_of_retained
    | ok =>
      cases reports
      have settled := settled_admitEstablished
        (source.taskEnded (.outbound remote number)) ⟨remote, number⟩ queues
      simp only [handleHandshakeNotice, HandshakeNotice.task]
      refine queued.ended settled.1 settled.2.1 ?_ ?_
      · rw [settled.2.2]
        exact List.filter_sublist
      · rw [settled.2.2]
        exact fun _ => ne_of_retained
  | inboundHello result =>
    have rest : Queued (source.taskEnded .hello) :=
      queued.ended rfl rfl (List.Sublist.refl _) fun _ _ _ same => by cases same
    cases result with
    | error => exact rest
    | ok hello =>
      simp only [handleHandshakeNotice, answerHello]
      split
      · rename_i pool claimed
        have free := (connect_eq_ok_iff.mp claimed).1
        refine rest.started rfl rfl ?_ ?_ (fun _ => Or.inl) rest.replies
        · rintro number ⟨⟩ candidate
          exact fresh hello rfl free
            (Or.inl ((List.erase_sublist.filterMap _).subset candidate))
        · rintro remote number ⟨rfl, rfl⟩
          exact reports
      · refine rest.started rfl rfl ?_ ?_ (fun _ => Or.inl) rest.replies
        · intro number owns
          cases owns
        · intro remote number same
          cases same
      · exact rest
  | inboundComplete remote number result =>
    cases result with
    | error =>
      exact queued.ended rfl rfl List.filter_sublist fun _ _ _ same => by cases same
    | ok established =>
      have settled := settled_admitEstablished
        (source.taskEnded (.complete remote number)) established queues
      simp only [handleHandshakeNotice, HandshakeNotice.task]
      refine queued.ended settled.1 settled.2.1 ?_ fun _ _ _ same => by cases same
      rw [settled.2.2]
      exact List.filter_sublist
  | rejected =>
    exact queued.ended rfl rfl (List.Sublist.refl _) fun _ _ _ same => by cases same

theorem step (queued : Queued source) (matched : Matched source)
    (fresh : source.Fresh event) (step : Step source event target) : Queued target := by
  obtain ⟨possible, rfl⟩ := step
  cases event with
  | «open» opening transportId queues =>
    rcases startOpen_cases source opening transportId queues with
      ⟨same, -⟩ | ⟨notReady, waits⟩
    · exact queued.same same
    · simp only [apply, run, waits]
      exact queued.enqueueOpen matched possible.2.1 possible.2.2 notReady _
  | cancel identity reply queues =>
    rcases cancelOpen_cases source identity reply queues with
      ⟨_, _, index, inside, _, same, _⟩ | ⟨same, _⟩
    · have moved := swapRemove_perm inside
      have taken := List.eraseIdx_sublist source.pending index
      simp only [apply, run]
      refine queued.kept same.localGatewayId same.tasks ?_ ?_
      · rw [same.pending]
        exact fun _ member => Or.inl (taken.subset (moved.subset member))
      · rw [same.pending]
        exact (moved.map PendingOpen.reply).nodup_iff.mpr
          (queued.replies.sublist (taken.map _))
    · exact queued.same same
  | stream => exact queued
  | accepted =>
    simp only [apply, run, startInboundHandshake]
    split
    · exact queued
    · refine queued.started rfl rfl ?_ ?_ (fun _ => Or.inl) queued.replies
      · intro number owns
        cases owns
      · intro remote number same
        cases same
  | handshake =>
    refine queued.handshake possible.2 ?_
    rintro hello rfl
    exact fresh
  | streamEnded key openIdentity =>
    exact queued.same (sameSlots_streamEnded source key openIdentity)
  | attemptEnded openIdentity =>
    exact queued.same (sameSlots_attemptEnded source openIdentity)
  | transportLost | released =>
    exact queued.kept rfl rfl (fun _ => Or.inl) queued.replies
  | shutdown =>
    refine queued.kept rfl rfl ?_ List.nodup_nil
    intro opening member
    cases member

end Queued

/-- The slots agree with the handshakes and with the transports. -/
structure Sound (manager : Manager) : Prop where
  owned : Owned manager
  queued : Queued manager

theorem Sound.matched (sound : Sound manager) : Matched manager :=
  sound.owned.matched sound.queued

theorem sound_new (localGatewayId : GatewayId) (maxPendingOpens maxHandshakes : Nat) :
    Sound (new localGatewayId maxPendingOpens maxHandshakes) :=
  ⟨owned_new _ _ _, queued_new _ _ _⟩

theorem Sound.step (sound : Sound source) (fresh : source.Fresh event)
    (step : Step source event target) : Sound target := by
  refine ⟨?_, sound.queued.step sound.matched fresh step⟩
  refine sound.owned.step (sound.matched.slotChange sound.owned.unheld fresh step) ?_
  rw [step.2]
  exact localGatewayId_apply source event

/-! ## What the end of a transport leaves alone -/

/-- No number holds two slots. -/
def Distinct (manager : Manager) : Prop :=
  ∀ first second number, (manager.slotAt first).transportId = some number →
    (manager.slotAt second).transportId = some number → first = second

/-- The streams of the other transports keep them. -/
def KeepsAssignments (source target : Manager) (transportId : PeerTransportId) :
    Prop :=
  ∀ identity, source.assignments.get identity ≠ some transportId →
    target.assignments.get identity = source.assignments.get identity

/-- A candidate is admitted to the slot it holds and replaces no transport; the OPENs
that wait for its Gateway, and no others, leave the queue for it. -/
structure Admits (source target : Manager) (key : PeerSlotKey)
    (established : EstablishedPeer) : Prop where
  held : source.slotAt key = .connecting established.peerTransportId
  unknown : source.transports.contains established.peerTransportId = false
  slots : ∀ other ≠ key, target.slotAt other = source.slotAt other
  pending : target.pending = source.retainedFor established.remoteGatewayId
  assignments : ∀ identity, (∀ opening ∈ source.waitingFor established.remoteGatewayId,
      identity ≠ opening.request.openIdentity) →
    target.assignments.get identity = source.assignments.get identity

/-- An admission finds its slot and no transport under its number.  An OPEN, also one
that no handshake may be started for, and the end of a candidate or of a transport
change their own slot only, no OPEN that waits for another Gateway or direction, and
no stream of another transport. -/
def Contained (source : Manager) : ManagerEvent → Manager → Prop
  | .open opening _ _, target =>
      (∀ key ≠ ⟨source.localGatewayId, opening.target.gatewayId⟩,
        target.slotAt key = source.slotAt key) ∧
      target.retainedFor opening.target.gatewayId =
        source.retainedFor opening.target.gatewayId ∧
      ∀ identity ≠ opening.request.openIdentity,
        target.assignments.get identity = source.assignments.get identity
  | .handshake (.outbound remote _ (.ok established)) _, target =>
      Admits source target ⟨source.localGatewayId, remote⟩ established
  | .handshake (.inboundComplete remote _ (.ok established)) _, target =>
      Admits source target ⟨remote, source.localGatewayId⟩ established
  | .handshake (.outbound remote transportId (.error _)) _, target =>
      (∀ key ≠ ⟨source.localGatewayId, remote⟩,
        target.slotAt key = source.slotAt key) ∧
      target.pending = source.retainedFor remote ∧
      KeepsAssignments source target transportId
  | .handshake (.inboundComplete remote transportId (.error _)) _, target =>
      (∀ key ≠ ⟨remote, source.localGatewayId⟩,
        target.slotAt key = source.slotAt key) ∧
      target.pending = source.pending ∧
      KeepsAssignments source target transportId
  | .transportLost transportId, target =>
      (∀ remote, source.transports.get transportId = some remote →
        ∃ key : PeerSlotKey, (key = ⟨source.localGatewayId, remote⟩ ∨
            key = ⟨remote, source.localGatewayId⟩) ∧
          ∀ other ≠ key, target.slotAt other = source.slotAt other) ∧
      target.pending = source.pending ∧
      KeepsAssignments source target transportId
  | _, _ => True

/-- An inbound handshake fails only while no OPEN waits for its Gateway. -/
def Unawaited (manager : Manager) : ManagerEvent → Prop
  | .handshake (.inboundComplete remote _ (.error _)) _ =>
      manager.waitingFor remote = []
  | _ => True

instance (manager : Manager) (event : ManagerEvent) :
    Decidable (manager.Fresh event ∧ manager.Unawaited event) := by
  unfold Fresh Unawaited
  split <;> split <;> infer_instance

theorem waitingFor_eq_nil_iff :
    manager.waitingFor remote = [] ↔ manager.retainedFor remote = manager.pending := by
  simp only [waitingFor, retainedFor, List.filter_eq_nil_iff, List.filter_eq_self]
  simp

theorem get_foldl_remove (lost : List OpenIdentity)
    (table : Table OpenIdentity PeerTransportId) (identity : OpenIdentity) :
    (lost.foldl (fun table identity => table.remove identity) table).get identity =
      if identity ∈ lost then none else table.get identity := by
  induction lost generalizing table with
  | nil => simp
  | cons first rest ih =>
    rw [List.foldl_cons, ih, Table.get_remove]
    by_cases own : identity = first
    · simp [own]
    · simp [own]

theorem mem_lost {identity : OpenIdentity} :
    identity ∈ (manager.assignments.toList.filterMap fun entry =>
        if entry.2 = transportId then some entry.1 else none) ↔
      manager.assignments.get identity = some transportId := by
  rw [List.mem_filterMap, ← Table.mem_toList]
  simp

/-- A transport that is lost takes its own streams with it. -/
theorem get_assignments_transportLost (manager : Manager)
    (transportId : PeerTransportId) (identity : OpenIdentity) :
    (manager.transportLost transportId).assignments.get identity =
      if manager.assignments.get identity = some transportId then none
      else manager.assignments.get identity := by
  refine (get_foldl_remove _ _ _).trans ?_
  simp only [mem_lost]

/-! ## What an OPEN leaves alone -/

section Opening

variable {identity : OpenIdentity} {opening : PendingOpen} (manager : Manager)
  (transportId : PeerTransportId) (queues : Queues)

theorem get_assignments_dispatchOpen (other : identity ≠ opening.request.openIdentity) :
    (manager.dispatchOpen transportId queues opening).1.assignments.get identity =
      manager.assignments.get identity := by
  unfold dispatchOpen release
  grind

theorem get_assignments_dispatchAll (openings : List PendingOpen)
    (others : ∀ opening ∈ openings, identity ≠ opening.request.openIdentity)
    (manager : Manager) :
    (dispatchAll transportId queues openings manager).1.assignments.get identity =
      manager.assignments.get identity := by
  induction openings generalizing manager with
  | nil => rfl
  | cons first rest ih =>
    obtain ⟨other, others⟩ := List.forall_mem_cons.mp others
    exact (ih others _).trans (get_assignments_dispatchOpen manager transportId queues other)

theorem get_assignments_startOpen (other : identity ≠ opening.request.openIdentity) :
    (manager.startOpen opening transportId queues).1.assignments.get identity =
      manager.assignments.get identity := by
  unfold startOpen enqueueOpen
  grind [get_assignments_dispatchOpen, release, failPendingFor, startOutboundHandshake]

end Opening

namespace Sound

variable {event : ManagerEvent} {source : Manager} {key : PeerSlotKey}
  {transportId : PeerTransportId}

/-- The one slot a number holds is the one whose transport ends. -/
theorem slot_of_removed (sound : Sound source)
    (held : (source.slotAt key).transportId = some transportId) {other : PeerSlotKey}
    (different : other ≠ key) :
    (source.pool.removeTransport transportId).slot other.dialer other.acceptor =
      source.slotAt other := by
  rw [slot_removeTransport, if_neg]
  · rfl
  · intro also
    exact different (sound.owned.distinct other key transportId also held)

theorem held_of_claim (sound : Sound source) {task : HandshakeTask}
    (running : task ∈ source.tasks)
    (claims : task.claim? source.localGatewayId = some (key, transportId)) :
    (source.slotAt key).transportId = some transportId := by
  rw [(sound.owned.connecting key transportId).mpr ⟨task, running, claims⟩]
  rfl

theorem admits (sound : Sound source) {task : HandshakeTask} {remote : GatewayId}
    (running : task ∈ source.tasks)
    (claims : task.claim? source.localGatewayId = some (key, transportId))
    (between : key = ⟨source.localGatewayId, remote⟩ ∨
      key = ⟨remote, source.localGatewayId⟩ ∧
        source.pool.slot source.localGatewayId remote ≠ .connecting transportId)
    (queues : Queues) :
    Admits source ((source.taskEnded task).admitEstablished ⟨remote, transportId⟩ queues).1
      key ⟨remote, transportId⟩ := by
  have held := sound.matched.held task running key transportId claims
  rw [admitEstablished_eq (source.taskEnded task) queues between held]
  have same := fun manager => sameSlots_flushPendingFor manager remote transportId queues
  refine ⟨held, sound.matched.apart transportId (List.mem_filterMap.mpr
    ⟨task, running, HandshakeTask.transportId?_of_claim? claims⟩), ?_, rfl, ?_⟩
  · intro other different
    rw [slotAt, (same _).pool]
    exact (slotAt_insert source key _ other).trans (if_neg different)
  · exact fun identity others => get_assignments_dispatchAll _ _ _ others _

theorem contained_open (sound : Sound source) {opening : PendingOpen} {queues : Queues}
    (unused : ¬source.Uses transportId) :
    source.Contained (.open opening transportId queues)
      (source.startOpen opening transportId queues).1 := by
  have retained : (source.pending ++ [opening]).filter
      (fun waiting => waiting.target.gatewayId ≠ opening.target.gatewayId) =
        source.retainedFor opening.target.gatewayId := by
    simp [retainedFor]
  rw [Contained, ← and_assoc]
  refine ⟨?_, fun identity other => get_assignments_startOpen source transportId queues other⟩
  rcases startOpen_cases source opening transportId queues with ⟨same, -⟩ | ⟨-, waits⟩
  · exact ⟨fun key _ => by rw [slotAt, slotAt, same.pool],
      by rw [retainedFor, retainedFor, same.pending]⟩
  · rw [waits]
    rcases enqueueOpen_cases { source with activeOpens := _ } opening transportId with
      ⟨free, refused⟩ | ⟨free, started⟩ | ⟨-, queued⟩
    · rw [refused]
      refine ⟨fun key _ => slot_removeTransport_insert free
        (sound.owned.unheld transportId unused) key, ?_⟩
      refine Eq.trans ?_ retained
      simp [failPendingFor, retainedFor]
    · rw [started]
      exact ⟨fun key different => (slotAt_insert source _ _ key).trans (if_neg different),
        retained⟩
    · rw [queued]
      exact ⟨fun _ _ => rfl, retained⟩

theorem contained (sound : Sound source)
    (possible : source.Possible event) (unawaited : source.Unawaited event) :
    source.Contained event (source.apply event) := by
  cases event with
  | «open» => exact sound.contained_open possible.2.1
  | handshake notice queues =>
    cases notice with
    | outbound remote transportId result =>
      have running := possible.1
      cases result with
      | ok =>
        cases possible.2
        exact sound.admits running rfl (Or.inl rfl) queues
      | error =>
        refine ⟨fun key different => ?_, rfl, fun _ _ => rfl⟩
        exact sound.slot_of_removed (sound.held_of_claim running rfl) different
    | inboundHello result => cases result <;> trivial
    | inboundComplete remote transportId result =>
      have running := possible.1
      cases result with
      | ok =>
        cases possible.2
        exact sound.admits running rfl (Or.inr ⟨rfl, sound.matched.not_outward running⟩)
          queues
      | error =>
        refine ⟨fun key different => ?_, waitingFor_eq_nil_iff.mp unawaited, fun _ _ => rfl⟩
        exact sound.slot_of_removed (sound.held_of_claim running rfl) different
    | rejected => trivial
  | transportLost transportId =>
    refine ⟨?_, rfl, ?_⟩
    · intro remote found
      rcases sound.owned.live transportId remote found with held | held
      · refine ⟨_, Or.inl rfl, fun other different => ?_⟩
        exact sound.slot_of_removed (by rw [held]; rfl) different
      · refine ⟨_, Or.inr rfl, fun other different => ?_⟩
        exact sound.slot_of_removed (by rw [held]; rfl) different
    · intro identity elsewhere
      exact (get_assignments_transportLost source transportId identity).trans
        (if_neg elsewhere)
  | _ => trivial

/-- A number in use that a HELLO announces for an idle slot holds two slots. -/
theorem fresh_of_distinct (sound : Sound source)
    (distinct : Distinct (source.apply event)) : source.Fresh event := by
  unfold Fresh
  split
  · rename_i hello queues
    intro free used
    obtain ⟨key, held⟩ := (sound.owned.uses_iff _).mp used
    have different : key ≠ ⟨hello.remoteGatewayId, source.localGatewayId⟩ := by
      rintro rfl
      rw [slotAt, free] at held
      cases held
    have claimed : ((source.taskEnded .hello).answerHello hello).pool =
        ⟨source.pool.slots.insert ⟨hello.remoteGatewayId, source.localGatewayId⟩
          (.connecting hello.peerTransportId)⟩ := by
      have connected : (source.taskEnded .hello).pool.connect hello.remoteGatewayId
          (source.taskEnded .hello).localGatewayId hello.peerTransportId = .ok _ :=
        connect_eq_ok_iff.mpr ⟨free, rfl⟩
      simp only [answerHello, connected]
      rfl
    have slots : ∀ other, (source.apply
        (.handshake (.inboundHello (.ok hello)) queues)).slotAt other =
          if other = ⟨hello.remoteGatewayId, source.localGatewayId⟩ then
            .connecting hello.peerTransportId
          else source.slotAt other := by
      intro other
      exact (congrArg (fun pool : PeerPool => pool.slot other.dialer other.acceptor)
        claimed).trans (slotAt_insert source _ _ other)
    apply different
    apply distinct key _ hello.peerTransportId
    · rw [slots, if_neg different]
      exact held
    · rw [slots, if_pos rfl]
      rfl
  · trivial

theorem unawaited_of_contained (contained : source.Contained event (source.apply event)) :
    source.Unawaited event := by
  unfold Unawaited
  split
  · exact waitingFor_eq_nil_iff.mpr contained.2.1
  · trivial

end Sound

/-- In a run, every number holds one slot, no admission replaces a transport, and OPENs
and the ends of candidates and transports leave the other Gateways, directions and
streams alone, exactly when every HELLO that finds its slot idle brings a number not in
use, and every inbound handshake that fails does so while no OPEN waits for its
Gateway. -/
theorem contained_iff_fresh {localGatewayId : GatewayId}
    {maxPendingOpens maxHandshakes : Nat} {past : List (Manager × ManagerEvent)}
    {manager : Manager}
    (run : History Step (new localGatewayId maxPendingOpens maxHandshakes) past
      manager) :
    (Distinct manager ∧ ∀ entry ∈ past, Distinct entry.1 ∧
        entry.1.Contained entry.2 (entry.1.apply entry.2)) ↔
      ∀ entry ∈ past, entry.1.Fresh entry.2 ∧ entry.1.Unawaited entry.2 := by
  -- at the first event that breaks the condition the state is still sound
  suffices both : ((Distinct manager ∧ ∀ entry ∈ past, Distinct entry.1 ∧
        entry.1.Contained entry.2 (entry.1.apply entry.2)) →
      ∀ entry ∈ past, entry.1.Fresh entry.2 ∧ entry.1.Unawaited entry.2) ∧
      ((∀ entry ∈ past, entry.1.Fresh entry.2 ∧ entry.1.Unawaited entry.2) →
        Sound manager ∧ ∀ entry ∈ past, Sound entry.1 ∧
          entry.1.Contained entry.2 (entry.1.apply entry.2)) by
    refine ⟨both.1, fun fresh => ?_⟩
    obtain ⟨sound, earlier⟩ := both.2 fresh
    exact ⟨sound.owned.distinct, fun entry member =>
      ⟨(earlier entry member).1.owned.distinct, (earlier entry member).2⟩⟩
  induction run with
  | refl =>
      refine ⟨fun _ entry member => ?_, fun _ => ⟨sound_new _ _ _, ?_⟩⟩
      · cases member
      · intro entry member
        cases member
  | @tail middle target past event run last ih =>
      obtain ⟨possible, rfl⟩ := last
      simp only [List.forall_mem_append, List.forall_mem_singleton]
      constructor
      · rintro ⟨now, earlier, before, contained⟩
        have fresh := ih.1 ⟨before, earlier⟩
        have sound := (ih.2 fresh).1
        exact ⟨fresh, sound.fresh_of_distinct now,
          Sound.unawaited_of_contained contained⟩
      · rintro ⟨fresh, own, unawaited⟩
        obtain ⟨sound, earlier⟩ := ih.2 fresh
        exact ⟨sound.step own ⟨possible, rfl⟩, earlier, sound,
          sound.contained possible unawaited⟩

namespace Scenario

/-- A HELLO and the end of its handshake. -/
def dialled (remote : GatewayId) (transportId : PeerTransportId) : List ManagerEvent :=
  [.accepted, .handshake (.inboundHello (.ok ⟨remote, transportId⟩)) fun _ => none,
    .handshake (.inboundComplete remote transportId (.ok ⟨remote, transportId⟩))
      fun _ => none]

/-- Gateway 2 and Gateway 3 dial Gateway 1, each with number 20. -/
def twice : List ManagerEvent :=
  dialled ⟨2⟩ ⟨20⟩ ++ dialled ⟨3⟩ ⟨20⟩

/-- An OPEN of Gateway 1 that Gateway 2 serves. -/
def opening : PendingOpen where
  request :=
    { openIdentity := ⟨⟨1⟩, ⟨7⟩, 0⟩
      destination := ⟨⟨[97], validateNamespace_a⟩, ⟨[97], validateDestinationName_a⟩⟩
      relaySessionId := ⟨8⟩
      bindingId := ⟨9⟩ }
  target := ⟨⟨2⟩, "gateway-2:7000"⟩
  reply := 0

/-- They dial it with numbers of their own, an OPEN goes to Gateway 2, and the
transport of Gateway 3 is lost. -/
def beside : List ManagerEvent :=
  dialled ⟨2⟩ ⟨20⟩ ++ dialled ⟨3⟩ ⟨30⟩ ++
    [.open opening ⟨10⟩ fun _ => none, .transportLost ⟨30⟩]

/-- Gateway 1 when it knows Gateway 2 only. -/
def once : Manager :=
  (twice.take 3).foldl apply (new ⟨1⟩ 4 4)

def replaced : Manager :=
  twice.foldl apply (new ⟨1⟩ 4 4)

end Scenario

open Scenario in
/-- Every event of this run is contained: Gateway 2 keeps its slot and its stream when
Gateway 3 is lost. -/
theorem contained_of_two_peers :
    (∀ entry ∈ trail apply (new ⟨1⟩ 4 4) beside, Distinct entry.1 ∧
        entry.1.Contained entry.2 (entry.1.apply entry.2)) ∧
      (beside.foldl apply (new ⟨1⟩ 4 4)).slotAt ⟨⟨2⟩, ⟨1⟩⟩ = .ready ⟨20⟩ ∧
      (beside.foldl apply (new ⟨1⟩ 4 4)).assignments.get
        opening.request.openIdentity = some ⟨20⟩ := by
  have run : History Step (new ⟨1⟩ 4 4) (trail apply (new ⟨1⟩ 4 4) beside)
      (beside.foldl apply (new ⟨1⟩ 4 4)) :=
    History.of_allowed beside (by decide)
  exact ⟨((contained_iff_fresh run).mpr (by decide)).2, by decide, by decide⟩

open Scenario in
/-- The second transport takes the place of the first, and its loss frees the slots
of both Gateways. -/
theorem replaced_by_second_hello :
    History Step (new ⟨1⟩ 4 4) (trail apply (new ⟨1⟩ 4 4) twice) replaced ∧
      once.transports.get ⟨20⟩ = some ⟨2⟩ ∧
      replaced.transports.get ⟨20⟩ = some ⟨3⟩ ∧
      replaced.slotAt ⟨⟨2⟩, ⟨1⟩⟩ = .ready ⟨20⟩ ∧
      replaced.slotAt ⟨⟨3⟩, ⟨1⟩⟩ = .ready ⟨20⟩ ∧
      ¬Distinct replaced ∧
      (replaced.transportLost ⟨20⟩).slotAt ⟨⟨2⟩, ⟨1⟩⟩ = .idle ∧
      (replaced.transportLost ⟨20⟩).slotAt ⟨⟨3⟩, ⟨1⟩⟩ = .idle := by
  refine ⟨History.of_allowed twice (by decide), by decide, by decide,
    by decide, by decide, ?_, by decide, by decide⟩
  intro distinct
  have same := distinct ⟨⟨2⟩, ⟨1⟩⟩ ⟨⟨3⟩, ⟨1⟩⟩ ⟨20⟩ (by decide) (by decide)
  exact absurd same (by decide)

end Manager

end RelayGate.Peer
