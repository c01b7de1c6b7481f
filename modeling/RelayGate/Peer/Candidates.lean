import RelayGate.Peer.Manager

/-!
# Candidates hold their slots

Every handshake in flight holds the direction slot it has claimed, under a
transport number of its own, from its start to its report.  An OPEN waits only
while the outbound candidate to its Gateway is connecting.
-/

namespace RelayGate.Peer

open Library

/-- The slot a handshake task has claimed, and for which candidate. -/
def HandshakeTask.claim? (localGatewayId : GatewayId) :
    HandshakeTask → Option (PeerSlotKey × PeerTransportId)
  | .outbound remote transportId => some (⟨localGatewayId, remote⟩, transportId)
  | .complete remote transportId => some (⟨remote, localGatewayId⟩, transportId)
  | .hello => none
  | .reject => none

theorem HandshakeTask.transportId?_of_claim? {localGatewayId : GatewayId}
    {task : HandshakeTask} {key : PeerSlotKey} {transportId : PeerTransportId}
    (claims : task.claim? localGatewayId = some (key, transportId)) :
    task.transportId? = some transportId := by
  cases task <;> simp_all [claim?, transportId?]

theorem HandshakeTask.exists_claim? (task : HandshakeTask) (localGatewayId : GatewayId)
    {transportId : PeerTransportId} (owns : task.transportId? = some transportId) :
    ∃ key, task.claim? localGatewayId = some (key, transportId) := by
  cases task <;> simp_all [claim?, transportId?]

namespace Manager

variable {manager source : Manager} {transportId : PeerTransportId} {queues : Queues}
  {opening : PendingOpen} {remote : GatewayId} {event : ManagerEvent}
  {task : HandshakeTask}

/-! ## Dispatching -/

/-- Two states with the same slots, transports, waiting OPENs and handshakes. -/
structure SameSlots (before after : Manager) : Prop where
  localGatewayId : after.localGatewayId = before.localGatewayId
  pool : after.pool = before.pool
  transports : after.transports = before.transports
  pending : after.pending = before.pending
  tasks : after.tasks = before.tasks

section

variable (manager : Manager) (transportId : PeerTransportId) (queues : Queues)

theorem SameSlots.refl : SameSlots manager manager :=
  ⟨rfl, rfl, rfl, rfl, rfl⟩

theorem SameSlots.trans {first second third : Manager}
    (start : SameSlots first second) (rest : SameSlots second third) : SameSlots first third :=
  ⟨rest.localGatewayId.trans start.localGatewayId, rest.pool.trans start.pool,
    rest.transports.trans start.transports, rest.pending.trans start.pending,
    rest.tasks.trans start.tasks⟩

theorem sameSlots_dispatchOpen (opening : PendingOpen) :
    SameSlots manager (manager.dispatchOpen transportId queues opening).1 := by
  unfold dispatchOpen
  cases manager.transports.get transportId with
  | none => exact ⟨rfl, rfl, rfl, rfl, rfl⟩
  | some =>
    cases queues opening.reply with
    | none | some => exact ⟨rfl, rfl, rfl, rfl, rfl⟩

theorem sameSlots_dispatchAll (openings : List PendingOpen) (manager : Manager) :
    SameSlots manager (dispatchAll transportId queues openings manager).1 := by
  induction openings generalizing manager with
  | nil => exact SameSlots.refl manager
  | cons first rest ih =>
    exact (sameSlots_dispatchOpen manager transportId queues first).trans (ih _)

/-- Flushing the OPENs of a Gateway only takes them from the waiting ones. -/
theorem sameSlots_flushPendingFor (remote : GatewayId) (transportId : PeerTransportId)
    (queues : Queues) :
    SameSlots { manager with pending := manager.retainedFor remote }
      (manager.flushPendingFor remote transportId queues).1 := by
  have same := sameSlots_dispatchAll transportId queues (manager.waitingFor remote)
    { manager with pending := [] }
  exact { same with pending := rfl }

/-- So does failing them. -/
theorem sameSlots_failPendingFor (remote : GatewayId) (failure : PeerFailure) :
    SameSlots { manager with pending := manager.retainedFor remote }
      (manager.failPendingFor remote failure).1 :=
  ⟨rfl, rfl, rfl, rfl, rfl⟩

end

/-- The only OPEN a dispatch can fail is the one it dispatches. -/
theorem reply_of_dispatchOpen {reply : Nat} {failure : PeerFailure}
    (fails : .failOpen reply failure ∈ (manager.dispatchOpen transportId queues opening).2) :
    reply = opening.reply := by
  unfold dispatchOpen at fails
  cases found : manager.transports.get transportId with
  | none =>
    simp only [found, List.mem_singleton, ManagerEffect.failOpen.injEq] at fails
    exact fails.1
  | some =>
    simp only [found] at fails
    cases refused : queues opening.reply with
    | none => simp [refused] at fails
    | some =>
      simp only [refused, List.mem_singleton, ManagerEffect.failOpen.injEq] at fails
      exact fails.1

/-- A transport whose queue takes the OPENs fails none of them. -/
theorem failOpen_notMem_dispatchAll {openings : List PendingOpen}
    (known : manager.transports.get transportId = some remote)
    (taken : ∀ opening ∈ openings, queues opening.reply = none)
    (reply : Nat) (failure : PeerFailure) :
    .failOpen reply failure ∉ (dispatchAll transportId queues openings manager).2 := by
  induction openings generalizing manager with
  | nil => simp [dispatchAll]
  | cons first rest ih =>
    have same := sameSlots_dispatchOpen manager transportId queues first
    have later := ih (by rw [same.transports]; exact known)
      (fun opening member => taken opening (List.mem_cons_of_mem _ member))
    have now : .failOpen reply failure ∉
        (manager.dispatchOpen transportId queues first).2 := by
      simp [dispatchOpen, known, taken first List.mem_cons_self]
    simp only [dispatchAll, List.mem_append, not_or]
    exact ⟨now, later⟩

/-! ## Handshakes hold their slots -/

/-- The transports of the handshakes in flight. -/
def candidates (manager : Manager) : List PeerTransportId :=
  manager.tasks.filterMap HandshakeTask.transportId?

/-- Every handshake in flight holds its slot under a number of its own, every
outbound candidate has a handshake in flight, and every waiting OPEN waits for
one. -/
structure Matched (manager : Manager) : Prop where
  held : ∀ task ∈ manager.tasks, ∀ key transportId,
    task.claim? manager.localGatewayId = some (key, transportId) →
      manager.pool.slot key.dialer key.acceptor = .connecting transportId
  served : ∀ remote transportId,
    manager.pool.slot manager.localGatewayId remote = .connecting transportId →
      .outbound remote transportId ∈ manager.tasks
  distinct : manager.candidates.Nodup
  apart : ∀ transportId ∈ manager.candidates,
    manager.transports.contains transportId = false
  waits : ∀ opening ∈ manager.pending, ∃ transportId,
    .outbound opening.target.gatewayId transportId ∈ manager.tasks
  replies : (manager.pending.map PendingOpen.reply).Nodup

namespace Matched

variable {manager source : Manager} {remote : GatewayId} {transportId : PeerTransportId}
  {task : HandshakeTask} (matched : Matched manager)
include matched

/-- An outbound handshake in flight holds the outbound slot of its Gateway. -/
theorem slot_of_outbound (running : .outbound remote transportId ∈ manager.tasks) :
    manager.pool.slot manager.localGatewayId remote = .connecting transportId :=
  matched.held _ running ⟨_, remote⟩ transportId rfl

/-- An inbound handshake in flight holds the inbound slot of its Gateway. -/
theorem slot_of_complete (running : .complete remote transportId ∈ manager.tasks) :
    manager.pool.slot remote manager.localGatewayId = .connecting transportId :=
  matched.held _ running ⟨remote, _⟩ transportId rfl

/-- Nothing waits for a Gateway whose outbound slot is idle. -/
theorem waitingFor_eq_nil (free : manager.pool.slot manager.localGatewayId remote = .idle) :
    manager.waitingFor remote = [] := by
  apply List.filter_eq_nil_iff.mpr
  intro opening member waiting
  obtain ⟨transportId, running⟩ := matched.waits opening member
  have own : opening.target.gatewayId = remote := of_decide_eq_true waiting
  rw [own] at running
  rw [matched.slot_of_outbound running] at free
  cases free

/-- Waiting OPENs have reply channels of their own. -/
theorem eq_of_reply {first second : PendingOpen} (here : first ∈ manager.pending)
    (there : second ∈ manager.pending) (same : first.reply = second.reply) : first = second :=
  List.inj_on_of_nodup_map matched.replies here there same

/-- A task that has ended leaves no other task with its transport. -/
theorem notMem_erase (running : task ∈ manager.tasks)
    (owns : task.transportId? = some transportId) :
    transportId ∉ (manager.tasks.erase task).filterMap HandshakeTask.transportId? := by
  have same := (List.perm_cons_erase running).filterMap HandshakeTask.transportId?
  have distinct := same.nodup_iff.mp matched.distinct
  rw [List.filterMap_cons_some owns] at distinct
  exact (List.nodup_cons.mp distinct).1

end Matched

/-! ## One event -/

/-- A HELLO that finds its slot idle announces a number that is not in use. -/
def Fresh (manager : Manager) : ManagerEvent → Prop
  | .handshake (.inboundHello (.ok hello)) _ =>
      manager.pool.slot hello.remoteGatewayId manager.localGatewayId = .idle →
        ¬manager.Uses hello.peerTransportId
  | _ => True

/-- The condition under which only its own outbound attempt fails a waiting OPEN:
an inbound handshake fails only while no OPEN waits for its Gateway, a transport
that becomes ready takes the OPENs that wait for it, and the numbers are fresh. -/
def Orderly (manager : Manager) : ManagerEvent → Prop
  | .handshake (.inboundComplete remote _ (.error _)) _ =>
      manager.waitingFor remote = []
  | .handshake (.inboundComplete remote _ (.ok _)) queues =>
      ∀ opening ∈ manager.waitingFor remote, queues opening.reply = none
  | .handshake (.outbound remote _ (.ok _)) queues =>
      ∀ opening ∈ manager.waitingFor remote, queues opening.reply = none
  | event => manager.Fresh event

theorem Orderly.fresh (orderly : manager.Orderly event) : manager.Fresh event := by
  unfold Fresh
  split
  · exact orderly
  · trivial

section

variable (source : Manager) (opening : PendingOpen) (transportId : PeerTransportId)

/-- An OPEN that has to wait finds its slot idle, and is refused when no more
handshakes may start or starts one, or finds a candidate there. -/
theorem enqueueOpen_cases :
    let key : PeerSlotKey := ⟨source.localGatewayId, opening.target.gatewayId⟩
    let claimed : PeerPool :=
      ⟨source.pool.slots.insert key (.connecting transportId)⟩
    let waiting := { source with pending := source.pending ++ [opening] }
    (source.pool.slot key.dialer key.acceptor = .idle ∧
      source.enqueueOpen opening transportId =
        { waiting with pool := claimed.removeTransport transportId
          }.failPendingFor opening.target.gatewayId
          (.notObserved .resourceExhausted "peer handshake limit is reached")) ∨
    (source.pool.slot key.dialer key.acceptor = .idle ∧
      source.enqueueOpen opening transportId =
        ({ waiting with pool := claimed }.startOutboundHandshake opening.target
          transportId, [])) ∨
    (source.pool.slot key.dialer key.acceptor ≠ .idle ∧
      source.enqueueOpen opening transportId = (waiting, [])) := by
  intro key claimed waiting
  by_cases free : source.pool.slot key.dialer key.acceptor = .idle
  · have connected : source.pool.connect source.localGatewayId
        opening.target.gatewayId transportId = .ok claimed :=
      PeerPool.connect_eq_ok_iff.mpr ⟨free, rfl⟩
    by_cases full : source.maxHandshakes ≤ source.handshakesInflight
    · refine Or.inl ⟨free, ?_⟩
      simp only [enqueueOpen, connected, full, if_pos]
      rfl
    · refine Or.inr (Or.inl ⟨free, ?_⟩)
      simp only [enqueueOpen, connected, full, if_neg, not_false_eq_true]
      rfl
  · refine Or.inr (Or.inr ⟨free, ?_⟩)
    have refused : source.pool.connect source.localGatewayId
        opening.target.gatewayId transportId = .error (.alreadyExists
          "same-direction PeerTransport candidate already exists") := by
      unfold PeerPool.connect
      rw [if_pos free]
    simp only [enqueueOpen, refused]
    rfl

/-- A command either ends an OPEN at once, failing at most this one, or lets it
wait because no transport to its Gateway is ready. -/
theorem startOpen_cases (queues : Queues) :
    (SameSlots source (source.startOpen opening transportId queues).1 ∧
      ∀ reply failure, .failOpen reply failure ∈
        (source.startOpen opening transportId queues).2 → reply = opening.reply) ∨
    (source.pool.readyTransport opening.target.gatewayId = none ∧
      source.startOpen opening transportId queues =
        { source with
          activeOpens := insert opening.request.openIdentity source.activeOpens
          }.enqueueOpen opening transportId) := by
  have own : ∀ {after : Manager} {failed : PeerFailure}, SameSlots source after →
      SameSlots source (after, [ManagerEffect.failOpen opening.reply failed]).1 ∧
        ∀ reply failure, .failOpen reply failure ∈
          (after, [ManagerEffect.failOpen opening.reply failed]).2 →
            reply = opening.reply := by
    intro after failed same
    refine ⟨same, ?_⟩
    intro reply failure fails
    rw [List.mem_singleton, ManagerEffect.failOpen.injEq] at fails
    exact fails.1
  have reserved : SameSlots source { source with
      activeOpens := insert opening.request.openIdentity source.activeOpens } :=
    ⟨rfl, rfl, rfl, rfl, rfl⟩
  simp only [startOpen]
  split
  · exact Or.inl (own (SameSlots.refl source))
  · split
    · exact Or.inl (own (SameSlots.refl source))
    · split
      · exact Or.inl (own (SameSlots.refl source))
      · split
        · refine Or.inl ⟨reserved.trans (sameSlots_dispatchOpen _ _ _ _), ?_⟩
          intro reply failure fails
          exact reply_of_dispatchOpen fails
        · rename_i notReady
          split
          · exact Or.inl (own ⟨rfl, rfl, rfl, rfl, rfl⟩)
          · exact Or.inr ⟨notReady, rfl⟩

end

/-- Taking an element out moves the last one, and nothing else. -/
theorem swapRemove_perm {α : Type} {list : List α} {index : Nat} (inside : index < list.length) :
    (swapRemove list index).Perm (list.eraseIdx index) := by
  rcases list.eq_nil_or_concat' with rfl | ⟨init, last, rfl⟩
  · cases inside
  · have unfolded : swapRemove (init ++ [last]) index =
        ((init ++ [last]).set index last).dropLast := by
      simp [swapRemove]
    rw [unfolded]
    rw [List.length_append, List.length_singleton] at inside
    rcases Nat.lt_or_eq_of_le (Nat.le_of_lt_succ inside) with before | rfl
    · rw [List.set_append_left _ _ before, List.dropLast_concat,
        List.eraseIdx_append_of_lt_length before]
      exact (List.set_perm_cons_eraseIdx before last).trans
        (List.perm_append_singleton last _).symm
    · rw [List.set_append_right _ _ (Nat.le_refl _),
        List.eraseIdx_append_of_length_le (Nat.le_refl _)]
      simp

/-- A cancellation takes one waiting OPEN of its identity, which it fails, or
leaves the waiting ones alone. -/
theorem cancelOpen_cases (source : Manager) (identity : OpenIdentity)
    (reply : Nat) (queues : Queues) :
    (∃ opening ∈ source.pending, ∃ index < source.pending.length,
      opening.request.openIdentity = identity ∧
      SameSlots { source with pending := swapRemove source.pending index }
        (source.cancelOpen identity reply queues).1 ∧
      ∀ failed failure, .failOpen failed failure ∈
        (source.cancelOpen identity reply queues).2 → failed = opening.reply) ∨
    (SameSlots source (source.cancelOpen identity reply queues).1 ∧
      ∀ failed failure, .failOpen failed failure ∉
        (source.cancelOpen identity reply queues).2) := by
  simp only [cancelOpen]
  split
  · rename_i opening found
    have listed := List.mem_of_find?_eq_some found
    have own := List.find?_some found
    refine Or.inl ⟨opening, listed, _,
      List.findIdx_lt_length_of_exists ⟨opening, listed, own⟩,
      by simpa using own, ⟨rfl, rfl, rfl, rfl, rfl⟩, ?_⟩
    intro failed failure fails
    simp only [List.mem_cons, ManagerEffect.failOpen.injEq, reduceCtorEq,
      List.not_mem_nil, or_false] at fails
    exact fails.1
  · refine Or.inr ?_
    split
    · exact ⟨SameSlots.refl source, by simp⟩
    · split
      · exact ⟨⟨rfl, rfl, rfl, rfl, rfl⟩, by simp⟩
      · split
        · exact ⟨SameSlots.refl source, by simp⟩
        · exact ⟨SameSlots.refl source, by simp⟩

theorem sameSlots_streamEnded (manager : Manager) (key : PeerStreamKey)
    (openIdentity : OpenIdentity) : SameSlots manager (manager.streamEnded key openIdentity) := by
  unfold streamEnded
  split
  · exact ⟨rfl, rfl, rfl, rfl, rfl⟩
  · exact SameSlots.refl manager

theorem sameSlots_attemptEnded (manager : Manager) (openIdentity : OpenIdentity) :
    SameSlots manager (manager.attemptEnded openIdentity) := by
  unfold attemptEnded
  split
  · exact ⟨rfl, rfl, rfl, rfl, rfl⟩
  · exact SameSlots.refl manager

end Manager

end RelayGate.Peer
