import RelayGate.Peer.Waiting

/-!
# OPENs from their command to their end

The manager together with the transports it hands OPENs to.  A transport that gives
up an OPEN, or ends its stream, releases the identity at once, and the manager
handles the notice of it later.  Every identity that is active waits or is assigned
to one transport, as long as no identity is used again before the notice of its
earlier end has been handled.
-/

namespace RelayGate.Peer

open Library Table

def PendingOpen.identity (opening : PendingOpen) : OpenIdentity :=
  opening.request.openIdentity

/-- The notice that an OPEN or its stream has ended. -/
inductive Report
  | attempt (transportId : PeerTransportId) (identity : OpenIdentity)
  | stream (key : PeerStreamKey) (identity : OpenIdentity)
deriving DecidableEq

namespace Report

def identity : Report → OpenIdentity
  | .attempt _ identity => identity
  | .stream _ identity => identity

/-- The transport the notice comes from. -/
def transportId : Report → PeerTransportId
  | .attempt transportId _ => transportId
  | .stream key _ => key.peerTransportId

def event : Report → ManagerEvent
  | .attempt _ identity => .attemptEnded identity
  | .stream key identity => .streamEnded key identity

end Report

/-- An OPEN that has been handed to a transport. -/
abbrev Handed := OpenIdentity × PeerTransportId

/-- The OPENs an event hands to transports. -/
def handed (effects : List ManagerEffect) : List Handed :=
  effects.filterMap fun effect =>
    match effect with
    | .send transportId _ (.open request) => some (request.openIdentity, transportId)
    | _ => none

theorem handed_append (first second : List ManagerEffect) :
    handed (first ++ second) = handed first ++ handed second :=
  List.filterMap_append

/-- A slot has the transport that is ready for a Gateway. -/
theorem PeerPool.slot_of_readyTransport {pool : PeerPool} {remote : GatewayId}
    {transportId : PeerTransportId} (found : pool.readyTransport remote = some transportId) :
    ∃ key : PeerSlotKey, pool.slot key.dialer key.acceptor = .ready transportId := by
  obtain ⟨entry, member, selected⟩ := List.exists_of_findSome?_eq_some found
  have listed := mem_toList.mp (List.mem_insertionSort _ |>.mp member)
  refine ⟨entry.1, ?_⟩
  unfold PeerPool.slot
  rw [show (⟨entry.1.dialer, entry.1.acceptor⟩ : PeerSlotKey) = entry.1 from rfl, listed]
  split at selected
  · split at selected
    · rename_i state
      cases selected
      exact state
    · cases selected
    · cases selected
  · cases selected

/-- What a search finds, put before the rest of the list. -/
theorem cons_eraseIdx_perm {α : Type} {test : α → Bool} {list : List α} {found : α}
    (search : list.find? test = some found) :
    (found :: list.eraseIdx (list.findIdx test)).Perm list := by
  induction list with
  | nil => cases search
  | cons first rest ih =>
    by_cases matching : test first = true
    · rw [List.find?_cons_of_pos matching] at search
      cases search
      simp [List.findIdx_cons, matching]
    · rw [List.find?_cons_of_neg matching] at search
      have index : (first :: rest).findIdx test = rest.findIdx test + 1 := by
        simp [List.findIdx_cons, matching]
      rw [index, List.eraseIdx_cons_succ]
      exact (List.Perm.swap _ _ _).trans ((ih search).cons first)

namespace Manager

variable {manager : Manager}

theorem cons_swapRemove_perm {α : Type} {test : α → Bool} {list : List α} {found : α}
    (search : list.find? test = some found) :
    (found :: swapRemove list (list.findIdx test)).Perm list := by
  have inside := List.findIdx_lt_length_of_exists
    ⟨found, List.mem_of_find?_eq_some search, List.find?_some search⟩
  exact ((swapRemove_perm inside).cons found).trans (cons_eraseIdx_perm search)

theorem waitingFor_append_retainedFor (manager : Manager) (remote : GatewayId) :
    (manager.waitingFor remote ++ manager.retainedFor remote).Perm manager.pending := by
  have parts := List.filter_append_perm
    (fun opening : PendingOpen => decide (opening.target.gatewayId = remote))
    manager.pending
  simpa only [waitingFor, retainedFor, ne_eq, decide_not] using parts

/-! ## Where the active identities are -/

/-- The active identities wait or are assigned, those that transports hold are
active, and those whose end is reported are not. -/
structure Placed (manager : Manager) (waiting : List PendingOpen) (held : List Handed)
    (reports : List Report) : Prop where
  apart : (waiting.map PendingOpen.identity).Nodup
  waits : ∀ opening ∈ waiting, opening.identity ∈ manager.activeOpens ∧
    manager.assignments.get opening.identity = none
  registered : ∀ identity transportId,
    manager.assignments.get identity = some transportId →
      manager.transports.contains transportId = true
  placed : ∀ identity ∈ manager.activeOpens,
    identity ∈ waiting.map PendingOpen.identity ∨
      ∃ transportId, manager.assignments.get identity = some transportId
  once : held.Nodup
  holds : ∀ entry ∈ held, entry.1 ∈ manager.activeOpens ∧
    manager.assignments.get entry.1 = some entry.2
  single : (reports.map Report.identity).Nodup
  reported : ∀ report ∈ reports, report.identity ∉ manager.activeOpens ∧
    manager.assignments.get report.identity = some report.transportId
  ours : ∀ opening ∈ waiting,
    opening.identity.entryGateway = manager.localGatewayId
  ownership : ∀ identity transportId,
    manager.assignments.get identity = some transportId →
      identity.entryGateway = manager.localGatewayId

namespace Placed

variable {opening : PendingOpen} {transportId : PeerTransportId} {report : Report}
  {manager : Manager} {waiting : List PendingOpen} {held : List Handed}
  {reports : List Report}

section

variable (placed : Placed manager waiting held reports)
include placed

/-- Only the identities, the assignments and the transports count. -/
theorem congr {after : Manager} (active : after.activeOpens = manager.activeOpens)
    (assignments : ∀ identity, after.assignments.get identity = manager.assignments.get identity)
    (transports : ∀ transportId, manager.transports.contains transportId = true →
      after.transports.contains transportId = true)
    (sameLocal : after.localGatewayId = manager.localGatewayId) :
    Placed after waiting held reports where
  __ := placed
  waits := by simpa only [active, assignments] using placed.waits
  registered := by
    intro identity transportId assigned
    rw [assignments] at assigned
    exact transports _ (placed.registered identity transportId assigned)
  placed := by simpa only [active, assignments] using placed.placed
  holds := by simpa only [active, assignments] using placed.holds
  reported := by simpa only [active, assignments] using placed.reported
  ours := by simpa only [sameLocal] using placed.ours
  ownership := by simpa only [assignments, sameLocal] using placed.ownership

theorem perm {others : List PendingOpen} (same : others.Perm waiting)
    {also : List Handed} (sameHeld : also.Perm held) : Placed manager others also reports where
  __ := placed
  apart := (same.map _).nodup_iff.mpr placed.apart
  waits opening member := placed.waits opening (same.subset member)
  placed identity active := by
    refine (placed.placed identity active).imp_left fun member => ?_
    exact (same.map PendingOpen.identity).symm.subset member
  once := sameHeld.nodup_iff.mpr placed.once
  holds entry member := placed.holds entry (sameHeld.subset member)
  ours opening member := placed.ours opening (same.subset member)

/-- A command reserves an identity that is neither active nor assigned. -/
theorem reserve (unused : opening.identity ∉ manager.activeOpens)
    (unassigned : manager.assignments.get opening.identity = none)
    (own : opening.identity.entryGateway = manager.localGatewayId) :
    Placed { manager with
        activeOpens := insert opening.identity manager.activeOpens }
      (opening :: waiting) held reports where
  __ := placed
  apart := by
    rw [List.map_cons, List.nodup_cons]
    refine ⟨fun member => ?_, placed.apart⟩
    obtain ⟨other, listed, same⟩ := List.mem_map.mp member
    rw [← same] at unused
    exact unused (placed.waits other listed).1
  waits := by
    intro other member
    rcases List.mem_cons.mp member with rfl | earlier
    · exact ⟨Finset.mem_insert_self _ _, unassigned⟩
    · exact (placed.waits other earlier).imp_left Finset.mem_insert_of_mem
  placed := by
    intro identity active
    rw [List.map_cons, List.mem_cons]
    rcases Finset.mem_insert.mp active with same | earlier
    · exact Or.inl (Or.inl same)
    · exact (placed.placed identity earlier).imp_left Or.inr
  holds := by
    intro entry member
    exact (placed.holds entry member).imp_left Finset.mem_insert_of_mem
  reported := by
    intro report member
    obtain ⟨inactive, assigned⟩ := placed.reported report member
    refine ⟨fun active => ?_, assigned⟩
    rcases Finset.mem_insert.mp active with same | earlier
    · rw [same, unassigned] at assigned
      cases assigned
    · exact inactive earlier
  ours := by
    intro other member
    rcases List.mem_cons.mp member with rfl | earlier
    · exact own
    · exact placed.ours other earlier

end

/-- OPENs that wait are given up, and their identities with them. -/
theorem giveUp {gone rest : List PendingOpen}
    (placed : Placed manager (gone ++ rest) held reports) :
    Placed { manager with
        activeOpens := manager.activeOpens \
          (gone.map PendingOpen.identity).toFinset } rest held reports := by
  have apart := placed.apart
  rw [List.map_append, List.nodup_append] at apart
  have stays : ∀ identity ∈ manager.activeOpens,
      identity ∉ gone.map PendingOpen.identity → identity ∈ manager.activeOpens \
        (gone.map PendingOpen.identity).toFinset := by
    intro identity active other
    exact Finset.mem_sdiff.mpr ⟨active, fun member => other (List.mem_toFinset.mp member)⟩
  refine ⟨apart.2.1, ?_, placed.registered, ?_, placed.once, ?_, placed.single, ?_,
    fun opening member => placed.ours opening (List.mem_append_right _ member),
    placed.ownership⟩
  · intro opening member
    obtain ⟨active, unassigned⟩ := placed.waits opening (List.mem_append_right _ member)
    refine ⟨stays _ active fun other => ?_, unassigned⟩
    exact apart.2.2 _ other _ (List.mem_map_of_mem member) rfl
  · intro identity active
    obtain ⟨active, other⟩ := Finset.mem_sdiff.mp active
    rw [List.mem_toFinset] at other
    refine (placed.placed identity active).imp_left fun member => ?_
    rw [List.map_append, List.mem_append] at member
    exact member.resolve_left other
  · intro entry member
    obtain ⟨active, assigned⟩ := placed.holds entry member
    refine ⟨stays _ active fun other => ?_, assigned⟩
    obtain ⟨opening, listed, same⟩ := List.mem_map.mp other
    have unassigned := (placed.waits opening (List.mem_append_left _ listed)).2
    rw [same, assigned] at unassigned
    cases unassigned
  · intro report member
    obtain ⟨inactive, assigned⟩ := placed.reported report member
    exact ⟨fun active => inactive (Finset.mem_sdiff.mp active).1, assigned⟩

section

variable (placed : Placed manager (opening :: waiting) held reports)
include placed

/-- Giving up one OPEN releases its identity. -/
theorem release : Placed (manager.release opening.identity) waiting held reports := by
  have split : Placed manager ([opening] ++ waiting) held reports := placed
  refine split.giveUp.congr ?_ (fun _ => rfl) (fun _ => id) rfl
  exact (Finset.sdiff_singleton_eq_erase _ _).symm

/-- An OPEN is handed to a transport that is ready. -/
theorem hand (ready : manager.transports.contains transportId = true) :
    Placed { manager with
        assignments := manager.assignments.insert opening.identity transportId }
      waiting ((opening.identity, transportId) :: held) reports := by
  obtain ⟨active, unassigned⟩ := placed.waits opening List.mem_cons_self
  have apart := List.nodup_cons.mp placed.apart
  have other : ∀ {identity number}, manager.assignments.get identity = some number →
      (manager.assignments.insert opening.identity transportId).get identity =
        some number := by
    intro identity number assigned
    rw [get_insert_of_ne]
    · exact assigned
    · rintro rfl
      rw [unassigned] at assigned
      cases assigned
  refine ⟨apart.2, ?_, ?_, ?_, ?_, ?_, placed.single, ?_,
    fun other member => placed.ours other (List.mem_cons_of_mem _ member), ?_⟩
  · intro waits member
    obtain ⟨alsoActive, alone⟩ := placed.waits waits (List.mem_cons_of_mem _ member)
    refine ⟨alsoActive, ?_⟩
    rw [get_insert_of_ne]
    · exact alone
    · intro same
      exact apart.1 (same ▸ List.mem_map_of_mem member)
  · intro identity number assigned
    rcases get_insert_eq_some_iff.mp assigned with ⟨-, rfl⟩ | ⟨-, earlier⟩
    · exact ready
    · exact placed.registered identity number earlier
  · intro identity isActive
    rcases placed.placed identity isActive with waits | ⟨number, assigned⟩
    · rcases List.mem_cons.mp waits with same | waits
      · exact Or.inr ⟨transportId, by rw [same]; exact get_insert_self _ _ _⟩
      · exact Or.inl waits
    · exact Or.inr ⟨number, other assigned⟩
  · rw [List.nodup_cons]
    refine ⟨fun member => ?_, placed.once⟩
    rw [(placed.holds _ member).2] at unassigned
    cases unassigned
  · intro entry member
    rcases List.mem_cons.mp member with rfl | earlier
    · exact ⟨active, get_insert_self _ _ _⟩
    · exact (placed.holds entry earlier).imp_right other
  · intro report member
    exact (placed.reported report member).imp_right other
  · intro identity number assigned
    rcases get_insert_eq_some_iff.mp assigned with ⟨rfl, -⟩ | ⟨-, earlier⟩
    · exact placed.ours opening List.mem_cons_self
    · exact placed.ownership identity number earlier

/-! ## The manager's own events -/

theorem dispatchOpen (ready : manager.transports.contains transportId = true) (queues : Queues) :
    Placed (manager.dispatchOpen transportId queues opening).1 waiting
      (handed (manager.dispatchOpen transportId queues opening).2 ++ held)
      reports := by
  obtain ⟨remote, found⟩ := Option.isSome_iff_exists.mp ready
  have unassigned := (placed.waits opening List.mem_cons_self).2
  cases answer : queues opening.reply with
  | none =>
    simp only [Manager.dispatchOpen, found, answer]
    exact placed.hand ready
  | some =>
    simp only [Manager.dispatchOpen, found, answer]
    refine placed.release.congr rfl ?_ (fun _ => id) rfl
    -- the assignment is taken back
    intro identity
    have unchanged : ((manager.assignments.insert opening.identity
        transportId).remove opening.identity).get identity =
          manager.assignments.get identity := by
      by_cases own : identity = opening.identity
      · rw [own, get_remove_self, unassigned]
      · rw [get_remove_of_ne _ own, get_insert_of_ne _ _ own]
    exact unchanged

end

theorem dispatchAll (queues : Queues) (openings : List PendingOpen)
    (placed : Placed manager (openings ++ waiting) held reports)
    (ready : manager.transports.contains transportId = true) :
    Placed (Manager.dispatchAll transportId queues openings manager).1 waiting
      (handed (Manager.dispatchAll transportId queues openings manager).2 ++ held)
      reports := by
  induction openings generalizing manager held with
  | nil => exact placed
  | cons first rest ih =>
    have now := placed.dispatchOpen ready queues
    have same := sameSlots_dispatchOpen manager transportId queues first
    have later := ih now (by rw [same.transports]; exact ready)
    refine later.perm (List.Perm.refl _) ?_
    simp only [Manager.dispatchAll, handed_append, List.append_assoc]
    exact (List.perm_append_comm_assoc _ _ _)

section

variable (placed : Placed manager manager.pending held reports)
include placed

theorem split_for (remote : GatewayId) :
    Placed manager (manager.waitingFor remote ++ manager.retainedFor remote) held reports :=
  placed.perm (waitingFor_append_retainedFor manager remote) (List.Perm.refl _)

theorem failPendingFor (remote : GatewayId) (failure : PeerFailure) :
    Placed (manager.failPendingFor remote failure).1 (manager.retainedFor remote)
      (handed (manager.failPendingFor remote failure).2 ++ held) reports := by
  have none : handed (manager.failPendingFor remote failure).2 = [] := by
    simp [handed, Manager.failPendingFor]
  rw [none]
  exact (placed.split_for remote).giveUp.congr rfl (fun _ => rfl) (fun _ => id) rfl

theorem flushPendingFor (ready : manager.transports.contains transportId = true)
    (remote : GatewayId) (queues : Queues) :
    Placed (manager.flushPendingFor remote transportId queues).1
      (manager.retainedFor remote)
      (handed (manager.flushPendingFor remote transportId queues).2 ++ held)
      reports := by
  have cleared : Placed { manager with pending := [] }
      (manager.waitingFor remote ++ manager.retainedFor remote) held reports :=
    (placed.split_for remote).congr rfl (fun _ => rfl) (fun _ => id) rfl
  exact (cleared.dispatchAll queues _ ready).congr rfl (fun _ => rfl) (fun _ => id) rfl

theorem admitEstablished (established : EstablishedPeer) (queues : Queues) :
    Placed (manager.admitEstablished established queues).1
      (manager.admitEstablished established queues).1.pending
      (handed (manager.admitEstablished established queues).2 ++ held) reports := by
  simp only [Manager.admitEstablished]
  split
  · apply failPendingFor
    exact placed.congr rfl (fun _ => rfl) (fun _ => id) rfl
  · apply flushPendingFor
    · refine placed.congr rfl (fun _ => rfl) ?_ rfl
      intro transportId known
      rw [contains_eq, get_insert]
      split
      · rfl
      · exact known
    · rw [contains_eq, get_insert_self]
      rfl

end

theorem enqueueOpen (placed : Placed manager (opening :: manager.pending) held reports)
    (transportId : PeerTransportId) :
    Placed (manager.enqueueOpen opening transportId).1
      (manager.enqueueOpen opening transportId).1.pending
      (handed (manager.enqueueOpen opening transportId).2 ++ held) reports := by
  have waits : Placed { manager with pending := manager.pending ++ [opening] }
      (manager.pending ++ [opening]) held reports :=
    (placed.perm (List.perm_append_singleton _ _) (List.Perm.refl _)).congr rfl
      (fun _ => rfl) (fun _ => id) rfl
  simp only [Manager.enqueueOpen]
  split
  · split
    · apply failPendingFor
      exact waits.congr rfl (fun _ => rfl) (fun _ => id) rfl
    · exact waits.congr rfl (fun _ => rfl) (fun _ => id) rfl
  · exact waits
  · exact failPendingFor waits _ _

theorem startOpen (placed : Placed manager manager.pending held reports) (owned : Owned manager)
    (unused : opening.identity ∉ manager.activeOpens →
      manager.assignments.get opening.identity = none)
    (transportId : PeerTransportId) (queues : Queues) :
    Placed (manager.startOpen opening transportId queues).1
      (manager.startOpen opening transportId queues).1.pending
      (handed (manager.startOpen opening transportId queues).2 ++ held) reports := by
  simp only [Manager.startOpen]
  split
  · exact placed
  · rename_i own
    split
    · exact placed
    · split
      · exact placed
      · rename_i inactive
        have reserved := placed.reserve inactive (unused inactive)
          (Decidable.not_not.mp own)
        split
        · rename_i number ready
          obtain ⟨key, held⟩ := PeerPool.slot_of_readyTransport ready
          have known := owned.ready key number held
          have pending := (sameSlots_dispatchOpen { manager with
            activeOpens := insert opening.identity manager.activeOpens } number queues
              opening).pending
          rw [show opening.request.openIdentity = opening.identity from rfl, pending]
          exact reserved.dispatchOpen known queues
        · split
          · exact reserved.release
          · exact reserved.enqueueOpen transportId

theorem cancelOpen (placed : Placed manager manager.pending held reports)
    (identity : OpenIdentity) (reply : Nat) (queues : Queues) :
    Placed (manager.cancelOpen identity reply queues).1
      (manager.cancelOpen identity reply queues).1.pending
      (handed (manager.cancelOpen identity reply queues).2 ++ held) reports := by
  simp only [Manager.cancelOpen]
  split
  · rename_i opening found
    have taken := cons_swapRemove_perm found
    have own := List.find?_some found
    have same : opening.identity = identity := of_decide_eq_true own
    rw [← same] at taken ⊢
    exact (placed.perm taken (List.Perm.refl _)).release.congr rfl (fun _ => rfl)
      (fun _ => id) rfl
  · split
    · exact placed
    · rename_i number assigned
      split
      · rename_i unknown
        have known := placed.registered identity number assigned
        rw [contains_eq, unknown] at known
        cases known
      · split
        · exact placed
        · exact placed

/-! ## The transports' events -/

variable (placed : Placed manager waiting held reports)
include placed

/-- A transport gives back the identity of an OPEN it holds. -/
theorem drain {entry : Handed} (member : entry ∈ held) :
    Placed (manager.release entry.1) waiting (held.erase entry) reports := by
  obtain ⟨active, assigned⟩ := placed.holds entry member
  refine { placed with
    waits := ?_, placed := ?_, once := placed.once.erase _, holds := ?_, reported := ?_ }
  · intro opening listed
    obtain ⟨alsoActive, unassigned⟩ := placed.waits opening listed
    refine ⟨Finset.mem_erase.mpr ⟨?_, alsoActive⟩, unassigned⟩
    intro same
    rw [same, assigned] at unassigned
    cases unassigned
  · intro identity remaining
    exact placed.placed identity (Finset.mem_erase.mp remaining).2
  · intro other remaining
    obtain ⟨different, listed⟩ := placed.once.mem_erase_iff.mp remaining
    obtain ⟨alsoActive, alsoAssigned⟩ := placed.holds other listed
    refine ⟨Finset.mem_erase.mpr ⟨?_, alsoActive⟩, alsoAssigned⟩
    intro same
    rw [same, assigned] at alsoAssigned
    exact different (Prod.ext same (Option.some.inj alsoAssigned).symm)
  · intro report listed
    obtain ⟨inactive, alsoAssigned⟩ := placed.reported report listed
    exact ⟨fun remaining => inactive (Finset.mem_erase.mp remaining).2, alsoAssigned⟩

/-- It does so when the OPEN or its stream ends, and reports it. -/
theorem ends (member : (report.identity, report.transportId) ∈ held) :
    Placed (manager.release report.identity) waiting
      (held.erase (report.identity, report.transportId)) (report :: reports) := by
  obtain ⟨active, assigned⟩ := placed.holds _ member
  have drained := placed.drain member
  refine { drained with single := ?_, reported := ?_ }
  · rw [List.map_cons, List.nodup_cons]
    refine ⟨fun listed => ?_, placed.single⟩
    obtain ⟨other, already, same⟩ := List.mem_map.mp listed
    exact (placed.reported other already).1 (same ▸ active)
  · intro other listed
    rcases List.mem_cons.mp listed with rfl | earlier
    · exact ⟨Finset.notMem_erase _ _, assigned⟩
    · exact drained.reported other earlier

/-- A notice that comes after the release takes the assignment away. -/
theorem apply_report (member : report ∈ reports) :
    manager.apply report.event =
      { manager with assignments := manager.assignments.remove report.identity } := by
  obtain ⟨inactive, assigned⟩ := placed.reported report member
  cases report with
  | attempt => exact if_pos inactive
  | stream => exact if_pos ⟨inactive, assigned⟩

theorem settle (member : report ∈ reports) :
    Placed (manager.apply report.event) waiting held (reports.erase report) := by
  rw [placed.apply_report member]
  have inactive := (placed.reported report member).1
  have kept : ∀ {identity}, identity ∈ manager.activeOpens →
      (manager.assignments.remove report.identity).get identity =
        manager.assignments.get identity := by
    intro identity active
    apply get_remove_of_ne
    rintro rfl
    exact inactive active
  have distinct := ((List.perm_cons_erase member).map Report.identity).nodup_iff.mp
    placed.single
  rw [List.map_cons, List.nodup_cons] at distinct
  refine ⟨placed.apart, ?_, ?_, ?_, placed.once, ?_, distinct.2, ?_, placed.ours, ?_⟩
  · intro opening listed
    obtain ⟨active, unassigned⟩ := placed.waits opening listed
    exact ⟨active, (kept active).trans unassigned⟩
  · intro identity transportId assigned
    exact placed.registered identity transportId
      (get_remove_eq_some_iff.mp assigned).2
  · intro identity active
    refine (placed.placed identity active).imp_right ?_
    rintro ⟨transportId, assigned⟩
    exact ⟨transportId, (kept active).trans assigned⟩
  · intro entry listed
    obtain ⟨active, assigned⟩ := placed.holds entry listed
    exact ⟨active, (kept active).trans assigned⟩
  · intro other listed
    obtain ⟨alsoInactive, assigned⟩ := placed.reported other (List.mem_of_mem_erase listed)
    refine ⟨alsoInactive, (get_remove_of_ne _ ?_).trans assigned⟩
    intro same
    exact distinct.1 (same ▸ List.mem_map_of_mem listed)
  · intro identity transportId assigned
    exact placed.ownership identity transportId
      (get_remove_eq_some_iff.mp assigned).2

end Placed

theorem mem_activeOpens_transportLost {transportId : PeerTransportId} {identity : OpenIdentity} :
    identity ∈ (manager.transportLost transportId).activeOpens ↔
      identity ∈ manager.activeOpens ∧ manager.assignments.get identity ≠ some transportId := by
  simp only [transportLost, Finset.mem_sdiff, List.mem_toFinset, mem_lost]

/-- The loss of a transport takes away all it holds. -/
theorem Placed.lose {waiting : List PendingOpen} {held : List Handed} {reports : List Report}
    (placed : Placed manager waiting held reports) {transportId : PeerTransportId}
    (quiet : ∀ report ∈ reports, report.transportId ≠ transportId) :
    Placed (manager.transportLost transportId) waiting
      (held.filter fun entry => entry.2 ≠ transportId) reports := by
  have assigned := get_assignments_transportLost manager transportId
  have back : ∀ {identity number},
      (manager.transportLost transportId).assignments.get identity = some number →
        manager.assignments.get identity = some number ∧ number ≠ transportId := by
    intro identity number found
    rw [assigned] at found
    split at found
    · cases found
    · rename_i other
      refine ⟨found, ?_⟩
      rintro rfl
      exact other found
  have stays : ∀ {identity number},
      manager.assignments.get identity = some number → number ≠ transportId →
        (manager.transportLost transportId).assignments.get identity =
          some number := by
    intro identity number found different
    rw [assigned, if_neg]
    · exact found
    · rw [found]
      exact fun same => different (Option.some.inj same)
  refine ⟨placed.apart, ?_, ?_, ?_, placed.once.filter _, ?_, placed.single, ?_, placed.ours, ?_⟩
  · intro opening listed
    obtain ⟨active, unassigned⟩ := placed.waits opening listed
    have apart : manager.assignments.get opening.identity ≠ some transportId := by
      rw [unassigned]
      nofun
    refine ⟨mem_activeOpens_transportLost.mpr ⟨active, apart⟩, ?_⟩
    rw [assigned, if_neg apart]
    exact unassigned
  · intro identity number found
    obtain ⟨found, different⟩ := back found
    have known := placed.registered identity number found
    have removed := get_remove_of_ne manager.transports different
    rw [contains_eq] at known ⊢
    exact (congrArg Option.isSome removed).trans known
  · intro identity active
    obtain ⟨active, apart⟩ := mem_activeOpens_transportLost.mp active
    refine (placed.placed identity active).imp_right ?_
    rintro ⟨number, found⟩
    refine ⟨number, stays found ?_⟩
    rintro rfl
    exact apart found
  · intro entry listed
    obtain ⟨listed, other⟩ := List.mem_filter.mp listed
    obtain ⟨active, found⟩ := placed.holds entry listed
    have different : entry.2 ≠ transportId := by simpa using other
    refine ⟨mem_activeOpens_transportLost.mpr ⟨active, ?_⟩, stays found different⟩
    rw [found]
    exact fun same => different (Option.some.inj same)
  · intro report listed
    obtain ⟨inactive, found⟩ := placed.reported report listed
    refine ⟨fun active => ?_, stays found (quiet report listed)⟩
    exact inactive (mem_activeOpens_transportLost.mp active).1
  · intro identity number found
    exact placed.ownership identity number (back found).1

/-! ## The results of OPENs -/

/-- An effect answers the caller of an OPEN with a failure, or hands the OPEN and its
reply channel to a transport, whose own answer is no part of the manager. -/
def settles (reply : Nat) : ManagerEffect → Bool
  | .failOpen other _ => other = reply
  | .send _ other (.open _) => other = reply
  | _ => false

def awaits (reply : Nat) (opening : PendingOpen) : Bool :=
  opening.reply = reply

/-- The OPEN commands of an event for a reply channel. -/
def opens (reply : Nat) : ManagerEvent → Nat
  | .open opening _ _ => [opening].countP (awaits reply)
  | _ => 0

/-- What one event answers, keeps waiting and brings. -/
def Settles (reply : Nat) (brought : Nat) (before : List PendingOpen)
    (result : Manager × List ManagerEffect) : Prop :=
  result.2.countP (settles reply) + result.1.pending.countP (awaits reply) =
    before.countP (awaits reply) + brought

theorem countP_dispatchOpen (manager : Manager) (transportId : PeerTransportId)
    (queues : Queues) (opening : PendingOpen) (reply : Nat) :
    (manager.dispatchOpen transportId queues opening).2.countP (settles reply) =
      [opening].countP (awaits reply) := by
  unfold dispatchOpen
  cases manager.transports.get transportId with
  | none => rfl
  | some => cases queues opening.reply <;> rfl

theorem countP_dispatchAll (transportId : PeerTransportId) (queues : Queues)
    (openings : List PendingOpen) (manager : Manager) (reply : Nat) :
    (dispatchAll transportId queues openings manager).2.countP (settles reply) =
      openings.countP (awaits reply) := by
  induction openings generalizing manager with
  | nil => rfl
  | cons first rest ih =>
    rw [← List.singleton_append, List.countP_append]
    simp only [dispatchAll, List.singleton_append, List.countP_append, ih, countP_dispatchOpen]

section

variable (manager : Manager)

theorem countP_pending (remote : GatewayId) (reply : Nat) :
    (manager.waitingFor remote).countP (awaits reply) +
        (manager.retainedFor remote).countP (awaits reply) =
      manager.pending.countP (awaits reply) := by
  rw [← List.countP_append]
  exact (waitingFor_append_retainedFor manager remote).countP_eq _

theorem settles_failPendingFor (remote : GatewayId) (failure : PeerFailure) (reply : Nat) :
    Settles reply 0 manager.pending (manager.failPendingFor remote failure) := by
  have failed : (manager.failPendingFor remote failure).2.countP (settles reply) =
      (manager.waitingFor remote).countP (awaits reply) := by
    simp only [failPendingFor, List.countP_map]
    rfl
  rw [Settles, failed]
  exact countP_pending manager remote reply

theorem settles_flushPendingFor (remote : GatewayId) (transportId : PeerTransportId)
    (queues : Queues) (reply : Nat) :
    Settles reply 0 manager.pending (manager.flushPendingFor remote transportId queues) := by
  have sent : (manager.flushPendingFor remote transportId queues).2.countP
      (settles reply) = (manager.waitingFor remote).countP (awaits reply) :=
    countP_dispatchAll _ _ _ _ _
  rw [Settles, sent]
  exact countP_pending manager remote reply

theorem settles_admitEstablished (established : EstablishedPeer) (queues : Queues) (reply : Nat) :
    Settles reply 0 manager.pending (manager.admitEstablished established queues) := by
  simp only [admitEstablished]
  split
  · apply settles_failPendingFor
  · apply settles_flushPendingFor

theorem settles_startOpen (opening : PendingOpen) (transportId : PeerTransportId)
    (queues : Queues) (reply : Nat) :
    Settles reply ([opening].countP (awaits reply)) manager.pending
      (manager.startOpen opening transportId queues) := by
  have refused : ∀ after : Manager, after.pending = manager.pending →
      ∀ failure, Settles reply ([opening].countP (awaits reply)) manager.pending
        (after, [ManagerEffect.failOpen opening.reply failure]) := by
    intro after same failure
    rw [Settles, same]
    exact Nat.add_comm _ _
  have queued : (manager.pending ++ [opening]).countP (awaits reply) =
      manager.pending.countP (awaits reply) + [opening].countP (awaits reply) :=
    List.countP_append
  simp only [startOpen]
  split
  · exact refused _ rfl _
  · split
    · exact refused _ rfl _
    · split
      · exact refused _ rfl _
      · split
        · rw [Settles, countP_dispatchOpen, (sameSlots_dispatchOpen _ _ _ _).pending]
          exact Nat.add_comm _ _
        · split
          · exact refused _ rfl _
          · simp only [enqueueOpen, Settles, ← queued]
            split
            · split
              · exact settles_failPendingFor _ _ _ _
              · exact Nat.zero_add _
            · exact Nat.zero_add _
            · exact settles_failPendingFor _ _ _ _

theorem settles_cancelOpen (identity : OpenIdentity) (cancelled : Nat) (queues : Queues)
    (reply : Nat) :
    Settles reply 0 manager.pending (manager.cancelOpen identity cancelled queues) := by
  simp only [cancelOpen]
  split
  · rename_i opening found
    have taken := cons_swapRemove_perm found
    rw [Settles, ← taken.countP_eq]
    simp only [List.countP_cons, List.countP_nil, settles, awaits, release]
    lia
  · split
    · exact Nat.zero_add _
    · split
      · exact Nat.zero_add _
      · split <;> exact Nat.zero_add _

theorem countP_dispatchStreamCommand (key : PeerStreamKey) (command : StreamCommand)
    (answered : Nat) (queues : Queues) (reply : Nat) :
    (manager.dispatchStreamCommand key command answered queues).countP (settles reply) = 0 := by
  unfold dispatchStreamCommand
  split
  · rfl
  · split
    · rfl
    · split
      · rfl
      · dsimp only
        split
        · rfl
        · split <;> rfl

/-- Every OPEN is answered, handed on or kept, once. -/
theorem settles_run (event : ManagerEvent) (reply : Nat) :
    Settles reply (opens reply event) manager.pending (manager.run event) := by
  cases event with
  | «open» => exact settles_startOpen _ _ _ _ _
  | cancel => exact settles_cancelOpen _ _ _ _ _
  | stream =>
    rw [Settles]
    simp only [run, countP_dispatchStreamCommand]
    exact Nat.zero_add _
  | accepted =>
    simp only [Settles, run, startInboundHandshake]
    split <;> exact Nat.zero_add _
  | handshake notice =>
    cases notice with
    | outbound remote transportId result =>
      cases result with
      | ok => exact settles_admitEstablished _ _ _ _
      | error => exact settles_failPendingFor _ _ _ _
    | inboundHello result =>
      cases result with
      | ok =>
        simp only [Settles, run, handleHandshakeNotice, answerHello]
        split <;> exact Nat.zero_add _
      | error => exact Nat.zero_add _
    | inboundComplete remote transportId result =>
      cases result with
      | ok => exact settles_admitEstablished _ _ _ _
      | error => exact settles_failPendingFor _ _ _ _
    | rejected => exact Nat.zero_add _
  | streamEnded =>
    simp only [Settles, run, (sameSlots_streamEnded _ _ _).pending]
    exact Nat.zero_add _
  | attemptEnded =>
    simp only [Settles, run, (sameSlots_attemptEnded _ _).pending]
    exact Nat.zero_add _
  | transportLost | released => exact Nat.zero_add _
  | shutdown =>
    simp only [Settles, run, beginShutdown, List.countP_append, List.countP_map]
    have closes : ∀ keys : List PeerTransportId,
        keys.countP (settles reply ∘ .close) = 0 := by
      intro keys
      rw [List.countP_eq_zero]
      exact fun key _ => Bool.false_ne_true
    rw [closes]
    rfl

end

/-! ## The number of handshakes -/

structure Counted (manager : Manager) : Prop where
  inflight : manager.handshakesInflight = manager.tasks.length
  limit : manager.tasks.length ≤ manager.maxHandshakes

namespace Counted

variable {manager : Manager} (counted : Counted manager)
include counted

theorem dispatchOpen (transportId : PeerTransportId) (queues : Queues) (opening : PendingOpen) :
    Counted (manager.dispatchOpen transportId queues opening).1 := by
  unfold Manager.dispatchOpen
  cases manager.transports.get transportId with
  | none => exact ⟨counted.inflight, counted.limit⟩
  | some =>
    cases queues opening.reply <;> exact ⟨counted.inflight, counted.limit⟩

theorem dispatchAll (transportId : PeerTransportId) (queues : Queues)
    (openings : List PendingOpen) :
    Counted (Manager.dispatchAll transportId queues openings manager).1 := by
  induction openings generalizing manager with
  | nil => exact counted
  | cons first rest ih => exact ih (counted.dispatchOpen transportId queues first)

theorem admitEstablished (established : EstablishedPeer) (queues : Queues) :
    Counted (manager.admitEstablished established queues).1 := by
  simp only [Manager.admitEstablished]
  split
  · exact ⟨counted.inflight, counted.limit⟩
  · rename_i pool _
    have cleared : Counted { manager with
        pool := pool
        transports := manager.transports.insert established.peerTransportId
          established.remoteGatewayId
        pending := [] } := ⟨counted.inflight, counted.limit⟩
    have sent := cleared.dispatchAll established.peerTransportId queues
      (manager.waitingFor established.remoteGatewayId)
    exact ⟨sent.inflight, sent.limit⟩

/-- A handshake starts only below the limit. -/
theorem start (below : ¬manager.maxHandshakes ≤ manager.handshakesInflight)
    (task : HandshakeTask) :
    manager.handshakesInflight + 1 = (task :: manager.tasks).length ∧
      (task :: manager.tasks).length ≤ manager.maxHandshakes := by
  have inflight := counted.inflight
  rw [List.length_cons]
  lia

theorem startOpen (opening : PendingOpen) (transportId : PeerTransportId)
    (queues : Queues) : Counted (manager.startOpen opening transportId queues).1 := by
  have same : ∀ active, Counted { manager with activeOpens := active } :=
    fun _ => ⟨counted.inflight, counted.limit⟩
  simp only [Manager.startOpen]
  split
  · exact counted
  · split
    · exact counted
    · split
      · exact counted
      · split
        · exact (same _).dispatchOpen _ _ _
        · split
          · exact same _
          · simp only [Manager.enqueueOpen]
            split
            · split
              · exact ⟨counted.inflight, counted.limit⟩
              · rename_i below
                obtain ⟨inflight, limit⟩ := counted.start below
                  (.outbound opening.target.gatewayId transportId)
                exact ⟨inflight, limit⟩
            · exact ⟨counted.inflight, counted.limit⟩
            · exact ⟨counted.inflight, counted.limit⟩

/-- A report makes room for the task it may start. -/
theorem ended {task : HandshakeTask} (running : task ∈ manager.tasks) :
    Counted (manager.taskEnded task) ∧
      (manager.taskEnded task).tasks.length < manager.maxHandshakes := by
  have length := List.length_erase_of_mem running
  have some := List.length_pos_of_mem running
  have inflight := counted.inflight
  have limit := counted.limit
  refine ⟨⟨?_, ?_⟩, ?_⟩
  all_goals
    simp only [Manager.taskEnded]
    lia

theorem step {event : ManagerEvent} (possible : manager.Possible event) :
    Counted (manager.apply event) := by
  cases event with
  | «open» => exact counted.startOpen _ _ _
  | cancel =>
    simp only [apply, run, cancelOpen]
    split
    · exact ⟨counted.inflight, counted.limit⟩
    · split
      · exact counted
      · split
        · exact ⟨counted.inflight, counted.limit⟩
        · split <;> exact counted
  | stream => exact counted
  | accepted =>
    simp only [apply, run, startInboundHandshake]
    split
    · exact counted
    · rename_i below
      obtain ⟨inflight, limit⟩ := counted.start below .hello
      exact ⟨inflight, limit⟩
  | handshake notice =>
    obtain ⟨rest, room⟩ := counted.ended possible.1
    cases notice with
    | outbound remote transportId result =>
      cases result with
      | ok => exact rest.admitEstablished _ _
      | error => exact ⟨rest.inflight, rest.limit⟩
    | inboundHello result =>
      cases result with
      | ok =>
        have inflight := rest.inflight
        simp only [apply, run, handleHandshakeNotice, answerHello]
        split
        · exact ⟨congrArg (· + 1) inflight, room⟩
        · exact ⟨congrArg (· + 1) inflight, room⟩
        · exact rest
      | error => exact rest
    | inboundComplete remote transportId result =>
      cases result with
      | ok => exact rest.admitEstablished _ _
      | error => exact ⟨rest.inflight, rest.limit⟩
    | rejected => exact rest
  | streamEnded =>
    simp only [apply, run, streamEnded]
    split <;> exact ⟨counted.inflight, counted.limit⟩
  | attemptEnded =>
    simp only [apply, run, attemptEnded]
    split <;> exact ⟨counted.inflight, counted.limit⟩
  | transportLost | released | shutdown => exact ⟨counted.inflight, counted.limit⟩

end Counted

end Manager

/-! ## The manager and its transports -/

/-- The manager, the OPENs its transports hold and the notices they have sent. -/
structure Peering where
  manager : Manager
  held : List Handed
  reports : List Report

/-- An event of the manager, an OPEN or a stream that ends in its transport, an OPEN
a closing transport gives back, and the notices of both as the manager handles them.
`foreign` is the notice of a stream that the other Gateway has opened. -/
inductive PeeringEvent
  | manager (event : ManagerEvent)
  | ends (report : Report)
  | drains (entry : Handed)
  | reported (report : Report)
  | lost (transportId : PeerTransportId)
  | foreign (key : PeerStreamKey) (identity : OpenIdentity)

def PeeringEvent.event : PeeringEvent → ManagerEvent
  | .manager event => event
  | .ends report => .released report.identity
  | .drains entry => .released entry.1
  | .reported report => report.event
  | .lost transportId => .transportLost transportId
  | .foreign key identity => .streamEnded key identity

/-- The events in which a transport takes no part. -/
def ManagerEvent.Local : ManagerEvent → Prop
  | .streamEnded _ _ => False
  | .attemptEnded _ => False
  | .transportLost _ => False
  | .released _ => False
  | _ => True

namespace Peering

open Manager

variable {peering : Peering} {localGatewayId : GatewayId}
  {maxPendingOpens maxHandshakes : Nat} {past : List (Peering × PeeringEvent)}

def new (localGatewayId : GatewayId) (maxPendingOpens maxHandshakes : Nat) : Peering :=
  ⟨Manager.new localGatewayId maxPendingOpens maxHandshakes, [], []⟩

def apply (peering : Peering) (event : PeeringEvent) : Peering :=
  let manager := peering.manager.apply event.event
  match event with
  | .manager event =>
      ⟨manager, handed (peering.manager.effects event) ++ peering.held,
        peering.reports⟩
  | .ends report =>
      ⟨manager, peering.held.erase (report.identity, report.transportId),
        report :: peering.reports⟩
  | .drains entry => ⟨manager, peering.held.erase entry, peering.reports⟩
  | .reported report => ⟨manager, peering.held, peering.reports.erase report⟩
  | .lost transportId =>
      ⟨manager, peering.held.filter fun entry => entry.2 ≠ transportId,
        peering.reports⟩
  | .foreign _ _ => ⟨manager, peering.held, peering.reports⟩

/-- A transport ends what it holds, and its loss is handled after its other
notices. -/
def Possible (peering : Peering) : PeeringEvent → Prop
  | .manager event => event.Local ∧ peering.manager.Possible event
  | .ends report => (report.identity, report.transportId) ∈ peering.held
  | .drains entry => entry ∈ peering.held
  | .reported report => report ∈ peering.reports
  | .lost transportId =>
      peering.manager.transports.contains transportId = true ∧
        ∀ report ∈ peering.reports, report.transportId ≠ transportId
  | .foreign _ identity => identity.entryGateway ≠ peering.manager.localGatewayId

def Step (source : Peering) (event : PeeringEvent) (target : Peering) : Prop :=
  source.Possible event ∧ target = source.apply event

/-- An OPEN does not bring an identity that is still assigned to a transport. -/
def Unused (peering : Peering) : PeeringEvent → Prop
  | .manager (.open opening _ _) =>
      opening.identity ∉ peering.manager.activeOpens →
        peering.manager.assignments.get opening.identity = none
  | _ => True

theorem possible_event {event : PeeringEvent}
    (possible : peering.Possible event) : peering.manager.Possible event.event := by
  cases event with
  | manager => exact possible.2
  | lost => exact possible.1
  | reported report => cases report <;> trivial
  | _ => trivial

theorem manager_apply (peering : Peering) (event : PeeringEvent) :
    (peering.apply event).manager = peering.manager.apply event.event := by
  cases event <;> rfl

/-- The slots, the identities and the handshakes are in order. -/
structure Ordered (peering : Peering) : Prop where
  sound : Sound peering.manager
  counted : Counted peering.manager
  placed : Placed peering.manager peering.manager.pending peering.held peering.reports

theorem ordered_new (localGatewayId : GatewayId) (maxPendingOpens maxHandshakes : Nat) :
    Ordered (new localGatewayId maxPendingOpens maxHandshakes) := by
  refine ⟨sound_new _ _ _, ⟨rfl, Nat.zero_le _⟩, List.nodup_nil, ?_, ?_, ?_,
    List.nodup_nil, ?_, List.nodup_nil, ?_, ?_, ?_⟩
  · intro opening member
    cases member
  · intro identity transportId found
    cases found
  · intro identity active
    exact absurd active (Finset.notMem_empty identity)
  · intro entry member
    cases member
  · intro report member
    cases member
  · intro opening member
    cases member
  · intro identity transportId found
    cases found

/-- The manager's own events keep every identity in its place. -/
theorem Ordered.placed_local (ordered : Ordered peering)
    {event : ManagerEvent} (own : event.Local) (unused : peering.Unused (.manager event)) :
    Placed (peering.manager.apply event) (peering.manager.apply event).pending
      (handed (peering.manager.effects event) ++ peering.held) peering.reports := by
  have placed := ordered.placed
  cases event with
  | «open» opening transportId queues =>
    exact placed.startOpen ordered.sound.owned unused transportId queues
  | cancel identity reply queues => exact placed.cancelOpen identity reply queues
  | stream key command reply queues =>
    have none : handed (peering.manager.dispatchStreamCommand key command reply
        queues) = [] := by
      unfold dispatchStreamCommand
      split
      · rfl
      · split
        · rfl
        · split
          · rfl
          · dsimp only
            split
            · rfl
            · split <;> rfl
    simp only [Manager.apply, effects, run, none]
    exact placed
  | accepted =>
    simp only [Manager.apply, effects, run, startInboundHandshake]
    split
    · exact placed
    · exact placed.congr rfl (fun _ => rfl) (fun _ => id) rfl
  | handshake notice queues =>
    have ended : Placed (peering.manager.taskEnded notice.task)
        peering.manager.pending peering.held peering.reports :=
      placed.congr rfl (fun _ => rfl) (fun _ => id) rfl
    cases notice with
    | outbound remote transportId result =>
      cases result with
      | ok established => exact ended.admitEstablished established queues
      | error =>
        apply Placed.failPendingFor
        exact ended.congr rfl (fun _ => rfl) (fun _ => id) rfl
    | inboundHello result =>
      cases result with
      | ok =>
        simp only [Manager.apply, effects, run, handleHandshakeNotice, answerHello]
        split
        all_goals exact placed.congr rfl (fun _ => rfl) (fun _ => id) rfl
      | error => exact ended
    | inboundComplete remote transportId result =>
      cases result with
      | ok established => exact ended.admitEstablished established queues
      | error =>
        apply Placed.failPendingFor
        exact ended.congr rfl (fun _ => rfl) (fun _ => id) rfl
    | rejected => exact ended
  | shutdown =>
    have all : Placed peering.manager (peering.manager.pending ++ [])
        peering.held peering.reports := by
      rw [List.append_nil]
      exact placed
    have none : handed (peering.manager.effects .shutdown) = [] := by
      simp [handed, effects, run, beginShutdown]
    rw [none]
    exact all.giveUp.congr rfl (fun _ => rfl) (fun _ => id) rfl
  | streamEnded | attemptEnded | transportLost | released => cases own

theorem Ordered.step {source target : Peering} (ordered : Ordered source)
    {event : PeeringEvent} (fresh : source.manager.Fresh event.event)
    (unused : source.Unused event) (step : Step source event target) : Ordered target := by
  obtain ⟨possible, rfl⟩ := step
  have may := possible_event possible
  refine ⟨?_, ?_, ?_⟩
  · rw [manager_apply]
    exact ordered.sound.step fresh ⟨may, rfl⟩
  · rw [manager_apply]
    exact ordered.counted.step may
  have placed := ordered.placed
  cases event with
  | manager => exact ordered.placed_local possible.1 unused
  | ends => exact placed.ends possible
  | drains => exact placed.drain possible
  | reported report =>
    have settled := placed.settle possible
    have pending : (source.manager.apply report.event).pending =
        source.manager.pending := by
      rw [placed.apply_report possible]
    rw [← pending] at settled
    exact settled
  | lost => exact placed.lose possible.2
  | foreign key identity =>
    -- no stream of another Gateway is assigned
    have unassigned : source.manager.assignments.get identity = none := by
      cases found : source.manager.assignments.get identity with
      | none => rfl
      | some transportId =>
        exact absurd (placed.ownership identity transportId found) possible
    have same : source.manager.streamEnded key identity = source.manager := by
      apply if_neg
      rintro ⟨-, assigned⟩
      rw [unassigned] at assigned
      cases assigned
    have unchanged : (source.apply (.foreign key identity)).manager = source.manager := same
    rw [unchanged]
    exact placed

/-! ## Whole runs -/

/-- How often the events of a run answer or hand over an OPEN of a reply channel. -/
def settled (reply : Nat) (past : List (Peering × PeeringEvent)) : Nat :=
  (past.map fun entry =>
    (entry.1.manager.effects entry.2.event).countP (settles reply)).sum

/-- The OPEN commands of a run for a reply channel. -/
def opened (reply : Nat) (past : List (Peering × PeeringEvent)) : Nat :=
  (past.map fun entry => opens reply entry.2.event).sum

theorem settled_add_waiting
    (run : History Step (new localGatewayId maxPendingOpens maxHandshakes) past
      peering) (reply : Nat) :
    settled reply past + peering.manager.pending.countP (awaits reply) = opened reply past := by
  induction run with
  | refl => rfl
  | @tail middle target past event run last ih =>
    obtain ⟨-, rfl⟩ := last
    have step : (middle.manager.effects event.event).countP (settles reply) +
        (middle.manager.apply event.event).pending.countP (awaits reply) =
          middle.manager.pending.countP (awaits reply) + opens reply event.event :=
      settles_run middle.manager event.event reply
    rw [manager_apply]
    simp only [settled, opened, List.map_append, List.sum_append, List.map_cons,
      List.map_nil, List.sum_cons, List.sum_nil] at ih ⊢
    lia

theorem ordered_of_history
    (run : History Step (new localGatewayId maxPendingOpens maxHandshakes) past peering)
    (fresh : ∀ entry ∈ past, entry.1.manager.Fresh entry.2.event)
    (unused : ∀ entry ∈ past, entry.1.Unused entry.2) : Ordered peering := by
  induction run with
  | refl => exact ordered_new _ _ _
  | @tail middle target past event run last ih =>
    simp only [List.forall_mem_append, List.forall_mem_singleton] at fresh unused
    exact (ih fresh.1 unused.1).step fresh.2 unused.2 last

def Waiting (peering : Peering) (identity : OpenIdentity) : Prop :=
  ∃ opening ∈ peering.manager.pending, opening.identity = identity

/-- An identity has neither a reservation nor a transport. -/
def Gone (peering : Peering) (identity : OpenIdentity) : Prop :=
  identity ∉ peering.manager.activeOpens ∧
    peering.manager.assignments.get identity = none

/-- What holds of the OPENs, the handshakes and the slots after a run. -/
structure Accounted (past : List (Peering × PeeringEvent)) (peering : Peering) :
    Prop where
  results : ∀ reply,
    settled reply past + peering.manager.pending.countP (awaits reply) =
      opened reply past
  dialled : ∀ opening ∈ peering.manager.pending, ∃ transportId,
    .outbound opening.target.gatewayId transportId ∈ peering.manager.tasks
  active : ∀ identity ∈ peering.manager.activeOpens,
    peering.Waiting identity ∧
        peering.manager.assignments.get identity = none ∨
      ¬peering.Waiting identity ∧ ∃ transportId,
        peering.manager.assignments.get identity = some transportId ∧
          peering.manager.transports.contains transportId = true
  ended : ∀ report, peering.Possible (.reported report) →
    (peering.apply (.reported report)).Gone report.identity
  lost : ∀ transportId, peering.Possible (.lost transportId) → ∀ identity,
    peering.manager.assignments.get identity = some transportId →
      (peering.apply (.lost transportId)).Gone identity
  inflight : peering.manager.handshakesInflight = peering.manager.tasks.length
  limit : peering.manager.tasks.length ≤ peering.manager.maxHandshakes
  ready : ∀ key transportId,
    (peering.manager.slotAt key).transportId = some transportId →
      (peering.manager.slotAt key = .ready transportId ↔
        peering.manager.transports.contains transportId = true)

theorem Ordered.active (ordered : Ordered peering)
    {identity : OpenIdentity} (active : identity ∈ peering.manager.activeOpens) :
    peering.Waiting identity ∧
        peering.manager.assignments.get identity = none ∨
      ¬peering.Waiting identity ∧ ∃ transportId,
        peering.manager.assignments.get identity = some transportId ∧
          peering.manager.transports.contains transportId = true := by
  rcases ordered.placed.placed identity active with waits | ⟨transportId, assigned⟩
  · obtain ⟨opening, listed, rfl⟩ := List.mem_map.mp waits
    exact Or.inl ⟨⟨opening, listed, rfl⟩, (ordered.placed.waits opening listed).2⟩
  · refine Or.inr ⟨?_, transportId, assigned,
      ordered.placed.registered identity transportId assigned⟩
    rintro ⟨opening, listed, rfl⟩
    rw [(ordered.placed.waits opening listed).2] at assigned
    cases assigned

theorem Ordered.gone_of_report (ordered : Ordered peering)
    {report : Report} (member : report ∈ peering.reports) :
    (peering.apply (.reported report)).Gone report.identity := by
  rw [Gone, manager_apply]
  have handled := ordered.placed.apply_report member
  simp only [PeeringEvent.event, handled]
  exact ⟨(ordered.placed.reported report member).1, get_remove_self _ _⟩

theorem gone_of_lost {transportId : PeerTransportId} {identity : OpenIdentity}
    (assigned : peering.manager.assignments.get identity = some transportId) :
    (peering.apply (.lost transportId)).Gone identity := by
  refine ⟨fun active => ?_, ?_⟩
  · exact (mem_activeOpens_transportLost.mp active).2 assigned
  · exact (get_assignments_transportLost _ _ _).trans (if_pos assigned)

theorem Ordered.ready_iff (ordered : Ordered peering)
    {key : PeerSlotKey} {transportId : PeerTransportId}
    (held : (peering.manager.slotAt key).transportId = some transportId) :
    peering.manager.slotAt key = .ready transportId ↔
      peering.manager.transports.contains transportId = true := by
  have owned := ordered.sound.owned
  refine ⟨owned.ready key transportId, fun known => ?_⟩
  obtain ⟨remote, found⟩ := Option.isSome_iff_exists.mp known
  rcases owned.live transportId remote found with ready | ready
  · rw [owned.distinct key _ transportId held (by rw [ready]; rfl)]
    exact ready
  · rw [owned.distinct key _ transportId held (by rw [ready]; rfl)]
    exact ready

/-- After every run with new transport numbers, in which no OPEN brings an identity
that is still assigned, every OPEN is answered with a failure or handed to a
transport once, or waits for an outbound handshake, every active identity waits or has
one transport, the end of an OPEN leaves nothing of it, and the handshakes and slots
are accounted for. -/
theorem accounted_of_history
    (run : History Step (new localGatewayId maxPendingOpens maxHandshakes) past
      peering)
    (fresh : ∀ entry ∈ past, entry.1.manager.Fresh entry.2.event)
    (unused : ∀ entry ∈ past, entry.1.Unused entry.2) : Accounted past peering := by
  have ordered := ordered_of_history run fresh unused
  exact
    { results := settled_add_waiting run
      dialled := ordered.sound.matched.waits
      active := fun _ => ordered.active
      ended := fun _ => ordered.gone_of_report
      lost := fun _ _ _ => gone_of_lost
      inflight := ordered.counted.inflight
      limit := ordered.counted.limit
      ready := fun _ _ => ordered.ready_iff }

namespace Scenario

open Manager.Scenario

/-- Gateway 2 has dialled Gateway 1, which hands it an OPEN. -/
def serving : List PeeringEvent :=
  [.manager .accepted,
    .manager (.handshake (.inboundHello (.ok ⟨⟨2⟩, ⟨20⟩⟩)) fun _ => none),
    .manager (.handshake (.inboundComplete ⟨2⟩ ⟨20⟩ (.ok ⟨⟨2⟩, ⟨20⟩⟩)) fun _ => none),
    .manager (.open opening ⟨10⟩ fun _ => none)]

def started : Peering :=
  new ⟨1⟩ 4 4

/-- The transport gives the OPEN up. -/
def refused : Report :=
  .attempt ⟨20⟩ opening.identity

/-- The same identity, for Gateway 3. -/
def again : PendingOpen :=
  { opening with target := ⟨⟨3⟩, "gateway-3:7000"⟩, reply := 1 }

/-- The identity is used again before the notice of its end is handled. -/
def reusing : List PeeringEvent :=
  serving ++ [.ends refused, .manager (.open again ⟨30⟩ fun _ => none)]

def reused : Peering :=
  reusing.foldl apply started

end Scenario

instance (event : ManagerEvent) : Decidable event.Local := by
  cases event <;> unfold ManagerEvent.Local <;> infer_instance

instance (peering : Peering) (event : PeeringEvent) :
    Decidable (peering.Possible event) := by
  cases event <;> unfold Possible <;> infer_instance

open Scenario in
/-- The OPEN of this run is with the transport of Gateway 2, and its end leaves
nothing. -/
theorem accounted_serving :
    Accounted (trail apply started serving) (serving.foldl apply started) := by
  refine accounted_of_history (History.of_allowed serving (by decide)) ?_ ?_
  · simp only [serving, trail, List.forall_mem_cons, List.not_mem_nil]
    refine ⟨trivial, ?_, trivial, trivial, fun _ => False.elim⟩
    exact fun _ => (by decide)
  · simp only [serving, trail, List.forall_mem_cons, List.not_mem_nil]
    refine ⟨trivial, trivial, trivial, ?_, fun _ => False.elim⟩
    exact fun _ => (by decide)

open Scenario in
/-- An identity that is used again waits for one Gateway while it is assigned to the
transport of another, and the notice of its end leaves it active and assigned. -/
theorem waiting_and_assigned :
    History Step started (trail apply started reusing) reused ∧
      Manager.Scenario.opening.identity ∈ reused.manager.activeOpens ∧
      again ∈ reused.manager.pending ∧
      reused.manager.assignments.get Manager.Scenario.opening.identity = some ⟨20⟩ ∧
      reused.Possible (.reported refused) ∧
      ¬(reused.apply (.reported refused)).Gone Manager.Scenario.opening.identity := by
  refine ⟨History.of_allowed reusing (by decide), by decide, by decide,
    by decide, by decide, fun gone => ?_⟩
  exact absurd gone.1 (by decide)

end Peering

end RelayGate.Peer
