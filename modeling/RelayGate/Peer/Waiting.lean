import RelayGate.Peer.Slots

/-!
# OPENs that wait for a transport

An OPEN for which no transport is ready waits for the outbound candidate to its
Gateway.  The candidate holds the outbound slot from the moment the OPEN waits to
the moment its handshake reports, so nothing else than this report, a
cancellation or the shutdown should fail the OPEN.

That is so as long as no inbound handshake fails: the failure of an inbound
handshake is given to every OPEN that waits for the same Gateway, although the
outbound candidate is still connecting.
-/

namespace RelayGate.Peer

open Library

namespace Manager

variable {manager source : Manager} {notice : HandshakeNotice} {queues : Queues}
  {remote : GatewayId} {transportId : PeerTransportId} {event : ManagerEvent}
  {reply : Nat} {failure : PeerFailure}

/-! ## What fails a waiting OPEN -/

/-- The OPEN waits, and the outbound candidate it waits for is connecting. -/
structure WaitsFor (manager : Manager) (opening : PendingOpen)
    (transportId : PeerTransportId) : Prop where
  listed : opening ∈ manager.pending
  held : manager.pool.slot manager.localGatewayId opening.target.gatewayId =
    .connecting transportId
  dialling : .outbound opening.target.gatewayId transportId ∈ manager.tasks

/-- The reasons to fail a waiting OPEN: its own outbound attempt has failed, it is
cancelled, or the manager shuts down. -/
inductive Cause (manager : Manager) (opening : PendingOpen) : ManagerEvent → Prop
  | attempt {transportId : PeerTransportId} {error : PeerFailure}
      {queues : Queues} (waits : WaitsFor manager opening transportId) :
      Cause manager opening (.handshake
        (.outbound opening.target.gatewayId transportId (.error error)) queues)
  | cancelled (reply : Nat) (queues : Queues) :
      Cause manager opening
        (.cancel opening.request.openIdentity reply queues)
  | shutdown : Cause manager opening .shutdown

theorem Matched.waitsFor (matched : Matched manager)
    {opening : PendingOpen} (listed : opening ∈ manager.pending) :
    ∃ transportId, WaitsFor manager opening transportId := by
  obtain ⟨transportId, dialling⟩ := matched.waits opening listed
  exact ⟨transportId, listed, matched.slot_of_outbound dialling, dialling⟩

theorem tasks_admitEstablished (manager : Manager) (established : EstablishedPeer)
    (queues : Queues) :
    (manager.admitEstablished established queues).1.tasks = manager.tasks := by
  simp only [admitEstablished]
  split
  · rfl
  · exact (sameSlots_flushPendingFor _ _ _ _).tasks

/-- A handshake that reports starts no outbound one. -/
theorem outbound_of_handshake
    (running : .outbound remote transportId ∈
      (manager.handleHandshakeNotice notice queues).1.tasks) :
    .outbound remote transportId ∈ manager.tasks := by
  have earlier : ∀ task,
      HandshakeTask.outbound remote transportId ∈ (manager.taskEnded task).tasks →
        HandshakeTask.outbound remote transportId ∈ manager.tasks :=
    fun _ member => List.mem_of_mem_erase member
  unfold handleHandshakeNotice at running
  split at running
  · rw [tasks_admitEstablished] at running
    exact earlier _ running
  · exact earlier _ running
  · exact earlier _ running
  · simp only [answerHello] at running
    split at running
    · exact earlier _ (by simpa using running)
    · exact earlier _ (by simpa using running)
    · exact earlier _ running
  · rw [tasks_admitEstablished] at running
    exact earlier _ running
  · exact earlier _ running
  · exact earlier _ running

/-- An outbound handshake starts in an idle slot only. -/
theorem outbound_of_apply (running : .outbound remote transportId ∈ (manager.apply event).tasks) :
    .outbound remote transportId ∈ manager.tasks ∨
      manager.pool.slot manager.localGatewayId remote = .idle := by
  cases event with
  | «open» opening number queues =>
    have running : .outbound remote transportId ∈
      (manager.startOpen opening number queues).1.tasks := running
    rcases startOpen_cases manager opening number queues with
      ⟨same, _⟩ | ⟨_, waits⟩
    · rw [same.tasks] at running
      exact Or.inl running
    · rw [waits] at running
      rcases enqueueOpen_cases _ opening number with
        ⟨_, refused⟩ | ⟨free, started⟩ | ⟨_, joined⟩
      · rw [refused] at running
        exact Or.inl running
      · rw [started] at running
        rcases List.mem_cons.mp running with own | earlier
        · cases own
          exact Or.inr free
        · exact Or.inl earlier
      · rw [joined] at running
        exact Or.inl running
  | cancel identity reply queues =>
    have running : .outbound remote transportId ∈
      (manager.cancelOpen identity reply queues).1.tasks := running
    rcases cancelOpen_cases manager identity reply queues with
      ⟨_, _, _, _, _, same, _⟩ | ⟨same, _⟩
    · rw [same.tasks] at running
      exact Or.inl running
    · rw [same.tasks] at running
      exact Or.inl running
  | stream => exact Or.inl running
  | accepted =>
    simp only [apply, run, startInboundHandshake] at running
    split at running
    · exact Or.inl running
    · exact Or.inl (by simpa using running)
  | handshake => exact Or.inl (outbound_of_handshake running)
  | streamEnded key openIdentity =>
    have running := (sameSlots_streamEnded manager key openIdentity).tasks ▸ running
    exact Or.inl running
  | attemptEnded openIdentity =>
    have running := (sameSlots_attemptEnded manager openIdentity).tasks ▸ running
    exact Or.inl running
  | transportLost | released | shutdown => exact Or.inl running

/-- An OPEN waits for one candidate until it stops waiting. -/
theorem WaitsFor.step {target : Manager} {opening : PendingOpen}
    (waits : WaitsFor source opening transportId) (sound : Sound source)
    (orderly : source.Orderly event) (step : Step source event target)
    (listed : opening ∈ target.pending) : WaitsFor target opening transportId := by
  obtain ⟨number, later⟩ := (sound.step orderly.fresh step).matched.waitsFor listed
  have same : number = transportId := by
    obtain ⟨_, rfl⟩ := step
    rcases outbound_of_apply later.dialling with earlier | free
    · have held := sound.matched.slot_of_outbound earlier
      rw [waits.held] at held
      cases held
      rfl
    · rw [waits.held] at free
      cases free
  exact same ▸ later

/-- A failure given to the OPENs of a Gateway reaches those only. -/
theorem mem_of_failPendingFor {failed : PeerFailure}
    (fails : .failOpen reply failure ∈ (manager.failPendingFor remote failed).2) :
    ∃ opening ∈ manager.pending, opening.target.gatewayId = remote ∧ opening.reply = reply := by
  obtain ⟨opening, member, sent⟩ := List.mem_map.mp fails
  obtain ⟨listed, own⟩ := List.mem_filter.mp member
  cases sent
  exact ⟨opening, listed, of_decide_eq_true own, rfl⟩

/-- A command that brings an OPEN fails no other one. -/
theorem reply_of_startOpen (matched : Matched source) {opening : PendingOpen}
    (fails : .failOpen reply failure ∈ (source.startOpen opening transportId queues).2) :
    reply = opening.reply := by
  rcases startOpen_cases source opening transportId queues with
    ⟨_, own⟩ | ⟨_, waits⟩
  · exact own reply failure fails
  · rw [waits] at fails
    rcases enqueueOpen_cases _ opening transportId with
      ⟨free, refused⟩ | ⟨_, started⟩ | ⟨_, joined⟩
    · rw [refused] at fails
      obtain ⟨failed, listed, toRemote, rfl⟩ := mem_of_failPendingFor fails
      -- the slot was idle, so no other OPEN waited for the Gateway
      have alone := matched.waitingFor_eq_nil free
      rcases List.mem_append.mp listed with earlier | own
      · have member : failed ∈ source.waitingFor opening.target.gatewayId :=
          List.mem_filter.mpr ⟨earlier, decide_eq_true toRemote⟩
        rw [alone] at member
        cases member
      · cases List.mem_singleton.mp own
        rfl
    · rw [started] at fails
      cases fails
    · rw [joined] at fails
      cases fails

/-- A transport that becomes ready and takes the waiting OPENs fails none. -/
theorem failOpen_notMem_establish
    (held :
      manager.pool.slot manager.localGatewayId remote = .connecting transportId ∨
      manager.pool.slot remote manager.localGatewayId = .connecting transportId)
    (taken : ∀ opening ∈ manager.waitingFor remote, queues opening.reply = none)
    (reply : Nat) (failure : PeerFailure) :
    .failOpen reply failure ∉ (manager.admitEstablished ⟨remote, transportId⟩ queues).2 := by
  obtain ⟨pool, admitted⟩ := admitEstablished_of_held queues held
  rw [admitted]
  exact failOpen_notMem_dispatchAll (Table.get_insert_self _ _ _) taken reply
    failure

/-- Among the reports of handshakes, only the failure of its own outbound attempt
fails a waiting OPEN. -/
theorem cause_of_handshake (matched : Matched source)
    (running : notice.task ∈ source.tasks) (reports : source.Reports notice)
    (orderly : source.Orderly (.handshake notice queues))
    {opening : PendingOpen} (listed : opening ∈ source.pending)
    (fails : .failOpen opening.reply failure ∈ (source.handleHandshakeNotice notice queues).2) :
    Cause source opening (.handshake notice queues) := by
  cases notice with
  | outbound remote transportId result =>
    have held := matched.slot_of_outbound running
    cases result with
    | error =>
      obtain ⟨failed, member, toRemote, same⟩ := mem_of_failPendingFor fails
      cases matched.eq_of_reply member listed same
      obtain ⟨number, waits⟩ := matched.waitsFor listed
      cases toRemote
      cases held.symm.trans waits.held
      exact Cause.attempt waits
    | ok =>
      cases reports
      have ended : (source.taskEnded (.outbound remote transportId)).pool.slot
          source.localGatewayId remote = .connecting transportId := held
      exact absurd fails (failOpen_notMem_establish (Or.inl ended) orderly _ _)
  | inboundHello result => cases result <;> cases fails
  | inboundComplete remote transportId result =>
    have held := matched.slot_of_complete running
    cases result with
    | error =>
      obtain ⟨failed, member, toRemote, _⟩ := mem_of_failPendingFor fails
      have waiting : failed ∈ source.waitingFor remote :=
        List.mem_filter.mpr ⟨member, decide_eq_true toRemote⟩
      rw [orderly] at waiting
      cases waiting
    | ok =>
      cases reports
      have ended : (source.taskEnded (.complete remote transportId)).pool.slot
          remote source.localGatewayId = .connecting transportId := held
      exact absurd fails (failOpen_notMem_establish (Or.inr ended) orderly _ _)
  | rejected => cases fails

theorem failOpen_notMem_stream (manager : Manager) (key : PeerStreamKey)
    (command : StreamCommand) (reply : Nat) (queues : Queues) (failed : Nat)
    (failure : PeerFailure) :
    .failOpen failed failure ∉ manager.dispatchStreamCommand key command reply queues := by
  simp only [dispatchStreamCommand]
  split
  · simp
  · split
    · simp
    · split
      · simp
      · split
        · simp
        · split <;> simp

/-- What fails a waiting OPEN in an orderly event is a cause of its own. -/
theorem cause_of_fails (matched : Matched source) (possible : source.Possible event)
    (orderly : source.Orderly event) {opening : PendingOpen} (listed : opening ∈ source.pending)
    (fails : .failOpen opening.reply failure ∈ source.effects event) :
    Cause source opening event := by
  cases event with
  | «open» =>
    have own := reply_of_startOpen matched fails
    exact absurd own (possible.2.2 opening listed)
  | cancel identity reply queues =>
    rcases cancelOpen_cases source identity reply queues with
      ⟨failed, member, _, _, rfl, _, own⟩ | ⟨_, none⟩
    · cases matched.eq_of_reply listed member (own _ _ fails)
      exact Cause.cancelled reply queues
    · exact absurd fails (none _ _)
  | stream key command reply queues =>
    exact absurd fails (failOpen_notMem_stream source key command reply queues _ _)
  | handshake =>
    exact cause_of_handshake matched possible.1 possible.2 orderly listed fails
  | accepted | streamEnded | attemptEnded | transportLost | released => cases fails
  | shutdown => exact Cause.shutdown

/-! ## Whole runs -/

theorem sound_of_history {localGatewayId : GatewayId}
    {maxPendingOpens maxHandshakes : Nat} {past : List (Manager × ManagerEvent)}
    (run : History Step (new localGatewayId maxPendingOpens maxHandshakes) past manager)
    (orderly : ∀ entry ∈ past, entry.1.Orderly entry.2) :
    (∀ entry ∈ past, Sound entry.1 ∧ entry.1.Possible entry.2) ∧ Sound manager := by
  induction run with
  | refl =>
    refine ⟨?_, sound_new localGatewayId maxPendingOpens maxHandshakes⟩
    intro entry member
    cases member
  | @tail middle target past event run last ih =>
    obtain ⟨earlier, sound⟩ := ih fun entry member =>
      orderly entry (List.mem_append_left _ member)
    have now := orderly (middle, event) (by simp)
    refine ⟨?_, sound.step now.fresh last⟩
    intro entry member
    rcases List.mem_append.mp member with before | newest
    · exact earlier entry before
    · cases List.mem_singleton.mp newest
      exact ⟨sound, last.1⟩

/-- In every run of orderly events, an OPEN that waits for a Gateway waits for
one outbound attempt from beginning to end, and is failed only when this attempt
has failed, when it is cancelled or when the manager shuts down. -/
theorem waiting_failed_by_own_attempt {localGatewayId : GatewayId}
    {maxPendingOpens maxHandshakes : Nat} {past : List (Manager × ManagerEvent)}
    {manager : Manager}
    (run : History Step (new localGatewayId maxPendingOpens maxHandshakes) past
      manager)
    (orderly : ∀ entry ∈ past, entry.1.Orderly entry.2) :
    ∀ entry ∈ past, ∀ opening ∈ entry.1.pending, ∃ transportId,
      WaitsFor entry.1 opening transportId ∧
      (opening ∈ (entry.1.apply entry.2).pending →
        WaitsFor (entry.1.apply entry.2) opening transportId) ∧
      ∀ failure, .failOpen opening.reply failure ∈ entry.1.effects entry.2 →
        Cause entry.1 opening entry.2 := by
  intro entry member opening listed
  obtain ⟨sound, possible⟩ := (sound_of_history run orderly).1 entry member
  have calm := orderly entry member
  obtain ⟨transportId, waits⟩ := sound.matched.waitsFor listed
  refine ⟨transportId, waits, ?_, ?_⟩
  · exact waits.step sound calm ⟨possible, rfl⟩
  · intro failure fails
    exact cause_of_fails sound.matched possible calm listed fails

namespace Scenario

def begin : Manager :=
  new ⟨1⟩ 4 4

/-- The dial does not reach Gateway 2. -/
def unreachable : ManagerEvent :=
  .handshake (.outbound ⟨2⟩ ⟨10⟩ (.error
    (.notObserved .unavailable "peer transport connect failed"))) fun _ => none

/-- Meanwhile Gateway 2 dials Gateway 1. -/
def crossing : List ManagerEvent :=
  [.open opening ⟨10⟩ fun _ => none,
    .accepted,
    .handshake (.inboundHello (.ok ⟨⟨2⟩, ⟨20⟩⟩)) fun _ => none]

def crossed : Manager :=
  crossing.foldl apply begin

/-- The inbound connection breaks before the WELCOME is sent. -/
def broken : ManagerEvent :=
  .handshake (.inboundComplete ⟨2⟩ ⟨20⟩ (.error
    (.notObserved .unavailable "inbound peer WELCOME failed"))) fun _ => none

end Scenario

open Scenario in
/-- Both Gateways dial each other, and the OPEN waits for the dial of its own, which
fails. -/
theorem waiting_failed_by_refused_dial :
    Cause crossed opening unreachable := by
  have run : History Step begin (trail apply begin (crossing ++ [unreachable])) _ :=
    History.of_allowed (crossing ++ [unreachable]) (by decide)
  have orderly : ∀ entry ∈ trail apply begin (crossing ++ [unreachable]),
      entry.1.Orderly entry.2 := by
    simp only [crossing, List.cons_append, List.nil_append, trail, List.forall_mem_cons,
      List.not_mem_nil]
    exact ⟨trivial, trivial, fun _ => by decide, trivial, fun _ => False.elim⟩
  obtain ⟨_, _, _, caused⟩ := waiting_failed_by_own_attempt run orderly
    (crossed, unreachable) (.tail _ (.tail _ (.tail _ (.head _))))
    opening (by decide)
  exact caused (.notObserved .unavailable "peer transport connect failed") (by decide)

open Scenario in
/-- Both Gateways dial each other.  The inbound handshake fails, and the OPEN that
waits for the outbound one is failed with it, although the outbound attempt goes
on. -/
theorem waiting_failed_by_inbound :
    History Step begin (trail apply begin crossing) crossed ∧
      Step crossed broken (crossed.apply broken) ∧
      WaitsFor crossed opening ⟨10⟩ ∧
      .failOpen opening.reply (.notObserved .unavailable
          "inbound peer handshake did not become ready") ∈
        crossed.effects broken ∧
      ¬Cause crossed opening broken ∧
      .outbound ⟨2⟩ ⟨10⟩ ∈ (crossed.apply broken).tasks := by
  refine ⟨History.of_allowed crossing (by decide), ⟨by decide, rfl⟩,
    ⟨by decide, by decide, by decide⟩, by decide, ?_, by decide⟩
  nofun

end Manager

end RelayGate.Peer
