import RelayGate.Peer.Draining

/-!
# The scope of commands and frames

A command or a received frame for one stream changes the entry of that stream only,
and no entry ever loses its owner.  The second fact holds along every run of the
loop, whatever the other end sends.
-/

namespace RelayGate.Peer

open Library

variable {relay after : RelayStream}

/-! ## Owners of relay streams -/

theorem RelayStream.owner_of_opened
    (opened : relay.opened = .ok after) : after.owner = relay.owner := by
  unfold RelayStream.opened at opened
  split at opened
  · cases opened
    rfl
  · cases opened
  · cases opened

theorem RelayStream.owner_of_fin {first : Bool}
    {sender : StreamEndpoint} (finished : relay.fin sender = .ok (first, after)) :
    after.owner = relay.owner := by
  have isOpen := RelayStream.open_of_fin finished
  rw [RelayStream.fin_of_open sender isOpen] at finished
  split at finished
  · cases finished
    rfl
  · cases finished
    unfold RelayStream.afterFin RelayStream.finish
    cases sender <;> grind

namespace TransportActor

/-- Only the entry of one stream differs, and if it is there it has an owner or has
kept the one it had. -/
structure Touched (streamId : StreamId) (before after : TransportActor) : Prop where
  others : ∀ other, other ≠ streamId →
    after.streams.get other = before.streams.get other
  owner : ∀ stream, after.streams.get streamId = some stream →
    stream.relay.owner ≠ none ∨
      ∃ earlier, before.streams.get streamId = some earlier ∧
        stream.relay.owner = earlier.relay.owner

variable {streamId : StreamId} {actor before middle after : TransportActor}
  {stream later : RuntimeStream} {frame : PeerFrame} {terminal : Bool}

namespace Touched

theorem of_streams (same : after.streams = before.streams) : Touched streamId before after where
  others other _ := by rw [same]
  owner stream found := Or.inr ⟨stream, same ▸ found, rfl⟩

theorem refl (actor : TransportActor) : Touched streamId actor actor :=
  of_streams rfl

theorem trans (first : Touched streamId before middle)
    (second : Touched streamId middle after) : Touched streamId before after where
  others other different :=
    (second.others other different).trans (first.others other different)
  owner stream found := by
    rcases second.owner stream found with owned | ⟨middle, stored, same⟩
    · exact Or.inl owned
    · rw [same]
      exact first.owner middle stored

theorem owned (touched : Touched streamId before after) (owned : before.Owned) : after.Owned := by
  intro other stream found
  by_cases same : other = streamId
  · subst same
    rcases touched.owner stream found with owner | ⟨earlier, stored, kept⟩
    · exact owner
    · rw [kept]
      exact owned other earlier stored
  · exact owned other stream (touched.others other same ▸ found)

end Touched

theorem owned_of_streams (same : after.streams = before.streams)
    (owned : before.Owned) : after.Owned := by
  unfold Owned
  rw [same]
  exact owned

theorem touched_setStream (found : actor.streams.get streamId = some stream)
    (same : later.relay.owner = stream.relay.owner) :
    Touched streamId actor (actor.setStream streamId later) where
  others other different := Table.get_insert_of_ne _ _ different
  owner := by
    intro stored inserted
    rw [setStream, Table.get_insert_self] at inserted
    cases inserted
    exact Or.inr ⟨stream, found, same⟩

theorem touched_insertStream (owned : stream.relay.owner ≠ none) :
    Touched streamId actor (actor.insertStream streamId stream) where
  others other different := Table.get_insert_of_ne _ _ different
  owner := by
    intro stored inserted
    rw [insertStream, Table.get_insert_self] at inserted
    cases inserted
    exact Or.inl owned

theorem touched_updateStream {transition : RuntimeStream → RuntimeStream}
    (same : ∀ stream, actor.streams.get streamId = some stream →
      (transition stream).relay.owner = stream.relay.owner) :
    Touched streamId actor (actor.updateStream streamId transition) := by
  unfold updateStream Table.modify
  cases found : actor.streams.get streamId with
  | none => exact Touched.of_streams rfl
  | some stream => exact touched_setStream found (same stream found)

theorem touched_finishStream (actor : TransportActor) (streamId : StreamId) :
    Touched streamId actor (actor.finishStream streamId) where
  others other different := by
    have outline := congrArg Outline.streams (actor.outline_finishStream streamId)
    change (actor.finishStream streamId).outline.streams.get other = _
    rw [outline]
    exact Table.get_remove_of_ne _ different
  owner stream found := by
    have outline := congrArg Outline.streams (actor.outline_finishStream streamId)
    change (actor.finishStream streamId).outline.streams.get streamId = _ at found
    rw [outline] at found
    change (actor.streams.remove streamId).get streamId = _ at found
    rw [Table.get_remove_self] at found
    cases found

theorem streams_emit (event : PeerEvent) : (actor.emit event).streams = actor.streams :=
  congrArg Outline.streams (actor.outline_emit event)

theorem touched_emit (actor : TransportActor) (streamId : StreamId)
    (event : PeerEvent) : Touched streamId actor (actor.emit event) :=
  Touched.of_streams (streams_emit event)

theorem streams_notify (notice : TransportNotice) :
    (actor.notify notice).streams = actor.streams :=
  congrArg Outline.streams (actor.outline_notify notice)

/-! ## Commands -/

/-- A frame that was enqueued on a stream leaves its relay state alone. -/
theorem streams_of_enqueueStreamFrame
    (queued : actor.enqueueStreamFrame streamId stream frame terminal = .ok after) :
    ∃ later, after.streams = actor.streams.insert streamId later ∧
      later.relay = stream.relay := by
  have kept : ∀ later flag,
      enqueueFrame stream actor.config.streamQueueCapacity frame terminal =
        .ok (later, flag) → later.relay = stream.relay := by
    intro later flag enqueued
    unfold enqueueFrame at enqueued
    grind
  unfold enqueueStreamFrame at queued
  split at queued
  · cases queued
  · rename_i later flag enqueued
    refine ⟨later, ?_, kept later flag enqueued⟩
    cases queued
    split <;> rfl

theorem touched_insert (found : actor.streams.get streamId = some stream)
    (streams : after.streams = actor.streams.insert streamId later)
    (same : later.relay.owner = stream.relay.owner) : Touched streamId actor after :=
  (touched_setStream found same).trans (Touched.of_streams streams)

theorem touched_enqueueStreamFrame (found : actor.streams.get streamId = some stream)
    (queued : actor.enqueueStreamFrame streamId stream frame terminal = .ok after) :
    Touched streamId actor after := by
  obtain ⟨later, streams, same⟩ := streams_of_enqueueStreamFrame queued
  exact touched_insert found streams (congrArg RelayStream.owner same)

theorem touched_onLiveStream {run : RuntimeStream → Except PeerFailure Unit × TransportActor}
    (touches : ∀ stream, actor.streams.get streamId = some stream →
      Touched streamId actor (run stream).2) :
    Touched streamId actor (actor.onLiveStream streamId run).2 := by
  unfold onLiveStream
  cases found : actor.streams.get streamId with
  | none => exact Touched.refl actor
  | some stream =>
    dsimp only
    split
    · exact Touched.refl actor
    · exact touches stream found

theorem touched_enqueueTerminal (frame : PeerFrame)
    (found : actor.streams.get streamId = some stream) :
    Touched streamId actor (actor.enqueueTerminal streamId stream frame).2 := by
  unfold enqueueTerminal
  split
  · exact Touched.of_streams rfl
  · rename_i later queued
    exact touched_enqueueStreamFrame found queued

theorem touched_enqueueWith (frame : PeerFrame) (terminal : Bool)
    {relay : RelayStream} (progress : PeerOpenProgress)
    (found : actor.streams.get streamId = some stream) (same : relay.owner = stream.relay.owner) :
    Touched streamId actor
      (actor.enqueueWith streamId stream frame terminal relay progress).2 := by
  unfold enqueueWith
  split
  · exact Touched.refl actor
  · rename_i later queued
    obtain ⟨entry, streams, -⟩ := streams_of_enqueueStreamFrame queued
    have updated : (later.updateStream streamId fun stream =>
        stream.become relay progress).streams =
          actor.streams.insert streamId (entry.become relay progress) := by
      dsimp only [updateStream]
      rw [streams, Table.modify_insert_self]
    exact touched_insert found updated same

section

variable (actor : TransportActor) (streamId : StreamId)

theorem touched_sendOpened : Touched streamId actor (actor.sendOpened streamId).2 := by
  refine touched_onLiveStream fun stream found => ?_
  split
  · exact Touched.refl actor
  · split
    · exact Touched.refl actor
    · split
      · exact Touched.refl actor
      · rename_i relay opened
        exact touched_enqueueWith _ _ _ found (RelayStream.owner_of_opened opened)

theorem touched_sendFailed (failure : PeerFailure) :
    Touched streamId actor (actor.sendFailed streamId failure).2 := by
  refine touched_onLiveStream fun stream found => ?_
  split
  · exact Touched.refl actor
  · exact touched_enqueueTerminal _ found

theorem touched_sendData (payload : List UInt8) :
    Touched streamId actor (actor.sendData streamId payload).2 := by
  unfold sendData
  cases found : actor.streams.get streamId with
  | none => exact Touched.refl actor
  | some =>
    dsimp only
    split
    · exact Touched.refl actor
    · split
      · exact Touched.refl actor
      · rename_i later queued
        exact touched_enqueueStreamFrame found queued

theorem touched_sendFin : Touched streamId actor (actor.sendFin streamId).2 := by
  refine touched_onLiveStream fun stream found => ?_
  split
  · exact Touched.refl actor
  · exact Touched.refl actor
  · rename_i relay finished
    exact touched_enqueueWith _ _ _ found (RelayStream.owner_of_fin finished)

theorem touched_sendReset (code : ErrorCode) (message : String) :
    Touched streamId actor (actor.sendReset streamId code message).2 :=
  touched_onLiveStream fun _ found => touched_enqueueTerminal _ found

theorem touched_sendClose : Touched streamId actor (actor.sendClose streamId).2 := by
  refine touched_onLiveStream fun stream found => ?_
  split
  · exact touched_sendReset actor streamId _ _
  · exact touched_enqueueTerminal _ found

/-- A stream command changes the entry of its stream only. -/
theorem touched_streamCommand (command : StreamCommand) :
    Touched streamId actor (actor.streamCommand streamId command).2 := by
  cases command with
  | opened => exact touched_sendOpened actor streamId
  | failed failure => exact touched_sendFailed actor streamId failure
  | data payload => exact touched_sendData actor streamId payload
  | fin => exact touched_sendFin actor streamId
  | close => exact touched_sendClose actor streamId
  | reset code message => exact touched_sendReset actor streamId code message

end

theorem owned_open (owned : actor.Owned) (request : PeerOpenRequest)
    (now : Instant) : (actor.open request now).2.Owned := by
  unfold TransportActor.open
  split
  · exact owned
  · split
    · exact owned
    · dsimp only
      split
      · exact owned
      · exact Table.Every.insert owned nofun

theorem owned_handleCommand (owned : actor.Owned) (command : TransportCommand)
    (now : Instant) : (actor.handleCommand command now).2.Owned := by
  cases command with
  | «open» request =>
    have opened := owned_open owned request now
    unfold handleCommand
    dsimp only
    split
    · rename_i failure later result
      rw [result] at opened
      exact owned_of_streams (streams_notify _) opened
    · rename_i key later result
      rw [result] at opened
      exact opened
  | cancel =>
    unfold handleCommand cancel
    dsimp only
    split
    · exact owned
    · exact (touched_sendReset actor _ _ _).owned owned
  | stream streamId command =>
    exact (touched_streamCommand actor streamId command).owned owned

/-! ## Received frames -/

theorem touched_emitTerminalReset (actor : TransportActor) (streamId : StreamId)
    (code : ErrorCode) (message : String) :
    Touched streamId actor (actor.emitTerminalReset streamId code message) :=
  Touched.of_streams (congrArg Outline.streams
    (actor.outline_emitTerminalReset streamId code message))

theorem touched_protocolReset (actor : TransportActor) (streamId : StreamId) (message : String) :
    Touched streamId actor (actor.protocolReset streamId message) := by
  have recorded : Touched streamId actor (actor.recordViolation streamId message) :=
    Touched.of_streams rfl
  have reset := touched_sendReset (actor.recordViolation streamId message) streamId
    .protocolError message
  unfold protocolReset
  dsimp only
  split
  · rename_i failure later sent
    rw [sent] at reset
    exact recorded.trans reset
  · rename_i later sent
    rw [sent] at reset
    exact (recorded.trans reset).trans (touched_emitTerminalReset later streamId _ _)

theorem touched_rejectRemoteOpen (same : after.streams = actor.streams)
    (streamId : StreamId) (code : ErrorCode) (message : String) :
    Touched streamId actor (after.rejectRemoteOpen streamId code message) := by
  unfold rejectRemoteOpen
  split <;> exact Touched.of_streams same

theorem streams_reserve (actor : TransportActor) (openIdentity : OpenIdentity) :
    (actor.reserve openIdentity).2.streams = actor.streams :=
  rfl

theorem touched_receiveOpen (actor : TransportActor) (streamId : StreamId)
    (openIdentity : OpenIdentity) (destination : Destination)
    (relaySessionId : SessionId) (bindingId : BindingId) :
    Touched streamId actor (actor.receiveOpen streamId openIdentity destination
      relaySessionId bindingId) := by
  unfold receiveOpen
  split
  · exact touched_rejectRemoteOpen (by rfl) streamId _ _
  · rename_i remoteGuard accepted
    have reserved := streams_reserve { actor with remoteGuard := remoteGuard }
      openIdentity
    dsimp only
    split
    · exact touched_rejectRemoteOpen (by rfl) streamId _ _
    · split
      · exact touched_rejectRemoteOpen (by rfl) streamId _ _
      · split
        · rename_i later result
          rw [result] at reserved
          exact touched_rejectRemoteOpen (by exact reserved) streamId _ _
        · rename_i later result
          rw [result] at reserved
          have kept : Touched streamId actor later := Touched.of_streams reserved
          refine Touched.trans ?_ (touched_emit _ streamId _)
          apply kept.trans
          apply touched_insertStream
          exact Option.some_ne_none openIdentity

theorem touched_receiveLive {receive : RuntimeStream → TransportActor}
    (touches : ∀ stream, actor.streams.get streamId = some stream →
      Touched streamId actor (receive stream)) :
    Touched streamId actor (actor.receiveLive streamId receive) := by
  unfold receiveLive
  cases found : actor.streams.get streamId with
  | none => exact Touched.refl actor
  | some stream =>
    dsimp only
    split
    · exact Touched.refl actor
    · exact touches stream found

section

variable (actor : TransportActor) (streamId : StreamId)

theorem touched_receiveOpened : Touched streamId actor (actor.receiveOpened streamId) := by
  refine touched_receiveLive fun stream found => ?_
  split
  · exact touched_protocolReset actor streamId _
  · split
    · exact Touched.refl actor
    · split
      · exact touched_protocolReset actor streamId _
      · rename_i relay opened
        have same := RelayStream.owner_of_opened opened
        dsimp only
        split
        · exact touched_insert found (by rfl) (by exact same)
        · exact Touched.trans (touched_setStream found (by exact same))
            (touched_emit _ streamId _)

theorem touched_receiveFailed (failure : PeerFailure) :
    Touched streamId actor (actor.receiveFailed streamId failure) := by
  refine touched_receiveLive fun stream found => ?_
  split
  · exact touched_protocolReset actor streamId _
  · split
    · exact Touched.of_streams rfl
    · exact (touched_emit actor streamId _).trans (touched_finishStream _ streamId)

theorem touched_receiveData (payload : List UInt8) :
    Touched streamId actor (actor.receiveData streamId payload) := by
  refine touched_receiveLive fun stream found => ?_
  split
  · exact touched_protocolReset actor streamId _
  · exact touched_emit actor streamId _

theorem touched_receiveFin : Touched streamId actor (actor.receiveFin streamId) := by
  refine touched_receiveLive fun stream found => ?_
  split
  · exact touched_protocolReset actor streamId _
  · exact Touched.refl actor
  · rename_i relay finished
    have same := RelayStream.owner_of_fin finished
    dsimp only
    split
    · refine Touched.trans (Touched.trans ?_ (touched_emit _ streamId _))
        (touched_finishStream _ streamId)
      exact touched_setStream found (by exact same)
    · refine Touched.trans ?_ (touched_emit _ streamId _)
      exact touched_setStream found (by exact same)

theorem touched_receiveClose : Touched streamId actor (actor.receiveClose streamId) := by
  refine touched_receiveLive fun stream found => ?_
  split
  · exact touched_protocolReset actor streamId _
  · exact (touched_emit actor streamId _).trans (touched_finishStream _ streamId)

theorem touched_receiveReset (code : ErrorCode) (message : String) :
    Touched streamId actor (actor.receiveReset streamId code message) :=
  touched_receiveLive fun _ _ =>
    (touched_emitTerminalReset actor streamId code message).trans
      (touched_finishStream _ streamId)

end

/-- No frame, in order or not, takes the owner of a stream away. -/
theorem owned_handleFrame (owned : actor.Owned) (frame : PeerFrame) :
    (actor.handleFrame frame).2.Owned := by
  cases frame with
  | «open» streamId openIdentity destination relaySessionId bindingId =>
    exact (touched_receiveOpen actor streamId openIdentity destination
      relaySessionId bindingId).owned owned
  | opened streamId => exact (touched_receiveOpened actor streamId).owned owned
  | failed streamId =>
    exact (touched_receiveFailed actor streamId _).owned owned
  | data streamId payload =>
    exact (touched_receiveData actor streamId payload).owned owned
  | fin streamId => exact (touched_receiveFin actor streamId).owned owned
  | close streamId => exact (touched_receiveClose actor streamId).owned owned
  | reset streamId code message =>
    exact (touched_receiveReset actor streamId code message).owned owned
  | ping =>
    unfold handleFrame
    dsimp only
    split <;> exact owned
  | pong | hello | welcome | handshakeRejected => exact owned

/-! ## Upkeep -/

theorem touched_expireOpen (actor : TransportActor) (streamId : StreamId) :
    Touched streamId actor (actor.expireOpen streamId).2 := by
  unfold expireOpen
  cases found : actor.streams.get streamId with
  | none => exact Touched.refl actor
  | some =>
    dsimp only
    split
    · exact Touched.of_streams rfl
    · split
      · exact Touched.of_streams rfl
      · rename_i later queued
        dsimp only
        refine Touched.trans ?_ (touched_emit _ streamId _)
        apply (touched_enqueueStreamFrame found queued).trans
        apply touched_updateStream
        intro _ _
        rfl

theorem owned_expireOpens (streamIds : List StreamId)
    (owned : actor.Owned) : (expireOpens streamIds actor).Owned := by
  induction streamIds generalizing actor with
  | nil => exact owned
  | cons streamId streamIds ih =>
    have reset := (touched_expireOpen actor streamId).owned owned
    unfold expireOpens
    split
    · rename_i later result
      rw [result] at reset
      exact reset
    · rename_i later result
      rw [result] at reset
      exact ih reset

theorem owned_flushPass (streamIds : List StreamId) {pass : FlushPass}
    (owned : pass.actor.Owned) : (flushPass streamIds pass).actor.Owned := by
  induction streamIds generalizing pass with
  | nil => exact owned
  | cons streamId streamIds ih =>
    unfold flushPass
    dsimp only
    split
    · exact ih owned
    · rename_i stream found
      split
      · exact ih owned
      · rename_i frame frames queued
        have rest : ∀ {writer : Writer},
            ({ pass.actor with aggregateWriter := writer }.setQueue streamId stream
              frames).Owned := by
          intro writer
          unfold setQueue
          dsimp only
          split <;>
            exact Table.Every.insert owned (owned streamId stream found)
        split
        · exact ih rest
        · exact owned
        · exact rest

theorem owned_flushLoop (fuel : Nat) (owned : actor.Owned) : (flushLoop fuel actor).Owned :=
  kept_flushLoop (fun streamIds _ => owned_flushPass streamIds)
    (fun actor owned streamId => (touched_finishStream actor streamId).owned owned)
    fuel owned

end TransportActor

end RelayGate.Peer
