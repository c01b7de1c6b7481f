import RelayGate.Gateway.Accounting

/-!
# Edits that keep the accounts

Each helper through which the transitions edit the tables keeps a state
accounted: removing, inserting and updating a Pipe, and starting, advancing and
taking a remote open attempt.
-/

namespace RelayGate.Gateway

open Library GatewayState Table

namespace Accounted

variable {openIdentity : OpenIdentity} {attempt : RemoteOpenAttempt}
  {pipeId first second : PipeId} {pipe firstPipe secondPipe : PipeEntry}
  {present : SessionId → Prop} {state target : GatewayState} {key : PeerStreamKey}

/-! ## Uniqueness -/

section

variable (accounted : Accounted present state)
include accounted

/-- The identity of an attempt is not the identity of a Pipe. -/
theorem openIdentity_ne (attempted : state.remoteOpenAttempts.get openIdentity = some attempt)
    (stored : state.pipes.get pipeId = some pipe) : pipe.openIdentity ≠ some openIdentity := by
  intro same
  obtain ⟨named, -, -, absent⟩ := accounted.attempts _ _ attempted
  have pipeNamed := (accounted.wellFormed _ _ stored).named _ same
  rw [named, ← pipeNamed, stored] at absent
  exact Option.some_ne_none _ absent

theorem pipeId_eq (firstStored : state.pipes.get first = some firstPipe)
    (firstKey : firstPipe.peerKey = some key)
    (secondStored : state.pipes.get second = some secondPipe)
    (secondKey : secondPipe.peerKey = some key) : first = second := by
  have firstIndexed := (accounted.peerPipes key first).mpr ⟨firstPipe, firstStored, firstKey⟩
  have secondIndexed := (accounted.peerPipes key second).mpr ⟨secondPipe, secondStored, secondKey⟩
  rw [firstIndexed] at secondIndexed
  exact Option.some.inj secondIndexed

/-- Two Pipes for one open identity are the same Pipe. -/
theorem pipeId_eq_of_openIdentity (firstStored : state.pipes.get first = some firstPipe)
    (firstIdentity : firstPipe.openIdentity = some openIdentity)
    (secondStored : state.pipes.get second = some secondPipe)
    (secondIdentity : secondPipe.openIdentity = some openIdentity) : first = second :=
  ((accounted.wellFormed _ _ firstStored).named _ firstIdentity).trans
    ((accounted.wellFormed _ _ secondStored).named _ secondIdentity).symm

/-! ## Removing a Pipe -/

theorem removePipe (pipeId : PipeId) : Accounted present (state.removePipe pipeId).2 := by
  cases stored : state.pipes.get pipeId with
  | none =>
    rw [removePipe_of_none stored]
    exact accounted
  | some pipe =>
    have counted := accounted.counted.removePipe stored
    have kept : ∀ other found,
        (state.pipes.remove pipeId).get other = some found ↔
          other ≠ pipeId ∧ state.pipes.get other = some found := by
      intro other found
      exact get_remove_eq_some_iff
    rw [removePipe_of_some stored] at counted ⊢
    refine ⟨counted, ?_, ?_, ?_, ?_, ?_, ?_, accounted.owners, accounted.notOverwritten⟩
    · intro key other
      rw [get_peerPipes_discountPipe]
      by_cases same : pipe.peerKey = some key
      · rw [if_pos same]
        constructor
        · intro found
          exact absurd found.symm (Option.some_ne_none _)
        · rintro ⟨found, remaining, keyed⟩
          obtain ⟨different, storedOther⟩ := (kept _ _).mp remaining
          exact absurd (accounted.pipeId_eq storedOther keyed stored same)
            different
      · rw [if_neg same]
        change state.peerPipes.get key = some other ↔ _
        rw [accounted.peerPipes]
        constructor
        · rintro ⟨found, storedOther, keyed⟩
          refine ⟨found, (kept _ _).mpr ⟨?_, storedOther⟩, keyed⟩
          rintro rfl
          obtain rfl := Option.some.inj (stored.symm.trans storedOther)
          exact same keyed
        · rintro ⟨found, remaining, keyed⟩
          exact ⟨found, ((kept _ _).mp remaining).2, keyed⟩
    · intro openIdentity key
      rw [get_activePeerOpens_discountPipe]
      by_cases same : pipe.openIdentity = some openIdentity
      · rw [if_pos same]
        constructor
        · intro found
          exact absurd found.symm (Option.some_ne_none _)
        · rintro (⟨other, found, remaining, identified, -⟩ |
            ⟨attempt, -, attempted, -⟩)
          · obtain ⟨different, storedOther⟩ := (kept _ _).mp remaining
            exact absurd (accounted.pipeId_eq_of_openIdentity storedOther
              identified stored same) different
          · exact absurd same (accounted.openIdentity_ne attempted stored)
      · rw [if_neg same]
        change state.activePeerOpens.get openIdentity = some key ↔ _
        rw [accounted.activeOpens]
        apply or_congr_left
        constructor
        · rintro ⟨other, found, storedOther, identified, keyed⟩
          refine ⟨other, found, (kept _ _).mpr ⟨?_, storedOther⟩, identified, keyed⟩
          rintro rfl
          obtain rfl := Option.some.inj (stored.symm.trans storedOther)
          exact same identified
        · rintro ⟨other, found, remaining, identified, keyed⟩
          exact ⟨other, found, ((kept _ _).mp remaining).2, identified, keyed⟩
    · intro other found remaining
      exact accounted.wellFormed _ _ ((kept _ _).mp remaining).2
    · intro other found sessionId remaining
      exact accounted.endpoints _ _ _ ((kept _ _).mp remaining).2
    · intro openIdentity attempt attempted
      obtain ⟨named, own, dialer, absent⟩ := accounted.attempts _ _ attempted
      refine ⟨named, own, dialer, ?_⟩
      change (state.pipes.remove pipeId).get attempt.pipeId = none
      rw [get_remove, absent, ite_self]
    · intro openIdentity key awaits
      obtain ⟨free, only⟩ := accounted.reserved _ _ awaits
      refine ⟨?_, only⟩
      rw [get_peerPipes_discountPipe]
      change (if pipe.peerKey = some key then none else state.peerPipes.get key) = none
      rw [free, ite_self]

end

/-! ## Inserting a Pipe -/

/-- What the insertion of a Pipe needs to disturb no other entry. -/
structure Admits (present : SessionId → Prop) (state : GatewayState)
    (pipeId : PipeId) (pipe : PipeEntry) : Prop where
  wellFormed : pipe.WellFormed pipeId
  unused : ¬ state.InUse pipeId
  streamFree : ∀ key, pipe.peerKey = some key → state.StreamFree key
  endpoints : ∀ sessionId,
    pipe.dialer = .sdk sessionId ∨ pipe.acceptor = .sdk sessionId →
      present sessionId

namespace Admits

variable {pipeId : PipeId} {pipe : PipeEntry} {openIdentity : OpenIdentity}
  (admits : Admits present state pipeId pipe)
include admits

theorem fresh : state.pipes.get pipeId = none := by
  cases stored : state.pipes.get pipeId with
  | none => rfl
  | some found => exact absurd (Or.inl ⟨found, stored⟩) admits.unused

theorem notAttempted {attempt : RemoteOpenAttempt}
    (attempted : state.remoteOpenAttempts.get openIdentity = some attempt) :
    attempt.pipeId ≠ pipeId := by
  intro same
  exact admits.unused (Or.inr ⟨openIdentity, attempt, attempted, same⟩)

/-- The open identity of an admitted Pipe is not active. -/
theorem identityFree (accounted : Accounted present state)
    (identified : pipe.openIdentity = some openIdentity) :
    state.activePeerOpens.get openIdentity = none := by
  have named := admits.wellFormed.named _ identified
  cases active : state.activePeerOpens.get openIdentity with
  | none => rfl
  | some =>
    rcases (accounted.activeOpens _ _).mp active with
      ⟨other, found, stored, sameIdentity, -⟩ | ⟨attempt, -, attempted, -⟩
    · have otherNamed :=
        (accounted.wellFormed _ _ stored).named _ sameIdentity
      rw [otherNamed, ← named, admits.fresh] at stored
      exact absurd stored.symm (Option.some_ne_none _)
    · exact absurd ((accounted.attempts _ _ attempted).1.trans named.symm)
        (admits.notAttempted attempted)

end Admits

variable (accounted : Accounted present state)
include accounted

section

variable (admits : Admits present state pipeId pipe)
include admits

/-- Inserting an admitted Pipe and indexing it keeps the accounts. -/
theorem inserted (counted : Counted target)
    (pipes : target.pipes = state.pipes.insert pipeId pipe)
    (peerPipes : target.peerPipes = (state.indexPeerPipe pipeId pipe).peerPipes)
    (activePeerOpens : target.activePeerOpens = (state.indexPeerPipe pipeId pipe).activePeerOpens)
    (attempts : target.remoteOpenAttempts = state.remoteOpenAttempts)
    (gatewayId : target.gatewayId = state.gatewayId) (registry : target.registry = state.registry)
    (overwritten : target.overwritten = false) : Accounted present target := by
  have fresh := admits.fresh
  have stored : ∀ other found, target.pipes.get other = some found ↔
      other = pipeId ∧ found = pipe ∨
        other ≠ pipeId ∧ state.pipes.get other = some found := by
    intro other found
    rw [pipes]
    exact get_insert_eq_some_iff
  have awaits : ∀ openIdentity key, target.Awaits openIdentity key ↔
      state.Awaits openIdentity key := by
    intro openIdentity key
    unfold GatewayState.Awaits
    rw [attempts]
  refine ⟨counted, ?_, ?_, ?_, ?_, ?_, ?_, ?_, overwritten⟩
  · intro key other
    rw [peerPipes, get_peerPipes_indexPeerPipe]
    by_cases same : pipe.peerKey = some key
    · rw [if_pos same]
      constructor
      · intro equal
        exact ⟨pipe, (stored _ _).mpr (Or.inl ⟨(Option.some.inj equal).symm, rfl⟩), same⟩
      · rintro ⟨found, storedOther, keyed⟩
        rcases (stored _ _).mp storedOther with ⟨rfl, -⟩ | ⟨-, old⟩
        · rfl
        · have indexed := (accounted.peerPipes _ _).mpr ⟨found, old, keyed⟩
          rw [(admits.streamFree _ same).1] at indexed
          exact absurd indexed.symm (Option.some_ne_none _)
    · rw [if_neg same, accounted.peerPipes]
      constructor
      · rintro ⟨found, old, keyed⟩
        refine ⟨found, (stored _ _).mpr (Or.inr ⟨?_, old⟩), keyed⟩
        rintro rfl
        rw [fresh] at old
        exact absurd old.symm (Option.some_ne_none _)
      · rintro ⟨found, storedOther, keyed⟩
        rcases (stored _ _).mp storedOther with ⟨-, rfl⟩ | ⟨-, old⟩
        · exact absurd keyed same
        · exact ⟨found, old, keyed⟩
  · intro openIdentity key
    rw [activePeerOpens, get_activePeerOpens_indexPeerPipe _ admits.wellFormed, awaits]
    by_cases same : pipe.openIdentity = some openIdentity
    · have free := admits.identityFree accounted same
      have inactive := fun active =>
        Option.some_ne_none key (((accounted.activeOpens openIdentity key).mpr
          active).symm.trans free)
      rw [if_pos same]
      constructor
      · intro keyed
        exact Or.inl ⟨pipeId, pipe, (stored _ _).mpr (Or.inl ⟨rfl, rfl⟩), same, keyed⟩
      · rintro (⟨other, found, storedOther, identified, keyed⟩ | awaiting)
        · rcases (stored _ _).mp storedOther with ⟨-, rfl⟩ | ⟨-, old⟩
          · exact keyed
          · exact (inactive (Or.inl ⟨other, found, old, identified, keyed⟩)).elim
        · exact (inactive (Or.inr awaiting)).elim
    · rw [if_neg same, accounted.activeOpens]
      apply or_congr_left
      constructor
      · rintro ⟨other, found, old, identified, keyed⟩
        refine ⟨other, found, (stored _ _).mpr (Or.inr ⟨?_, old⟩), identified, keyed⟩
        rintro rfl
        rw [fresh] at old
        exact absurd old.symm (Option.some_ne_none _)
      · rintro ⟨other, found, storedOther, identified, keyed⟩
        rcases (stored _ _).mp storedOther with ⟨-, rfl⟩ | ⟨-, old⟩
        · exact absurd identified same
        · exact ⟨other, found, old, identified, keyed⟩
  · intro other found storedOther
    rcases (stored _ _).mp storedOther with ⟨rfl, rfl⟩ | ⟨-, old⟩
    · exact admits.wellFormed
    · exact accounted.wellFormed _ _ old
  · intro other found sessionId storedOther
    rcases (stored _ _).mp storedOther with ⟨rfl, rfl⟩ | ⟨-, old⟩
    · exact admits.endpoints sessionId
    · exact accounted.endpoints _ _ _ old
  · intro openIdentity attempt attempted
    rw [attempts] at attempted
    obtain ⟨named, own, dialer, absent⟩ := accounted.attempts _ _ attempted
    refine ⟨named, gatewayId.trans own, dialer, ?_⟩
    rw [pipes, get_insert_of_ne _ _ (admits.notAttempted attempted)]
    exact absent
  · intro openIdentity key awaiting
    rw [awaits] at awaiting
    obtain ⟨free, only⟩ := accounted.reserved _ _ awaiting
    constructor
    · rw [peerPipes, get_peerPipes_indexPeerPipe, if_neg, free]
      intro same
      exact (admits.streamFree _ same).2 _ awaiting
    · intro other otherAwaits
      exact only other ((awaits _ _).mp otherAwaits)
  · rw [registry]
    exact accounted.owners

theorem insertOffer (phase : pipe.phase = .offered) :
    Accounted present (state.insertOffer pipeId pipe) := by
  have overwritten := overwritten_indexPeerPipe pipeId
    (fun key keyed => (admits.streamFree key keyed).1)
    (fun _ identified => admits.identityFree accounted identified)
  apply accounted.inserted admits
    (accounted.counted.insertOffer admits.fresh phase)
  · simp [GatewayState.insertOffer]
  · simp [GatewayState.insertOffer]
  · simp [GatewayState.insertOffer]
  · simp [GatewayState.insertOffer]
  · simp [GatewayState.insertOffer]
  · simp [GatewayState.insertOffer]
  · simp [GatewayState.insertOffer, overwritten, accounted.notOverwritten, admits.fresh]

theorem insertOpen (phase : pipe.phase = .open) :
    Accounted present (state.insertOpen pipeId pipe) := by
  have overwritten := overwritten_indexPeerPipe pipeId
    (fun key keyed => (admits.streamFree key keyed).1)
    (fun _ identified => admits.identityFree accounted identified)
  apply accounted.inserted admits
    (accounted.counted.insertOpen admits.fresh phase)
  · simp [GatewayState.insertOpen]
  · simp [GatewayState.insertOpen]
  · simp [GatewayState.insertOpen]
  · simp [GatewayState.insertOpen]
  · simp [GatewayState.insertOpen]
  · simp [GatewayState.insertOpen]
  · simp [GatewayState.insertOpen, overwritten, accounted.notOverwritten, admits.fresh]

end

/-! ## Updating a Pipe in place -/

/-- An update that keeps both ends and the open identity keeps the indexes. -/
theorem updated (update : PipeEntry) (stored : state.pipes.get pipeId = some pipe)
    (dialer : update.dialer = pipe.dialer) (acceptor : update.acceptor = pipe.acceptor)
    (openIdentity : update.openIdentity = pipe.openIdentity) (counted : Counted target)
    (pipes : target.pipes = state.pipes.insert pipeId update)
    (peerPipes : target.peerPipes = state.peerPipes)
    (activePeerOpens : target.activePeerOpens = state.activePeerOpens)
    (attempts : target.remoteOpenAttempts = state.remoteOpenAttempts)
    (gatewayId : target.gatewayId = state.gatewayId) (registry : target.registry = state.registry)
    (overwritten : target.overwritten = state.overwritten) : Accounted present target := by
  have peerKey : update.peerKey = pipe.peerKey := by
    simp only [PipeEntry.peerKey, dialer, acceptor]
  have forward : ∀ other found, target.pipes.get other = some found →
      ∃ old, state.pipes.get other = some old ∧ found.dialer = old.dialer ∧
        found.acceptor = old.acceptor ∧
        found.openIdentity = old.openIdentity ∧
        found.peerKey = old.peerKey := by
    intro other found storedOther
    rw [pipes] at storedOther
    rcases get_insert_eq_some_iff.mp storedOther with
      ⟨rfl, rfl⟩ | ⟨-, old⟩
    · exact ⟨pipe, stored, dialer, acceptor, openIdentity, peerKey⟩
    · exact ⟨found, old, rfl, rfl, rfl, rfl⟩
  have backward : ∀ other old, state.pipes.get other = some old →
      ∃ found, target.pipes.get other = some found ∧
        found.openIdentity = old.openIdentity ∧
        found.peerKey = old.peerKey := by
    intro other old storedOther
    rw [pipes]
    by_cases same : other = pipeId
    · subst same
      obtain rfl := Option.some.inj (stored.symm.trans storedOther)
      exact ⟨update, get_insert_self _ _ _, openIdentity, peerKey⟩
    · exact ⟨old, (get_insert_of_ne _ _ same).trans storedOther, rfl, rfl⟩
  have awaits : ∀ identity key, target.Awaits identity key ↔
      state.Awaits identity key := by
    intro identity key
    unfold GatewayState.Awaits
    rw [attempts]
  refine ⟨counted, ?_, ?_, ?_, ?_, ?_, ?_, ?_, overwritten.trans accounted.notOverwritten⟩
  · intro key other
    rw [peerPipes, accounted.peerPipes]
    constructor
    · rintro ⟨old, storedOther, keyed⟩
      obtain ⟨found, storedFound, -, sameKey⟩ := backward _ _ storedOther
      exact ⟨found, storedFound, sameKey.trans keyed⟩
    · rintro ⟨found, storedFound, keyed⟩
      obtain ⟨old, storedOther, -, -, -, sameKey⟩ := forward _ _ storedFound
      exact ⟨old, storedOther, sameKey.symm.trans keyed⟩
  · intro identity key
    rw [activePeerOpens, accounted.activeOpens, awaits]
    apply or_congr_left
    constructor
    · rintro ⟨other, old, storedOther, identified, keyed⟩
      obtain ⟨found, storedFound, sameIdentity, sameKey⟩ := backward _ _ storedOther
      exact ⟨other, found, storedFound, sameIdentity.trans identified, sameKey.trans keyed⟩
    · rintro ⟨other, found, storedFound, identified, keyed⟩
      obtain ⟨old, storedOther, -, -, sameIdentity, sameKey⟩ := forward _ _ storedFound
      exact ⟨other, old, storedOther, sameIdentity.symm.trans identified,
        sameKey.symm.trans keyed⟩
  · intro other found storedFound
    obtain ⟨old, storedOther, sameDialer, sameAcceptor, sameIdentity,
      sameKey⟩ := forward _ _ storedFound
    obtain ⟨identified, named, oneRemote⟩ := accounted.wellFormed _ _ storedOther
    constructor
    · rw [sameIdentity, sameKey, identified]
    · rw [sameIdentity]
      exact named
    · rw [sameDialer, sameAcceptor]
      exact oneRemote
  · intro other found sessionId storedFound
    obtain ⟨old, storedOther, sameDialer, sameAcceptor, -, -⟩ := forward _ _ storedFound
    rw [sameDialer, sameAcceptor]
    exact accounted.endpoints _ _ _ storedOther
  · intro identity attempt attempted
    rw [attempts] at attempted
    obtain ⟨named, own, present, absent⟩ := accounted.attempts _ _ attempted
    refine ⟨named, gatewayId.trans own, present, ?_⟩
    cases storedFound : target.pipes.get attempt.pipeId with
    | none => rfl
    | some =>
      obtain ⟨old, storedOther, -⟩ := forward _ _ storedFound
      rw [absent] at storedOther
      exact absurd storedOther.symm (Option.some_ne_none _)
  · intro identity key awaiting
    rw [peerPipes]
    obtain ⟨free, only⟩ := accounted.reserved _ _ ((awaits _ _).mp awaiting)
    exact ⟨free, fun other otherAwaits =>
      only other ((awaits _ _).mp otherAwaits)⟩
  · rw [registry]
    exact accounted.owners

theorem promoteOffer (pipeId : PipeId) : Accounted present (state.promoteOffer pipeId).2 := by
  cases stored : state.pipes.get pipeId with
  | none =>
    simpa only [GatewayState.promoteOffer, stored] using accounted
  | some pipe =>
    by_cases phase : pipe.phase = .offered
    · have counted := accounted.counted.promoteOffer stored phase
      rw [promoteOffer_of_offered stored phase] at counted ⊢
      exact accounted.updated { pipe with phase := .open } stored rfl rfl rfl
        counted rfl rfl rfl rfl rfl rfl rfl
    · simpa only [GatewayState.promoteOffer, stored, ne_eq, phase,
        not_false_eq_true, if_true] using accounted

theorem finished (stored : state.pipes.get pipeId = some pipe) (sender : PipeEndpoint) :
    Accounted present
      { state with
        pipes := state.pipes.insert pipeId
          (GatewayState.finishDirection pipe sender).1 } := by
  have same : (GatewayState.finishDirection pipe sender).1.dialer = pipe.dialer ∧
      (GatewayState.finishDirection pipe sender).1.acceptor = pipe.acceptor ∧
      (GatewayState.finishDirection pipe sender).1.openIdentity = pipe.openIdentity ∧
      (GatewayState.finishDirection pipe sender).1.phase = pipe.phase := by
    unfold GatewayState.finishDirection
    split <;> exact ⟨rfl, rfl, rfl, rfl⟩
  obtain ⟨dialer, acceptor, openIdentity, phase⟩ := same
  exact accounted.updated _ stored dialer acceptor openIdentity
    (accounted.counted.replaced stored phase dialer) rfl rfl rfl rfl rfl rfl rfl

/-! ## Remote open attempts -/

theorem takeRemoteAttempt (openIdentity : OpenIdentity) :
    Accounted present (state.takeRemoteAttempt openIdentity).2 := by
  unfold GatewayState.takeRemoteAttempt
  cases attempted : state.remoteOpenAttempts.get openIdentity with
  | none => exact accounted
  | some =>
    have kept : ∀ other found,
        (state.remoteOpenAttempts.remove openIdentity).get other =
            some found ↔
          other ≠ openIdentity ∧ state.remoteOpenAttempts.get other = some found :=
      fun _ _ => get_remove_eq_some_iff
    refine { accounted with
      counted := { accounted.counted with }, activeOpens := ?_, attempts := ?_,
      reserved := ?_ }
    · intro other key
      change (state.activePeerOpens.remove openIdentity).get other = some key ↔ _
      rw [get_remove_eq_some_iff, accounted.activeOpens]
      constructor
      · rintro ⟨different, piped | ⟨found, bindingId, old, phase⟩⟩
        · exact Or.inl piped
        · exact Or.inr ⟨found, bindingId, (kept _ _).mpr ⟨different, old⟩, phase⟩
      · rintro (⟨pipeId, pipe, stored, identified, keyed⟩ |
          ⟨found, bindingId, remaining, phase⟩)
        · refine ⟨?_, Or.inl ⟨pipeId, pipe, stored, identified, keyed⟩⟩
          rintro rfl
          exact accounted.openIdentity_ne attempted stored identified
        · obtain ⟨different, old⟩ := (kept _ _).mp remaining
          exact ⟨different, Or.inr ⟨found, bindingId, old, phase⟩⟩
    · intro other found remaining
      exact accounted.attempts _ _ ((kept _ _).mp remaining).2
    · rintro other key ⟨found, bindingId, remaining, phase⟩
      obtain ⟨free, only⟩ := accounted.reserved other key
        ⟨found, bindingId, ((kept _ _).mp remaining).2, phase⟩
      refine ⟨free, ?_⟩
      rintro another ⟨found', bindingId', remaining', phase'⟩
      exact only another
        ⟨found', bindingId', ((kept _ _).mp remaining').2, phase'⟩

/-- Setting an attempt that reserves no stream, where none was reserved. -/
theorem setAttempt (attempt : RemoteOpenAttempt) (named : attempt.pipeId = openIdentity.pipeId)
    (own : state.gatewayId = some openIdentity.entryGateway)
    (dialer : present attempt.pipeId.originSessionId)
    (absent : state.pipes.get attempt.pipeId = none)
    (idle : ∀ key bindingId, attempt.phase ≠ .awaitingPeer key bindingId)
    (wasIdle : ∀ key, ¬ state.Awaits openIdentity key)
    {attempts : Table OpenIdentity RemoteOpenAttempt} {overwritten : Bool}
    (stored : ∀ other, attempts.get other =
      if other = openIdentity then some attempt
      else state.remoteOpenAttempts.get other) (notOverwritten : overwritten = false) :
    Accounted present
      { state with
        remoteOpenAttempts := attempts
        overwritten := overwritten } := by
  have awaits : ∀ other key,
      (∃ found bindingId, attempts.get other = some found ∧
        found.phase = .awaitingPeer key bindingId) ↔
      state.Awaits other key := by
    intro other key
    by_cases same : other = openIdentity
    · subst same
      refine iff_of_false ?_ (wasIdle key)
      rintro ⟨found, bindingId, found_eq, phase⟩
      rw [stored, if_pos rfl] at found_eq
      obtain rfl := Option.some.inj found_eq
      exact idle key bindingId phase
    · simp only [stored, if_neg same, GatewayState.Awaits]
  refine { accounted with
    counted := { accounted.counted with }, activeOpens := ?_, attempts := ?_, reserved := ?_,
    notOverwritten := notOverwritten }
  · intro other key
    rw [GatewayState.Awaits, awaits]
    exact accounted.activeOpens other key
  · intro other found found_eq
    change attempts.get other = some found at found_eq
    rw [stored] at found_eq
    by_cases same : other = openIdentity
    · subst same
      rw [if_pos rfl] at found_eq
      obtain rfl := Option.some.inj found_eq
      exact ⟨named, own, dialer, absent⟩
    · rw [if_neg same] at found_eq
      exact accounted.attempts _ _ found_eq
  · intro other key awaiting
    obtain ⟨free, only⟩ := accounted.reserved other key
      ((awaits other key).mp awaiting)
    exact ⟨free, fun another otherAwaits =>
      only another ((awaits another key).mp otherAwaits)⟩

theorem startAttempt (destination : Destination)
    (own : state.gatewayId = some openIdentity.entryGateway)
    (dialer : present openIdentity.originSession) (unused : ¬ state.InUse openIdentity.pipeId) :
    Accounted present (state.startAttempt openIdentity destination) := by
  have absent : state.pipes.get openIdentity.pipeId = none := by
    cases stored : state.pipes.get openIdentity.pipeId with
    | none => rfl
    | some pipe => exact absurd (Or.inl ⟨pipe, stored⟩) unused
  have fresh : state.remoteOpenAttempts.get openIdentity = none := by
    cases attempted : state.remoteOpenAttempts.get openIdentity with
    | none => rfl
    | some attempt =>
      exact absurd (Or.inr ⟨openIdentity, attempt, attempted,
        (accounted.attempts _ _ attempted).1⟩) unused
  refine accounted.setAttempt ⟨openIdentity.pipeId, destination, .resolving⟩
    rfl own dialer absent ?_ ?_ (fun other => get_insert _ _ _ other) ?_
  · intro key bindingId phase
    cases phase
  · rintro key ⟨attempt, -, attempted, -⟩
    rw [fresh] at attempted
    exact absurd attempted.symm (Option.some_ne_none _)
  · simp [accounted.notOverwritten, fresh]

/-- A resolving attempt asks for its peer OPEN. -/
theorem startPeer (attempted : state.remoteOpenAttempts.get openIdentity = some attempt)
    (resolving : attempt.phase = .resolving) (bindingId : BindingId) :
    Accounted present (state.startPeer openIdentity bindingId) := by
  obtain ⟨named, own, dialer, absent⟩ := accounted.attempts _ _ attempted
  refine accounted.setAttempt
    { attempt with phase := .startingPeer bindingId } named own dialer absent
    ?_ ?_ ?_ accounted.notOverwritten
  · intro key other phase
    cases phase
  · rintro key ⟨found, other, found_eq, phase⟩
    obtain rfl := Option.some.inj (attempted.symm.trans found_eq)
    rw [resolving] at phase
    cases phase
  · intro other
    rw [get_modify, attempted]
    rfl

/-- A starting attempt reserves an inactive stream. -/
theorem awaitPeer (attempted : state.remoteOpenAttempts.get openIdentity = some attempt)
    (inactive : state.peerIdentityActive openIdentity key = false) (bindingId : BindingId) :
    Accounted present (state.awaitPeer openIdentity key bindingId) := by
  obtain ⟨⟨streamFree, unreserved⟩, identityFree⟩ :
      (state.peerPipes.get key = none ∧ ∀ other, state.activePeerOpens.get other ≠ some key) ∧
      state.activePeerOpens.get openIdentity = none := by
    simp only [GatewayState.peerIdentityActive, Bool.or_eq_false_iff,
      contains_eq, Option.isSome_eq_false_iff, Option.isNone_iff_eq_none,
      List.any_eq_false, decide_eq_true_eq] at inactive
    obtain ⟨⟨streamFree, unreserved⟩, identityFree⟩ := inactive
    refine ⟨⟨streamFree, ?_⟩, identityFree⟩
    intro other found
    exact unreserved key (mem_values.mpr ⟨other, found⟩) rfl
  have stored : ∀ other,
      (state.awaitPeer openIdentity key bindingId).remoteOpenAttempts.get
          other =
        if other = openIdentity then
          some { attempt with phase := .awaitingPeer key bindingId }
        else state.remoteOpenAttempts.get other := by
    intro other
    change (state.remoteOpenAttempts.modify openIdentity _).get other = _
    rw [get_modify, attempted]
    rfl
  have notAwaiting : ∀ other, ¬ state.Awaits other key := by
    intro other awaiting
    exact unreserved other
      ((accounted.activeOpens other key).mpr (Or.inr awaiting))
  have awaits : ∀ other otherKey,
      (state.awaitPeer openIdentity key bindingId).Awaits other otherKey ↔
        other = openIdentity ∧ otherKey = key ∨
          other ≠ openIdentity ∧ state.Awaits other otherKey := by
    intro other otherKey
    unfold GatewayState.Awaits
    by_cases same : other = openIdentity
    · simp [stored, same, eq_comm]
    · simp [stored, same]
  refine { accounted with
    counted := { accounted.counted with }, activeOpens := ?_, attempts := ?_, reserved := ?_,
    notOverwritten := ?_ }
  · intro other otherKey
    rw [awaits]
    change (state.activePeerOpens.insert openIdentity key).get other = some otherKey ↔ _
    rw [get_insert_eq_some_iff, accounted.activeOpens]
    constructor
    · rintro (⟨same, sameKey⟩ | ⟨different, piped | awaiting⟩)
      · exact Or.inr (Or.inl ⟨same, sameKey⟩)
      · exact Or.inl piped
      · exact Or.inr (Or.inr ⟨different, awaiting⟩)
    · rintro (⟨pipeId, pipe, found, identified, keyed⟩ |
        ⟨same, sameKey⟩ | ⟨different, awaiting⟩)
      · refine Or.inr ⟨?_, Or.inl ⟨pipeId, pipe, found, identified, keyed⟩⟩
        rintro rfl
        exact accounted.openIdentity_ne attempted found identified
      · exact Or.inl ⟨same, sameKey⟩
      · exact Or.inr ⟨different, Or.inr awaiting⟩
  · intro other found found_eq
    rw [stored] at found_eq
    by_cases same : other = openIdentity
    · subst same
      rw [if_pos rfl] at found_eq
      obtain rfl := Option.some.inj found_eq
      obtain ⟨named, own, dialer, absent⟩ := accounted.attempts _ _ attempted
      exact ⟨named, own, dialer, absent⟩
    · rw [if_neg same] at found_eq
      exact accounted.attempts _ _ found_eq
  · intro other otherKey awaiting
    rcases (awaits _ _).mp awaiting with ⟨rfl, rfl⟩ | ⟨different, old⟩
    · refine ⟨streamFree, ?_⟩
      intro another anotherAwaits
      rcases (awaits _ _).mp anotherAwaits with ⟨same, -⟩ | ⟨-, old⟩
      · exact same
      · exact absurd old (notAwaiting another)
    · obtain ⟨free, only⟩ := accounted.reserved _ _ old
      refine ⟨free, ?_⟩
      intro another anotherAwaits
      rcases (awaits _ _).mp anotherAwaits with ⟨-, rfl⟩ | ⟨-, anotherOld⟩
      · exact absurd old (notAwaiting other)
      · exact only another anotherOld
  · simp [GatewayState.awaitPeer, accounted.notOverwritten, identityFree]

/-! ## Other parts of the state -/

/-- Only the tables, the counters, the registry and the Gateway's identity are
accounted for. -/
theorem frame (sessions : Table SessionId SessionEntry) (draining : Bool)
    (controlRate : TokenBucket) :
    Accounted present
      { state with
        sessions := sessions
        draining := draining
        controlRate := controlRate } :=
  { accounted with counted := { accounted.counted with } }

theorem setRegistry {registry : LocalRegistry} (owners : registry.Owned present) :
    Accounted present { state with registry := registry } :=
  { accounted with counted := { accounted.counted with }, owners := owners }

/-- The sessions that may appear can be exchanged for any that do appear. -/
theorem narrow {remaining : SessionId → Prop}
    (endpoints : ∀ pipeId pipe sessionId,
      state.pipes.get pipeId = some pipe →
      pipe.dialer = .sdk sessionId ∨ pipe.acceptor = .sdk sessionId → remaining sessionId)
    (dialers : ∀ openIdentity attempt,
      state.remoteOpenAttempts.get openIdentity = some attempt →
        remaining attempt.pipeId.originSessionId)
    (owners : ∀ bindingId binding,
      state.registry.byId.get bindingId = some binding → remaining binding.sessionId) :
    Accounted remaining state := by
  refine { accounted with
    endpoints := endpoints, attempts := ?_, owners := accounted.owners.imp owners }
  intro openIdentity attempt attempted
  obtain ⟨named, own, -, absent⟩ := accounted.attempts _ _ attempted
  exact ⟨named, own, dialers _ _ attempted, absent⟩

end Accounted

end RelayGate.Gateway
