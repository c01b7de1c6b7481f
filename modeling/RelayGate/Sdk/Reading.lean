import RelayGate.Sdk.Pipe

/-!
# Reading a failed Pipe

A poll of a failed Pipe hands out buffered bytes or the failure, until one of
them reports the failure out of the emptied queue.  That poll also marks the end
of the stream, and every later poll reports a clean end.
-/

namespace RelayGate.Sdk

open Library

/-! ## What the other tasks leave alone -/

/-- Two states between which only steps of other tasks lie: the reader's place in
the stream is the same, and an ended Pipe has ended the same way. -/
structure PipeState.Undisturbed (before after : PipeState) : Prop where
  current : after.buffer.current = before.buffer.current
  readEof : after.buffer.readEof = before.buffer.readEof
  terminal : ∀ terminal,
    before.terminal = some terminal → after.terminal = some terminal

namespace PipeState.Undisturbed

variable {state : PipeState}

theorem refl (state : PipeState) : state.Undisturbed state :=
  ⟨rfl, rfl, fun _ ended => ended⟩

theorem trans {first second third : PipeState} (left : first.Undisturbed second)
    (right : second.Undisturbed third) : first.Undisturbed third where
  current := right.current.trans left.current
  readEof := right.readEof.trans left.readEof
  terminal terminal ended := right.terminal terminal (left.terminal terminal ended)

theorem trySetTerminal (state : PipeState) (terminal : Terminal) :
    state.Undisturbed (state.trySetTerminal terminal) := by
  unfold PipeState.trySetTerminal
  split
  · exact refl state
  next open_ =>
    refine ⟨rfl, rfl, ?_⟩
    intro ended same
    rw [open_] at same
    cases same

theorem orFail {result : Except Error PipeState}
    (settled : ∀ after, result = .ok after → state.Undisturbed after) :
    state.Undisturbed (state.orFail result) := by
  cases result with
  | ok after => exact settled after rfl
  | error error => exact trySetTerminal state (.failed error)

theorem sendData {after : PipeState} {chunk : BufferedChunk}
    (sent : state.sendData chunk = .ok after) : state.Undisturbed after := by
  unfold PipeState.sendData at sent
  split at sent
  · cases sent
  · cases sent
    exact ⟨rfl, rfl, fun _ ended => ended⟩

theorem step (state : PipeState) (step : TaskStep) : state.Undisturbed (step.apply state) := by
  cases step with
  | admitData =>
    apply orFail
    intro after admitted
    obtain ⟨pushing, _, rest⟩ := except_bind_eq_ok_iff.mp admitted
    cases rest
    exact ⟨rfl, rfl, fun _ ended => ended⟩
  | sendData =>
    simp only [TaskStep.apply]
    split
    · exact refl state
    · have settled : state.Undisturbed { state with pushing := none } :=
        ⟨rfl, rfl, fun _ ended => ended⟩
      exact settled.trans (orFail fun after sent => sendData sent)
  | storeData | remoteFin | localFin => exact ⟨rfl, rfl, fun _ ended => ended⟩
  | closeNormal => exact trySetTerminal state .closed
  | fail error => exact trySetTerminal state (.failed error)

theorem advance (state : PipeState) (steps : List TaskStep) :
    state.Undisturbed (state.advance steps) := by
  induction steps generalizing state with
  | nil => exact refl state
  | cons first steps ih => exact (step state first).trans (ih (first.apply state))

end PipeState.Undisturbed

/-! ## Copying -/

theorem PipeReadBuffer.copy_nonempty {buffer : PipeReadBuffer} {length : Nat}
    (wanted : 0 < length) (held : buffer.current ≠ []) : (buffer.copy length).1 ≠ [] := by
  have bytes := List.length_pos_iff.mpr held
  simp only [copy, ne_eq, List.take_eq_nil_iff, not_or]
  exact ⟨by omega, held⟩

namespace PipeState

variable {length : Nat}

/-- A Pipe that has failed with the given error, and whose reader has nothing
left to copy once it has reached the end of the stream. -/
structure Failed (error : Error) (state : PipeState) : Prop where
  terminal : state.terminal = some (.failed error)
  exhausted : state.buffer.readEof = true → state.buffer.current = []

variable {error : Error} {state : PipeState}

theorem Failed.undisturbed (failed : state.Failed error) {after : PipeState}
    (others : state.Undisturbed after) : after.Failed error where
  terminal := others.terminal _ failed.terminal
  exhausted ended := by
    rw [others.current]
    exact failed.exhausted (others.readEof.symm.trans ended)

theorem Failed.discard (failed : state.Failed error) : (state.apply .discard).Failed error :=
  ⟨failed.terminal, fun _ => rfl⟩

/-- What a poll of a failed Pipe does before the reader has reached the end of
the stream: it copies bytes, or it returns the failure. -/
inductive Poll (error : Error) (state : PipeState) : ReadResult × PipeState → Prop
  | copied {bytes : Bytes} {after : PipeState} (some_bytes : bytes ≠ [])
      (terminal : after.terminal = state.terminal)
      (unread : after.buffer.readEof = false) :
      Poll error state (some (.ok bytes), after)
  | ended {after : PipeState} (terminal : after.terminal = state.terminal)
      (eof : after.buffer.readEof = true) (current : after.buffer.current = []) :
      Poll error state (some (.error error), after)
  | interrupted {after : PipeState} (terminal : after.terminal = state.terminal)
      (unread : after.buffer.readEof = false) :
      Poll error state (some (.error error), after)

theorem poll_copyCurrent {loaded : PipeState}
    (wanted : 0 < length) (held : loaded.buffer.current ≠ [])
    (terminal : loaded.terminal = state.terminal) (unread : loaded.buffer.readEof = false) :
    Poll error state (loaded.copyCurrent length) :=
  .copied (PipeReadBuffer.copy_nonempty wanted held) terminal unread

/-- The polls of a failed Pipe whose reader has not reached the end. -/
theorem Failed.poll (failed : state.Failed error)
    (unread : state.buffer.readEof = false) (wanted : 0 < length) (budget : Bool) (gaps : Gaps) :
    Poll error state (state.pollRead length budget gaps) := by
  unfold pollRead
  rw [if_neg (Nat.ne_of_gt wanted)]
  split
  next held => exact poll_copyCurrent wanted held rfl unread
  next idle =>
    rw [if_neg (by simp [unread])]
    split
    next chunk rest _ => exact poll_copyCurrent wanted chunk.nonempty rfl unread
    next =>
      have reported : state.terminalFailure = some error := by
        simp [terminalFailure, failed.terminal]
      rw [reported]
      exact .ended rfl rfl (not_not.mp idle)
    next =>
      have others := Undisturbed.advance state gaps.beforeTerminal
      have still := others.terminal _ failed.terminal
      unfold pollFlags
      simp only [still]
      exact .interrupted (still.trans failed.terminal.symm)
        (others.readEof.trans unread)

/-- Once the reader of a failed Pipe has reached the end, every poll reports a
clean end of the stream. -/
theorem Failed.pollRead_of_readEof (failed : state.Failed error)
    (ended : state.buffer.readEof = true) (length : Nat) (budget : Bool) (gaps : Gaps) :
    state.pollRead length budget gaps = (some (.ok []), state) := by
  unfold pollRead
  split
  · rfl
  · simp [failed.exhausted ended]

/-- A failed Pipe stays failed. -/
theorem Failed.step (failed : state.Failed error) {event : PipeEvent}
    {target : PipeState} (step : state.Step event target) : target.Failed error := by
  obtain ⟨_, rfl⟩ := step
  cases event with
  | task step => exact failed.undisturbed (Undisturbed.step state step)
  | discard => exact failed.discard
  | read length budget gaps =>
    simp only [apply]
    rcases Nat.eq_zero_or_pos length with rfl | wanted
    · exact failed
    cases ended : state.buffer.readEof with
    | true =>
      rw [failed.pollRead_of_readEof ended]
      exact failed
    | false =>
      cases hpoll : state.pollRead length budget gaps with
      | mk =>
        have polled := failed.poll ended wanted budget gaps
        rw [hpoll] at polled
        cases polled with
        | copied _ terminal unread | interrupted terminal unread =>
          exact ⟨terminal.trans failed.terminal, by simp [unread]⟩
        | ended terminal _ current =>
          exact ⟨terminal.trans failed.terminal, fun _ => current⟩

end PipeState

/-! ## Runs of a failed Pipe -/

/-- A poll for a non-empty destination. -/
def PipeEvent.Reads : PipeEvent → Prop
  | .task _ => False
  | .discard => False
  | .read length _ _ => 0 < length

instance : (event : PipeEvent) → Decidable event.Reads
  | .task _ => inferInstanceAs (Decidable False)
  | .discard => inferInstanceAs (Decidable False)
  | .read length _ _ => inferInstanceAs (Decidable (0 < length))

/-- An event that tells the reader, by a read of zero bytes into a non-empty
destination, that the stream is complete. -/
def PipeEvent.ReportsEnd (state : PipeState) : PipeEvent → Prop
  | .task _ => False
  | .discard => False
  | .read length budget gaps =>
      0 < length ∧ (state.pollRead length budget gaps).1 = some (.ok [])

namespace PipeState

variable {error : Error} {state final : PipeState} {past : List (PipeState × PipeEvent)}

/-- A poll of a failed Pipe reports a clean end exactly when an earlier one has
marked the end of the stream. -/
theorem Failed.reportsEnd_iff (failed : state.Failed error) (event : PipeEvent) :
    event.ReportsEnd state ↔ event.Reads ∧ state.buffer.readEof = true := by
  cases event with
  | task | discard => simp [PipeEvent.ReportsEnd, PipeEvent.Reads]
  | read length budget gaps =>
    simp only [PipeEvent.ReportsEnd, PipeEvent.Reads]
    apply and_congr_right
    intro wanted
    cases ended : state.buffer.readEof with
    | true => simp [failed.pollRead_of_readEof ended]
    | false =>
      cases hpoll : state.pollRead length budget gaps with
      | mk =>
        have polled := failed.poll ended wanted budget gaps
        rw [hpoll] at polled
        cases polled with
        | copied some_bytes => simp [some_bytes]
        | ended | interrupted => simp

/-- A Pipe that fails before its reader is told the end of the stream stays
failed wherever it goes. -/
theorem failed_of_history (failed : state.terminal = some (.failed error))
    (untold : state.buffer.readEof = false) (run : History Step state past final) :
    (∀ entry ∈ past, entry.1.Failed error) ∧ final.Failed error :=
  run.invariant
    (fun (source : PipeState) _ _ (holds : source.Failed error) step =>
      holds.step step)
    ⟨failed, by simp [untold]⟩

/-- The end of the stream of a failed Pipe is marked by a read that returned the
failure. -/
theorem failure_reported (failed : state.terminal = some (.failed error))
    (untold : state.buffer.readEof = false)
    (run : History Step state past final) (told : final.buffer.readEof = true) :
    ∃ entry ∈ past, ∃ length budget gaps, entry.2 = .read length budget gaps ∧
      (entry.1.pollRead length budget gaps).1 = some (.error error) ∧
      entry.1.buffer.readEof = false ∧
      (entry.1.pollRead length budget gaps).2.buffer.readEof = true := by
  induction run with
  | refl =>
    rw [untold] at told
    cases told
  | @tail middle target past event run last ih =>
    cases earlier : middle.buffer.readEof with
    | true =>
      obtain ⟨entry, member, reported⟩ := ih earlier
      exact ⟨entry, List.mem_append_left _ member, reported⟩
    | false =>
      have before := (failed_of_history failed untold run).2
      obtain ⟨_, rfl⟩ := last
      cases event with
      | task step =>
        have same := (Undisturbed.step middle step).readEof
        simp only [apply] at told
        rw [same, earlier] at told
        cases told
      | discard =>
        simp only [apply, PipeReadBuffer.discard, earlier] at told
        cases told
      | read length budget gaps =>
        refine ⟨_, List.mem_append_right _ (List.mem_singleton.mpr rfl),
          length, budget, gaps, rfl, ?_, earlier, told⟩
        simp only [apply] at told ⊢
        rcases Nat.eq_zero_or_pos length with rfl | wanted
        · simp [pollRead, earlier] at told
        have polled := before.poll earlier wanted budget gaps
        cases hpoll : middle.pollRead length budget gaps with
        | mk =>
          rw [hpoll] at polled told
          cases polled with
          | copied _ _ unread => simp [unread] at told
          | ended | interrupted => rfl

/-- In every run of a Pipe that fails before its reader is told the end of the
stream, no read reports a clean end exactly when no read is made after one that
marked the end of the stream. -/
theorem no_clean_end_iff {past : List (PipeState × PipeEvent)} {final : PipeState}
    (failed : state.terminal = some (.failed error))
    (untold : state.buffer.readEof = false)
    (run : History Step state past final) :
    (∀ entry ∈ past, ¬ entry.2.ReportsEnd entry.1) ↔
      ∀ entry ∈ past, entry.2.Reads → entry.1.buffer.readEof = false := by
  have always := (failed_of_history failed untold run).1
  apply forall₂_congr
  intro entry member
  rw [(always entry member).reportsEnd_iff, not_and, Bool.not_eq_true]

namespace Scenario

/-- The failure of a session that ended. -/
def lost : Error :=
  ⟨.unavailable, .notObserved, .transport, "Gateway connection was lost"⟩

def opened : PipeState :=
  pair ⟨4, 1024⟩

/-- One chunk is received, then the session ends. -/
def loss : List PipeEvent :=
  [.task (.admitData [7] 1024), .task .sendData, .task .storeData, .task (.fail lost)]

def truncated : PipeState :=
  loss.foldl apply opened

/-- The buffer is emptied and the reader polls once. -/
def readOnce : List PipeEvent :=
  [.discard, .read 1 true Gaps.none]

/-- The reader polls a second time. -/
def readTwice : List PipeEvent :=
  readOnce ++ [.read 1 true Gaps.none]

theorem run_loss : Execution Step opened loss truncated :=
  Execution.of_allowed loss (by decide)

theorem run_readOnce : History Step truncated (trail apply truncated readOnce)
    (readOnce.foldl apply truncated) :=
  History.of_allowed readOnce (by decide)

theorem run_readTwice : History Step truncated (trail apply truncated readTwice)
    (readTwice.foldl apply truncated) :=
  History.of_allowed readTwice (by decide)

end Scenario

open Scenario in
/-- The second read of a Pipe whose session was lost reports a clean end of the
stream, although the chunk that was buffered has never been read. -/
theorem clean_end_of_lost_session :
    Execution Step opened loss truncated ∧
      truncated.terminal = some (.failed lost) ∧
      truncated.buffer.readEof = false ∧
      History Step truncated (trail apply truncated readTwice)
        (readTwice.foldl apply truncated) ∧
      ¬ ∀ entry ∈ trail apply truncated readTwice, ¬ entry.2.ReportsEnd entry.1 := by
  refine ⟨run_loss, rfl, rfl, run_readTwice, ?_⟩
  intro never
  refine never (readOnce.foldl apply truncated, .read 1 true Gaps.none) ?_ ⟨Nat.one_pos, rfl⟩
  decide

open Scenario in
/-- A reader that stops at its first error is never told a clean end. -/
theorem no_clean_end_readOnce :
    truncated.terminal = some (.failed lost) ∧
      ∀ entry ∈ trail apply truncated readOnce, ¬ entry.2.ReportsEnd entry.1 := by
  refine ⟨rfl, ?_⟩
  apply (no_clean_end_iff rfl rfl run_readOnce).mpr
  decide

open Scenario in
/-- The reader of the truncated stream was told the loss. -/
theorem loss_is_reported :
    ∃ entry ∈ trail apply truncated readOnce,
      ∃ length budget gaps, entry.2 = .read length budget gaps ∧
        (entry.1.pollRead length budget gaps).1 = some (.error lost) ∧
        entry.1.buffer.readEof = false ∧
        (entry.1.pollRead length budget gaps).2.buffer.readEof = true :=
  failure_reported rfl rfl run_readOnce rfl

end PipeState

end RelayGate.Sdk
