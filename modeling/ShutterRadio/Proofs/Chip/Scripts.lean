/-
# A script tunes the chip as it says

On a board whose transactions succeed, a script for the driver can be followed on
registers and on `Chip.Tuning` side by side.  `turn_tunes` is one step of that,
and `play_tunes` the whole way: whatever the registers contained, however long the
arguments are and whatever the chip answers when it is polled, every operation is
answered, and after each the registers read as how the chip should be tuned.

Resetting the chip is left out, as its line can fail apart from the bus, and so is
changing the board in between.
-/

import ShutterRadio.Bench.ChipScript
import ShutterRadio.Proofs.Chip.Patience
import ShutterRadio.Proofs.Chip.Tuning

namespace ShutterRadio.Bench.ChipScript

open Chip (Contents Ends Run Transacts Tuning callPauses)

/-- An operation of the driver other than a reset. -/
def Op.IsPlain : Op → Prop
  | .adjust _ => False
  | .call asked => asked ≠ .reset
  | _ => True

instance : DecidablePred Op.IsPlain
  | .adjust _ => .isFalse id
  | .call asked => inferInstanceAs (Decidable (asked ≠ .reset))
  | .symbolWidth => .isTrue trivial
  | .setBitRate _ => .isTrue trivial
  | .payloadReady => .isTrue trivial

/-- How the chip should be tuned after an operation.  Those that are no calls tune
nothing. -/
def retune (tuning : Tuning) : Op → Tuning
  | .call asked => tuning.after asked
  | _ => tuning

/-- The driver after a script; nothing if one of its operations got stuck. -/
def play (driver : Driver) (ops : List Op) : Option Driver :=
  ops.foldlM (fun driver op => (turn driver op).map Prod.snd) driver

section Operations

variable {α : Type} {operation : Run Board Stuck α}

/-- An operation that comes to its end has changed the registers like this. -/
def Leaves (operation : Run Board Stuck α) (change : Contents → Contents → Prop) : Prop :=
  ∀ driver, Ends operation driver fun _ after => change driver.bus.contents after.bus.contents

/-- An operation that comes to its end has changed how the chip is tuned just so. -/
def Tunes (operation : Run Board Stuck α) (tune : Tuning → Tuning) : Prop :=
  Leaves operation fun before after => Tuning.of after = tune (Tuning.of before)

theorem tunes_answer (asked : Call) : Tunes (Chip.answer chipBus asked) (·.after asked) := by
  intro driver answer after ran
  have agree := Chip.ends_answer asked driver answer after ran
  show Tuning.of after.bus.contents = (Tuning.of driver.bus.contents).after asked
  rw [← Tuning.of_agree agree, Tuning.of_imprint]

/-- An operation that writes none of the registers in question tunes nothing. -/
theorem tunes_of_imprints {writes : List (Chip.Register × List UInt8)}
    (imprints : Chip.Imprints operation writes)
    (aside : ∀ contents : Contents, Tuning.of (contents.puts writes) = Tuning.of contents) :
    Tunes operation id := by
  intro driver answer after ran
  have agree := imprints driver answer after ran
  exact (Tuning.of_agree agree).symm.trans (aside _)

/-- What is seen of an operation whose transactions succeed. -/
theorem operate_leaves {change : Contents → Contents → Prop}
    (transacts : Transacts (some patience) callPauses operation) (leaves : Leaves operation change)
    (answer : α → Answer) (driver : Driver) (sound : driver.bus.failingTransfers = [])
    (rested : driver.bus.pauses = 0) :
    ∃ result notes after, operate driver operation answer = some (answer result, notes, after) ∧
      after.bus.failingTransfers = [] ∧ change driver.bus.contents after.bus.contents := by
  have patient : ∀ most, some patience = some most → driver.bus.pauses + callPauses ≤ most := by
    intro most same
    injection same with same
    rw [← same, rested]
    decide
  obtain ⟨result, after, ran, still⟩ :=
    transacts.exists_ok { driver with journal := [] } sound patient
  refine ⟨result, after.journal.reverse, { after with journal := [] }, ?_, still,
    leaves { driver with journal := [] } result after ran⟩
  simp only [operate, Chip.perform, ran]

end Operations

/-- No reply shows up as a failure. -/
theorem ofReply_ne_failed (asked : Call) (reply : asked.Reply) (fault : Chip.Fault) :
    Answer.ofReply asked reply ≠ .failed fault := by
  cases asked <;> exact nofun

/-- A plain operation is answered and tunes the chip as it should. -/
theorem perform_tunes (driver : Driver) (sound : driver.bus.failingTransfers = [])
    (rested : driver.bus.pauses = 0) {op : Op} (plain : op.IsPlain) :
    ∃ answer notes after, perform driver op = some (answer, notes, after) ∧
      (∀ fault, answer ≠ .failed fault) ∧ after.bus.failingTransfers = [] ∧
      Tuning.of after.bus.contents = retune (Tuning.of driver.bus.contents) op := by
  cases op with
  | adjust settings => exact plain.elim
  | call asked =>
      obtain ⟨reply, notes, after, done, still, tuned⟩ := operate_leaves
        (Chip.transacts_answer plain) (tunes_answer asked) (.ofReply asked) driver sound rested
      exact ⟨_, notes, after, done, ofReply_ne_failed asked reply, still, tuned⟩
  | symbolWidth =>
      have transacts : Transacts (some patience) callPauses (Chip.symbolWidth chipBus) :=
        ((Chip.transacts_readWord _).map Chip.symbolOfWord).mono (Nat.zero_le _)
      have tunes : Tunes (Chip.symbolWidth chipBus) id :=
        tunes_of_imprints ((Chip.imprints_readWord _).map Chip.symbolOfWord) fun _ => rfl
      obtain ⟨width, notes, after, done, still, tuned⟩ := operate_leaves transacts tunes
        (fun width => .number width.toNat) driver sound rested
      exact ⟨_, notes, after, done, by simp, still, tuned⟩
  | setBitRate rate =>
      have transacts : Transacts (some patience) callPauses (Chip.setBitRate chipBus rate) :=
        (Chip.transacts_write _ _).mono (Nat.zero_le _)
      have fits : Chip.Fits .bitRate (Chip.wordBytes (Chip.bitRateWord rate)) :=
        .inr (by simp [Chip.Register.address, Chip.wordBytes])
      have aside : Tuning.Aside .bitRate (Chip.wordBytes (Chip.bitRateWord rate)) :=
        .inr (by simp [Chip.Register.address, Chip.wordBytes])
      have tunes : Tunes (Chip.setBitRate chipBus rate) id :=
        tunes_of_imprints (Chip.imprints_write fits) fun _ => Tuning.of_put_aside aside
      obtain ⟨_, notes, after, done, still, tuned⟩ := operate_leaves transacts tunes
        (fun () => .done) driver sound rested
      exact ⟨_, notes, after, done, by simp, still, tuned⟩
  | payloadReady =>
      have transacts : Transacts (some patience) callPauses (Chip.isPayloadReady chipBus) :=
        (Chip.transacts_flags.map Chip.payloadReady).mono (Nat.zero_le _)
      have tunes : Tunes (Chip.isPayloadReady chipBus) id :=
        tunes_of_imprints (Chip.imprints_flags.map Chip.payloadReady) fun _ => rfl
      obtain ⟨ready, notes, after, done, still, tuned⟩ := operate_leaves transacts tunes
        .flag driver sound rested
      exact ⟨_, notes, after, done, by simp, still, tuned⟩

/-- One operation, done and looked at. -/
theorem turn_tunes (driver : Driver) (sound : driver.bus.failingTransfers = []) {op : Op}
    (plain : op.IsPlain) :
    ∃ report after, turn driver op = some (report, after) ∧
      (∀ fault, report.answer ≠ .failed fault) ∧ after.bus.failingTransfers = [] ∧
      Tuning.of after.bus.contents = retune (Tuning.of driver.bus.contents) op := by
  obtain ⟨answer, notes, after, done, answered, still, tuned⟩ :=
    perform_tunes { driver with bus := driver.bus.restart } sound rfl plain
  unfold turn
  rw [done]
  exact ⟨_, _, rfl, answered, still, tuned⟩

/-- A sync word is set without touching any other register, and in its configuration
bits that are about something else stay as they were. -/
theorem turn_setSync (driver : Driver) (sound : driver.bus.failingTransfers = [])
    (pattern : List UInt8) :
    ∃ report after, turn driver (.call (.setSync pattern)) = some (report, after) ∧
      (∀ place : Fin 128, place.val < 0x2e ∨ 0x36 < place.val →
        after.bus.contents place = driver.bus.contents place) ∧
      after.bus.contents 0x2e &&& ~~~(Chip.syncOn ||| Chip.syncSizeBits) =
        driver.bus.contents 0x2e &&& ~~~(Chip.syncOn ||| Chip.syncSizeBits) := by
  have leaves : Leaves (Chip.answer chipBus (.setSync pattern)) fun before after =>
      after = before.puts (Chip.syncWrites before pattern) := Chip.ends_setSync pattern
  obtain ⟨reply, notes, after, done, -, left⟩ :=
    operate_leaves (Chip.transacts_answer (by simp)) leaves (.ofReply (.setSync pattern))
      { driver with bus := driver.bus.restart } sound rfl
  have changed : after.bus.contents =
      driver.bus.contents.puts (Chip.syncWrites driver.bus.contents pattern) := left
  have performed : perform { driver with bus := driver.bus.restart } (.call (.setSync pattern)) =
      some (.ofReply (.setSync pattern) reply, notes, after) := done
  unfold turn
  rw [performed]
  refine ⟨_, _, rfl, fun place apart => ?_, ?_⟩
  · show after.bus.contents place = _
    rw [changed]
    exact Tuning.puts_sync_apart pattern (apart.imp_right Nat.succ_le_of_lt)
  · have config : after.bus.contents 0x2e = Chip.syncConfigFor (driver.bus.contents 0x2e)
        (pattern.take Chip.syncCapacity) := by
      rw [changed]
      exact Tuning.byte_config_of_puts_sync pattern
    show after.bus.contents 0x2e &&& _ = _
    rw [config]
    exact Chip.syncConfigFor_rest _ (List.length_take_le _ _)

/-- A script is followed on registers and on how the chip should be tuned side by
side, and setting a sync word next would do just that. -/
theorem play_tunes (driver : Driver) (sound : driver.bus.failingTransfers = []) (ops : List Op)
    (plain : ∀ op ∈ ops, op.IsPlain) :
    ∃ reports after, runFrom driver ops = some reports ∧ play driver ops = some after ∧
      (∀ report ∈ reports, ∀ fault, report.answer ≠ .failed fault) ∧
      Tuning.of after.bus.contents = ops.foldl retune (Tuning.of driver.bus.contents) ∧
      ∀ pattern, ∃ report synced, turn after (.call (.setSync pattern)) = some (report, synced) ∧
        (∀ place : Fin 128, place.val < 0x2e ∨ 0x36 < place.val →
          synced.bus.contents place = after.bus.contents place) ∧
        synced.bus.contents 0x2e &&& ~~~(Chip.syncOn ||| Chip.syncSizeBits) =
          after.bus.contents 0x2e &&& ~~~(Chip.syncOn ||| Chip.syncSizeBits) := by
  induction ops generalizing driver with
  | nil => exact ⟨[], driver, rfl, rfl, nofun, rfl, turn_setSync driver sound⟩
  | cons op rest ih =>
      obtain ⟨here, later⟩ := List.forall_mem_cons.mp plain
      obtain ⟨report, between, turned, answered, still, tuned⟩ := turn_tunes driver sound here
      obtain ⟨reports, after, ran, played, others, ends, synced⟩ := ih between still later
      refine ⟨report :: reports, after, ?_, ?_, ?_, ?_, synced⟩
      · simp [runFrom, turned, ran]
      · simpa [play, turned] using played
      · exact List.forall_mem_cons.mpr ⟨answered, others⟩
      · rw [ends, tuned]
        rfl

/-- Ten bytes are too many for a sync word, and there is none once the chip is set up
again. -/
theorem play_tunes_blank :
    (∃ after, play (Chip.Driver.fresh Board.blank)
        [.call (.setSync (List.replicate 10 0xaa)), .call (.setFormat false 0), .call .listen] =
          some after ∧
      Tuning.of after.bus.contents =
        ⟨some .receive, some (List.replicate 8 0xaa), false, none⟩) ∧
    ∃ after, play (Chip.Driver.fresh Board.blank)
        [.call (.setSync [0xe1, 0xe1, 0xfe]), .call (.transmit []), .call .configure] =
          some after ∧
      Tuning.of after.bus.contents = ⟨some .standby, none, true, some 64⟩ := by
  constructor
  · obtain ⟨_, after, _, played, _, tuned, _⟩ := play_tunes (Chip.Driver.fresh Board.blank) rfl
      [.call (.setSync (List.replicate 10 0xaa)), .call (.setFormat false 0), .call .listen]
      (by decide)
    exact ⟨after, played, tuned.trans rfl⟩
  · obtain ⟨_, after, _, played, _, tuned, _⟩ := play_tunes (Chip.Driver.fresh Board.blank) rfl
      [.call (.setSync [0xe1, 0xe1, 0xfe]), .call (.transmit []), .call .configure] (by decide)
    exact ⟨after, played, tuned.trans rfl⟩

end ShutterRadio.Bench.ChipScript
