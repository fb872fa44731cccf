/-
# When operations of the driver come to their end

The driver gives up waiting for the chip after a fixed number of polls, so every
operation but a reset makes a bounded number of pauses, whatever the chip
answers.  On the board, then, there are just two ways not to come to an end: a
transaction of the operation failed, or so many pauses had been made before it
that the board refuses one.  `Transacts` says so of an operation, and with no
failing transactions and patience left it follows that the operation ends.

A board without a limit to its pauses refuses none, so a station that works with it
comes to the end of all it does (`patient_registerDevice`), however often it gives up
waiting for the chip.

The bounds are not tight.
-/

import ShutterRadio.Proofs.Chip.Contents
import ShutterRadio.Proofs.Chip.Keeping
import ShutterRadio.Proofs.Program.Alone

namespace ShutterRadio

namespace Bench.Board

/-! ## What the board counts -/

/-- Neither transactions nor pauses were made. -/
structure Idles (before after : Board) : Prop where
  failing : after.failingTransfers = before.failingTransfers
  transfers : after.transfers = before.transfers
  pauses : after.pauses = before.pauses

theorem idles_poke (board : Board) (address : Nat) (bytes : List UInt8) :
    board.Idles (board.poke address bytes) := by
  induction bytes generalizing board address with
  | nil => exact ⟨rfl, rfl, rfl⟩
  | cons byte rest ih =>
      have later := ih { board with
        registers := board.registers.set (address % registerCount) byte
          (Nat.mod_lt _ (by decide)) } (address + 1)
      exact ⟨later.failing, later.transfers, later.pauses⟩

theorem idles_store (board : Board) (bytes : List UInt8) : board.Idles (board.store bytes) := by
  cases bytes with
  | nil => exact ⟨rfl, rfl, rfl⟩
  | cons first rest =>
      by_cases packet : addressOf first = 0
      · simp only [store, packet, if_true]
        exact ⟨rfl, rfl, rfl⟩
      · simp only [store, packet, if_false]
        exact idles_poke _ _ _

theorem idles_load (board : Board) (address count : Nat) :
    board.Idles (board.load address count).2 := by
  have taken : board.Idles board.takeStatus := by
    unfold takeStatus
    split <;> exact ⟨rfl, rfl, rfl⟩
  have shown := idles_poke board.takeStatus flagsAddress
    [board.takeStatus.flags.first, board.takeStatus.flags.second]
  unfold load
  split
  · exact ⟨rfl, rfl, rfl⟩
  · by_cases asked : address = flagsAddress
    · simp only [asked, if_true]
      exact ⟨shown.failing.trans taken.failing, shown.transfers.trans taken.transfers,
        shown.pauses.trans taken.pauses⟩
    · simp only [asked, if_false]
      exact ⟨rfl, rfl, rfl⟩

/-- A use of the bus that is counted, makes no pause, and fails only if it was to. -/
structure IsTransaction {γ : Type} (access : Board → Except String γ × Board) : Prop where
  idles : ∀ board, Idles { board with transfers := board.transfers + 1 } (access board).2
  blame : ∀ board, (access board).1.isOk = false → board.transfers ∈ board.failingTransfers

theorem isTransaction_writeTransfer (parts : List (List UInt8)) :
    IsTransaction (writeTransfer parts) := by
  constructor
  · intro board
    by_cases fails : board.beginTransfer.1 = true
    · simp only [writeTransfer, fails, if_true]
      exact ⟨rfl, rfl, rfl⟩
    · have stored := idles_store (board.beginTransfer.2.log
        (.transfer false (parts.map .written))) parts.flatten
      simp only [writeTransfer, fails, Bool.false_eq_true, if_false]
      exact ⟨stored.failing, stored.transfers, stored.pauses⟩
  · intro board failed
    by_cases fails : board.beginTransfer.1 = true
    · exact List.contains_iff_mem.mp fails
    · simp [writeTransfer, fails, Except.isOk, Except.toBool] at failed

theorem isTransaction_readTransfer (address : UInt8) (count : Nat) :
    IsTransaction (readTransfer address count) := by
  constructor
  · intro board
    by_cases fails : board.beginTransfer.1 = true
    · simp only [readTransfer, fails, if_true]
      exact ⟨rfl, rfl, rfl⟩
    · have loaded := idles_load board.beginTransfer.2 (addressOf address) count
      simp only [readTransfer, fails, Bool.false_eq_true, if_false]
      exact ⟨loaded.failing, loaded.transfers, loaded.pauses⟩
  · intro board failed
    by_cases fails : board.beginTransfer.1 = true
    · exact List.contains_iff_mem.mp fails
    · simp [readTransfer, fails, Except.isOk, Except.toBool] at failed

end Bench.Board

open Bench (Board registerBus registerDevice Stuck)

namespace Chip

variable {limit : Option Nat} {α β : Type}

/-- What became of an operation that makes at most so many pauses. -/
inductive Transacted (limit : Option Nat) (budget : Nat) (before : Driver Board) :
    EStateM.Result (Halt Stuck) (Driver Board) α → Prop
  | ended {answer : α} {after : Driver Board} :
      after.bus.failingTransfers = before.bus.failingTransfers →
      before.bus.transfers ≤ after.bus.transfers →
      after.bus.pauses ≤ before.bus.pauses + budget →
      Transacted limit budget before (.ok answer after)
  | failed {fault : Fault} {after : Driver Board} {number : Nat} :
      number ∈ before.bus.failingTransfers → before.bus.transfers ≤ number →
      number < after.bus.transfers → Transacted limit budget before (.error (.fault fault) after)
  | abandoned {reason : Stuck} {after : Driver Board} {most : Nat} :
      limit = some most → most < before.bus.pauses + budget →
      Transacted limit budget before (.error (.abandoned reason) after)

/-- An operation ends unless a transaction of its own fails or a limit to pauses is
reached, after at most so many pauses. -/
def Transacts (limit : Option Nat) (budget : Nat) (operation : Run Board Stuck α) : Prop :=
  ∀ before, Transacted limit budget before (operation before)

theorem transacts_pure (answer : α) : Transacts limit 0 (pure answer) :=
  fun _ => .ended rfl (Nat.le_refl _) (Nat.le_refl _)

theorem Transacts.mono {fewer more : Nat} {operation : Run Board Stuck α}
    (transacts : Transacts limit fewer operation) (le : fewer ≤ more) :
    Transacts limit more operation := by
  intro before
  have ran := transacts before
  generalize operation before = result at ran ⊢
  cases ran with
  | ended kept onwards pauses =>
      exact .ended kept onwards (Nat.le_trans pauses (Nat.add_le_add_left le _))
  | failed member lower upper => exact .failed member lower upper
  | abandoned limited out =>
      exact .abandoned limited (Nat.lt_of_lt_of_le out (Nat.add_le_add_left le _))

/-- Pauses add up, and the first operation that fails is to blame. -/
theorem Transacts.bind {budget more : Nat} {operation : Run Board Stuck α}
    {rest : α → Run Board Stuck β} (first : Transacts limit budget operation)
    (second : ∀ answer, Transacts limit more (rest answer)) :
    Transacts limit (budget + more) (operation >>= rest) := by
  intro before
  have began := first before
  show Transacted _ _ before (EStateM.bind operation rest before)
  unfold EStateM.bind
  generalize operation before = middle at began ⊢
  cases began with
  | @ended answer between kept onwards pauses =>
      have went := second answer between
      show Transacted _ _ before (rest answer between)
      generalize rest answer between = last at went ⊢
      cases went with
      | ended kept' onwards' pauses' =>
          exact .ended (kept'.trans kept) (Nat.le_trans onwards onwards') (by omega)
      | failed member lower upper =>
          exact .failed (kept ▸ member) (Nat.le_trans onwards lower) upper
      | abandoned limited out => exact .abandoned limited (by omega)
  | failed member lower upper => exact .failed member lower upper
  | abandoned limited out => exact .abandoned limited (by omega)

/-- What makes no pause costs nothing. -/
theorem Transacts.andThen {budget : Nat} {operation : Run Board Stuck α}
    {rest : α → Run Board Stuck β} (first : Transacts limit 0 operation)
    (second : ∀ answer, Transacts limit budget (rest answer)) :
    Transacts limit budget (operation >>= rest) :=
  (first.bind second).mono (Nat.le_of_eq (Nat.zero_add budget))

theorem Transacts.map {budget : Nat} {operation : Run Board Stuck α}
    (transacts : Transacts limit budget operation) (convert : α → β) :
    Transacts limit budget (do return convert (← operation)) :=
  transacts.bind fun answer => transacts_pure (convert answer)

/-! ## Transactions and pauses -/

theorem transacts_use {cause : String → Fault} {access : Board → Except String α × Board}
    (transaction : Board.IsTransaction access) :
    Transacts limit 0 (use cause access : Run Board Stuck α) := by
  intro before
  have idles := transaction.idles before.bus
  have blame := transaction.blame before.bus
  unfold use
  generalize access before.bus = accessed at idles blame ⊢
  rcases accessed with ⟨cause | answer, after⟩
  · exact .failed (blame rfl) (Nat.le_refl _) (Nat.le_of_eq idles.transfers.symm)
  · exact .ended idles.failing (Nat.le_of_succ_le (Nat.le_of_eq idles.transfers.symm))
      (Nat.le_of_eq idles.pauses)

theorem transacts_pause (micros : Nat) : Transacts limit 1 (pause (registerBus limit) micros) := by
  intro before
  have paused : (registerBus limit).pause micros before.bus =
      Board.pause limit micros before.bus := rfl
  unfold pause
  rw [paused]
  unfold Board.pause
  by_cases able : limit.all (before.bus.pauses < ·) = true
  · rw [if_pos able]
    exact .ended rfl (Nat.le_refl _) (Nat.le_refl _)
  · rw [if_neg able]
    cases limit with
    | none => exact absurd rfl able
    | some most =>
        have reached : most ≤ before.bus.pauses := by simpa using able
        exact .abandoned rfl (Nat.lt_succ_of_le reached)

/-! ## Operations -/

theorem transacts_write (register : Register) (bytes : List UInt8) :
    Transacts limit 0 (write (registerBus limit) register bytes) :=
  transacts_use (Board.isTransaction_writeTransfer _)

theorem transacts_writeApart (register : Register) (bytes : List UInt8) :
    Transacts limit 0 (writeApart (registerBus limit) register bytes) :=
  transacts_use (Board.isTransaction_writeTransfer _)

theorem transacts_read (register : Register) (count : Nat) :
    Transacts limit 0 (read (registerBus limit) register count) :=
  transacts_use (Board.isTransaction_readTransfer _ _)

theorem transacts_readByte (register : Register) :
    Transacts limit 0 (readByte (registerBus limit) register) :=
  (transacts_read register 1).map fun bytes => bytes[0]

theorem transacts_readWord (register : Register) :
    Transacts limit 0 (readWord (registerBus limit) register) :=
  (transacts_read register 2).map fun bytes => wordOf bytes[0] bytes[1]

theorem transacts_flags : Transacts limit 0 (flags (registerBus limit)) :=
  (transacts_read .flags 2).map fun bytes => (⟨bytes[0], bytes[1]⟩ : StatusFlags)

/-- Waiting makes a pause for each poll at most. -/
theorem transacts_await (shown : StatusFlags → Bool) (micros polls : Nat) (last : StatusFlags) :
    Transacts limit polls (await (registerBus limit) shown micros polls last) := by
  induction polls generalizing last with
  | zero => exact transacts_pure _
  | succ polls ih =>
      apply transacts_flags.andThen
      intro seen
      split
      · exact (transacts_pure _).mono (Nat.zero_le _)
      · rw [Nat.add_comm]
        apply (transacts_pause micros).bind
        intro _
        exact ih seen

/-- Giving up takes no pause. -/
theorem transacts_giveUp (change : Driver Board → Driver Board) (note : Note)
    (same : ∀ driver, (change driver).bus = driver.bus) :
    Transacts limit 0 (giveUp change note : Run Board Stuck Unit) := by
  intro before
  have idle := same before
  exact .ended (congrArg Board.failingTransfers idle)
    (Nat.le_of_eq (congrArg Board.transfers idle).symm)
    (Nat.le_of_eq (congrArg Board.pauses idle))

theorem transacts_awaitMode : Transacts limit modePolls (awaitMode (registerBus limit)) := by
  show Transacts limit (modePolls + 0) (awaitMode (registerBus limit))
  apply (transacts_await _ _ _ _).bind
  intro waited
  cases waited with
  | none => exact transacts_pure _
  | some last => exact transacts_giveUp _ _ fun _ => rfl

theorem transacts_awaitSent : Transacts limit sendPolls (awaitSent (registerBus limit)) := by
  show Transacts limit (sendPolls + 0) (awaitSent (registerBus limit))
  apply (transacts_await _ _ _ _).bind
  intro waited
  cases waited with
  | none => exact transacts_pure _
  | some last => exact transacts_giveUp _ _ fun _ => rfl

theorem transacts_setSync (pattern : List UInt8) :
    Transacts limit 0 (setSync (registerBus limit) pattern) := by
  apply (transacts_readByte _).andThen
  intro old
  apply (transacts_write _ _).andThen
  intro _
  split
  · exact transacts_pure _
  · exact transacts_writeApart _ _

theorem transacts_configure : Transacts limit 0 (configure (registerBus limit)) := by
  apply (transacts_write _ _).andThen
  intro _
  apply (transacts_write _ _).andThen
  intro _
  apply (transacts_write _ _).andThen
  intro _
  apply (transacts_write _ _).andThen
  intro _
  apply (transacts_write _ _).andThen
  intro _
  apply (transacts_write _ _).andThen
  intro _
  exact transacts_write _ _

/-- No operation but a reset makes more pauses than it takes to send a packet. -/
def callPauses : Nat := modePolls + (modePolls + sendPolls)

theorem transacts_transmit (packet : List UInt8) :
    Transacts limit callPauses (transmit (registerBus limit) packet) := by
  show Transacts limit (modePolls + (modePolls + (sendPolls + 0)))
    (transmit (registerBus limit) packet)
  apply transacts_awaitMode.bind
  intro _
  apply (transacts_writeApart _ _).andThen
  intro _
  apply (transacts_write _ _).andThen
  intro _
  apply transacts_awaitMode.bind
  intro _
  apply transacts_awaitSent.bind
  intro _
  exact transacts_write _ _

theorem transacts_answer {asked : Call} (proper : asked ≠ .reset) :
    Transacts limit callPauses (answer (registerBus limit) asked) := by
  have none {γ : Type} {operation : Run Board Stuck γ} (transacts : Transacts limit 0 operation) :
      Transacts limit callPauses operation := transacts.mono (Nat.zero_le _)
  let b := registerBus limit
  have settled (mode : Mode) : Transacts limit callPauses (do setMode b mode; awaitMode b) :=
    ((transacts_write _ _).andThen fun _ => transacts_awaitMode).mono (by decide)
  cases asked with
  | reset => exact absurd rfl proper
  | configure => exact none transacts_configure
  | setFrequency frequency => exact none (transacts_write _ _)
  | frequency => exact none ((transacts_read _ _).map _)
  | setSymbolWidth micros => exact none (transacts_write _ _)
  | bitRate => exact none ((transacts_readWord _).map _)
  | version => exact none (transacts_readByte _)
  | setSync pattern => exact none (transacts_setSync pattern)
  | setFormat manchester length => exact none (transacts_write _ _)
  | transmit packet => exact transacts_transmit packet
  | receive length => exact none (transacts_read _ _)
  | listen => exact settled .receive
  | standby => exact settled .standby

/-- A call fails only if a transaction of its own does. -/
theorem Transacts.exists_failing {budget : Nat} {operation : Run Board Stuck α}
    (transacts : Transacts limit budget operation) (before : Driver Board) {fault : Fault}
    (failed : (perform operation before).ending = .failed fault) :
    ∃ number ∈ before.bus.failingTransfers, before.bus.transfers ≤ number ∧
      number < (perform operation before).device.bus.transfers := by
  have ran := transacts { before with journal := [] }
  unfold perform at failed ⊢
  generalize operation { before with journal := [] } = result at ran failed ⊢
  cases ran with
  | ended _ _ _ => cases failed
  | failed member lower upper => exact ⟨_, member, lower, upper⟩
  | abandoned _ _ => cases failed

/-- Which transactions are to fail is up to the board, and no use of it changes that. -/
theorem isInvariant_failing (limit : Option Nat) (failing : List Nat) :
    IsInvariant (registerBus limit) fun driver => driver.bus.failingTransfers = failing where
  write parts _ same := ((Board.isTransaction_writeTransfer parts).idles _).failing.trans same
  read address count _ same :=
    ((Board.isTransaction_readTransfer address count).idles _).failing.trans same
  drive _ _ same := same
  lapse _ _ _ same lapsed := (Board.registers_pause lapsed).2.trans same
  refuse _ _ _ _ same refused := by
    rw [Board.pause_refused refused]
    exact same
  modeTimeout _ _ same := same
  sendTimeout _ _ same := same

theorem failing_perform (limit : Option Nat) (activity : Activity) (asked : Call)
    (driver : Driver Board) :
    ((registerDevice limit).perform activity asked driver).device.bus.failingTransfers =
      driver.bus.failingTransfers := by
  have kept := keeps_answer (isInvariant_failing limit driver.bus.failingTransfers) asked
    { driver with journal := [] } rfl
  change (perform (answer (registerBus limit) asked) driver).device.bus.failingTransfers = _
  unfold perform
  generalize answer (registerBus limit) asked { driver with journal := [] } = result at kept ⊢
  cases kept with
  | ended same => exact same
  | @halted reason after same => cases reason <;> exact same

/-- With no failing transactions and patience left, an operation ends, and the next
will fare no worse. -/
theorem Transacts.exists_ok {budget : Nat} {operation : Run Board Stuck α}
    (transacts : Transacts limit budget operation) (before : Driver Board)
    (sound : before.bus.failingTransfers = [])
    (patient : ∀ most, limit = some most → before.bus.pauses + budget ≤ most) :
    ∃ answer after, operation before = .ok answer after ∧ after.bus.failingTransfers = [] := by
  have ran := transacts before
  generalize operation before = result at ran ⊢
  cases ran with
  | @ended answer after kept _ _ => exact ⟨answer, after, rfl, kept.trans sound⟩
  | failed member _ _ =>
      rw [sound] at member
      cases member
  | abandoned limited out => exact absurd (patient _ limited) (Nat.not_le.mpr out)

/-! ## Boards without a limit -/

/-- An operation that is never abandoned. -/
def Steady (operation : Run Board Stuck α) : Prop :=
  ∀ before reason after, operation before ≠ .error (.abandoned reason) after

theorem Steady.bind {operation : Run Board Stuck α} {rest : α → Run Board Stuck β}
    (first : Steady operation) (second : ∀ answer, Steady (rest answer)) :
    Steady (operation >>= rest) := by
  intro before reason after abandoned
  change EStateM.bind operation rest before = _ at abandoned
  unfold EStateM.bind at abandoned
  cases began : operation before with
  | ok answer between =>
      rw [began] at abandoned
      exact second answer between reason after abandoned
  | error halt between =>
      rw [began] at abandoned
      injection abandoned with same _
      subst same
      exact first before reason between began

theorem steady_use (cause : String → Fault) (access : Board → Except String α × Board) :
    Steady (use cause access : Run Board Stuck α) := by
  intro before reason after abandoned
  unfold use at abandoned
  dsimp only at abandoned
  split at abandoned
  · cases abandoned
  · injection abandoned with same _
    cases same

/-- Without a limit no pause is refused. -/
theorem steady_pause (micros : Nat) : Steady (pause (registerBus none) micros) := by
  intro before reason after abandoned
  cases abandoned

/-- Where there is no limit, none can be reached. -/
theorem Transacts.steady {budget : Nat} {operation : Run Board Stuck α}
    (transacts : Transacts none budget operation) : Steady operation := by
  intro before reason after abandoned
  have ran := transacts before
  rw [abandoned] at ran
  cases ran with
  | abandoned limited _ => cases limited

theorem steady_answer (asked : Call) : Steady (answer (registerBus none) asked) := by
  by_cases proper : asked = .reset
  · subst proper
    refine (steady_use _ _).bind fun _ => ?_
    refine (steady_pause _).bind fun _ => ?_
    refine (steady_use _ _).bind fun _ => ?_
    exact steady_pause _
  · exact (transacts_answer proper).steady

/-- A board without a limit refuses no pause and abandons no call. -/
theorem patient_registerDevice : (registerDevice none).Patient where
  pause _ _ := ⟨_, rfl⟩
  perform activity asked driver reason abandoned := by
    have steady := steady_answer asked { driver with journal := [] }
    change (perform (answer (registerBus none) asked) driver).ending = .abandoned reason
      at abandoned
    unfold perform at abandoned
    generalize answer (registerBus none) asked { driver with journal := [] } = result
      at steady abandoned
    cases result with
    | ok _ _ => cases abandoned
    | error halt after =>
        cases halt with
        | fault _ => cases abandoned
        | abandoned other => exact steady other after rfl

end Chip

end ShutterRadio
