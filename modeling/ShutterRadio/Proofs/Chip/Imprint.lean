/-
# What calls leave behind in the registers

Whatever the registers contained and whatever the chip answers on the way, a call
that comes to its end has left certain bytes in certain registers and nothing
else, the status flags apart.  `Chip.imprint` says which, and `ends_answer` that
this is so on the board's register file.

Nothing is said here about calls that fail, and none of it depends on which
transactions do.
-/

import ShutterRadio.Proofs.Chip.Contents

namespace ShutterRadio

open Bench (Board registerBus Stuck)

namespace Chip

/-! ## Operations that come to their end -/

section Ends

variable {σ τ α β : Type} {operation : Run σ τ α} {driver : Driver σ}

/-- This holds of what an operation answers and of the driver it leaves, whenever
it comes to its end. -/
def Ends (operation : Run σ τ α) (driver : Driver σ) (post : α → Driver σ → Prop) : Prop :=
  ∀ answer after, operation driver = .ok answer after → post answer after

theorem ends_pure {answer : α} {post : α → Driver σ → Prop} (holds : post answer driver) :
    Ends (pure answer : Run σ τ α) driver post := by
  intro same after ran
  injection ran with answered unchanged
  subst answered unchanged
  exact holds

/-- One operation after the other. -/
theorem Ends.bind {rest : α → Run σ τ β} {post : β → Driver σ → Prop}
    (ends : Ends operation driver fun answer between => Ends (rest answer) between post) :
    Ends (operation >>= rest) driver post := by
  intro answer after ran
  cases first : operation driver with
  | ok middle between =>
      have onwards : (operation >>= rest) driver = rest middle between := by
        show EStateM.bind operation rest driver = _
        rw [EStateM.bind, first]
      exact ends middle between first answer after (onwards ▸ ran)
  | error halt between =>
      have stopped : (operation >>= rest) driver = .error halt between := by
        show EStateM.bind operation rest driver = _
        rw [EStateM.bind, first]
      rw [stopped] at ran
      cases ran

/-- A use of the bus that comes to its end was answered by the bus. -/
theorem ends_use {cause : String → Fault} {access : σ → Except String α × σ}
    {post : α → Driver σ → Prop}
    (holds : ∀ answer bus, access driver.bus = (.ok answer, bus) → post answer { driver with bus }) :
    Ends (use cause access : Run σ τ α) driver post := by
  intro answer after ran
  unfold use at ran
  split at ran
  rename_i result bus accessed
  split at ran
  · injection ran with same changed
    subst same changed
    exact holds _ _ accessed
  · cases ran

/-- What was answered in the end was answered by the operation. -/
theorem perform_answered {result : α}
    (answered : (perform operation driver).ending = .answered result) :
    ∃ after, operation { driver with journal := [] } = .ok result after ∧
      (perform operation driver).device = { after with journal := [] } := by
  unfold perform at answered ⊢
  cases ran : operation { driver with journal := [] } with
  | ok answer after =>
      rw [ran] at answered
      cases answered
      exact ⟨after, rfl, rfl⟩
  | error halt after =>
      rw [ran] at answered
      cases halt <;> cases answered

end Ends

/-! ## What single transactions leave behind -/

section Transactions

variable {limit : Option Nat} {driver : Driver Board} {register : Register} {bytes : List UInt8}

/-- Bytes fit behind the register they are written to. -/
def Fits (register : Register) (bytes : List UInt8) : Prop :=
  register = .packet ∨ register.address.toNat + bytes.length ≤ 128

theorem ends_write (fits : Fits register bytes) :
    Ends (write (registerBus limit) register bytes) driver fun _ after =>
      after.bus.contents = driver.bus.contents.put register bytes :=
  ends_use fun _ _ written => Board.contents_writeTransfer (by simp) fits written

theorem ends_writeApart (fits : Fits register bytes) :
    Ends (writeApart (registerBus limit) register bytes) driver fun _ after =>
      after.bus.contents = driver.bus.contents.put register bytes :=
  ends_use fun _ _ written => Board.contents_writeTransfer (by simp) fits written

/-- An ordinary register reads as what it contains. -/
theorem ends_readByte (ordinary : register ≠ .packet ∧ register ≠ .flags) :
    Ends (readByte (registerBus limit) register) driver fun byte after =>
      byte = driver.bus.contents (Fin.ofNat 128 register.address.toNat) ∧
        after.bus.contents = driver.bus.contents := by
  apply Ends.bind
  apply ends_use
  intro bytes bus taken
  obtain ⟨untouched, told⟩ := Board.contents_readTransfer ordinary taken
  exact ends_pure ⟨told 0 (Nat.lt_succ_self 0), untouched⟩

end Transactions

/-! ## What operations leave behind -/

/-- Registers written one after the other. -/
def Contents.puts (contents : Contents) (writes : List (Register × List UInt8)) : Contents :=
  writes.foldl (fun contents (register, bytes) => contents.put register bytes) contents

theorem Contents.Agree.puts {first second : Contents} (agree : Agree first second)
    (writes : List (Register × List UInt8)) : Agree (first.puts writes) (second.puts writes) := by
  induction writes generalizing first second with
  | nil => exact agree
  | cons one others ih => exact ih (agree.put one.1 one.2)

/-- An operation that comes to its end has left these writes behind. -/
def Imprints {α : Type} (operation : Run Board Stuck α)
    (writes : List (Register × List UInt8)) : Prop :=
  ∀ driver, Ends operation driver fun _ after =>
    Contents.Agree (driver.bus.contents.puts writes) after.bus.contents

section Imprints

variable {limit : Option Nat} {α β : Type}

theorem Imprints.bind {operation : Run Board Stuck α} {rest : α → Run Board Stuck β}
    {earlier later : List (Register × List UInt8)} (first : Imprints operation earlier)
    (second : ∀ answer, Imprints (rest answer) later) :
    Imprints (operation >>= rest) (earlier ++ later) := by
  intro driver
  apply Ends.bind
  intro answer between began final after ended
  have left := first driver answer between began
  have leaves := second answer between final after ended
  rw [Contents.puts, List.foldl_append]
  exact (left.puts later).trans leaves

theorem imprints_pure (answer : α) : Imprints (pure answer) [] :=
  fun _ => ends_pure (.refl _)

/-- What is done to an answer afterwards leaves nothing behind. -/
theorem Imprints.map {operation : Run Board Stuck α} {writes : List (Register × List UInt8)}
    (imprints : Imprints operation writes) (convert : α → β) :
    Imprints (do return convert (← operation)) writes := by
  have both := imprints.bind fun answer => imprints_pure (convert answer)
  rwa [List.append_nil] at both

theorem imprints_write {register : Register} {bytes : List UInt8} (fits : Fits register bytes) :
    Imprints (write (registerBus limit) register bytes) [(register, bytes)] := by
  intro driver answer after ran
  have left := ends_write fits answer after ran
  show Contents.Agree (driver.bus.contents.put register bytes) after.bus.contents
  rw [left]
  exact .refl _

theorem imprints_writeApart {register : Register} {bytes : List UInt8}
    (fits : Fits register bytes) :
    Imprints (writeApart (registerBus limit) register bytes) [(register, bytes)] := by
  intro driver answer after ran
  have left := ends_writeApart fits answer after ran
  show Contents.Agree (driver.bus.contents.put register bytes) after.bus.contents
  rw [left]
  exact .refl _

theorem imprints_read (register : Register) (count : Nat) :
    Imprints (read (registerBus limit) register count) [] :=
  fun _ => ends_use fun _ _ taken => Board.agree_readTransfer taken

theorem imprints_readByte (register : Register) :
    Imprints (readByte (registerBus limit) register) [] :=
  (imprints_read register 1).map fun bytes => bytes[0]

theorem imprints_readWord (register : Register) :
    Imprints (readWord (registerBus limit) register) [] :=
  (imprints_read register 2).map fun bytes => wordOf bytes[0] bytes[1]

theorem imprints_flags : Imprints (flags (registerBus limit)) [] :=
  (imprints_read .flags 2).map fun bytes => (⟨bytes[0], bytes[1]⟩ : StatusFlags)

theorem imprints_pause (micros : Nat) : Imprints (pause (registerBus limit) micros) [] := by
  intro driver answer after ran
  unfold pause at ran
  split at ran
  · rename_i bus paused
    injection ran with _ changed
    subst changed
    show Contents.Agree driver.bus.contents bus.contents
    rw [Board.contents_of_registers (Board.registers_pause paused).1]
    exact .refl _
  · cases ran

theorem imprints_drive (level : Bool) : Imprints (drive (registerBus limit) level) [] := by
  intro driver
  apply ends_use
  intro answer bus driven
  injection driven with _ changed
  subst changed
  exact .refl _

/-- Waiting leaves nothing behind, however often it asks. -/
theorem imprints_await (shown : StatusFlags → Bool) (micros polls : Nat) (last : StatusFlags) :
    Imprints (await (registerBus limit) shown micros polls last) [] := by
  induction polls generalizing last with
  | zero => exact imprints_pure _
  | succ polls ih =>
      apply imprints_flags.bind
      intro seen
      split
      · exact imprints_pure _
      · exact (imprints_pause micros).bind fun _ => ih seen

theorem imprints_awaitMode : Imprints (awaitMode (registerBus limit)) [] := by
  apply (imprints_await _ _ _ _).bind
  intro waited
  cases waited with
  | none => exact imprints_pure _
  | some last =>
      intro driver answer after ran
      injection ran with _ changed
      subst changed
      exact .refl _

theorem imprints_awaitSent : Imprints (awaitSent (registerBus limit)) [] := by
  apply (imprints_await _ _ _ _).bind
  intro waited
  cases waited with
  | none => exact imprints_pure _
  | some last =>
      intro driver answer after ran
      injection ran with _ changed
      subst changed
      exact .refl _

theorem imprints_setMode (mode : Mode) :
    Imprints (setMode (registerBus limit) mode) [(.mode, [mode.byte])] :=
  imprints_write (.inr (by simp [Register.address]))

/-- Setting the sync word leaves the configuration that the word asks for, with the
other bits as they were, and the word. -/
def syncWrites (contents : Contents) (pattern : List UInt8) : List (Register × List UInt8) :=
  let word := pattern.take syncCapacity
  let config := [syncConfigFor (contents (Fin.ofNat 128 Register.syncConfig.address.toNat)) word]
  if word.isEmpty then [(.syncConfig, config)] else [(.syncConfig, config), (.syncValue, word)]

/-- No byte more and no byte less: not even the flags are looked at. -/
theorem ends_setSync (pattern : List UInt8) (driver : Driver Board) :
    Ends (setSync (registerBus limit) pattern) driver fun _ after =>
      after.bus.contents = driver.bus.contents.puts (syncWrites driver.bus.contents pattern) := by
  have short : (pattern.take syncCapacity).length ≤ 81 :=
    Nat.le_trans (List.length_take_le _ _) (by decide)
  apply Ends.bind
  intro old between took
  obtain ⟨rfl, untouched⟩ := ends_readByte (by simp) old between took
  apply Ends.bind
  intro _ configured wrote
  have config := ends_write (.inr (by simp [Register.address])) _ configured wrote
  rw [untouched] at config
  unfold syncWrites
  by_cases none : (pattern.take syncCapacity).isEmpty = true
  · simp only [none, if_true]
    exact ends_pure config
  · simp only [none, Bool.false_eq_true, if_false]
    intro _ after ran
    have fits : Fits .syncValue (pattern.take syncCapacity) :=
      .inr (Nat.add_le_add_left short 0x2f)
    have value := ends_writeApart fits _ after ran
    rw [config] at value
    exact value

/-- What a call leaves behind in registers that contained this. -/
def writes (contents : Contents) : Call → List (Register × List UInt8)
  | .configure =>
      [(.mode, [Mode.standby.byte]), (.modulation, [modulationPacketKeyed]),
        (.protection, [protectionOff]), (.amplifier, [amplifierFull]),
        (.syncConfig, [syncUnset]), (.packetConfig, packetConfigBytes true initialLength),
        (.preamble, wordBytes 0)]
  | .setFrequency frequency => [(.carrier, carrierBytes frequency.steps)]
  | .setSymbolWidth micros => [(.bitRate, wordBytes (symbolWord micros))]
  | .setSync pattern => syncWrites contents pattern
  | .setFormat manchester length => [(.packetConfig, packetConfigBytes manchester length)]
  | .transmit packet =>
      [(.packet, packet), (.mode, [Mode.transmit.byte]), (.mode, [Mode.standby.byte])]
  | .listen => [(.mode, [Mode.receive.byte])]
  | .standby => [(.mode, [Mode.standby.byte])]
  | _ => []

/-- The registers after a call that was answered, the status flags apart. -/
def imprint (contents : Contents) (asked : Call) : Contents :=
  contents.puts (writes contents asked)

theorem length_packetConfigBytes (manchester : Bool) (length : UInt8) :
    (packetConfigBytes manchester length).length = 2 := by
  unfold packetConfigBytes
  by_cases any : length = 0 <;> simp [any]

theorem fits_packetConfig (manchester : Bool) (length : UInt8) :
    Fits .packetConfig (packetConfigBytes manchester length) :=
  .inr (by rw [length_packetConfigBytes]; decide)

theorem imprints_setFormat (manchester : Bool) (length : UInt8) :
    Imprints (setFormat (registerBus limit) manchester length)
      [(.packetConfig, packetConfigBytes manchester length)] :=
  imprints_write (fits_packetConfig manchester length)

theorem imprints_configure (contents : Contents) :
    Imprints (configure (registerBus limit)) (writes contents .configure) := by
  apply (imprints_setMode .standby).bind
  intro _
  apply (imprints_write (.inr (by simp [Register.address]))).bind
  intro _
  apply (imprints_write (.inr (by simp [Register.address]))).bind
  intro _
  apply (imprints_write (.inr (by simp [Register.address]))).bind
  intro _
  apply (imprints_write (.inr (by simp [Register.address]))).bind
  intro _
  apply (imprints_write (fits_packetConfig true initialLength)).bind
  intro _
  exact imprints_write (.inr (by simp [Register.address, wordBytes]))

theorem imprints_transmit (contents : Contents) (packet : List UInt8) :
    Imprints (transmit (registerBus limit) packet) (writes contents (.transmit packet)) := by
  apply imprints_awaitMode.bind
  intro _
  apply (imprints_writeApart (.inl rfl)).bind
  intro _
  apply (imprints_setMode .transmit).bind
  intro _
  apply imprints_awaitMode.bind
  intro _
  apply imprints_awaitSent.bind
  intro _
  exact imprints_setMode .standby

/-- Every call that comes to its end leaves its imprint. -/
theorem ends_answer (asked : Call) (driver : Driver Board) :
    Ends (answer (registerBus limit) asked) driver fun _ after =>
      Contents.Agree (imprint driver.bus.contents asked) after.bus.contents := by
  cases asked with
  | reset =>
      let b := registerBus limit
      have release : Imprints (do drive b false; pause b (resetPulseMillis * 1000)) [] :=
        (imprints_drive false).bind fun _ => imprints_pause _
      exact ((imprints_drive true).bind fun _ => (imprints_pause _).bind fun _ => release) driver
  | configure => exact imprints_configure _ driver
  | setFrequency frequency =>
      have imprints : Imprints (setFrequency (registerBus limit) frequency)
          [(.carrier, carrierBytes frequency.steps)] :=
        imprints_write (.inr (by simp [Register.address, carrierBytes]))
      exact imprints driver
  | frequency => exact (imprints_read .carrier 3).map _ driver
  | setSymbolWidth micros =>
      have imprints : Imprints (setSymbolWidth (registerBus limit) micros)
          [(.bitRate, wordBytes (symbolWord micros))] :=
        imprints_write (.inr (by simp [Register.address, wordBytes]))
      exact imprints driver
  | bitRate => exact (imprints_readWord .bitRate).map _ driver
  | version => exact imprints_readByte .version driver
  | setSync pattern =>
      intro _ after ran
      have left := ends_setSync pattern driver _ after ran
      rw [left]
      exact .refl _
  | setFormat manchester length => exact imprints_setFormat manchester length driver
  | transmit packet => exact imprints_transmit _ packet driver
  | receive length =>
      have imprints : Imprints (receive (registerBus limit) length) [] := imprints_read _ _
      exact imprints driver
  | listen => exact ((imprints_setMode .receive).bind fun _ => imprints_awaitMode) driver
  | standby => exact ((imprints_setMode .standby).bind fun _ => imprints_awaitMode) driver

end Imprints

end Chip

end ShutterRadio
