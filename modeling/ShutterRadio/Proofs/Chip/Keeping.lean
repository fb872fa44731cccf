/-
# What the driver keeps

The driver touches its bus in four ways, and beside that it only tells and counts when
it gave up waiting for the chip.  What none of this breaks is kept by every operation,
however it ends: `keeps_answer` says so once, for any bus and anything that may hold of
a driver with it.

So it is that the driver does not complain.  What failed it leaves to the station to
tell: whatever fails and however long the chip takes, no note of the driver is one that
the station complains with.
-/

import ShutterRadio.Chip.Driver
import ShutterRadio.Proofs.Program.Complaint

namespace ShutterRadio.Chip

variable {σ τ α β : Type}

/-- What neither a use of the bus breaks nor giving up waiting for the chip. -/
structure IsInvariant (b : Bus σ τ) (holds : Driver σ → Prop) : Prop where
  write : ∀ parts driver, holds driver → holds { driver with bus := (b.write parts driver.bus).2 }
  read : ∀ address count driver, holds driver →
    holds { driver with bus := (b.read address count driver.bus).2 }
  drive : ∀ level driver, holds driver → holds { driver with bus := (b.drive level driver.bus).2 }
  lapse : ∀ micros driver bus, holds driver → b.pause micros driver.bus = .ok () bus →
    holds { driver with bus }
  refuse : ∀ micros driver reason bus, holds driver →
    b.pause micros driver.bus = .error reason bus → holds { driver with bus }
  modeTimeout : ∀ last driver, holds driver →
    holds { driver with
      modeTimeouts := driver.modeTimeouts + 1
      journal := .modeTimeout last :: driver.journal }
  sendTimeout : ∀ last driver, holds driver →
    holds { driver with
      sendTimeouts := driver.sendTimeouts + 1
      journal := .sendTimeout last :: driver.journal }

/-- It holds in the end, whichever end that is. -/
inductive Kept (holds : Driver σ → Prop) : EStateM.Result (Halt τ) (Driver σ) α → Prop
  | ended {answer : α} {after : Driver σ} : holds after → Kept holds (.ok answer after)
  | halted {reason : Halt τ} {after : Driver σ} : holds after → Kept holds (.error reason after)

/-- An operation that keeps what holds of the driver. -/
def Keeps (holds : Driver σ → Prop) (operation : Run σ τ α) : Prop :=
  ∀ before : Driver σ, holds before → Kept holds (operation before)

section Keeps

variable {holds : Driver σ → Prop}

theorem keeps_pure (answer : α) : Keeps holds (pure answer : Run σ τ α) :=
  fun _ held => .ended held

theorem Keeps.bind {operation : Run σ τ α} {rest : α → Run σ τ β} (first : Keeps holds operation)
    (second : ∀ answer, Keeps holds (rest answer)) : Keeps holds (operation >>= rest) := by
  intro before held
  have began := first before held
  show Kept holds (EStateM.bind operation rest before)
  unfold EStateM.bind
  generalize operation before = middle at began ⊢
  cases began with
  | ended still => exact second _ _ still
  | halted still => exact .halted still

theorem Keeps.map {operation : Run σ τ α} (keeps : Keeps holds operation) (convert : α → β) :
    Keeps holds (do return convert (← operation)) :=
  keeps.bind fun answer => keeps_pure (convert answer)

theorem keeps_use {cause : String → Fault} {access : σ → Except String α × σ}
    (accesses : ∀ driver, holds driver → holds { driver with bus := (access driver.bus).2 }) :
    Keeps holds (use cause access : Run σ τ α) := by
  intro before held
  have still := accesses before held
  unfold use
  generalize access before.bus = accessed at still ⊢
  rcases accessed with ⟨cause | answer, after⟩
  · exact .halted still
  · exact .ended still

variable {b : Bus σ τ} (invariant : IsInvariant b holds)

include invariant

theorem keeps_pause (micros : Nat) : Keeps holds (pause b micros) := by
  intro before held
  unfold pause
  split
  · rename_i bus lapsed
    exact .ended (invariant.lapse micros before bus held lapsed)
  · rename_i reason bus refused
    exact .halted (invariant.refuse micros before reason bus held refused)

theorem keeps_write (register : Register) (bytes : List UInt8) :
    Keeps holds (write b register bytes) :=
  keeps_use (invariant.write _)

theorem keeps_writeApart (register : Register) (bytes : List UInt8) :
    Keeps holds (writeApart b register bytes) :=
  keeps_use (invariant.write _)

theorem keeps_read (register : Register) (count : Nat) : Keeps holds (read b register count) :=
  keeps_use (invariant.read _ _)

theorem keeps_drive (level : Bool) : Keeps holds (drive b level) :=
  keeps_use (invariant.drive level)

theorem keeps_readByte (register : Register) : Keeps holds (readByte b register) :=
  (keeps_read invariant register 1).map fun bytes => bytes[0]

theorem keeps_readWord (register : Register) : Keeps holds (readWord b register) :=
  (keeps_read invariant register 2).map fun bytes => wordOf bytes[0] bytes[1]

theorem keeps_flags : Keeps holds (flags b) :=
  (keeps_read invariant .flags 2).map fun bytes => (⟨bytes[0], bytes[1]⟩ : StatusFlags)

theorem keeps_await (shown : StatusFlags → Bool) (micros polls : Nat) (last : StatusFlags) :
    Keeps holds (await b shown micros polls last) := by
  induction polls generalizing last with
  | zero => exact keeps_pure _
  | succ polls ih =>
      apply (keeps_flags invariant).bind
      intro seen
      split
      · exact keeps_pure _
      · exact (keeps_pause invariant micros).bind fun _ => ih seen

theorem keeps_awaitMode : Keeps holds (awaitMode b) := by
  apply (keeps_await invariant _ _ _ _).bind
  intro waited
  cases waited with
  | none => exact keeps_pure _
  | some last => exact fun before held => .ended (invariant.modeTimeout last before held)

theorem keeps_awaitSent : Keeps holds (awaitSent b) := by
  apply (keeps_await invariant _ _ _ _).bind
  intro waited
  cases waited with
  | none => exact keeps_pure _
  | some last => exact fun before held => .ended (invariant.sendTimeout last before held)

theorem keeps_reset : Keeps holds (reset b) := by
  refine (keeps_drive invariant _).bind fun _ => ?_
  refine (keeps_pause invariant _).bind fun _ => ?_
  refine (keeps_drive invariant _).bind fun _ => ?_
  exact keeps_pause invariant _

theorem keeps_configure : Keeps holds (configure b) := by
  refine (keeps_write invariant _ _).bind fun _ => ?_
  refine (keeps_write invariant _ _).bind fun _ => ?_
  refine (keeps_write invariant _ _).bind fun _ => ?_
  refine (keeps_write invariant _ _).bind fun _ => ?_
  refine (keeps_write invariant _ _).bind fun _ => ?_
  refine (keeps_write invariant _ _).bind fun _ => ?_
  exact keeps_write invariant _ _

theorem keeps_setSync (pattern : List UInt8) : Keeps holds (setSync b pattern) := by
  refine (keeps_readByte invariant _).bind fun old => ?_
  refine (keeps_write invariant _ _).bind fun _ => ?_
  split
  · exact keeps_pure _
  · exact keeps_writeApart invariant _ _

theorem keeps_transmit (packet : List UInt8) : Keeps holds (transmit b packet) := by
  refine (keeps_awaitMode invariant).bind fun _ => ?_
  refine (keeps_writeApart invariant _ _).bind fun _ => ?_
  refine (keeps_write invariant _ _).bind fun _ => ?_
  refine (keeps_awaitMode invariant).bind fun _ => ?_
  refine (keeps_awaitSent invariant).bind fun _ => ?_
  exact keeps_write invariant _ _

theorem keeps_answer (asked : Call) : Keeps holds (answer b asked) := by
  have settled (mode : Mode) : Keeps holds (do setMode b mode; awaitMode b) :=
    (keeps_write invariant _ _).bind fun _ => keeps_awaitMode invariant
  cases asked with
  | reset => exact keeps_reset invariant
  | configure => exact keeps_configure invariant
  | setFrequency frequency => exact keeps_write invariant _ _
  | frequency => exact (keeps_read invariant _ _).map _
  | setSymbolWidth micros => exact keeps_write invariant _ _
  | bitRate => exact (keeps_readWord invariant _).map _
  | version => exact keeps_readByte invariant _
  | setSync pattern => exact keeps_setSync invariant pattern
  | setFormat manchester length => exact keeps_write invariant _ _
  | transmit packet => exact keeps_transmit invariant packet
  | receive length => exact keeps_read invariant _ _
  | listen => exact settled .receive
  | standby => exact settled .standby

end Keeps

/-! ## No complaints -/

/-- None of the notes is a complaint. -/
def Driver.IsMild (driver : Driver σ) : Prop := ∀ note ∈ driver.journal, note.isComplaint = false

/-- To give up waiting is told, and that is no complaint. -/
theorem isInvariant_mild (b : Bus σ τ) : IsInvariant b Driver.IsMild where
  write _ _ mild := mild
  read _ _ _ mild := mild
  drive _ _ mild := mild
  lapse _ _ _ mild _ := mild
  refuse _ _ _ _ mild _ := mild
  modeTimeout _ _ mild := List.forall_mem_cons.mpr ⟨rfl, mild⟩
  sendTimeout _ _ mild := List.forall_mem_cons.mpr ⟨rfl, mild⟩

/-- A chip on any bus leaves it to the station to complain. -/
theorem discreet_device (b : Bus σ τ) (base : Timebase σ τ) (indicate : Bool → σ → σ) :
    (device b base indicate).Discreet := by
  intro activity asked driver note member
  have kept := keeps_answer (isInvariant_mild b) asked { driver with journal := [] } nofun
  change note ∈ (perform (answer b asked) driver).notes at member
  unfold perform at member
  dsimp only at member
  generalize answer b asked { driver with journal := [] } = result at kept member
  cases kept with
  | ended mild => exact mild note (List.mem_reverse.mp member)
  | @halted reason after mild =>
      cases reason with
      | fault fault => exact mild note (List.mem_reverse.mp member)
      | abandoned reason => exact mild note (List.mem_reverse.mp member)

end ShutterRadio.Chip
