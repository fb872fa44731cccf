/-
# The bus to the radio chip

What a driver needs of a board: transactions that write or read registers, a
reset line, and pauses.  They act on a state of their own, about which nothing
is assumed.  A fault of the bus or of the line ends what is being done at once,
and so does a pause that is refused; the state is kept in either case.
-/

import ShutterRadio.Chip.Register
import ShutterRadio.Radio.Device

namespace ShutterRadio

/-- What connects a driver to its chip, on a state `σ`, with reasons `τ` to
refuse a pause of so many microseconds.  Faults are given by the names that the
bus and the line have for them. -/
structure Bus (σ τ : Type) where
  /-- One transaction that writes; its parts follow each other on the wire. -/
  write : (parts : List (List UInt8)) → σ → Except String Unit × σ
  /-- One transaction that writes an address byte and reads so many bytes. -/
  read : (address : UInt8) → (count : Nat) → σ → Except String (Vector UInt8 count) × σ
  drive : (level : Bool) → σ → Except String Unit × σ
  pause : Nat → σ → EStateM.Result τ σ Unit

namespace Chip

/-- Why something could not be done. -/
inductive Fault
  | spi (cause : String)
  | pin (cause : String)
  deriving DecidableEq, Repr

/-- How a fault is shown in diagnostics. -/
def Fault.text : Fault → String
  | .spi cause => "Spi(" ++ cause ++ ")"
  | .pin cause => "Pin(" ++ cause ++ ")"

def Fault.message : Fault → String
  | .spi cause => "SPI transaction failed: " ++ cause
  | .pin cause => "reset pin error: " ++ cause

/-- Why an operation did not come to its end. -/
inductive Halt (τ : Type)
  | fault (fault : Fault)
  | abandoned (reason : τ)

/-- A driver with its bus. -/
structure Driver (σ : Type) where
  bus : σ
  modeTimeouts : UInt16
  sendTimeouts : UInt16
  /-- What there was to tell in the current operation, newest first. -/
  journal : List Note

abbrev Run (σ τ : Type) := EStateM (Halt τ) (Driver σ)

variable {σ τ : Type}

/-- A driver that has not done anything yet. -/
def Driver.fresh (bus : σ) : Driver σ := ⟨bus, 0, 0, []⟩

/-- Use the bus; what fails ends the operation. -/
def use (cause : String → Fault) {α : Type} (access : σ → Except String α × σ) :
    Run σ τ α := fun driver =>
  let (result, bus) := access driver.bus
  match result with
  | .ok answer => .ok answer { driver with bus }
  | .error name => .error (.fault (cause name)) { driver with bus }

/-- Write a register in one piece with its address. -/
def write (b : Bus σ τ) (register : Register) (bytes : List UInt8) : Run σ τ Unit :=
  use .spi (b.write [register.writeByte :: bytes])

/-- Write a register of any length, apart from its address. -/
def writeApart (b : Bus σ τ) (register : Register) (bytes : List UInt8) : Run σ τ Unit :=
  use .spi (b.write [[register.writeByte], bytes])

/-- Read so many bytes of a register. -/
def read (b : Bus σ τ) (register : Register) (count : Nat) : Run σ τ (Vector UInt8 count) :=
  use .spi (b.read register.readByte count)

def readWord (b : Bus σ τ) (register : Register) : Run σ τ UInt16 := do
  let bytes ← read b register 2
  return wordOf bytes[0] bytes[1]

def readByte (b : Bus σ τ) (register : Register) : Run σ τ UInt8 := do
  let bytes ← read b register 1
  return bytes[0]

def drive (b : Bus σ τ) (level : Bool) : Run σ τ Unit :=
  use .pin (b.drive level)

/-- Let about so many microseconds pass. -/
def pause (b : Bus σ τ) (micros : Nat) : Run σ τ Unit := fun driver =>
  match b.pause micros driver.bus with
  | .ok () bus => .ok () { driver with bus }
  | .error reason bus => .error (.abandoned reason) { driver with bus }

def flags (b : Bus σ τ) : Run σ τ StatusFlags := do
  let bytes ← read b .flags 2
  return ⟨bytes[0], bytes[1]⟩

end Chip

end ShutterRadio
