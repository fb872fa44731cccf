/-
# Scripts for the radio chip's driver

A script makes calls of a driver that is attached to the board's register file,
including those that only this chip has, and sees what happened on the bus.
-/

import ShutterRadio.Bench.RegisterFile
import ShutterRadio.Bench.Settings

namespace ShutterRadio.Bench.ChipScript

/-- One operation of a script. -/
inductive Op
  | adjust (settings : Settings)
  | call (asked : Call)
  | symbolWidth
  | setBitRate (rate : UInt32)
  | payloadReady

/-- What an operation answers. -/
inductive Answer
  | done
  | number (value : Nat)
  | flag (value : Bool)
  | frequency (value : Frequency)
  | bytes (value : List UInt8)
  | failed (fault : Chip.Fault)
  deriving DecidableEq

/-- A call's answer as an answer of a script. -/
def Answer.ofReply : (asked : Call) → asked.Reply → Answer
  | .frequency, value => frequency value
  | .bitRate, value => number value.toNat
  | .version, value => number value.toNat
  | .receive _, value => bytes value.toList
  | .reset, () | .configure, () | .setFrequency _, () | .setSymbolWidth _, ()
  | .setSync _, () | .setFormat _ _, () | .transmit _, () | .listen, () | .standby, () => done

/-- What is seen of an operation. -/
structure Report where
  answer : Answer
  events : List String
  now : Instant
  modeTimeouts : UInt16
  sendTimeouts : UInt16
  notes : List Note

abbrev Driver := Chip.Driver Board

/-- Carry out an operation of the driver; nothing if it got stuck. -/
def operate {α : Type} (driver : Driver) (operation : Chip.Run Board Stuck α)
    (answer : α → Answer) : Option (Answer × List Note × Driver) :=
  let outcome := Chip.perform operation driver
  match outcome.ending with
  | .answered result => some (answer result, outcome.notes, outcome.device)
  | .failed fault => some (.failed fault, outcome.notes, outcome.device)
  | .abandoned _ => none

/-- Carry out one operation; nothing if it got stuck. -/
def perform (driver : Driver) : Op → Option (Answer × List Note × Driver)
  | .adjust settings =>
      some (.done, [], { driver with bus := driver.bus.adjust settings })
  | .call asked => operate driver (Chip.answer chipBus asked) (.ofReply asked)
  | .symbolWidth => operate driver (Chip.symbolWidth chipBus) fun width => .number width.toNat
  | .setBitRate rate => operate driver (Chip.setBitRate chipBus rate) fun () => .done
  | .payloadReady => operate driver (Chip.isPayloadReady chipBus) .flag

/-- Carry out one operation with its own count of pauses, and look. -/
def turn (driver : Driver) (op : Op) : Option (Report × Driver) := do
  let (answer, notes, driver) ← perform { driver with bus := driver.bus.restart } op
  let report :=
    { answer
      events := Event.lines .chip driver.bus.events
      now := driver.bus.now
      modeTimeouts := driver.modeTimeouts
      sendTimeouts := driver.sendTimeouts
      notes : Report }
  return (report, { driver with bus := driver.bus.clear })

/-- Carry out all operations; nothing if one of them got stuck. -/
def runFrom (driver : Driver) : List Op → Option (List Report)
  | [] => some []
  | op :: rest => do
      let (report, driver) ← turn driver op
      let reports ← runFrom driver rest
      return report :: reports

/-- Attach a driver to a board and carry out a script.  Answers what was seen of
the attaching, and of each operation; nothing if one of them got stuck. -/
def run (board : Board) (ops : List Op) : Option (List String × List Report) := do
  let driver := Chip.Driver.attach chipBus board
  let reports ← runFrom { driver with bus := driver.bus.clear } ops
  return (Event.lines .chip driver.bus.events, reports)

end ShutterRadio.Bench.ChipScript
