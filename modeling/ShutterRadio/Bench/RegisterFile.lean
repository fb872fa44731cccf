/-
# The register file of a radio chip

The board's side of the bus.  A transaction sends an address and then bytes for
consecutive registers, or reads from there on.  Address zero is the queue of
packet bytes: what is written to it is gone, and what is read from it was
received earlier.  Reading the status flags uses up one of the answers that the
board has in store; with none left the flags stay as they were.

A transaction that fails takes its time and is counted, and changes nothing
else.
-/

import ShutterRadio.Bench.Board
import ShutterRadio.Chip.Driver

namespace ShutterRadio.Bench

namespace Board

/-- Begin a transaction: it takes its time and is counted.  Says whether it is
to fail. -/
def beginTransfer (board : Board) : Bool × Board :=
  (board.failingTransfers.contains board.transfers,
    { board with transfers := board.transfers + 1 }.advance board.busCost)

/-- The address that an address byte means. -/
def addressOf (byte : UInt8) : Nat := byte.toNat % registerCount

/-- What a failed transaction on the bus is called. -/
def busFaultName : String := "Bus"

/-- What a failed write of the reset line is called. -/
def lineFaultName : String := "Stuck"

/-- Take in what was written after an address byte. -/
def store (board : Board) : List UInt8 → Board
  | [] => board
  | first :: rest =>
      if addressOf first = 0 then board else board.poke (addressOf first) rest

def writeTransfer (parts : List (List UInt8)) (board : Board) : Except String Unit × Board :=
  let (failed, board) := board.beginTransfer
  let board := board.log (.transfer failed (parts.map .written))
  if failed then (.error busFaultName, board)
  else (.ok (), board.store parts.flatten)

/-- Take one answer of the status flags out of the store. -/
def takeStatus (board : Board) : Board :=
  match board.status with
  | [] => board
  | (flags, count) :: rest =>
      { board with
        flags
        status := if count ≤ 1 then rest else (flags, count - 1) :: rest }

def flagsAddress : Nat := 0x27

/-- Let the status flags show what they are to show next. -/
def refreshFlags (board : Board) : Board :=
  let board := board.takeStatus
  board.poke flagsAddress [board.flags.first, board.flags.second]

/-- Read so many bytes from an address on. -/
def load (board : Board) (address count : Nat) : Vector UInt8 count × Board :=
  if address = 0 then
    (.ofFn fun place => board.packet.getD place 0,
      { board with packet := board.packet.drop count })
  else
    let board := if address = flagsAddress then board.refreshFlags else board
    (.ofFn fun place =>
      board.registers.get ⟨(address + place) % registerCount, Nat.mod_lt _ (by decide)⟩, board)

def readTransfer (address : UInt8) (count : Nat) (board : Board) :
    Except String (Vector UInt8 count) × Board :=
  let (failed, board) := board.beginTransfer
  if failed then
    (.error busFaultName,
      board.log (.transfer true [.written [address], .unread count]))
  else
    let (bytes, board) := board.load (addressOf address) count
    (.ok bytes, board.log (.transfer false [.written [address], .read bytes.toList]))

def drive (level : Bool) (board : Board) : Except String Unit × Board :=
  let failed := board.failingResets.contains board.resets
  let board := { board with resets := board.resets + 1 }.log (.reset failed level)
  (if failed then .error lineFaultName else .ok (), board)

end Board

/-- The board's bus to the radio chip, with a limit to its pauses or without. -/
def registerBus (limit : Option Nat) : Bus Board Stuck where
  write := Board.writeTransfer
  read := Board.readTransfer
  drive := Board.drive
  pause := Board.pause limit

/-- The board with the radio chip, as a station's hardware. -/
def registerDevice (limit : Option Nat) : Device (Chip.Driver Board) Chip.Fault Stuck :=
  Chip.device (registerBus limit) (Board.timebase limit) Board.indicate

/-- The bus on which operations are tried out. -/
abbrev chipBus : Bus Board Stuck := registerBus (some patience)

abbrev chipDevice : Device (Chip.Driver Board) Chip.Fault Stuck := registerDevice (some patience)

end ShutterRadio.Bench
