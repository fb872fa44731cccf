/-
# Settings of the board

What can be turned on the simulated board, by whoever tries something out on it.
Settings change what they name and leave the rest as it is, the counts of what
has happened so far included.
-/

import ShutterRadio.Bench.Board

namespace ShutterRadio.Bench

/-- Settings to change on a board; what is not given stays as it is. -/
structure Settings where
  now : Option Nat
  readCost : Option Nat
  delayPercent : Option Nat
  delayExtra : Option Nat
  airtimes : Option (List Nat)
  notify : Option Bool
  version : Option UInt8
  failingCalls : Option (List Nat)
  failingNames : Option (List String)
  busCost : Option Nat
  failingTransfers : Option (List Nat)
  failingResets : Option (List Nat)
  lightFails : Option Bool
  /-- Runs of bytes to store in registers, each from its address on. -/
  registers : List (Nat × List UInt8)
  packet : Option (List UInt8)
  status : Option (List (StatusFlags × Nat))

def Board.adjust (board : Board) (settings : Settings) : Board :=
  let stored := settings.registers.foldl (fun board run => board.poke run.1 run.2) board
  { stored with
    now := (settings.now.map Instant.ofMicros).getD board.now
    readCost := settings.readCost.getD board.readCost
    delayPercent := settings.delayPercent.getD board.delayPercent
    delayExtra := settings.delayExtra.getD board.delayExtra
    airtimes := settings.airtimes.getD board.airtimes
    notify := settings.notify.getD board.notify
    version := settings.version.getD board.version
    failingCalls := settings.failingCalls.getD board.failingCalls
    failingNames := settings.failingNames.getD board.failingNames
    busCost := settings.busCost.getD board.busCost
    failingTransfers := settings.failingTransfers.getD board.failingTransfers
    failingResets := settings.failingResets.getD board.failingResets
    lightFails := settings.lightFails.getD board.lightFails
    packet := settings.packet.getD board.packet
    status := settings.status.getD board.status }

end ShutterRadio.Bench
