/-
# The simulated board

One board carries everything that a station can be tried on: a clock with
settings for how inexact it is, a radio that records what it is asked, a bus
with the register file of a radio chip, a reset line and an indicator light.
Whatever happens is put on one list of events, and everything can be made to
fail.

The board has no real time, so whoever waits for something that never comes
would wait forever.  It therefore counts pauses and can be made to refuse them
beyond a limit; the operation is then stuck.  What is tried out on it is given a
limit that no sensible operation needs (`patience`).  Without a limit every
pause comes to its end.
-/

import ShutterRadio.Bench.Event
import ShutterRadio.Time.Timebase
import ShutterRadio.Frame.Basic

namespace ShutterRadio.Bench

/-- The reason to abandon an operation: it has paused too often. -/
inductive Stuck
  | stuck
  deriving DecidableEq, Repr

/-- The number of pauses after which an operation that is tried out is stuck. -/
def patience : Nat := 200000

def registerCount : Nat := 128

/-- The simulated board.  Durations are in microseconds, and what is to fail is given by
numbers or by names. -/
structure Board where
  now : Instant
  readCost : Nat
  /-- How long a pause takes, in percent of what was asked for. -/
  delayPercent : Nat
  delayExtra : Nat
  /-- How long packets are on air; the last entry is for all that follow. -/
  airtimes : List Nat
  notify : Bool
  version : UInt8
  failingCalls : List Nat
  failingNames : List String
  calls : Nat
  frequency : Frequency
  symbolWidth : UInt16
  inbox : List Frame
  busCost : Nat
  failingTransfers : List Nat
  transfers : Nat
  failingResets : List Nat
  resets : Nat
  registers : Vector UInt8 registerCount
  packet : List UInt8
  status : List (StatusFlags × Nat)
  flags : StatusFlags
  lightFails : Bool
  pauses : Nat
  paused : Nat
  /-- What has happened since somebody looked, newest first. -/
  events : List Event

namespace Board

def blank : Board where
  now := .origin
  readCost := 0
  delayPercent := 100
  delayExtra := 0
  airtimes := [0]
  notify := false
  version := 36
  failingCalls := []
  failingNames := []
  calls := 0
  frequency := ⟨0⟩
  symbolWidth := 0
  inbox := []
  busCost := 0
  failingTransfers := []
  transfers := 0
  failingResets := []
  resets := 0
  registers := .replicate registerCount 0
  packet := []
  status := []
  flags := ⟨0x80, 0x08⟩
  lightFails := false
  pauses := 0
  paused := 0
  events := []

def log (board : Board) (event : Event) : Board :=
  { board with events := event :: board.events }

def advance (board : Board) (micros : Nat) : Board :=
  { board with now := board.now.later micros }

def read (board : Board) : Instant × Board := (board.now, board.advance board.readCost)

/-- How long a pause takes that was asked to be of a length. -/
def lapse (board : Board) (micros : Nat) : Nat :=
  max 1 (micros * board.delayPercent / 100) + board.delayExtra

/-- Let time pass, unless there is a limit and there have been as many pauses
already. -/
def pause (limit : Option Nat) (micros : Nat) (board : Board) : EStateM.Result Stuck Board Unit :=
  if limit.all (board.pauses < ·) then
    .ok () (({ board with
      pauses := board.pauses + 1
      paused := board.paused + micros }.log (.pause micros)).advance (board.lapse micros))
  else .error .stuck board

def timebase (limit : Option Nat) : Timebase Board Stuck where
  time := Board.now
  read := Board.read
  pause := Board.pause limit
  time_le_read _ := Nat.le_refl _
  read_le_time board := board.now.le_later _
  time_lt_pause micros before after paused := by
    unfold pause at paused
    split at paused
    · injection paused with _ same
      subst same
      have positive : 0 < before.lapse micros := by
        unfold lapse
        omega
      exact before.now.lt_later positive
    · contradiction

/-- Write the pin of the indicator light.  The board only puts it on record. -/
def indicate (level : Bool) (board : Board) : Board :=
  board.log (.light board.lightFails level board.now)

/-- Begin another operation: its pauses are counted from the start. -/
def restart (board : Board) : Board := { board with pauses := 0, paused := 0 }

/-- Look at what has happened; it is not shown again. -/
def clear (board : Board) : Board := { board with events := [] }

/-- Let a radio receive a frame: it is in the inbox of the recording radio and
among the packet bytes of the chip. -/
def hear (board : Board) (frame : Frame) : Board :=
  { board with inbox := board.inbox ++ [frame], packet := board.packet ++ frame.bytes }

/-- Store bytes at consecutive registers, going round at the end. -/
def poke (board : Board) (address : Nat) : List UInt8 → Board
  | [] => board
  | byte :: rest =>
      poke { board with
        registers := board.registers.set (address % registerCount) byte
          (Nat.mod_lt _ (by decide)) } (address + 1) rest

end Board

end ShutterRadio.Bench
