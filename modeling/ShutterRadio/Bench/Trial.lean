/-
# Trials of single operations

Waiting for a deadline and sending one burst, each on a board of its own.
-/

import ShutterRadio.Bench.Recorder
import ShutterRadio.Station.Burst

namespace ShutterRadio.Bench

/-- What is seen of a wait. -/
structure WaitReport where
  now : Instant
  /-- The pauses asked for: runs of equal lengths with their counts, in order. -/
  slices : List (Nat × Nat)
  deriving DecidableEq

/-- Wait for a deadline; nothing is seen if that got stuck. -/
def tryWait (board : Board) (deadline : Instant) : Option WaitReport :=
  match (Board.timebase (some patience)).wait deadline board with
  | .ok () after => some ⟨after.now, Event.pauseRuns after.events⟩
  | .error .stuck _ => none

/-- What is seen of a burst. -/
structure BurstReport where
  fault : Option RadioFault
  events : List String
  now : Instant
  pauses : Nat
  paused : Nat
  deriving DecidableEq

/-- Send a burst with the recording radio; nothing is seen if that got stuck. -/
def tryBurst (board : Board) (frame : Frame) (repeats : UInt16) : Option BurstReport :=
  match Station.burst recorder frame repeats (.fresh .standard none board) with
  | .error .stuck _ => none
  | .ok ending station =>
      let after := station.device
      let fault := match ending with
        | .ok () => none
        | .error fault => some fault
      some ⟨fault, Event.lines .burst after.events, after.now, after.pauses, after.paused⟩

/-- What is seen of the ideal timebase. -/
structure TimebaseReport where
  monotonic : Bool
  reached : Bool
  deriving DecidableEq, Repr

/-- Read the ideal timebase twice, and wait on it for so many microseconds. -/
def tryTimebase (start : Instant) (micros : Nat) : TimebaseReport :=
  let (first, later) := Timebase.ideal.read start
  let (second, later) := Timebase.ideal.read later
  let deadline := second.later micros
  match Timebase.ideal.wait deadline later with
  | .ok () finish => ⟨first ≤ second, deadline ≤ (Timebase.ideal.read finish).1⟩

end ShutterRadio.Bench
