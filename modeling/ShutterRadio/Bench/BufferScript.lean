/-
# Scripts for a receive buffer

A script records presses in a receive buffer and takes receptions out of it, at
times of its own choosing, and sees the whole buffer after each operation.
-/

import ShutterRadio.Reception

namespace ShutterRadio.Bench.BufferScript

/-- One operation of a script. -/
inductive Op
  -- Record a press so many times, first at one moment and then at even
  -- intervals, both in microseconds.
  | record (command : Command) (first times interval : Nat)
  | take (moment : Instant)
  deriving DecidableEq

/-- How often recording had each outcome. -/
structure Placements where
  appended : Nat
  repeated : Nat
  dropped : Nat
  deriving DecidableEq, Repr

def Placements.add (placements : Placements) : Placement → Placements
  | .appended => { placements with appended := placements.appended + 1 }
  | .repeated => { placements with repeated := placements.repeated + 1 }
  | .dropped => { placements with dropped := placements.dropped + 1 }

/-- What an operation answers. -/
inductive Answer
  | recorded (placements : Placements)
  | taken (reception : Option Reception)
  deriving DecidableEq

/-- An answer, and the buffer afterwards. -/
structure Report where
  answer : Answer
  buffer : ReceiveBuffer

/-- Record a press again and again, counting the outcomes; `number` says how
often it has been recorded before. -/
def recordAll (command : Command) (first interval : Nat) :
    (times number : Nat) → Placements × ReceiveBuffer → Placements × ReceiveBuffer
  | 0, _, state => state
  | times + 1, number, (placements, buffer) =>
      let (placement, buffer) :=
        buffer.record command (.ofMicros (first + number * interval))
      recordAll command first interval times (number + 1) (placements.add placement, buffer)

def perform (buffer : ReceiveBuffer) : Op → Report
  | .record command first times interval =>
      let (placements, buffer) :=
        recordAll command first interval times 0 (⟨0, 0, 0⟩, buffer)
      ⟨.recorded placements, buffer⟩
  | .take moment =>
      match buffer.takeSettled? moment with
      | some (reception, buffer) => ⟨.taken (some reception), buffer⟩
      | none => ⟨.taken none, buffer⟩

def run (buffer : ReceiveBuffer) : List Op → List Report
  | [] => []
  | op :: rest =>
      let report := perform buffer op
      report :: run report.buffer rest

end ShutterRadio.Bench.BufferScript
