/-
# Receptions

A remote sends the frame of one press several times over, and as long as a
button is held.  The receive buffer folds those copies into one reception,
which counts the copies after the first, and hands it out only when no copy has
arrived for the length of the debounce window, so that no reader sees a count
that is still growing.

Only the newest record takes copies.  A frame of any other press starts a
record of its own, or is dropped if there is no room; the records already there
may still be waiting for copies, so none of them is ever displaced.
-/

import ShutterRadio.Bounded
import ShutterRadio.Frame.Codec
import ShutterRadio.Time.Instant

namespace ShutterRadio

/-- One press heard from a remote. -/
structure Reception where
  command : Command
  repeats : UInt16
  deriving DecidableEq, Repr, Inhabited

/-- One copy more; a count that can grow no further stays. -/
def Reception.again (reception : Reception) : Reception :=
  { reception with
    repeats := if reception.repeats = 0xffff then 0xffff else reception.repeats + 1 }

/-- A reception that may still be waiting for copies. -/
structure Sighting where
  reception : Reception
  lastSeen : Instant
  deriving DecidableEq

/-- What became of a frame that was handed to the buffer. -/
inductive Placement
  | appended
  | repeated
  -- It was a new press and there was no room.
  | dropped
  deriving DecidableEq, Repr

/-- How many receptions wait to be read at most. -/
def receiveCapacity : Nat := 8

/-- How long no copy must have arrived before a reception is handed out, in
microseconds, unless the buffer is made with another window. -/
def debounceWindow : Nat := 250000

/-- Receptions waiting to be read. -/
structure ReceiveBuffer where
  /-- The records, oldest first. -/
  sightings : Bounded Sighting receiveCapacity
  /-- How long a record must have seen no copy, in microseconds. -/
  debounce : Nat
  deriving DecidableEq

namespace ReceiveBuffer

/-- A buffer with no records and a window of its own. -/
def withDebounce (debounce : Nat) : ReceiveBuffer := ⟨.empty, debounce⟩

/-- A buffer with no records and the usual window. -/
def empty : ReceiveBuffer := withDebounce debounceWindow

def size (buffer : ReceiveBuffer) : Nat := buffer.sightings.size

/-- The waiting receptions, oldest first, with the counts they have so far. -/
def receptions (buffer : ReceiveBuffer) : List Reception :=
  buffer.sightings.toList.map Sighting.reception

/-- Whether the newest record is of the very press that a command is of. -/
def continues (buffer : ReceiveBuffer) (command : Command) : Bool :=
  buffer.sightings.toList.getLast?.any (·.reception.command == command)

/-- Take in a frame's command, received at `now`. -/
def record (buffer : ReceiveBuffer) (command : Command) (now : Instant) :
    Placement × ReceiveBuffer :=
  if buffer.continues command then
    (.repeated, { buffer with
      sightings := buffer.sightings.modifyLast fun newest =>
        ⟨newest.reception.again, now⟩ })
  else
    match buffer.sightings.push? ⟨⟨command, 0⟩, now⟩ with
    | some sightings => (.appended, { buffer with sightings })
    | none => (.dropped, buffer)

/-- Hand out the oldest reception, provided that it has settled by `now`. -/
def takeSettled? (buffer : ReceiveBuffer) (now : Instant) :
    Option (Reception × ReceiveBuffer) :=
  match buffer.sightings.pop? with
  | none => none
  | some (oldest, sightings) =>
      if now.since oldest.lastSeen < buffer.debounce then none
      else some (oldest.reception, { buffer with sightings })

end ReceiveBuffer

end ShutterRadio
