/-
# Frames that find no room

A full receive buffer still takes copies of its newest record, but drops a frame of any
other press.  The copies of that frame are dropped as well, one by one: only records are
compared with what comes in, and a press that was dropped has none.

So what a station counts as lost are frames, not presses.  Remotes send every press
several times, and `Station.attend_overflow` says that a press that finds no room is
counted as often as it is sent; it is counted once only if a single frame of it is heard.
All else that was counted stays, and so does all that is buffered.
-/

import ShutterRadio.Proofs.Loopback

namespace ShutterRadio

namespace Station

variable {σ ε τ : Type} {d : Device σ ε τ} {present : List UInt8 → Instant → σ → σ}
  {station : Station σ} {frame : Frame} {command : Command}

/-- A frame that finds no room is counted as lost, and leaves the buffer as it was. -/
theorem hear_full (patient : d.Patient) (receives : d.Receives present)
    (running : station.queue.activity ≠ .shutDown)
    (full : station.queue.received.sightings.size = receiveCapacity)
    (carries : frame.decode = .ok command)
    (other : station.queue.received.continues command = false) (moment : Instant) :
    ∃ after, hear d present frame.bytes moment station = .ok .goesOn after ∧
      after.queue.activity = station.queue.activity ∧
      after.queue.received = station.queue.received ∧
      after.tally = station.tally.bump .lost := by
  obtain ⟨after, heard, activity, received, tally⟩ :=
    hear_eq patient receives running carries moment
  rw [ReceiveBuffer.record_of_full moment other full] at received tally
  exact ⟨after, heard, activity, received, tally⟩

/-- So many frames are counted as lost, whenever they come. -/
theorem attend_full (patient : d.Patient) (receives : d.Receives present)
    (running : station.queue.activity ≠ .shutDown)
    (full : station.queue.received.sightings.size = receiveCapacity)
    (carries : frame.decode = .ok command)
    (other : station.queue.received.continues command = false) (moments : List Instant) :
    ∃ after, attend d present (moments.map (.arrival frame.bytes)) station = .ok [] after ∧
      after.queue.received = station.queue.received ∧
      after.tally = { station.tally with
        lost := station.tally.lost + UInt32.ofNat moments.length } := by
  induction moments generalizing station with
  | nil => exact ⟨station, rfl, rfl, by simp⟩
  | cons moment moments ih =>
      obtain ⟨between, heard, activity, received, tally⟩ :=
        hear_full patient receives running full carries other moment
      obtain ⟨after, attended, buffered, counted⟩ :=
        ih (activity ▸ running) (received ▸ full) (received ▸ other)
      refine ⟨after, ?_, buffered.trans received, ?_⟩
      · rw [List.map_cons, attend_arrival heard, attended]
      · rw [counted, tally, List.length_cons, UInt32.ofNat_add, UInt32.add_comm (.ofNat _),
          ← UInt32.add_assoc]
        rfl

/-- A press that finds no room is counted as often as a frame of it is heard.  All that
is buffered stays as it is, with the counts it has, and so does everything else that was
counted.  Only if one frame is heard, up to the size of a word, is the press counted once. -/
theorem attend_overflow (patient : d.Patient) (receives : d.Receives present)
    (running : station.queue.activity ≠ .shutDown)
    (full : station.queue.received.sightings.size = receiveCapacity)
    (carries : frame.decode = .ok command)
    (other : station.queue.received.continues command = false) (moments : List Instant) :
    ∃ after, attend d present (moments.map (.arrival frame.bytes)) station = .ok [] after ∧
      after.queue.received = station.queue.received ∧
      after.tally = { station.tally with
        lost := station.tally.lost + UInt32.ofNat moments.length } ∧
      (after.tally.lost = station.tally.lost + 1 ↔ moments.length % 2 ^ 32 = 1) := by
  obtain ⟨after, attended, buffered, counted⟩ :=
    attend_full patient receives running full carries other moments
  refine ⟨after, attended, buffered, counted, ?_⟩
  rw [counted, UInt32.add_right_inj, ← UInt32.toNat_inj, UInt32.toNat_ofNat']
  rfl

end Station

namespace Ideal

/-- Presses that fill a receive buffer, with consecutive codes. -/
def crowd : Bounded Sighting receiveCapacity :=
  ⟨(List.range receiveCapacity).map fun number =>
    ⟨⟨⟨0x27962a, UInt16.ofNat number, .up⟩, 0⟩, .origin⟩, by simp⟩

/-- A station that has them all waiting. -/
def crowded : Station Ideal :=
  { receiver with queue := { Queue.empty with received := ⟨crowd, debounceWindow⟩ } }

/-- The moments at which the frames of one press arrive. -/
def salvo : List Instant :=
  [29000, 144000, 283000, 422000].map .ofMicros

/-- One press that finds no room, sent as remotes send it, is counted four times. -/
theorem attend_overflow_salvo :
    Device.ideal.Patient ∧ Device.ideal.Receives present ∧
    crowded.queue.activity ≠ .shutDown ∧
    crowded.queue.received.sightings.size = receiveCapacity ∧
    (Frame.encode Frame.standardKey press.command).decode = .ok press.command ∧
    crowded.queue.received.continues press.command = false ∧
    ∃ after, Station.attend Device.ideal present
        (salvo.map (.arrival (Frame.encode Frame.standardKey press.command).bytes)) crowded =
          .ok [] after ∧
      after.queue.received = crowded.queue.received ∧ after.tally = ⟨0, 0, 0, 0, 4⟩ := by
  have running : crowded.queue.activity ≠ .shutDown := by decide
  have full : crowded.queue.received.sightings.size = receiveCapacity := by decide
  have carries : (Frame.encode Frame.standardKey press.command).decode = .ok press.command := by
    decide
  have other : crowded.queue.received.continues press.command = false := by decide
  obtain ⟨after, attended, buffered, counted, -⟩ := Station.attend_overflow Device.patient_ideal
    receives_present running full carries other salvo
  exact ⟨Device.patient_ideal, receives_present, running, full, carries, other, after, attended,
    buffered, counted⟩

end Ideal

end ShutterRadio
