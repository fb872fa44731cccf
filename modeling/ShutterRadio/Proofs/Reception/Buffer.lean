/-
# What the receive buffer does with a frame and with a reader

A frame of the newest record's press becomes a copy of that record, and any
other starts a record of its own if there is room.  A reader gets the oldest
record, once the window has passed since its latest copy.  Each of these is said
here of the list of records alone, so that nobody has to open the buffer.
-/

import ShutterRadio.Reception

namespace ShutterRadio

/-- The usual window does not pass between two moments. -/
def Instant.Close (earlier next : Instant) : Prop :=
  next.micros < earlier.micros + debounceWindow

namespace ReceiveBuffer

variable {buffer : ReceiveBuffer} {command : Command} {now : Instant}

/-- A frame of the newest record's press becomes a copy. -/
theorem record_of_newest (now : Instant) (older : List Sighting) {newest : Sighting}
    (sightings : buffer.sightings.toList = older ++ [newest])
    (same : newest.reception.command = command) :
    (buffer.record command now).1 = .repeated ∧
      (buffer.record command now).2.sightings.toList =
        older ++ [⟨newest.reception.again, now⟩] ∧
      (buffer.record command now).2.debounce = buffer.debounce := by
  have continues : buffer.continues command = true := by
    simp [ReceiveBuffer.continues, sightings, same]
  simp only [record, continues, if_true, true_and, and_true]
  exact Bounded.toList_modifyLast sightings _

/-- A frame of any other press starts a record of its own, if there is room. -/
theorem record_of_other (now : Instant) (other : buffer.continues command = false)
    (room : buffer.sightings.size < receiveCapacity) :
    (buffer.record command now).1 = .appended ∧
      (buffer.record command now).2.sightings.toList =
        buffer.sightings.toList ++ [⟨⟨command, 0⟩, now⟩] ∧
      (buffer.record command now).2.debounce = buffer.debounce := by
  cases pushed : buffer.sightings.push? ⟨⟨command, 0⟩, now⟩ with
  | none => exact absurd (Bounded.push?_eq_none_iff.mp pushed) (Nat.ne_of_lt room)
  | some sightings =>
      simp only [record, other, pushed, Bool.false_eq_true, if_false, true_and, and_true]
      exact (Bounded.push?_eq_some_iff.mp pushed).2

/-- A frame of any other press is dropped if there is no room, and nothing changes. -/
theorem record_of_full (now : Instant) (other : buffer.continues command = false)
    (full : buffer.sightings.size = receiveCapacity) :
    buffer.record command now = (.dropped, buffer) := by
  rw [record, other, Bounded.push?_eq_none_iff.mpr full]
  rfl

/-- All that can become of a frame: it is a copy of the newest record, or starts one
behind all others, or finds no room and changes nothing. -/
theorem record_cases (buffer : ReceiveBuffer) (command : Command) (now : Instant) :
    (∃ older newest after, buffer.sightings.toList = older ++ [newest] ∧
        newest.reception.command = command ∧ buffer.record command now = (.repeated, after) ∧
        after.sightings.toList = older ++ [⟨newest.reception.again, now⟩]) ∨
      (∃ after, buffer.continues command = false ∧
        buffer.record command now = (.appended, after) ∧
        after.sightings.toList = buffer.sightings.toList ++ [⟨⟨command, 0⟩, now⟩]) ∨
      (buffer.continues command = false ∧ buffer.sightings.size = receiveCapacity ∧
        buffer.record command now = (.dropped, buffer)) := by
  cases continues : buffer.continues command with
  | true =>
      rcases List.eq_nil_or_concat buffer.sightings.toList with none | ⟨older, newest, sightings⟩
      · simp [ReceiveBuffer.continues, none] at continues
      · rw [List.concat_eq_append] at sightings
        have same : newest.reception.command = command := by
          simpa [ReceiveBuffer.continues, sightings] using continues
        obtain ⟨placed, after, -⟩ := record_of_newest now older sightings same
        exact .inl ⟨older, newest, _, sightings, same, Prod.ext placed rfl, after⟩
  | false =>
      by_cases room : buffer.sightings.size < receiveCapacity
      · obtain ⟨placed, after, -⟩ := record_of_other now continues room
        exact .inr (.inl ⟨_, rfl, Prod.ext placed rfl, after⟩)
      · have full : buffer.sightings.size = receiveCapacity :=
          Nat.le_antisymm buffer.sightings.length_le (Nat.le_of_not_lt room)
        exact .inr (.inr ⟨rfl, full, record_of_full now continues full⟩)

/-- No frame changes the window. -/
theorem debounce_record (buffer : ReceiveBuffer) (command : Command) (now : Instant) :
    (buffer.record command now).2.debounce = buffer.debounce := by
  unfold record
  split
  · rfl
  · split <;> rfl

/-- A reader of an empty buffer gets nothing. -/
theorem takeSettled?_of_nil (sightings : buffer.sightings.toList = []) :
    buffer.takeSettled? now = none := by
  rw [takeSettled?, Bounded.pop?_eq_none_iff.mpr sightings]

/-- A reader who comes within the window gets nothing. -/
theorem takeSettled?_of_early {oldest : Sighting} {others : List Sighting}
    (sightings : buffer.sightings.toList = oldest :: others)
    (early : now.since oldest.lastSeen < buffer.debounce) :
    buffer.takeSettled? now = none := by
  unfold takeSettled?
  split
  · rfl
  · rename_i first rest popped
    rw [Bounded.pop?_eq_some_iff.mp popped, List.cons.injEq] at sightings
    rw [sightings.1, if_pos early]

/-- A reader who comes later gets the oldest record. -/
theorem takeSettled?_of_settled {oldest : Sighting} {others : List Sighting}
    (sightings : buffer.sightings.toList = oldest :: others)
    (settled : buffer.debounce ≤ now.since oldest.lastSeen) :
    ∃ rest, buffer.takeSettled? now = some (oldest.reception, rest) ∧
      rest.sightings.toList = others ∧ rest.debounce = buffer.debounce := by
  unfold takeSettled?
  split
  · rename_i popped
    rw [Bounded.pop?_eq_none_iff.mp popped] at sightings
    cases sightings
  · rename_i first rest popped
    rw [Bounded.pop?_eq_some_iff.mp popped, List.cons.injEq] at sightings
    obtain ⟨rfl, remaining⟩ := sightings
    rw [if_neg (Nat.not_lt.mpr settled)]
    exact ⟨_, rfl, remaining, rfl⟩

/-- What a reader gets was the oldest record, and had settled. -/
theorem takeSettled?_eq_some {reception : Reception} {rest : ReceiveBuffer}
    (taken : buffer.takeSettled? now = some (reception, rest)) :
    ∃ oldest, buffer.sightings.toList = oldest :: rest.sightings.toList ∧
      oldest.reception = reception ∧ buffer.debounce ≤ now.since oldest.lastSeen ∧
      rest.debounce = buffer.debounce := by
  unfold takeSettled? at taken
  split at taken
  · cases taken
  · rename_i oldest sightings popped
    split at taken
    · cases taken
    · rename_i settled
      injection taken with taken
      injection taken with same after
      subst after
      exact ⟨oldest, Bounded.pop?_eq_some_iff.mp popped, same, Nat.le_of_not_lt settled, rfl⟩

end ReceiveBuffer

end ShutterRadio
