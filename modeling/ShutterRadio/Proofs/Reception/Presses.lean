/-
# The presses that were heard

Each frame that is handed to the receive buffer starts a press, is one more copy
of the latest press, or is dropped.  `Press.ofRecordings` tells from what became
of the frames which presses there were and how often each was repeated.

Readers may come at any moment in between.  What they were handed, followed by
what still waits, is all the same just these presses, in order: `Keeps.record`
says that a frame keeps this true and `Keeps.taken` that a reader does.  No bound
on the number of copies is needed for that, as the count that a reader is told
simply stops at the largest word.
-/

import Mathlib.Algebra.GroupWithZero.Nat
import Mathlib.Data.List.Induction
import ShutterRadio.Proofs.Reception.Buffer

namespace ShutterRadio

/-- A command that was handed to the receive buffer, and what became of it. -/
structure Recording where
  command : Command
  placement : Placement
  deriving DecidableEq

/-- A press that found a place in the receive buffer. -/
structure Press where
  command : Command
  copies : Nat
  deriving DecidableEq

/-- The command that started a press, if it did. -/
def Recording.started? (recording : Recording) : Option Command :=
  if recording.placement = .appended then some recording.command else none

theorem Recording.length_filterMap_started? (recordings : List Recording) :
    (recordings.filterMap started?).length = (recordings.map placement).count .appended := by
  induction recordings with
  | nil => rfl
  | cons first others ih =>
      by_cases found : first.placement = .appended <;> simp [started?, found, ih]

namespace Press

/-- One copy more. -/
def again (press : Press) : Press := { press with copies := press.copies + 1 }

/-- What a reader is told of a press: a count that can grow no further stays. -/
def reception (press : Press) : Reception :=
  ⟨press.command, UInt16.ofNat (min press.copies 0xffff)⟩

/-- The presses so far, in order, after one more recording.  A copy counts for the
latest press. -/
def record (presses : List Press) (recording : Recording) : List Press :=
  match recording.placement with
  | .appended => presses ++ [⟨recording.command, 0⟩]
  | .repeated => presses.modify (presses.length - 1) again
  | .dropped => presses

/-- The presses that recordings amount to, in order. -/
def ofRecordings (recordings : List Recording) : List Press := recordings.foldl record []

@[simp]
theorem ofRecordings_snoc (recordings : List Recording) (recording : Recording) :
    ofRecordings (recordings ++ [recording]) = record (ofRecordings recordings) recording :=
  List.foldl_append

/-- A copy changes the latest press and no other. -/
theorem record_repeated (earlier : List Press) (latest : Press) (command : Command) :
    record (earlier ++ [latest]) ⟨command, .repeated⟩ = earlier ++ [latest.again] := by
  simp [record, List.modify_eq_take_cons_drop]

/-- Every recording that found a place of its own started a press, and no other did. -/
theorem map_command_ofRecordings (recordings : List Recording) :
    (ofRecordings recordings).map command = recordings.filterMap Recording.started? := by
  induction recordings using List.reverseRecOn with
  | nil => rfl
  | append_singleton earlier last ih =>
      rw [ofRecordings_snoc, List.filterMap_append, ← ih]
      rcases last with ⟨command, placement⟩
      cases placement with
      | appended => simp [record, Recording.started?]
      | repeated =>
          rcases List.eq_nil_or_concat (ofRecordings earlier) with none | ⟨others, latest, split⟩
          · simp [record, none, Recording.started?]
          · rw [split, List.concat_eq_append, record_repeated]
            simp [again, Recording.started?]
      | dropped => simp [record, Recording.started?]

/-- A copy is counted once, if there is a press it can count for. -/
theorem sum_copies_record {presses : List Press} {recording : Recording}
    (latest : recording.placement = .repeated → presses ≠ []) :
    ((record presses recording).map copies).sum =
      (presses.map copies).sum + if recording.placement = .repeated then 1 else 0 := by
  rcases recording with ⟨command, placement⟩
  cases placement with
  | appended => simp [record]
  | repeated =>
      rcases List.eq_nil_or_concat presses with none | ⟨earlier, last, split⟩
      · exact absurd none (latest rfl)
      · rw [split, List.concat_eq_append, record_repeated]
        simp [again, Nat.add_assoc]
  | dropped => simp [record]

/-- A reader is told of one copy more, as long as the count can grow. -/
theorem reception_again (press : Press) : press.again.reception = press.reception.again := by
  unfold reception Reception.again again
  by_cases full : 0xffff ≤ press.copies
  · simp [Nat.min_eq_right full, Nat.min_eq_right (Nat.le_succ_of_le full)]
  · have below : press.copies < 0xffff := Nat.lt_of_not_le full
    have differs : UInt16.ofNat press.copies ≠ 0xffff := by
      intro same
      have := congrArg UInt16.toNat same
      simp only [UInt16.toNat_ofNat', UInt16.reduceToNat] at this
      omega
    simp [Nat.min_eq_left (Nat.le_of_lt below), Nat.min_eq_left (Nat.succ_le_of_lt below),
      differs, UInt16.ofNat_add]

/-- As far as words can count, readers are told the number of copies. -/
theorem repeats_reception {press : Press} (few : press.copies ≤ 0xffff) :
    press.reception.repeats.toNat = press.copies := by
  simp only [reception, Nat.min_eq_left few, UInt16.toNat_ofNat']
  omega

end Press

/-! ## Nothing is lost and nothing is added -/

/-- What readers were handed, and behind that what still waits, is what became of
these presses. -/
def ReceiveBuffer.Keeps (buffer : ReceiveBuffer) (delivered : List Reception)
    (presses : List Press) : Prop :=
  delivered ++ buffer.receptions = presses.map Press.reception

namespace ReceiveBuffer

variable {buffer : ReceiveBuffer} {delivered : List Reception} {presses : List Press}

theorem keeps_empty : empty.Keeps [] [] := rfl

/-- A frame is booked as what became of it. -/
theorem Keeps.record (keeps : buffer.Keeps delivered presses) (command : Command)
    (now : Instant) :
    (buffer.record command now).2.Keeps delivered
      (Press.record presses ⟨command, (buffer.record command now).1⟩) := by
  unfold Keeps at keeps ⊢
  rcases buffer.record_cases command now with
    ⟨older, newest, after, sightings, -, recorded, copied⟩ |
    ⟨after, -, recorded, started⟩ | ⟨-, -, recorded⟩
  · rw [receptions, sightings, List.map_append, ← List.append_assoc] at keeps
    -- The record that takes the copy is that of the latest press.
    obtain ⟨earlier, last, split, front, back⟩ := List.map_eq_append_iff.mp keeps.symm
    obtain ⟨latest, rfl, told⟩ := List.map_eq_singleton_iff.mp back
    rw [recorded, split, Press.record_repeated, receptions, copied, List.map_append,
      List.map_append, front, List.append_assoc]
    simp only [List.map_cons, List.map_nil, Press.reception_again, told]
  · rw [recorded, receptions, started, List.map_append, ← List.append_assoc]
    rw [receptions] at keeps
    simp only [Press.record, List.map_append, List.map_cons, List.map_nil, keeps]
    rfl
  · rw [recorded]
    exact keeps

/-- A frame is a copy only if there is a press it can be a copy of. -/
theorem Keeps.ne_nil (keeps : buffer.Keeps delivered presses) {command : Command} {now : Instant}
    (repeated : (buffer.record command now).1 = .repeated) : presses ≠ [] := by
  rintro rfl
  have nothing : buffer.receptions = [] := (List.append_eq_nil_iff.mp keeps).2
  have empty : buffer.sightings.toList = [] := List.map_eq_nil_iff.mp nothing
  have other : buffer.continues command = false := by simp [continues, empty]
  have room : buffer.sightings.size < receiveCapacity := by
    simp [Bounded.size, empty, receiveCapacity]
  rw [(record_of_other now other room).1] at repeated
  cases repeated

/-- What a reader takes out was the first of what waited. -/
theorem Keeps.taken (keeps : buffer.Keeps delivered presses) {now : Instant}
    {reception : Reception} {rest : ReceiveBuffer}
    (taken : buffer.takeSettled? now = some (reception, rest)) :
    rest.Keeps (delivered ++ [reception]) presses := by
  obtain ⟨oldest, first, same, -, -⟩ := takeSettled?_eq_some taken
  simpa [Keeps, receptions, first, same] using keeps

end ReceiveBuffer

end ShutterRadio
