/-
# The order of waiting records

A copy refreshes the newest record alone, and readers take away the oldest alone.
So as long as frames come in one after the other, the records of a buffer stand in
the order in which they were last seen.  Neighbours are of different presses, since a
frame of the newest press is a copy.  `Ordered` says so of a buffer, and every use
keeps it; readers may come at any moments for that.

The order is why a reader has to look at the oldest record only: if that one has not
settled, then no record has, and a press that is still coming in never holds up one
that is over.
-/

import Mathlib.Data.List.Chain
import ShutterRadio.Proofs.Reception.Usage

namespace ShutterRadio

namespace Use

/-- The moment at which a frame comes in, if that is the use. -/
def arrival? : Use → Option Instant
  | record _ now => some now
  | take _ => none

/-- The moments at which frames come in, in order. -/
def arrivals (uses : List Use) : List Instant := uses.filterMap arrival?

end Use

namespace ReceiveBuffer

/-- The records stand in the order in which they were last seen, and no two
neighbours are of one press. -/
structure Ordered (buffer : ReceiveBuffer) : Prop where
  seen : buffer.sightings.toList.Pairwise fun earlier later => earlier.lastSeen ≤ later.lastSeen
  apart : buffer.sightings.toList.IsChain fun one next =>
    one.reception.command ≠ next.reception.command

variable {buffer : ReceiveBuffer} {command : Command} {now : Instant}

theorem ordered_withDebounce (debounce : Nat) : (withDebounce debounce).Ordered :=
  ⟨.nil, .nil⟩

/-- All records were seen by some moment. -/
def SeenBy (buffer : ReceiveBuffer) (moment : Instant) : Prop :=
  ∀ sighting ∈ buffer.sightings.toList, sighting.lastSeen ≤ moment

/-- A frame that is not a copy is not of the newest record's press. -/
theorem ne_of_not_continues (other : buffer.continues command = false) {newest : Sighting}
    (last : newest ∈ buffer.sightings.toList.getLast?) : newest.reception.command ≠ command := by
  simpa [continues, Option.mem_def.mp last] using other

/-- A record that is seen last, and is not of the press before it, stands in order behind
the others. -/
theorem ordered_of_snoc {front : List Sighting} {newest : Sighting}
    (sightings : buffer.sightings.toList = front ++ [newest])
    (seen : front.Pairwise fun earlier later => earlier.lastSeen ≤ later.lastSeen)
    (apart : front.IsChain fun one next => one.reception.command ≠ next.reception.command)
    (before : ∀ sighting ∈ front, sighting.lastSeen ≤ newest.lastSeen)
    (other : ∀ last ∈ front.getLast?, last.reception.command ≠ newest.reception.command) :
    buffer.Ordered ∧ buffer.SeenBy newest.lastSeen := by
  refine ⟨⟨?seen, ?apart⟩, ?latest⟩
  case seen =>
    rw [sightings]
    refine List.pairwise_append.mpr
      ⟨seen, List.pairwise_singleton _ _, fun sighting among last here => ?_⟩
    rw [List.mem_singleton.mp here]
    exact before sighting among
  case apart =>
    rw [sightings]
    refine List.isChain_append.mpr ⟨apart, .singleton _, fun last among next here => ?_⟩
    rw [← Option.mem_some.mp here]
    exact other last among
  case latest =>
    rw [SeenBy, sightings]
    exact List.forall_mem_append.mpr ⟨before, List.forall_mem_singleton.mpr (Nat.le_refl _)⟩

/-- A frame that comes in last keeps the order, and all records have been seen by then. -/
theorem Ordered.record (ordered : buffer.Ordered) (before : buffer.SeenBy now)
    (command : Command) :
    (buffer.record command now).2.Ordered ∧ (buffer.record command now).2.SeenBy now := by
  rcases buffer.record_cases command now with
    ⟨older, newest, after, sightings, -, recorded, copied⟩ | ⟨after, other, recorded, added⟩ |
    ⟨-, -, recorded⟩
  · -- The copy is of the press that was the newest before, so it differs from the one before it.
    have seen := ordered.seen
    have apart := ordered.apart
    rw [SeenBy, sightings] at before
    rw [sightings] at seen apart
    obtain ⟨front, -, joint⟩ := List.isChain_append.mp apart
    rw [recorded]
    exact ordered_of_snoc copied (List.pairwise_append.mp seen).1 front
      (List.forall_mem_append.mp before).1 fun last among => joint last among newest rfl
  · rw [recorded]
    exact ordered_of_snoc added ordered.seen ordered.apart before fun last among =>
      ne_of_not_continues other among
  · rw [recorded]
    exact ⟨ordered, before⟩

/-- A reader leaves a part of the records behind, in the same order. -/
theorem Ordered.take (ordered : buffer.Ordered) (now : Instant) :
    (buffer.use (.take now)).Ordered ∧
      (buffer.use (.take now)).sightings.toList ⊆ buffer.sightings.toList := by
  rcases buffer.take_cases now with ⟨-, same⟩ | ⟨oldest, -, sightings, -⟩
  · rw [same]
    exact ⟨ordered, List.Subset.refl _⟩
  · have seen := ordered.seen
    have apart := ordered.apart
    rw [sightings] at seen apart ⊢
    exact ⟨⟨seen.tail, apart.tail⟩, List.subset_cons_self _ _⟩

/-- Frames that come in one after the other keep the order, whoever reads in between. -/
theorem Ordered.run (ordered : buffer.Ordered) (uses : List Use)
    (inTurn : (Use.arrivals uses).Pairwise (· ≤ ·))
    (before : ∀ moment ∈ Use.arrivals uses, buffer.SeenBy moment) :
    (buffer.run uses).Ordered := by
  induction uses generalizing buffer with
  | nil => exact ordered
  | cons first rest ih =>
      cases first with
      | record command now =>
          obtain ⟨notAfter, later⟩ := List.pairwise_cons.mp inTurn
          obtain ⟨kept, seen⟩ := ordered.record (before now List.mem_cons_self) command
          apply ih kept later
          intro moment among sighting here
          exact Nat.le_trans (seen sighting here) (notAfter moment among)
      | take now =>
          obtain ⟨kept, among⟩ := ordered.take now
          exact ih kept inTurn fun moment coming sighting here =>
            before moment coming sighting (among here)

/-- A reader of an ordered buffer gets nothing only if no record has settled. -/
theorem Ordered.takeSettled?_eq_none_iff (ordered : buffer.Ordered) (now : Instant) :
    buffer.takeSettled? now = none ↔
      ∀ sighting ∈ buffer.sightings.toList, now.since sighting.lastSeen < buffer.debounce := by
  cases sightings : buffer.sightings.toList with
  | nil => exact iff_of_true (takeSettled?_of_nil sightings) nofun
  | cons oldest others =>
      have seen := ordered.seen
      rw [sightings] at seen
      constructor
      · intro nothing
        have early : now.since oldest.lastSeen < buffer.debounce := by
          by_contra settled
          obtain ⟨rest, taken, -, -⟩ := takeSettled?_of_settled sightings (Nat.le_of_not_lt settled)
          rw [nothing] at taken
          cases taken
        refine List.forall_mem_cons.mpr ⟨early, fun sighting among => ?_⟩
        have later : oldest.lastSeen.micros ≤ sighting.lastSeen.micros :=
          (List.pairwise_cons.mp seen).1 sighting among
        exact Nat.lt_of_le_of_lt (Nat.sub_le_sub_left later _) early
      · intro early
        exact takeSettled?_of_early sightings (early oldest List.mem_cons_self)

/-- A buffer in use keeps its records in order.  Whatever its window, if frames come in
one after the other, it holds no more records than it has room for, the older ones were
last seen earlier, and no two neighbours are of one press.  A reader gets nothing only if
no record at all has settled, and otherwise the oldest, and leaves the others as they are. -/
theorem run_ordered (debounce : Nat) (uses : List Use)
    (inTurn : (Use.arrivals uses).Pairwise (· ≤ ·)) :
    let buffer := (withDebounce debounce).run uses
    buffer.size ≤ receiveCapacity ∧
    buffer.sightings.toList.Pairwise (fun earlier later => earlier.lastSeen ≤ later.lastSeen) ∧
    buffer.sightings.toList.IsChain
      (fun one next => one.reception.command ≠ next.reception.command) ∧
    ∀ now,
      (buffer.takeSettled? now = none ↔
        ∀ sighting ∈ buffer.sightings.toList, now.since sighting.lastSeen < debounce) ∧
      ∀ reception rest, buffer.takeSettled? now = some (reception, rest) →
        ∃ oldest, buffer.sightings.toList = oldest :: rest.sightings.toList ∧
          oldest.reception = reception ∧ rest.debounce = debounce := by
  intro buffer
  have ordered : buffer.Ordered :=
    (ordered_withDebounce debounce).run uses inTurn fun _ _ _ none => (List.not_mem_nil none).elim
  have window : buffer.debounce = debounce := debounce_run _ uses
  refine ⟨buffer.sightings.length_le, ordered.seen, ordered.apart, fun now => ⟨?nothing, ?oldest⟩⟩
  case nothing =>
    have nothing := ordered.takeSettled?_eq_none_iff now
    rwa [window] at nothing
  case oldest =>
    intro reception rest taken
    obtain ⟨oldest, sightings, same, -, kept⟩ := takeSettled?_eq_some taken
    exact ⟨oldest, sightings, same, kept.trans window⟩

/-- Two presses, the first of them with a copy and heard again after the second.  Nine
more come when there is room for six, and a reader has taken the first by then. -/
def busy : List Use :=
  [.record ⟨5, 1, .my⟩ (.ofMicros 0), .record ⟨5, 1, .my⟩ (.ofMicros 30000),
    .record ⟨6, 1, .up⟩ (.ofMicros 100000), .take (.ofMicros 279999),
    .record ⟨5, 1, .my⟩ (.ofMicros 200000), .take (.ofMicros 280000)] ++
  (List.range 9).map fun number => .record ⟨7, number.toUInt16, .down⟩ (.ofMicros 240000)

/-- The buffer is full, and nobody gets anything before the second press has settled. -/
theorem run_ordered_busy :
    (Use.arrivals busy).Pairwise (· ≤ ·) ∧
      ((withDebounce debounceWindow).run busy).size = receiveCapacity ∧
      ((withDebounce debounceWindow).run busy).takeSettled? (.ofMicros 349999) = none ∧
      (((withDebounce debounceWindow).run busy).takeSettled? (.ofMicros 350000)).map Prod.fst =
        some ⟨⟨6, 1, .up⟩, 0⟩ := by
  have inTurn : (Use.arrivals busy).Pairwise (· ≤ ·) := by decide
  have settles := (run_ordered debounceWindow busy inTurn).2.2.2
  exact ⟨inTurn, by decide, (settles (.ofMicros 349999)).1.mpr (by decide), by decide⟩

end ReceiveBuffer

end ShutterRadio
