/-
# Timebases and waiting for a deadline

A timebase is a clock that can be read and a pause that lets time pass, both
acting on some state.  Neither has to be exact: reading may take time, and a
pause may fall short of or overshoot what was asked for.  What is asked of a
timebase is only that time does not run backwards and that a pause makes
progress, unless the timeline has ended.

A pause may also be refused for a reason of the timebase's own.  Whatever was
going on is then abandoned, with the state as it was left.

`Timebase.wait` sleeps in short slices and measures again after each, so what a
pause gets wrong is never carried over into the next slice.  It ends because
what remains shrinks with every slice; no bound on the number of slices is
needed, and none is claimed here.
-/

import ShutterRadio.Time.Instant

namespace ShutterRadio

/-- A clock and a pause of about so many microseconds on a state `σ`, with reasons `τ`
to refuse a pause. -/
structure Timebase (σ τ : Type) where
  time : σ → Instant
  read : σ → Instant × σ
  pause : Nat → σ → EStateM.Result τ σ Unit
  /-- A reading is not older than the moment it was asked for. -/
  time_le_read : ∀ s, time s ≤ (read s).1
  /-- A reading is not newer than the moment it is there. -/
  read_le_time : ∀ s, (read s).1 ≤ time (read s).2
  /-- A pause makes progress until the timeline ends. -/
  time_lt_pause : ∀ micros s s', pause micros s = .ok () s' →
    time s < time s' ∨ (time s').micros = horizon

namespace Timebase

variable {σ τ : Type}

/-- The longest single pause while waiting, in microseconds.  Short slices
bound how far a coarse pause can overshoot. -/
def longestSlice : Nat := 1000

/-- A slice leaves less to wait for than there was. -/
theorem remaining_decreases (base : Timebase σ τ) (deadline : Instant) (micros : Nat)
    {s s' : σ} (remains : deadline.since (base.read s).1 ≠ 0)
    (paused : base.pause micros (base.read s).2 = .ok () s') :
    deadline.since (base.time s') < deadline.since (base.time s) := by
  have before := base.time_le_read s
  have after := base.read_le_time s
  have progress := base.time_lt_pause micros _ _ paused
  have bound := deadline.le_horizon
  simp only [Instant.le_iff, Instant.lt_iff, Instant.since] at *
  omega

/-- Sleep until the clock reads `deadline` or later.  Every slice is preceded
by one reading, and the reading that finds nothing left is the last thing that
happens. -/
def wait (base : Timebase σ τ) (deadline : Instant) (s : σ) : EStateM.Result τ σ Unit :=
  let remaining := deadline.since (base.read s).1
  if _ : remaining = 0 then .ok () (base.read s).2
  else
    match _ : base.pause (min remaining longestSlice) (base.read s).2 with
    | .ok () s' => base.wait deadline s'
    | .error reason s' => .error reason s'
termination_by deadline.since (base.time s)
decreasing_by exact remaining_decreases base deadline _ ‹_› ‹_›

/-- Nothing happens but one reading if the deadline is there. -/
theorem wait_of_reached (base : Timebase σ τ) (deadline : Instant) (s : σ)
    (reached : deadline.since (base.read s).1 = 0) :
    base.wait deadline s = .ok () (base.read s).2 := by
  rw [wait]
  exact dif_pos reached

/-- If something remains, one slice is slept, and the rest of the wait starts
from where that ended. -/
theorem wait_of_paused (base : Timebase σ τ) (deadline : Instant) {s s' : σ}
    (remains : deadline.since (base.read s).1 ≠ 0)
    (paused : base.pause (min (deadline.since (base.read s).1) longestSlice)
      (base.read s).2 = .ok () s') :
    base.wait deadline s = base.wait deadline s' := by
  conv => lhs; rw [wait]
  rw [dif_neg remains]
  split
  · rename_i next h
    rw [paused] at h
    injection h with _ same
    rw [same]
  · rename_i h
    rw [paused] at h
    contradiction

/-- A refused slice ends the wait, with the state as the refusal left it. -/
theorem wait_of_refused (base : Timebase σ τ) (deadline : Instant) {s s' : σ} {reason : τ}
    (remains : deadline.since (base.read s).1 ≠ 0)
    (refused : base.pause (min (deadline.since (base.read s).1) longestSlice)
      (base.read s).2 = .error reason s') :
    base.wait deadline s = .error reason s' := by
  rw [wait, dif_neg remains]
  split
  · rename_i h
    rw [refused] at h
    contradiction
  · rename_i h
    rw [refused] at h
    exact h.symm

/-- No time is lost in a pause. -/
theorem time_le_pause (base : Timebase σ τ) {micros : Nat} {s s' : σ}
    (paused : base.pause micros s = .ok () s') : base.time s ≤ base.time s' := by
  have bound := (base.time s).le_horizon
  have progress := base.time_lt_pause micros s s' paused
  simp only [Instant.lt_iff, Instant.le_iff] at *
  omega

/-- A wait that comes to its end leads to the deadline, and not backwards. -/
theorem wait_reaches (base : Timebase σ τ) (deadline : Instant) {s s' : σ}
    (waited : base.wait deadline s = .ok () s') :
    deadline ≤ base.time s' ∧ base.time s ≤ base.time s' := by
  have asked := base.time_le_read s
  have answered := base.read_le_time s
  by_cases remains : deadline.since (base.read s).1 = 0
  · rw [wait_of_reached base deadline s remains] at waited
    injection waited with _ same
    subst same
    simp only [Instant.since, Instant.le_iff] at *
    omega
  · cases slept : base.pause (min (deadline.since (base.read s).1) longestSlice)
        (base.read s).2 with
    | ok _ between =>
        rw [wait_of_paused base deadline remains slept] at waited
        have shorter := remaining_decreases base deadline _ remains slept
        obtain ⟨reached, onwards⟩ := wait_reaches base deadline waited
        have progress := base.time_le_pause slept
        simp only [Instant.le_iff] at *
        omega
    | error reason between =>
        rw [wait_of_refused base deadline remains slept] at waited
        cases waited
termination_by deadline.since (base.time s)

/-- If no pause is ever refused, every wait comes to its end. -/
theorem exists_wait (base : Timebase σ τ)
    (steady : ∀ micros s, ∃ s', base.pause micros s = .ok () s') (deadline : Instant) (s : σ) :
    ∃ s', base.wait deadline s = .ok () s' := by
  by_cases remains : deadline.since (base.read s).1 = 0
  · exact ⟨_, wait_of_reached base deadline s remains⟩
  · obtain ⟨between, slept⟩ :=
      steady (min (deadline.since (base.read s).1) longestSlice) (base.read s).2
    have shorter := remaining_decreases base deadline _ remains slept
    obtain ⟨s', waited⟩ := exists_wait base steady deadline between
    exact ⟨s', by rw [wait_of_paused base deadline remains slept, waited]⟩
termination_by deadline.since (base.time s)

/-- Reading takes no time, and a pause takes as long as was asked for. -/
structure IsPrecise (base : Timebase σ τ) : Prop where
  read : ∀ s, base.time (base.read s).2 = base.time s
  pause : ∀ micros s s', 0 < micros → base.pause micros s = .ok () s' →
    base.time s' = (base.time s).later micros

/-- A precise clock reads what it stands at. -/
theorem IsPrecise.read_eq {base : Timebase σ τ} (precise : base.IsPrecise) (s : σ) :
    (base.read s).1 = base.time s := by
  have asked := base.time_le_read s
  have answered := precise.read s ▸ base.read_le_time s
  exact Instant.ext (Nat.le_antisymm answered asked)

/-- A precise wait ends just at the deadline, or takes no time if that has passed. -/
theorem IsPrecise.time_wait {base : Timebase σ τ} (precise : base.IsPrecise) (deadline : Instant)
    {s s' : σ} (waited : base.wait deadline s = .ok () s') :
    (base.time s').micros = max (base.time s).micros deadline.micros := by
  have reading := precise.read_eq s
  have free := precise.read s
  by_cases remains : deadline.since (base.read s).1 = 0
  · rw [wait_of_reached base deadline s remains] at waited
    injection waited with _ same
    subst same
    rw [reading, Instant.since] at remains
    rw [free]
    omega
  · cases slept : base.pause (min (deadline.since (base.read s).1) longestSlice)
        (base.read s).2 with
    | ok _ between =>
        rw [wait_of_paused base deadline remains slept] at waited
        have shorter := remaining_decreases base deadline _ remains slept
        have rest := precise.time_wait deadline waited
        have slice := precise.pause _ _ _ (by unfold longestSlice; omega) slept
        have bound := deadline.le_horizon
        rw [free, reading] at slice
        simp only [rest, slice, Instant.micros_later, Instant.since, longestSlice] at *
        rw [reading] at remains
        omega
    | error reason between =>
        rw [wait_of_refused base deadline remains slept] at waited
        cases waited
termination_by deadline.since (base.time s)

/-- The ideal timebase: reading takes no time, and a pause takes exactly as long
as was asked for, but at least a microsecond. -/
def ideal : Timebase Instant Empty where
  time := id
  read now := (now, now)
  pause micros now := .ok () (now.later (max micros 1))
  time_le_read _ := Nat.le_refl _
  read_le_time _ := Nat.le_refl _
  time_lt_pause micros now now' paused := by
    obtain rfl : now.later (max micros 1) = now' := by injection paused
    exact now.lt_later (Nat.le_max_right micros 1)

/-- Run a timebase on the part of a larger state that it is about. -/
def focus {ρ : Type} (base : Timebase σ τ) (get : ρ → σ) (set : ρ → σ → ρ)
    (get_set : ∀ whole part, get (set whole part) = part) : Timebase ρ τ where
  time whole := base.time (get whole)
  read whole :=
    let (moment, part) := base.read (get whole)
    (moment, set whole part)
  pause micros whole :=
    match base.pause micros (get whole) with
    | .ok () part => .ok () (set whole part)
    | .error reason part => .error reason (set whole part)
  time_le_read whole := base.time_le_read (get whole)
  read_le_time whole := by
    simpa only [get_set] using base.read_le_time (get whole)
  time_lt_pause micros whole whole' paused := by
    split at paused
    · rename_i part h
      injection paused with _ same
      subst same
      simpa only [get_set] using base.time_lt_pause micros _ _ h
    · contradiction

end Timebase

end ShutterRadio
