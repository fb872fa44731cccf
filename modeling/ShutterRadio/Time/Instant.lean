/-
# Instants

A point on a monotonic timeline, counted in microseconds from its origin.  The
timeline ends: no instant lies beyond `horizon`, and moving later stops there
instead of wrapping round, so that adding to a deadline can never make it
earlier.  Differences stop at zero for the same reason.
-/

namespace ShutterRadio

/-- The last microsecond a timeline can name, that of a 64-bit counter. -/
def horizon : Nat := 0xffffffffffffffff

/-- A point on a timeline. -/
@[ext]
structure Instant where
  /-- Microseconds since the origin. -/
  micros : Nat
  le_horizon : micros ≤ horizon
  deriving DecidableEq

namespace Instant

/-- The instant a number of microseconds after the origin, or the horizon if
that comes first. -/
def ofMicros (micros : Nat) : Instant :=
  ⟨min micros horizon, Nat.min_le_right _ _⟩

def origin : Instant := ⟨0, Nat.zero_le _⟩

instance : Inhabited Instant := ⟨origin⟩

/-- The instant `delay` microseconds later, or the horizon if that comes first. -/
def later (start : Instant) (delay : Nat) : Instant :=
  ofMicros (start.micros + delay)

/-- Microseconds from `earlier` to `moment`, zero if `earlier` is not earlier. -/
def since (moment earlier : Instant) : Nat :=
  moment.micros - earlier.micros

instance : LE Instant := ⟨fun a b => a.micros ≤ b.micros⟩

instance : LT Instant := ⟨fun a b => a.micros < b.micros⟩

instance : Ord Instant := ⟨fun a b => compare a.micros b.micros⟩

instance (a b : Instant) : Decidable (a ≤ b) :=
  inferInstanceAs (Decidable (a.micros ≤ b.micros))

instance (a b : Instant) : Decidable (a < b) :=
  inferInstanceAs (Decidable (a.micros < b.micros))

/-- How an instant is shown in diagnostics. -/
def text (moment : Instant) : String :=
  "Instant(" ++ toString moment.micros ++ ")"

theorem le_iff {a b : Instant} : a ≤ b ↔ a.micros ≤ b.micros := Iff.rfl

theorem lt_iff {a b : Instant} : a < b ↔ a.micros < b.micros := Iff.rfl

@[simp]
theorem micros_ofMicros (micros : Nat) :
    (ofMicros micros).micros = min micros horizon := rfl

@[simp]
theorem micros_later (start : Instant) (delay : Nat) :
    (start.later delay).micros = min (start.micros + delay) horizon := rfl

/-- Moving later in two strides is moving later by their sum: stopping at the
horizon on the way loses nothing. -/
theorem later_later (start : Instant) (first second : Nat) :
    (start.later first).later second = start.later (first + second) := by
  ext
  simp only [micros_later]
  omega

theorem le_later (start : Instant) (delay : Nat) : start ≤ start.later delay := by
  have := start.le_horizon
  simp only [le_iff, micros_later]
  omega

/-- A delay is noticed, unless the timeline ends. -/
theorem lt_later (start : Instant) {delay : Nat} (positive : 0 < delay) :
    start < start.later delay ∨ (start.later delay).micros = horizon := by
  have := start.le_horizon
  simp only [lt_iff, micros_later]
  omega

end Instant

end ShutterRadio
