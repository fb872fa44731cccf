/-
# Waits, slice by slice

A wait reads the clock and sleeps a slice, again and again, until a reading has come to
the deadline.  How late it may be then depends on its last round alone: that round began
before the deadline, so whatever went wrong in the rounds before it has been made up for,
and what remains is how long its slice really took, and the readings around it.

`Timebase.watched` writes down all that is asked of a timebase.  Seen without what it has
written it is the timebase itself, so a wait on it goes just like a wait without it.
`Timebase.wait_arrives` says what is written down: how many slices are slept, how long
each is asked to be and what the clock reads before it, and where that leads.

A pause that is refused ends a wait as well; that is not looked at here.
-/

import Mathlib.Algebra.GroupWithZero.Nat
import ShutterRadio.Proofs.Service.Likeness

namespace ShutterRadio

namespace Timebase

variable {σ τ : Type}

/-! ## Rounds -/

/-- A look at a clock: the moments at which it began and ended, and what was read. -/
structure Look where
  begun : Instant
  answer : Instant
  ended : Instant
  begun_le_answer : begun ≤ answer
  answer_le_ended : answer ≤ ended

/-- A round of a wait: a look at the clock, and a slice that was slept. -/
structure Round where
  look : Look
  slice : Nat
  ended : Instant
  progress : look.ended < ended ∨ ended.micros = horizon

/-- How long a look took, in microseconds. -/
def Look.cost (look : Look) : Nat := look.ended.since look.begun

/-- How long the slice really took, in microseconds. -/
def Round.lapse (round : Round) : Nat := round.ended.since round.look.ended

/-- The rounds of a wait that began at a moment, and its last look.  Each round found the
deadline ahead and slept no longer than up to there; the last look found it reached. -/
inductive Paced (deadline : Instant) : (start : Instant) → List Round → (last : Look) → Prop
  | arrived {last : Look} : deadline ≤ last.answer → Paced deadline last.begun [] last
  | slept {round : Round} {rounds : List Round} {last : Look} :
      round.look.answer < deadline →
      round.slice = min (deadline.since round.look.answer) longestSlice →
      Paced deadline round.ended rounds last →
      Paced deadline round.look.begun (round :: rounds) last

namespace Paced

variable {deadline start : Instant} {rounds : List Round} {last : Look}

/-- Every round brings the deadline nearer, by a microsecond at least. -/
theorem length_le (paced : Paced deadline start rounds last) :
    rounds.length ≤ deadline.since start := by
  induction paced with
  | arrived => exact Nat.zero_le _
  | @slept round rounds last ahead _ _ ih =>
      have asked := round.look.begun_le_answer
      have answered := round.look.answer_le_ended
      have progress := round.progress
      have bound := deadline.le_horizon
      simp only [Instant.le_iff, Instant.lt_iff, Instant.since, List.length_cons] at *
      omega

/-- Who begins at the deadline or after it sleeps not at all. -/
theorem eq_nil (paced : Paced deadline start rounds last) (passed : deadline ≤ start) :
    rounds = [] := by
  cases paced with
  | arrived => rfl
  | @slept round rounds last ahead _ _ =>
      have asked := round.look.begun_le_answer
      simp only [Instant.le_iff, Instant.lt_iff] at *
      omega

theorem ahead (paced : Paced deadline start rounds last) :
    ∀ round ∈ rounds, round.look.answer < deadline ∧
      round.slice = min (deadline.since round.look.answer) longestSlice := by
  induction paced with
  | arrived => exact fun _ none => (List.not_mem_nil none).elim
  | slept ahead slice _ ih => exact List.forall_mem_cons.mpr ⟨⟨ahead, slice⟩, ih⟩

/-- The last look finds the deadline reached, and began when the last round was over. -/
theorem last_look (paced : Paced deadline start rounds last) :
    deadline ≤ last.answer ∧ last.begun = (rounds.map Round.ended).getLastD start := by
  induction paced with
  | arrived reached => exact ⟨reached, rfl⟩
  | slept _ _ _ ih => exact ⟨ih.1, by rw [List.map_cons, List.getLastD_cons, ih.2]⟩

/-- A wait is late by less than its last slice took, and the looks before and after it. -/
theorem late {front : List Round} {final : Round}
    (paced : Paced deadline start (front ++ [final]) last) :
    last.ended.micros < deadline.micros + final.look.cost + final.lapse + last.cost := by
  have ahead := (paced.ahead final (by simp)).1
  have joined : last.begun = final.ended := by simp [paced.last_look.2]
  have asked := final.look.begun_le_answer
  simp only [Look.cost, Round.lapse, Instant.since, joined, Instant.le_iff, Instant.lt_iff] at *
  omega

/-- A wait that needs no slice is late by less than its only look took, unless it began
at the deadline or after it. -/
theorem late_nil (paced : Paced deadline start [] last) (early : start < deadline) :
    last.ended.micros < deadline.micros + last.cost := by
  cases paced
  simp only [Look.cost, Instant.since, Instant.lt_iff] at *
  omega

end Paced

/-! ## Rounds on a precise timebase -/

/-- A look that took no time. -/
def Look.IsFree (look : Look) : Prop := look.answer = look.begun ∧ look.ended = look.begun

/-- A round whose look took no time, and whose slice took as long as was asked for. -/
def Round.IsExact (round : Round) : Prop :=
  round.look.IsFree ∧ round.ended = round.look.ended.later round.slice

/-- Exact rounds lead just to the deadline, and sleep all of the time up to there. -/
theorem Paced.exact {deadline start : Instant} {rounds : List Round} {last : Look}
    (paced : Paced deadline start rounds last) (exact : ∀ round ∈ rounds, round.IsExact)
    (free : last.IsFree) :
    last.ended.micros = max start.micros deadline.micros ∧
      (rounds.map Round.slice).sum = deadline.since start := by
  induction paced with
  | @arrived last reached =>
      obtain ⟨answer, ended⟩ := free
      rw [answer, Instant.le_iff] at reached
      rw [ended, Instant.since, List.map_nil, List.sum_nil]
      omega
  | @slept round rounds last ahead slice _ ih =>
      obtain ⟨⟨⟨answer, asked⟩, ended⟩, others⟩ := List.forall_mem_cons.mp exact
      obtain ⟨finish, sum⟩ := ih others free
      rw [answer] at ahead slice
      rw [List.map_cons, List.sum_cons, finish, sum, ended, asked, slice]
      have bound := deadline.le_horizon
      simp only [Instant.lt_iff, Instant.since, Instant.micros_later, longestSlice] at *
      omega

/-! ## Watched timebases -/

/-- Something that was asked of a timebase, with the moments before and after it. -/
inductive Use
  | look (begun answer ended : Instant)
  | pause (begun : Instant) (micros : Nat) (ended : Instant)
  deriving DecidableEq

/-- What a look asks of a timebase. -/
def Look.use (look : Look) : Use := .look look.begun look.answer look.ended

/-- What a round asks of a timebase. -/
def Round.uses (round : Round) : List Use :=
  [round.look.use, .pause round.look.ended round.slice round.ended]

/-- A timebase that writes down all that is asked of it, in order. -/
def watched (base : Timebase σ τ) : Timebase (σ × List Use) τ where
  time whole := base.time whole.1
  read whole :=
    let (answer, after) := base.read whole.1
    (answer, (after, whole.2 ++ [.look (base.time whole.1) answer (base.time after)]))
  pause micros whole :=
    match base.pause micros whole.1 with
    | .ok () after =>
        .ok () (after, whole.2 ++ [.pause (base.time whole.1) micros (base.time after)])
    | .error reason after => .error reason (after, whole.2)
  time_le_read whole := base.time_le_read whole.1
  read_le_time whole := base.read_le_time whole.1
  time_lt_pause micros whole after paused := by
    split at paused
    · rename_i between slept
      injection paused with _ same
      subst same
      exact base.time_lt_pause micros _ _ slept
    · contradiction

/-- Without what it has written, a watched timebase looks like the one that is watched. -/
theorem maps_watched (base : Timebase σ τ) : base.watched.Maps Prod.fst base where
  time _ := rfl
  read _ := rfl
  pause micros whole := by
    simp only [watched]
    cases base.pause micros whole.1 <;> rfl

/-- The look that a state leads to. -/
def lookAt (base : Timebase σ τ) (s : σ) : Look where
  begun := base.time s
  answer := (base.read s).1
  ended := base.time (base.read s).2
  begun_le_answer := base.time_le_read s
  answer_le_ended := base.read_le_time s

/-- The round that a pause makes of a look. -/
def roundOf (base : Timebase σ τ) (s : σ) {micros : Nat} {after : σ}
    (paused : base.pause micros (base.read s).2 = .ok () after) : Round where
  look := base.lookAt s
  slice := micros
  ended := base.time after
  progress := base.time_lt_pause micros _ _ paused

theorem IsPrecise.isFree {base : Timebase σ τ} (precise : base.IsPrecise) (s : σ) :
    (base.lookAt s).IsFree :=
  ⟨precise.read_eq s, precise.read s⟩

theorem IsPrecise.isExact {base : Timebase σ τ} (precise : base.IsPrecise) {s after : σ}
    {micros : Nat} (positive : 0 < micros)
    (paused : base.pause micros (base.read s).2 = .ok () after) :
    (base.roundOf s paused).IsExact :=
  ⟨precise.isFree s, precise.pause micros _ _ positive paused⟩

/-- A wait on a timebase that refuses no pause comes to its end, round by round. -/
theorem exists_paced (base : Timebase σ τ)
    (steady : ∀ micros s, ∃ s', base.pause micros s = .ok () s') (deadline : Instant) (s : σ)
    (earlier : List Use) :
    ∃ (rounds : List Round) (last : Look) (s' : σ),
      base.watched.wait deadline (s, earlier) =
        .ok () (s', earlier ++ rounds.flatMap Round.uses ++ [last.use]) ∧
      Paced deadline (base.time s) rounds last ∧ last.ended = base.time s' ∧
      (base.IsPrecise → (∀ round ∈ rounds, round.IsExact) ∧ last.IsFree) := by
  by_cases remains : deadline.since (base.read s).1 = 0
  · have reached : deadline ≤ (base.lookAt s).answer := Nat.le_of_sub_eq_zero remains
    refine ⟨[], base.lookAt s, (base.read s).2, ?_, @Paced.arrived deadline _ reached, rfl,
      fun precise => ⟨fun _ none => (List.not_mem_nil none).elim, precise.isFree s⟩⟩
    · rw [base.watched.wait_of_reached deadline (s, earlier) remains, List.flatMap_nil,
        List.append_nil]
      rfl
  · obtain ⟨between, slept⟩ :=
      steady (min (deadline.since (base.read s).1) longestSlice) (base.read s).2
    have shorter := base.remaining_decreases deadline _ remains slept
    obtain ⟨rounds, last, s', waited, paced, ended, precisely⟩ :=
      exists_paced base steady deadline between (earlier ++ (base.roundOf s slept).uses)
    have ahead : (base.roundOf s slept).look.answer < deadline := Nat.lt_of_sub_ne_zero remains
    refine ⟨base.roundOf s slept :: rounds, last, s', ?_,
      @Paced.slept deadline _ _ _ ahead rfl paced, ended, fun precise => ?_⟩
    · have remains' : deadline.since (base.watched.read (s, earlier)).1 ≠ 0 := remains
      have paused : base.watched.pause (min (deadline.since (base.read s).1) longestSlice)
          (base.watched.read (s, earlier)).2 =
            .ok () (between, earlier ++ (base.roundOf s slept).uses) := by
        simp only [watched, slept, List.append_assoc]
        rfl
      rw [base.watched.wait_of_paused deadline remains' paused, waited, List.flatMap_cons,
        List.append_assoc earlier]
    · have positive : 0 < min (deadline.since (base.read s).1) longestSlice := by
        unfold longestSlice
        omega
      obtain ⟨exact, free⟩ := precisely precise
      exact ⟨List.forall_mem_cons.mpr ⟨precise.isExact positive slept, exact⟩, free⟩
termination_by deadline.since (base.time s)

/-- A wait comes to its deadline.  However pauses and readings take their time, as long as
a pause lets a microsecond pass or the timeline ends:

* it ends after no more slices than there were microseconds to wait for, and after none
  if the deadline had passed;
* every slice was asked for when the clock read less than the deadline, for at least one
  microsecond, at most a thousand, and no longer than what remained by that reading;
* the last reading is the deadline or later, and late by less than the last slice and the
  readings before and after it took;
* and on a precise timebase the wait ends just at the deadline, or at once if that had
  passed, and the slices come to the time there was to wait for. -/
theorem wait_arrives (base : Timebase σ τ)
    (steady : ∀ micros s, ∃ s', base.pause micros s = .ok () s') (deadline : Instant) (s : σ) :
    ∃ (rounds : List Round) (last : Look) (s' : σ),
      base.wait deadline s = .ok () s' ∧
      base.watched.wait deadline (s, []) =
        .ok () (s', rounds.flatMap Round.uses ++ [last.use]) ∧
      rounds.length ≤ deadline.since (base.time s) ∧
      (deadline ≤ base.time s → rounds = []) ∧
      (∀ round ∈ rounds, round.look.answer < deadline ∧ 1 ≤ round.slice ∧
        round.slice ≤ 1000 ∧ round.slice ≤ deadline.since round.look.answer) ∧
      deadline ≤ last.answer ∧ last.ended = base.time s' ∧
      (∀ front final, rounds = front ++ [final] → (base.time s').micros <
        deadline.micros + final.look.cost + final.lapse + last.cost) ∧
      (rounds = [] → base.time s < deadline →
        (base.time s').micros < deadline.micros + last.cost) ∧
      (base.IsPrecise →
        (base.time s').micros = max (base.time s).micros deadline.micros ∧
          (rounds.map Round.slice).sum = deadline.since (base.time s)) := by
  obtain ⟨rounds, last, s', waited, paced, ended, precisely⟩ :=
    exists_paced base steady deadline s []
  rw [List.nil_append] at waited
  have unwatched : base.wait deadline s = .ok () s' := by
    have seen := base.maps_watched.wait deadline (s, [])
    rw [waited] at seen
    exact seen
  refine ⟨rounds, last, s', unwatched, waited, paced.length_le, paced.eq_nil, ?_,
    paced.last_look.1, ended, ?_, ?_, fun precise => ?_⟩
  · intro round member
    obtain ⟨ahead, slice⟩ := paced.ahead round member
    refine ⟨ahead, ?_⟩
    rw [Instant.lt_iff] at ahead
    simp only [slice, Instant.since, longestSlice]
    omega
  · rintro front final rfl
    rw [← ended]
    exact paced.late
  · rintro rfl early
    rw [← ended]
    exact paced.late_nil early
  · rw [← ended]
    exact paced.exact (precisely precise).1 (precisely precise).2

/-- A timebase of which readings cost time, and pauses take as long as a list says, whatever
was asked for, and a microsecond when the list is at its end. -/
def unsteady (cost : Nat) : Timebase (Instant × List Nat) Empty where
  time s := s.1
  read s := (s.1, (s.1.later cost, s.2))
  pause _ s := .ok () (s.1.later (max 1 (s.2.headD 1)), s.2.tail)
  time_le_read _ := Nat.le_refl _
  read_le_time s := s.1.le_later cost
  time_lt_pause _ s s' paused := by
    obtain rfl : (s.1.later (max 1 (s.2.headD 1)), s.2.tail) = s' := by injection paused
    exact s.1.lt_later (Nat.le_max_left 1 _)

/-- What is asked of it in a wait of two slices, the first of which is far too short and
the second far too long. -/
def strayed : List Use :=
  [.look .origin .origin (.ofMicros 3), .pause (.ofMicros 3) 1000 (.ofMicros 4),
    .look (.ofMicros 4) (.ofMicros 4) (.ofMicros 7), .pause (.ofMicros 7) 1000 (.ofMicros 2507),
    .look (.ofMicros 2507) (.ofMicros 2507) (.ofMicros 2510)]

/-- The wait is late, but by no more than its second slice can make it. -/
theorem wait_arrives_unsteady :
    (∀ micros s, ∃ s', (unsteady 3).pause micros s = .ok () s') ∧
    ∃ (rounds : List Round) (last : Look) (s' : Instant × List Nat),
      (unsteady 3).wait (.ofMicros 2000) (.origin, [1, 2500]) = .ok () s' ∧
      s'.1.micros = 2510 ∧ rounds.flatMap Round.uses ++ [last.use] = strayed ∧
      ∀ front final, rounds = front ++ [final] →
        2510 < 2000 + final.look.cost + final.lapse + last.cost := by
  have steady : ∀ micros s, ∃ s', (unsteady 3).pause micros s = .ok () s' :=
    fun _ _ => ⟨_, rfl⟩
  have ran : (unsteady 3).watched.wait (.ofMicros 2000) ((.origin, [1, 2500]), []) =
      .ok () ((.ofMicros 2510, []), strayed) := by
    rw [wait_of_paused _ _ (by decide) rfl, wait_of_paused _ _ (by decide) rfl,
      wait_of_reached _ _ _ (by decide)]
    rfl
  obtain ⟨rounds, last, s', waited, written, -, -, -, -, -, late, -⟩ :=
    wait_arrives (unsteady 3) steady (.ofMicros 2000) (.origin, [1, 2500])
  rw [ran] at written
  injection written with _ same
  obtain ⟨rfl, uses⟩ := Prod.mk.inj same
  exact ⟨steady, rounds, last, _, waited, rfl, uses.symm, late⟩

end Timebase

end ShutterRadio
