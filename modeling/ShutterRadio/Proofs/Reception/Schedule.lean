/-
# Frames that arrive and readers that come

Whoever sends to a station and whoever reads from it do so when they like.  A
schedule lists these occasions in the order of their moments, and
`Station.attend` lets a station meet it.

Copies of one press that follow each other within the debounce window are one
reception, however readers come in between: none of them gets anything until the
window has passed since the last copy, and then the first of them gets it.
`attend_press` says so of a schedule on which there is nothing else to hear.
-/

import Mathlib.Data.List.Chain
import ShutterRadio.Proofs.Reception.Arrival
import ShutterRadio.Proofs.Reception.Buffer

namespace ShutterRadio

/-- What others do to a station. -/
inductive Occasion
  | arrival (packet : List UInt8) (moment : Instant)
  | reading (now : Instant)
  deriving DecidableEq

namespace Occasion

def moment : Occasion → Instant
  | .arrival _ moment => moment
  | .reading now => now

def arrival? : Occasion → Option (List UInt8 × Instant)
  | .arrival packet moment => some (packet, moment)
  | .reading _ => none

def reading? : Occasion → Option Instant
  | .arrival _ _ => none
  | .reading now => some now

/-- Who comes to a schedule comes no later than the packets on it. -/
theorem le_of_arrival {now : Instant} {later : List Occasion}
    (order : ∀ occasion ∈ later, now ≤ occasion.moment) {packet : List UInt8} {moments : List Instant}
    (arrivals : later.filterMap arrival? = moments.map fun moment => (packet, moment)) :
    ∀ moment ∈ moments, now ≤ moment := by
  intro moment member
  have among : (packet, moment) ∈ later.filterMap arrival? := by
    rw [arrivals]
    exact List.mem_map_of_mem member
  obtain ⟨occasion, here, same⟩ := List.mem_filterMap.mp among
  cases occasion with
  | arrival _ _ =>
      injection same with same
      injection same with _ same
      exact same ▸ order _ here
  | reading _ => cases same

end Occasion

/-- Below its limit the count grows by one. -/
theorem Reception.repeats_again {reception : Reception}
    (room : reception.repeats.toNat < 0xffff) :
    reception.again.repeats.toNat = reception.repeats.toNat + 1 := by
  have below : reception.repeats ≠ 0xffff := by
    rintro full
    simp [full] at room
  simp only [again, if_neg below, UInt16.toNat_add]
  exact Nat.mod_eq_of_lt (Nat.succ_lt_succ room)

/-- What readers get of one reception, by the time at which it has settled: the
first who comes then gets it, and nobody else gets anything. -/
def Reception.handOut (reception : Reception) (settled : Nat) :
    List Instant → List (Option Reception)
  | [] => []
  | now :: later =>
      if settled ≤ now.micros then some reception :: later.map fun _ => none
      else none :: reception.handOut settled later

namespace Station

variable {σ ε τ : Type}

/-- Meet a schedule; the answers are those that readers get. -/
def attend (d : Device σ ε τ) (present : List UInt8 → Instant → σ → σ) :
    List Occasion → Work σ τ (List (Option Reception))
  | [] => pure []
  | .arrival packet moment :: later => do
      let _ ← hear d present packet moment
      attend d present later
  | .reading now :: later => do
      let answer ← read now
      let answers ← attend d present later
      pure (answer :: answers)

variable {d : Device σ ε τ} {present : List UInt8 → Instant → σ → σ}
  {station after : Station σ} {later : List Occasion}

theorem attend_arrival {packet : List UInt8} {moment : Instant} {flow : Flow}
    {between : Station σ} (heard : hear d present packet moment station = .ok flow between) :
    attend d present (.arrival packet moment :: later) station = attend d present later between := by
  simp only [attend, bind, EStateM.bind, heard]

theorem attend_reading {now : Instant} {answer : Option Reception} {queue : Queue}
    {answers : List (Option Reception)} (collected : station.queue.collect now = (answer, queue))
    (attended : attend d present later { station with queue } = .ok answers after) :
    attend d present (.reading now :: later) station = .ok (answer :: answers) after := by
  simp only [attend, bind, EStateM.bind, read, consult, collected, attended, pure, EStateM.pure]

/-- A station that runs has the usual window and these records in its receive buffer. -/
structure Holds (station : Station σ) (sightings : List Sighting) : Prop where
  running : station.queue.activity ≠ .shutDown
  sightings : station.queue.received.sightings.toList = sightings
  debounce : station.queue.received.debounce = debounceWindow

namespace Holds

variable {reception : Reception} {seen now : Instant}

/-- A reader of a station with nothing to read gets nothing. -/
theorem collect_nothing (holds : station.Holds []) (now : Instant) :
    station.queue.collect now = (none, station.queue) := by
  unfold Queue.collect Queue.read?
  rw [ReceiveBuffer.takeSettled?_of_nil holds.sightings]
  rfl

/-- A reader who comes too early gets nothing. -/
theorem collect_early (holds : station.Holds [⟨reception, seen⟩])
    (early : now.micros < seen.micros + debounceWindow) :
    station.queue.collect now = (none, station.queue) := by
  have within : now.since seen < station.queue.received.debounce := by
    rw [holds.debounce, Instant.since]
    unfold debounceWindow at early ⊢
    omega
  unfold Queue.collect Queue.read?
  rw [ReceiveBuffer.takeSettled?_of_early holds.sightings within]
  rfl

/-- A reader who comes late enough gets what there is, and then it is gone. -/
theorem collect_settled (holds : station.Holds [⟨reception, seen⟩])
    (settled : seen.micros + debounceWindow ≤ now.micros) :
    ∃ queue, station.queue.collect now = (some reception, queue) ∧
      ({ station with queue } : Station σ).Holds [] := by
  have passed : station.queue.received.debounce ≤ now.since seen := by
    rw [holds.debounce, Instant.since]
    omega
  obtain ⟨rest, taken, sightings, debounce⟩ :=
    ReceiveBuffer.takeSettled?_of_settled holds.sightings passed
  refine ⟨{ station.queue with received := rest }, ?_,
    ⟨holds.running, sightings, debounce.trans holds.debounce⟩⟩
  unfold Queue.collect Queue.read?
  rw [taken]
  rfl

variable {frame : Frame} {command : Command}

/-- The first frame of a press starts a record. -/
theorem hear_first (holds : station.Holds []) (patient : d.Patient) (receives : d.Receives present)
    (carries : frame.decode = .ok command) (moment : Instant) :
    ∃ after, hear d present frame.bytes moment station = .ok .goesOn after ∧
      after.Holds [⟨⟨command, 0⟩, moment⟩] ∧ after.tally = station.tally.bump .heard := by
  obtain ⟨after, heard, activity, received, tally⟩ :=
    hear_eq patient receives holds.running carries moment
  have other : station.queue.received.continues command = false := by
    simp [ReceiveBuffer.continues, holds.sightings]
  have room : station.queue.received.sightings.size < receiveCapacity := by
    simp [Bounded.size, holds.sightings, receiveCapacity]
  obtain ⟨placed, sightings, debounce⟩ := ReceiveBuffer.record_of_other moment other room
  refine ⟨after, heard, ⟨activity ▸ holds.running, ?_, ?_⟩, ?_⟩
  · rw [received, sightings, holds.sightings, List.nil_append]
  · rw [received, debounce, holds.debounce]
  · rw [tally, placed]
    rfl

/-- Another frame of the press is a copy, and is not counted. -/
theorem hear_copy (holds : station.Holds [⟨reception, seen⟩]) (patient : d.Patient)
    (receives : d.Receives present) (carries : frame.decode = .ok reception.command)
    (moment : Instant) :
    ∃ after, hear d present frame.bytes moment station = .ok .goesOn after ∧
      after.Holds [⟨reception.again, moment⟩] ∧ after.tally = station.tally := by
  obtain ⟨after, heard, activity, received, tally⟩ :=
    hear_eq patient receives holds.running carries moment
  obtain ⟨placed, sightings, debounce⟩ :=
    ReceiveBuffer.record_of_newest moment [] holds.sightings rfl
  refine ⟨after, heard, ⟨activity ▸ holds.running, ?_, ?_⟩, ?_⟩
  · rw [received, sightings, List.nil_append]
  · rw [received, debounce, holds.debounce]
  · rw [tally, placed]
    rfl

end Holds

/-- Readers get nothing of a station that hears nothing. -/
theorem attend_nothing (holds : station.Holds []) {occasions : List Occasion}
    (silence : occasions.filterMap Occasion.arrival? = []) :
    attend d present occasions station =
      .ok ((occasions.filterMap Occasion.reading?).map fun _ => none) station := by
  induction occasions with
  | nil => rfl
  | cons occasion later ih =>
      cases occasion with
      | arrival packet moment => cases silence
      | reading now => exact attend_reading (holds.collect_nothing now) (ih silence)

variable {frame : Frame} {occasions : List Occasion} {moments : List Instant}

/-- Copies that keep coming add to a record, and readers get it when no more have
come for long enough. -/
theorem attend_copies (patient : d.Patient) (receives : d.Receives present) {reception : Reception}
    {seen : Instant} {total : UInt16} (holds : station.Holds [⟨reception, seen⟩])
    (carries : frame.decode = .ok reception.command)
    (arrivals : occasions.filterMap Occasion.arrival? =
      moments.map fun moment => (frame.bytes, moment))
    (close : (seen :: moments).IsChain Instant.Close)
    (order : occasions.Pairwise fun earlier later => earlier.moment ≤ later.moment)
    (count : total.toNat = reception.repeats.toNat + moments.length) :
    ∃ after, attend d present occasions station =
        .ok (Reception.handOut ⟨reception.command, total⟩
          ((moments.getLastD seen).micros + debounceWindow)
          (occasions.filterMap Occasion.reading?)) after ∧
      after.tally = station.tally := by
  induction occasions generalizing station reception seen moments with
  | nil => exact ⟨station, rfl, rfl⟩
  | cons occasion later ih =>
      obtain ⟨first, rest⟩ := List.pairwise_cons.mp order
      cases occasion with
      | arrival packet moment =>
          cases moments with
          | nil => cases arrivals
          | cons next moments =>
              obtain ⟨here, others⟩ := List.cons.inj arrivals
              obtain ⟨rfl, rfl⟩ := Prod.mk.inj here
              obtain ⟨between, heard, holds, tally⟩ :=
                holds.hear_copy patient receives carries moment
              have again : reception.again.repeats.toNat = reception.repeats.toNat + 1 :=
                Reception.repeats_again (by
                  have bound := total.toNat_lt
                  rw [List.length_cons] at count
                  omega)
              obtain ⟨after, attended, same⟩ := ih holds carries others
                (List.isChain_cons_cons.mp close).2 rest
                (by rw [again, count, List.length_cons]; omega)
              exact ⟨after, by rw [attend_arrival heard, attended, List.getLastD_cons]; rfl,
                same.trans tally⟩
      | reading now =>
          have notBefore : ∀ moment ∈ moments, now ≤ moment :=
            Occasion.le_of_arrival first arrivals
          by_cases settled : (moments.getLastD seen).micros + debounceWindow ≤ now.micros
          · cases moments with
            | nil =>
                obtain ⟨queue, collected, empty⟩ := holds.collect_settled settled
                obtain rfl : total = reception.repeats := UInt16.toNat_inj.mp count
                have silence : later.filterMap Occasion.arrival? = [] := arrivals
                refine ⟨{ station with queue }, ?_, rfl⟩
                rw [attend_reading collected (attend_nothing empty silence)]
                exact congrArg (EStateM.Result.ok · _) (if_pos settled).symm
            | cons next moments =>
                rw [List.getLastD_cons] at settled
                have last : now.micros ≤ (moments.getLastD next).micros :=
                  notBefore _ List.getLastD_mem_cons
                unfold debounceWindow at settled
                omega
          · have early : now.micros < seen.micros + debounceWindow := by
              cases moments with
              | nil => exact Nat.lt_of_not_le settled
              | cons next moments =>
                  exact Nat.lt_of_le_of_lt (notBefore next List.mem_cons_self)
                    (List.isChain_cons_cons.mp close).1
            obtain ⟨after, attended, same⟩ := ih holds carries arrivals close rest count
            refine ⟨after, ?_, same⟩
            rw [attend_reading (holds.collect_early early) attended]
            exact congrArg (EStateM.Result.ok · after) (if_neg settled).symm

/-- A press of which frames come close to each other is received once, with all its
copies, by the first reader who comes when the window has passed since the last. -/
theorem attend_press (patient : d.Patient) (receives : d.Receives present) {command : Command}
    {begin : Instant} {total : UInt16} (holds : station.Holds [])
    (carries : frame.decode = .ok command)
    (arrivals : occasions.filterMap Occasion.arrival? =
      (begin :: moments).map fun moment => (frame.bytes, moment))
    (close : (begin :: moments).IsChain Instant.Close)
    (order : occasions.Pairwise fun earlier later => earlier.moment ≤ later.moment)
    (count : total.toNat = moments.length) :
    ∃ after, attend d present occasions station =
        .ok (Reception.handOut ⟨command, total⟩
          ((moments.getLastD begin).micros + debounceWindow)
          (occasions.filterMap Occasion.reading?)) after ∧
      after.tally = station.tally.bump .heard := by
  induction occasions with
  | nil => cases arrivals
  | cons occasion later ih =>
      obtain ⟨first, rest⟩ := List.pairwise_cons.mp order
      cases occasion with
      | arrival packet moment =>
          obtain ⟨here, others⟩ := List.cons.inj arrivals
          obtain ⟨rfl, rfl⟩ := Prod.mk.inj here
          obtain ⟨between, heard, started, tally⟩ :=
            holds.hear_first patient receives carries moment
          obtain ⟨after, attended, same⟩ := attend_copies patient receives started carries others
            close rest (by rw [count]; exact (Nat.zero_add _).symm)
          exact ⟨after, by rw [attend_arrival heard, attended]; rfl, by rw [same, tally]⟩
      | reading now =>
          have notBefore := Occasion.le_of_arrival first arrivals
          have early : ¬(moments.getLastD begin).micros + debounceWindow ≤ now.micros := by
            have last : now.micros ≤ (moments.getLastD begin).micros :=
              notBefore _ List.getLastD_mem_cons
            unfold debounceWindow
            omega
          obtain ⟨after, attended, tally⟩ := ih arrivals rest
          refine ⟨after, ?_, tally⟩
          rw [attend_reading (holds.collect_nothing now) attended]
          exact congrArg (EStateM.Result.ok · after) (if_neg early).symm

end Station

end ShutterRadio
