/-
# The cadence of a burst

Every frame of a burst has a due time, counted from one reading of the clock,
and waits for it before it goes on air.  So on no device is a frame sent before
it is due, and on a precise one it is sent just then, or as soon as the packet
before it has left the antenna.  A packet that takes too long therefore delays
the frames that become due meanwhile, and no others.

`burst_cadence` says so of every burst without a failing call.  How long packets
are on air is up to the device; nothing is said of it here.

A sequencer needs only one deadline, which it moves on after every frame.  Each
stride stops at the end of the timeline, and so does their sum, so bursts are the
same either way: that is `burst_eq_sequenced`.
-/

import Mathlib
import ShutterRadio.Proofs.Burst.Precise
import ShutterRadio.Proofs.Program.Account

namespace ShutterRadio

namespace Burst

/-- When a frame of a burst is due, counted from the wake pulse; the first frame
has number 0. -/
def due : Nat → Nat
  | 0 => firstFrameDelay
  | number + 1 => repeatDue number

theorem due_zero : due 0 = 29000 := rfl

theorem due_succ (number : Nat) : due (number + 1) = 144000 + 139000 * number := by
  rw [due, repeatDue, firstFrameDelay, firstRepeatDelay, repeatInterval, Nat.mul_comm]

theorem later_repeatDue_zero (mark : Instant) :
    mark.later (repeatDue 0) = (mark.later firstFrameDelay).later firstRepeatDelay := by
  rw [Instant.later_later, repeatDue, Nat.zero_mul, Nat.add_zero]

theorem later_repeatDue_succ (mark : Instant) (number : Nat) :
    mark.later (repeatDue (number + 1)) = (mark.later (repeatDue number)).later repeatInterval := by
  rw [Instant.later_later, repeatDue, repeatDue, Nat.succ_mul, Nat.add_assoc _ (number * _)]

/-- The due times of a burst are that of the first frame and those of the repeats. -/
theorem map_due_range (repeats : Nat) :
    (List.range (repeats + 1)).map due =
      firstFrameDelay :: (List.range repeats).map repeatDue := by
  rw [List.range_succ_eq_map, List.map_cons, List.map_map]
  rfl

/-- The repeats of a plan, by their due times. -/
theorem flatMap_range (packet : List UInt8) (repeats : Nat) :
    (List.range repeats).flatMap (fun number =>
        [Step.await (repeatDue number), .ask (.transmit packet)]) =
      ((List.range repeats).map repeatDue).flatMap fun offset =>
        [.await offset, .ask (.transmit packet)] := by
  rw [List.flatMap_map]

/-- Frames that are sent one after the other, each as soon as it is due and the
one before it has left the antenna. -/
inductive Chained (mark : Instant) :
    (free : Instant) → List Nat → List Airing → (last : Instant) → Prop
  | nil (free : Instant) : Chained mark free [] [] free
  | cons {free last : Instant} {offset : Nat} {offsets : List Nat} {airing : Airing}
      {airings : List Airing} :
      airing.begun.micros = max (mark.later offset).micros free.micros →
      Chained mark airing.ended offsets airings last →
      Chained mark free (offset :: offsets) (airing :: airings) last

/-- What is said of neighbours, said by number. -/
theorem Chained.begun {mark last : Instant} {offsets : List Nat} {first : Airing}
    {airings : List Airing} (chained : Chained mark first.ended offsets airings last) (number : Nat)
    (sent : number < airings.length) (planned : number < offsets.length) :
    airings[number].begun.micros = max (mark.later offsets[number]).micros
      ((first :: airings).get ⟨number, Nat.lt_succ_of_lt sent⟩).ended.micros := by
  generalize start : first.ended = free at chained
  induction chained generalizing first number with
  | nil free => cases sent
  | cons begun _ ih =>
      cases number with
      | zero =>
          subst start
          exact begun
      | succ number =>
          exact ih number (Nat.lt_of_succ_lt_succ sent) (Nat.lt_of_succ_lt_succ planned) rfl

/-- The chain ends when its last frame has left the antenna. -/
theorem Chained.last {mark free last : Instant} {offsets : List Nat} {airings : List Airing}
    (chained : Chained mark free offsets airings last) :
    last = (airings.map Airing.ended).getLastD free := by
  induction chained with
  | nil free => rfl
  | cons _ _ ih => rw [ih, List.map_cons, List.getLastD_cons]

end Burst

namespace Program

/-! ## The running deadline -/

section Sequenced

variable {ε : Type}

/-- A call that ends a burst if it fails. -/
def attempt (asked : Call) : ExceptT ε (Program ε) asked.Reply := once (.call asked)

/-- The repeats of a burst, with a deadline that is moved on after each of them. -/
def repeating (packet : List UInt8) : Nat → Instant → ExceptT ε (Program ε) Unit
  | 0, _ => pure ()
  | count + 1, deadline => do
      ExceptT.lift (once (.wait deadline))
      attempt (.transmit packet)
      repeating packet count (deadline.later Burst.repeatInterval)

/-- A burst as a sequencer sends it, with one deadline that runs along. -/
def sequenced (frame : Frame) (repeats : UInt16) : ExceptT ε (Program ε) Unit := do
  attempt (.setSync [])
  attempt (.setFormat false 2)
  let mark : Instant ← ExceptT.lift (once .clock)
  attempt (.transmit Burst.wakePattern)
  attempt (.setSync Burst.firstSync)
  attempt (.setFormat true 7)
  let deadline := mark.later Burst.firstFrameDelay
  ExceptT.lift (once (.wait deadline))
  attempt (.transmit frame.bytes)
  attempt (.setSync Burst.repeatSync)
  repeating frame.bytes repeats.toNat (deadline.later Burst.firstRepeatDelay)

theorem attempt_eq_play (asked : Call) {mark : Instant} {rest : List Burst.Step}
    {later : ExceptT ε (Program ε) Unit}
    (same : later.run = play mark rest) :
    (attempt asked >>= fun _ => later).run = play mark (.ask asked :: rest) := by
  refine congrArg (Program.act (.call asked)) (funext fun answer => ?_)
  cases answer with
  | ok reply => exact same
  | error fault => rfl

/-- The deadline of a repeat is what its number says. -/
theorem repeating_eq_play (packet : List UInt8) (mark : Instant) (count number : Nat) :
    (repeating packet count (mark.later (Burst.repeatDue number)) : ExceptT ε _ Unit).run =
      play mark ((List.range' number count).flatMap fun number =>
        [.await (Burst.repeatDue number), .ask (.transmit packet)]) := by
  induction count generalizing number with
  | zero => rfl
  | succ count ih =>
      refine congrArg (Program.act (.wait _)) (funext fun _ => attempt_eq_play _ ?_)
      rw [← Burst.later_repeatDue_succ]
      exact ih (number + 1)

/-- A burst by its due times is the burst by its running deadline. -/
theorem burst_eq_sequenced (frame : Frame) (repeats : UInt16) :
    burst frame repeats = (sequenced frame repeats : ExceptT ε (Program ε) Unit).run := by
  symm
  refine attempt_eq_play _ (attempt_eq_play _ ?_)
  refine congrArg (Program.act .clock) (funext fun (mark : Instant) => ?_)
  refine attempt_eq_play _ (attempt_eq_play _ (attempt_eq_play _ ?_))
  refine congrArg (Program.act (.wait _)) (funext fun _ => ?_)
  refine attempt_eq_play _ (attempt_eq_play _ ?_)
  rw [← Burst.later_repeatDue_zero, repeating_eq_play, List.range_eq_range']
  rfl

end Sequenced

/-! ## The frames of a burst -/

variable {σ ε τ : Type} {d : Device σ ε τ} {mark : Instant} {before after : Station σ}
  {deeds : List (Deed ε)} {result : Except ε Unit} {rest : List Burst.Step}

/-- A call of a plan that does not fail, and what comes after it. -/
theorem runs_play_ask {asked : Call}
    (runs : Runs d (play mark (.ask asked :: rest)) before deeds result after)
    (unfailing : Deed.Unfailing deeds) :
    ∃ reply between more,
      deeds = ⟨.call asked, .ok reply, d.time before.device, d.time between.device⟩ :: more ∧
      (∃ activity, between.device = (d.perform activity asked before.device).device) ∧
      Runs d (play mark rest) between more result after ∧ Deed.Unfailing more := by
  obtain ⟨answer, between, more, performed, rfl, further⟩ := runs_act.mp runs
  obtain ⟨here, there⟩ := unfailing.of_cons
  obtain ⟨ready, journal, rfl⟩ := Station.call_eq_ok performed
  cases answer with
  | ok reply => exact ⟨reply, _, more, rfl, ⟨_, rfl⟩, further, there⟩
  | error fault => cases here _ rfl

/-- A wait of a plan, and what comes after it. -/
theorem runs_play_await {offset : Nat}
    (runs : Runs d (play mark (.await offset :: rest)) before deeds result after)
    (unfailing : Deed.Unfailing deeds) :
    ∃ between more,
      deeds = ⟨.wait (mark.later offset), (), d.time before.device, d.time between.device⟩ :: more ∧
      mark.later offset ≤ d.time between.device ∧
      (d.IsPrecise → (d.time between.device).micros =
        max (mark.later offset).micros (d.time before.device).micros) ∧
      Runs d (play mark rest) between more result after ∧ Deed.Unfailing more := by
  obtain ⟨answer, between, more, performed, rfl, further⟩ := runs_act.mp runs
  have waited := (Station.passing_eq_ok performed).1
  refine ⟨between, more, rfl, (d.wait_reaches _ waited).1, fun precise => ?_, further,
    unfailing.of_cons.2⟩
  rw [precise.timebase.time_wait _ waited, Nat.max_comm]

/-- A frame of a plan, which waits until it is due and is sent then. -/
theorem runs_play_frame {offset : Nat} {packet : List UInt8}
    (runs : Runs d (play mark (.await offset :: .ask (.transmit packet) :: rest))
      before deeds result after) (unfailing : Deed.Unfailing deeds) :
    ∃ airing between more,
      deeds.filterMap Deed.airing? = airing :: more.filterMap Deed.airing? ∧
      airing.packet = packet ∧ mark.later offset ≤ airing.begun ∧
      airing.ended = d.time between.device ∧
      (d.IsPrecise → airing.begun.micros =
        max (mark.later offset).micros (d.time before.device).micros) ∧
      Runs d (play mark rest) between more result after ∧ Deed.Unfailing more := by
  obtain ⟨ready, others, rfl, reached, precisely, toSend, noFault⟩ :=
    runs_play_await runs unfailing
  obtain ⟨reply, between, more, rfl, -, further, unfailing⟩ := runs_play_ask toSend noFault
  exact ⟨⟨packet, d.time ready.device, d.time between.device⟩, between, more, rfl, rfl, reached,
    rfl, precisely, further, unfailing⟩

/-- Frames of a plan, one after the other. -/
theorem runs_play_frames {offsets : List Nat} {packet : List UInt8}
    (runs : Runs d (play mark (offsets.flatMap fun offset =>
      [.await offset, .ask (.transmit packet)])) before deeds result after)
    (unfailing : Deed.Unfailing deeds) :
    result = .ok () ∧
      (deeds.filterMap Deed.airing?).map Airing.packet = List.replicate offsets.length packet ∧
      List.Forall₂ (fun offset airing => mark.later offset ≤ airing.begun)
        offsets (deeds.filterMap Deed.airing?) ∧
      (d.IsPrecise → Burst.Chained mark (d.time before.device) offsets
        (deeds.filterMap Deed.airing?) (d.time after.device)) := by
  induction offsets generalizing before deeds with
  | nil =>
      cases runs
      exact ⟨rfl, rfl, .nil, fun _ => .nil _⟩
  | cons offset offsets ih =>
      obtain ⟨airing, between, more, first, bytes, due, ended, precisely, runs, unfailing⟩ :=
        runs_play_frame runs unfailing
      obtain ⟨well, packets, inTime, chained⟩ := ih runs unfailing
      rw [first]
      refine ⟨well, ?_, .cons due inTime, fun precise =>
        .cons (precisely precise) (ended ▸ chained precise)⟩
      rw [List.map_cons, bytes, packets, List.length_cons, List.replicate_succ]

/-- The mark of a plan, and what comes after it. -/
theorem runs_play_mark
    (runs : Runs d (play mark (.mark :: rest)) before deeds result after)
    (unfailing : Deed.Unfailing deeds) :
    ∃ now between more,
      deeds = ⟨.clock, now, d.time before.device, d.time between.device⟩ :: more ∧
      Runs d (play now rest) between more result after ∧ Deed.Unfailing more := by
  obtain ⟨now, between, more, -, rfl, further⟩ := runs_act.mp runs
  exact ⟨now, between, more, rfl, further, unfailing.of_cons.2⟩

/-- Setting a sync word or a format takes a precise device no time. -/
theorem time_of_setup (precise : d.IsPrecise) {asked : Call}
    (other : ∀ packet, asked ≠ .transmit packet) {between : Station σ}
    (performed : ∃ activity, between.device = (d.perform activity asked before.device).device) :
    d.time between.device = d.time before.device := by
  obtain ⟨activity, same⟩ := performed
  rw [same]
  exact precise.perform activity asked _ other

/-- A burst without a failing call, deed by deed: two calls, the reading that due
times count from, the wake pulse, and then the frames. -/
theorem runs_burst {frame : Frame} {repeats : UInt16}
    (runs : Runs d (burst frame repeats) before deeds result after)
    (unfailing : Deed.Unfailing deeds) :
    result = .ok () ∧ ∃ mark wake framed front behind begun ended,
      deeds = front ++ ⟨.clock, mark, begun, ended⟩ ::
        ⟨.call (.transmit Burst.wakePattern), .ok (), wake.begun, wake.ended⟩ :: behind ∧
      deeds.filterMap Deed.airing? = wake :: framed ∧ wake.packet = Burst.wakePattern ∧
      framed.map Airing.packet = List.replicate (repeats.toNat + 1) frame.bytes ∧
      List.Forall₂ (fun offset airing => mark.later offset ≤ airing.begun)
        ((List.range (repeats.toNat + 1)).map Burst.due) framed ∧
      (d.IsPrecise → Burst.Chained mark wake.ended
        ((List.range (repeats.toNat + 1)).map Burst.due) framed (d.time after.device)) := by
  obtain ⟨_, s₁, _, rfl, -, runs, unfailing⟩ := runs_play_ask runs unfailing
  obtain ⟨_, s₂, _, rfl, -, runs, unfailing⟩ := runs_play_ask runs unfailing
  obtain ⟨mark, s₃, _, rfl, runs, unfailing⟩ := runs_play_mark runs unfailing
  obtain ⟨_, s₄, _, rfl, -, runs, unfailing⟩ := runs_play_ask runs unfailing
  obtain ⟨_, s₅, _, rfl, sync, runs, unfailing⟩ := runs_play_ask runs unfailing
  obtain ⟨_, s₆, _, rfl, format, runs, unfailing⟩ := runs_play_ask runs unfailing
  obtain ⟨first, s₇, _, sent, bytes, due, ended, precisely, runs, unfailing⟩ :=
    runs_play_frame runs unfailing
  obtain ⟨_, s₈, _, rfl, resync, runs, unfailing⟩ := runs_play_ask runs unfailing
  rw [List.append_eq, List.nil_append, Burst.flatMap_range] at runs
  obtain ⟨well, packets, inTime, chained⟩ := runs_play_frames runs unfailing
  rw [Burst.map_due_range]
  refine ⟨well, mark, ⟨_, d.time s₃.device, d.time s₄.device⟩, first :: _, [_, _], _, _, _, rfl,
    congrArg (List.cons _) sent, rfl, ?_, .cons due inTime, fun precise => ?_⟩
  · rw [List.length_map, List.length_range] at packets
    exact congrArg₂ List.cons bytes packets
  have toFirst : d.time s₆.device = d.time s₄.device := by
    rw [time_of_setup precise (by simp) format, time_of_setup precise (by simp) sync]
  have toRepeats : d.time s₈.device = first.ended := by
    rw [time_of_setup precise (by simp) resync, ended]
  exact .cons (toFirst ▸ precisely precise) (toRepeats ▸ chained precise)

end Program

/-- A burst keeps its cadence.  On a device that is patient a burst without a
failing call is sent in full: the wake pulse, and all frames.  A frame is not
sent before it is due, counted from the reading of the clock just before the wake
pulse; and on a precise device it is sent at the later one of that moment and the
one when the packet before it has left the antenna, and the burst ends when the
last packet has. -/
theorem burst_cadence {σ ε τ : Type} (d : Device σ ε τ) (patient : d.Patient) (frame : Frame)
    (repeats : UInt16) (station : Station σ)
    (unfailing : Deed.Unfailing ((Program.burst frame repeats).chronicle d station)) :
    ∃ after mark wake framed front behind begun ended,
      Station.burst d frame repeats station = .ok (.ok ()) after ∧
      (Program.burst frame repeats).chronicle d station =
        front ++ ⟨.clock, mark, begun, ended⟩ ::
          ⟨.call (.transmit Burst.wakePattern), .ok (), wake.begun, wake.ended⟩ :: behind ∧
      ((Program.burst frame repeats).chronicle d station).filterMap Deed.airing? =
        wake :: framed ∧
      (wake :: framed).map Airing.packet = Burst.packets frame repeats.toNat ∧
      (∀ number, (sent : number < framed.length) →
        mark.later (Burst.due number) ≤ framed[number].begun) ∧
      (d.IsPrecise →
        (∀ number, (sent : number < framed.length) →
          framed[number].begun.micros = max (mark.later (Burst.due number)).micros
            ((wake :: framed).get ⟨number, Nat.lt_succ_of_lt sent⟩).ended.micros) ∧
        d.time after.device = ((wake :: framed).getLast (List.cons_ne_nil _ _)).ended) := by
  obtain ⟨result, after, runs⟩ := Program.exists_runs patient (Program.burst frame repeats) station
  obtain ⟨rfl, mark, wake, framed, front, behind, begun, ended, order, airings, pattern, packets,
    inTime, chained⟩ := Program.runs_burst runs unfailing
  have length : framed.length = repeats.toNat + 1 := by
    simpa using inTime.length_eq.symm
  refine ⟨after, mark, wake, framed, front, behind, begun, ended, (Program.runs_iff.mp runs).1,
    order, airings, ?_, fun number sent => ?_, fun precise => ⟨fun number sent => ?_, ?_⟩⟩
  · rw [List.map_cons, pattern, packets, Burst.packets]
  · simpa using inTime.get (by simp; omega) sent
  · have begun := (chained precise).begun number sent (by simp; omega)
    simpa using begun
  · rw [(chained precise).last, List.getLastD_map, List.getLast_eq_getLastD]

/-- A station with an ideal device, whose second packet is on air for so long that
it delays the third, but not the fourth. -/
def Ideal.overrunning : Station Ideal :=
  .fresh .standard none ⟨.origin, [5000, 150000, 1000, 1000], []⟩

theorem burst_cadence_overrunning :
    Device.ideal.Patient ∧ Device.ideal.IsPrecise ∧
    Deed.Unfailing ((Program.burst default 2).chronicle Device.ideal Ideal.overrunning) ∧
    (∃ after, Station.burst Device.ideal default 2 Ideal.overrunning = .ok (.ok ()) after) ∧
    (((Program.burst default 2).chronicle Device.ideal Ideal.overrunning).filterMap
      Deed.airing?).map (fun airing => (airing.begun.micros, airing.ended.micros)) =
        [(0, 5000), (29000, 179000), (179000, 180000), (283000, 284000)] := by
  have unfailing :
      Deed.Unfailing ((Program.burst default 2).chronicle Device.ideal Ideal.overrunning) :=
    Deed.unfailing_of_isEmpty _
  obtain ⟨after, _, _, _, _, _, _, _, sent, -⟩ :=
    burst_cadence Device.ideal Device.patient_ideal default 2 Ideal.overrunning unfailing
  exact ⟨Device.patient_ideal, Device.isPrecise_ideal, unfailing, ⟨after, sent⟩, by cbv⟩

end ShutterRadio
