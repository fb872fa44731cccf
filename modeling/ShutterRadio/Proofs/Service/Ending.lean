/-
# A run ends when its agenda does

A run has no bound of its own: a station takes steps until one of them says that it has
stopped.  But every step takes one item off its agenda, and a shutdown that waits is the
last of them.  So a run takes a step for each item that was there in the beginning, no
more and no fewer, whatever calls fail and however often the ready line rises while the
radio sends: `Station.run_ends`.

A run is a program as well (`Program.run`), so nobody has to leave it alone: producers may
ask for what they like meanwhile, and read and close, as long as they announce no packet.
-/

import ShutterRadio.Proofs.Burst.Precise
import ShutterRadio.Proofs.Service.Agenda

namespace ShutterRadio

variable {σ ε τ α β : Type}

/-! ## Runs as programs -/

namespace Program

/-- Take steps until the station has shut down, at most `limit` of them. -/
def steps (describe : ε → String) (setup : Setup) : (limit : Nat) → Program ε Bool
  | 0 => pure false
  | limit + 1 => do
      match ← step describe setup with
      | .stopped => pure true
      | .goesOn => steps describe setup limit

/-- Start, and serve until the station has shut down. -/
def run (describe : ε → String) (setup : Setup) (limit : Nat) : Program ε Bool := do
  start describe setup
  steps describe setup limit

/-- Two programs one after the other: the second is carried out on what the first leaves. -/
theorem alone_bind (d : Device σ ε τ) (program : Program ε α) (rest : α → Program ε β)
    (station : Station σ) :
    (program >>= rest).alone d station =
      match program.alone d station with
      | .ok result after => (rest result).alone d after
      | .error reason after => .error reason after := by
  induction program generalizing station with
  | done result => rfl
  | act first next ih =>
      simp only [act_bind, alone]
      cases first.perform d station with
      | ok answer after => exact ih answer after
      | error reason after => rfl

/-- Whatever a program does, it leaves the setup as it is. -/
theorem Runs.setup {d : Device σ ε τ} {program : Program ε α} {before after : Station σ}
    {deeds : List (Deed ε)} {result : α} (runs : Runs d program before deeds result after) :
    after.setup = before.setup := by
  induction runs with
  | done result station => rfl
  | @act first next before between after answer deeds result performed _ ih =>
      have here := Deed.explains d ⟨first, answer, d.time before.device, d.time between.device⟩
        performed
      exact ih.trans here.setup

end Program

namespace Station

variable (d : Device σ ε τ) (limit : Nat) (station : Station σ)

theorem setup_of_follow {program : (ε → String) → Setup → Program ε α} {result : α}
    {after : Station σ} {d : Device σ ε τ} {station : Station σ}
    (followed : follow d program station = .ok result after) : after.setup = station.setup :=
  (Program.runs_iff.mpr ⟨followed, rfl⟩).setup

theorem steps_eq : steps d limit station =
    (Program.steps d.describe station.setup limit).alone d station := by
  induction limit generalizing station with
  | zero => rfl
  | succ limit ih =>
      have one : (Program.step d.describe station.setup).alone d station = step d station := rfl
      rw [Program.steps, Program.alone_bind, one]
      simp only [steps, bind, EStateM.bind]
      cases stepped : step d station with
      | error reason after => rfl
      | ok flow after =>
          cases flow with
          | stopped => rfl
          | goesOn =>
              have others := ih after
              rw [setup_of_follow stepped] at others
              exact others

/-- A run is its program carried out with nobody else around. -/
theorem run_eq : run d limit station =
    (Program.run d.describe station.setup limit).alone d station := by
  have one : (Program.start d.describe station.setup).alone d station = start d station := rfl
  rw [Program.run, Program.alone_bind, one]
  simp only [run, bind, EStateM.bind]
  cases started : start d station with
  | error reason after => rfl
  | ok _ after =>
      have others := steps_eq d limit after
      rw [setup_of_follow started] at others
      exact others

end Station

/-! ## Item by item -/

/-- A run that has come to its end: the station was started, and took a step for each item
that was on its agenda then, in that order.  Nothing waits any more, the queue says that
the station has shut down, and the last that the radio was asked is to stand by. -/
structure Station.Ends (d : Device σ ε τ) (before : Station σ) (deeds : List (Deed ε))
    (after : Station σ) : Prop where
  turns : ∃ started turns, deeds = started ++ turns.flatMap Turn.deeds ∧
    (Program.start d.describe before.setup).Leads started (.done ()) ∧
      List.Forall₂ (Turn.Handles d before.setup) before.queue.agenda turns
  pending : after.queue.pending = 0
  activity : after.queue.activity = .shutDown
  standby : ∃ answered, (Deed.calls deeds).getLast? = some (.standby, answered)

namespace Program

variable {d : Device σ ε τ} {setup : Setup} {before after : Station σ} {deeds : List (Deed ε)}
  {limit : Nat} {result : Bool}

/-- A station that was started has not shut down, and faces what was on the agenda. -/
theorem faces_of_start (sending : d.RaisesWhenSending) (closing : before.queue.closing = true)
    (amid : (start d.describe setup).Amid d (· ≠ .announce) before deeds (.done ()) after) :
    after.Faces before.queue.agenda := by
  have explains := amid.explains closing
  have quiet := isQuiet_start d.describe setup
  have nothing := Account.ofDeeds_of_quiet (amid.leads.among quiet)
  have agenda := amid.agenda_of_aside sending closing (aside_start d.describe setup)
    (by rw [nothing]; rfl)
  refine ⟨explains.closing.trans closing, agenda, ?_⟩
  -- The first act makes the queue idle, and the others leave it at that.
  obtain ⟨here, _, _, more, asked, performed, rfl, rest⟩ := amid_once_bind amid
  injection performed with _ changed
  subst changed
  intro shut
  have stays := (Station.explains_of_asked asked closing).closing
  have others := Account.ofDeeds_of_quiet (rest.leads.among (quiet.2 ()))
  rcases (rest.explains (stays.trans closing)).activity shut with idle | stops
  · cases idle
  · rw [others] at stops
    cases stops

/-- A station takes care of an agenda item by item, and stops with the shutdown. -/
theorem ends_steps (sending : d.RaisesWhenSending) {front : List (Option Request)}
    (early : some .shutdown ∉ front) (faces : before.Faces (front ++ [some .shutdown]))
    (amid : (steps d.describe setup limit).Amid d (· ≠ .announce) before deeds
      (.done result) after) :
    result = decide (front.length < limit) ∧ (front.length < limit →
      (∃ turns, deeds = turns.flatMap Turn.deeds ∧
        List.Forall₂ (Turn.Handles d setup) (front ++ [some .shutdown]) turns) ∧
      after.queue.agenda = [] ∧ after.queue.activity = .shutDown ∧
      ∃ answered, (Deed.calls deeds).getLast? = some (.standby, answered)) := by
  -- What is left of the limit and of the agenda shrinks together, by one in each step.
  induction limit generalizing front before deeds with
  | zero =>
      obtain ⟨-, same, -⟩ := amid_done amid
      cases same
      exact ⟨rfl, nofun⟩
  | succ limit ih =>
      obtain ⟨first, second, flow, between, rfl, stepped, rest⟩ := amid_bind amid
      cases front with
      | nil =>
          obtain ⟨handles, closing, agenda, shut⟩ := handles_step sending faces stepped
          obtain rfl : flow = .stopped := Option.some.inj handles.flow
          obtain ⟨rfl, same, -⟩ := amid_done rest
          cases same
          refine ⟨by simp, fun _ => ⟨⟨[⟨.step, first, some .stopped⟩], by simp, ?_⟩, ?_, ?_, ?_⟩⟩
          · exact .cons handles .nil
          · rw [rest.agenda_of_aside sending closing (uses_done _) rfl, agenda]
          · rw [rest.activity (uses_done _)]
            exact shut.mpr rfl
          · obtain ⟨answered, calls⟩ := handles.standby rfl
            refine ⟨answered, ?_⟩
            rw [List.append_nil, calls]
            rfl
      | cons item front =>
          obtain ⟨other, early⟩ := not_or.mp (List.mem_cons.not.mp early)
          obtain ⟨handles, closing, agenda, shut⟩ := handles_step sending faces stepped
          have running := mt shut.mp (Ne.symm other)
          obtain rfl : flow = .goesOn := by
            have said := handles.flow
            rw [if_neg (Ne.symm other)] at said
            exact Option.some.inj said
          obtain ⟨same, ends⟩ := ih early ⟨closing, agenda, running⟩ rest
          refine ⟨by simp [same], fun within => ?_⟩
          obtain ⟨⟨turns, split, each⟩, left, shut, answered, last⟩ :=
            ends (Nat.lt_of_succ_lt_succ within)
          refine ⟨⟨⟨.step, first, some .goesOn⟩ :: turns, by simp [split], .cons handles each⟩,
            left, shut, answered, ?_⟩
          rw [Deed.calls_append, List.getLast?_append, last]
          rfl

end Program

/-- A run ends once a shutdown waits, with as many steps as there is to do: one for each
request that waits, and one more if a packet was announced.  On a patient device whose
ready line rises while it sends, and on no other occasion, with whatever calls failing:

* left alone, a run that is given a limit comes to its end, and says that the station has
  shut down if and only if the limit allows so many steps;
* among producers who announce nothing, however far a run has come, what is left of it
  comes to its end and says the same;
* and however it came to its end, it took care of everything that waited in the beginning,
  item by item, if it was given so many steps. -/
theorem Station.run_ends (d : Device σ ε τ) (patient : d.Patient)
    (sending : d.RaisesWhenSending) {station : Station σ} (reachable : station.queue.Reachable)
    (awaited : .shutdown ∈ station.queue.requests.toList) (limit : Nat) :
    let needed := station.queue.pending + if station.queue.ready then 1 else 0
    let program := Program.run d.describe station.setup limit
    (∃ after, run d limit station = .ok (decide (needed ≤ limit)) after ∧
      (needed ≤ limit → station.Ends d (program.chronicle d station) after)) ∧
    (∀ deeds left between, program.Amid d (· ≠ .announce) station deeds left between →
      ∃ more after, left.Amid d (· ≠ .announce) between more (.done (decide (needed ≤ limit)))
        after) ∧
    ∀ deeds result after, program.Amid d (· ≠ .announce) station deeds (.done result) after →
      result = decide (needed ≤ limit) ∧ (needed ≤ limit → station.Ends d deeds after) := by
  intro needed program
  obtain ⟨front, split, early⟩ := reachable.orderly.agenda_eq awaited
  have count : front.length < limit ↔ needed ≤ limit := by
    have length := station.queue.length_agenda
    rw [split, List.length_append, List.length_singleton] at length
    rw [show needed = front.length + 1 from length.symm]
    exact Nat.lt_iff_add_one_le
  have ended (deeds : List (Deed ε)) (result : Bool) (after : Station σ)
      (amid : program.Amid d (· ≠ .announce) station deeds (.done result) after) :
      result = decide (needed ≤ limit) ∧ (needed ≤ limit → station.Ends d deeds after) := by
    obtain ⟨started, served, _, between, rfl, begun, rest⟩ := Program.amid_bind amid
    have faces := Program.faces_of_start sending (reachable.orderly.closing awaited) begun
    rw [split] at faces
    obtain ⟨rfl, ends⟩ := Program.ends_steps sending early faces rest
    refine ⟨decide_eq_decide.mpr count, fun within => ?_⟩
    obtain ⟨⟨turns, rfl, each⟩, left, shut, answered, last⟩ := ends (count.mpr within)
    refine ⟨⟨started, turns, rfl, begun.leads, split ▸ each⟩, ?_, shut, answered, ?_⟩
    · have none := after.queue.length_agenda
      rw [left] at none
      exact Nat.eq_zero_of_add_eq_zero_right none.symm
    · rw [Deed.calls_append, List.getLast?_append, last]
      rfl
  refine ⟨?_, fun deeds left between amid => ?_, ended⟩
  · obtain ⟨result, after, runs⟩ := Program.exists_runs patient program station
    obtain ⟨rfl, ends⟩ := ended _ _ _ runs.amid
    exact ⟨after, (run_eq d limit station).trans (Program.runs_iff.mp runs).1, ends⟩
  · obtain ⟨result, after, runs⟩ := Program.exists_runs patient left between
    obtain ⟨rfl, -⟩ := ended _ _ _ (amid.trans runs.amid)
    exact ⟨_, after, runs.amid⟩

/-! ## A radio that never stands by -/

namespace Bench

/-- A device like the ideal one, but its ready line rises whenever it sends, and it never
stands by. -/
def restless : Device Ideal Unit Empty where
  toTimebase := Device.ideal.toTimebase
  perform _ asked s :=
    ⟨(s.comply asked).2, if asked = .standby then .failed () else .answered (s.comply asked).1, [],
      asked.packet?.isSome⟩
  indicate _ s := s
  describe _ := "no standby"

theorem patient_restless : restless.Patient where
  pause _ _ := ⟨_, rfl⟩
  perform _ _ _ reason := reason.elim

theorem raisesWhenSending_restless : restless.RaisesWhenSending := by
  intro activity asked s raised
  cases asked with
  | transmit packet => exact ⟨packet, rfl⟩
  | _ => cases raised

/-- A packet was announced, and something is to be sent before the station shuts down. -/
def leaving : Station Ideal where
  setup := .standard
  indicator := none
  tally := ⟨0, 0, 0, 0, 0⟩
  queue :=
    { requests := ⟨[.transmit ⟨⟨5, 7, .up⟩, 1⟩, .listen, .shutdown], by decide⟩
      received := .empty
      ready := true
      closing := true
      activity := .idle }
  device := ⟨.origin, [], []⟩
  journal := []

theorem reachable_leaving : leaving.queue.Reachable := by
  have asked := Queue.Reachable.empty.offer
    (show Request.transmit ⟨⟨5, 7, .up⟩, 1⟩ ≠ .shutdown by simp)
  have listening := asked.offer (show Request.listen ≠ .shutdown by simp)
  exact listening.close.signal

end Bench

/-- It takes four steps, not three, though the first burst raises the line again. -/
theorem Station.run_ends_raising :
    Bench.restless.Patient ∧ Bench.restless.RaisesWhenSending ∧
    Bench.leaving.queue.Reachable ∧ .shutdown ∈ Bench.leaving.queue.requests.toList ∧
    (∃ after, run Bench.restless 3 Bench.leaving = .ok false after) ∧
    ∃ deeds after, run Bench.restless 4 Bench.leaving = .ok true after ∧
      Bench.leaving.Ends Bench.restless deeds after := by
  have waits : .shutdown ∈ Bench.leaving.queue.requests.toList := by decide
  have short := run_ends Bench.restless Bench.patient_restless Bench.raisesWhenSending_restless
    Bench.reachable_leaving waits 3
  have long := run_ends Bench.restless Bench.patient_restless Bench.raisesWhenSending_restless
    Bench.reachable_leaving waits 4
  obtain ⟨⟨early, stops, -⟩, -⟩ := short
  obtain ⟨⟨after, ran, ends⟩, -⟩ := long
  exact ⟨Bench.patient_restless, Bench.raisesWhenSending_restless, Bench.reachable_leaving, waits,
    ⟨early, stops⟩, _, after, ran, ends (by decide)⟩

end ShutterRadio
