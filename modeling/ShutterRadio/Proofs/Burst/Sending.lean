/-
# A station that sends one press

A station that finds a request to send takes the step of serving it.  Nothing of
that step is on air but the burst, so what is true of a burst carried out by
itself is true of what the step puts on air.

On a precise device, frames begin close to each other: the next one begins when
it is due or when the one before it has left the antenna, whichever is later.
-/

import Mathlib.Data.List.Chain
import ShutterRadio.Proofs.Burst.Cadence
import ShutterRadio.Proofs.Program.Turn
import ShutterRadio.Proofs.Reception.Buffer

namespace ShutterRadio

namespace Burst

/-- A frame is due soon after the one before it. -/
theorem due_succ_le (number : Nat) : due (number + 1) ≤ due number + repeatInterval := by
  cases number with
  | zero =>
      rw [due_succ, due_zero, repeatInterval]
      omega
  | succ number =>
      rw [due_succ, due_succ, repeatInterval]
      omega

theorem isChain_due (count : Nat) :
    ((List.range count).map due).IsChain fun offset next => next ≤ offset + repeatInterval := by
  rw [List.isChain_iff_getElem]
  intro number within
  simpa using due_succ_le number

/-- Frames that follow each other begin close to each other, unless one of them is
on air for very long. -/
theorem Chained.close {mark free last : Instant} {offsets : List Nat} {airings : List Airing}
    (chained : Chained mark free offsets airings last)
    (steady : offsets.IsChain fun offset next => next ≤ offset + repeatInterval)
    (short : ∀ airing ∈ airings, airing.ended.since airing.begun < debounceWindow) :
    (airings.map Airing.begun).IsChain Instant.Close := by
  induction chained with
  | nil free => exact .nil
  | cons begun chained ih =>
      obtain ⟨here, later⟩ := List.forall_mem_cons.mp short
      have rest := ih steady.tail later
      cases chained with
      | nil => exact .singleton _
      | cons next chained =>
          refine .cons_cons ?_ rest
          have interval := (List.isChain_cons_cons.mp steady).1
          simp only [Instant.Close, Instant.since, Instant.micros_later, repeatInterval,
            debounceWindow] at *
          omega

end Burst

namespace Program

variable {σ ε τ α : Type} {d : Device σ ε τ} {before after : Station σ} {deeds : List (Deed ε)}

theorem Runs.airings_of_quiet {program : Program ε α} {result : α}
    (runs : Runs d program before deeds result after) (quiet : program.Uses Act.IsQuiet) :
    deeds.filterMap Deed.airing? = [] := by
  have nothing := Account.ofDeeds_of_quiet (runs.leads.among quiet)
  exact filterMap_airing?_eq_nil (by rw [nothing]; rfl)

/-- The end of a burst puts nothing on air, and neither does what is quiet after it. -/
theorem Runs.airings_of_settle {describe : ε → String} {remote : UInt32} {ending : Except ε Unit}
    {rest : Program ε Unit}
    (runs : Runs d (settle describe remote ending >>= fun _ => rest) before deeds () after)
    (quiet : rest.Uses Act.IsQuiet) : deeds.filterMap Deed.airing? = [] := by
  apply filterMap_airing?_eq_nil
  rcases runs.leads.satisfies (accounts_settle describe remote ending quiet) with ⟨-, same⟩ | same
  all_goals
    rw [same]
    rfl

variable {describe : ε → String} {setup : Setup} {transmission : Transmission}

/-- Of all that is done to send a press, nothing is on air but the burst. -/
theorem runs_transmit (runs : Runs d (transmit describe setup transmission) before deeds () after) :
    ∃ middle start ending finish, middle ⊆ deeds ∧
      Runs d (burst (.encode setup.key transmission.command) transmission.repeats)
        start middle ending finish ∧
      deeds.filterMap Deed.airing? = middle.filterMap Deed.airing? := by
  obtain ⟨_, _, _, -, rfl, telling⟩ := runs_once_bind.mp runs
  obtain ⟨_, _, _, -, rfl, standing⟩ := runs_once_bind.mp telling
  obtain ⟨quiet, _, _, _, rfl, stood, lighting⟩ := runs_bind.mp standing
  obtain ⟨_, _, _, -, rfl, bursting⟩ := runs_once_bind.mp lighting
  obtain ⟨middle, behind, ending, finish, rfl, sent, settling⟩ := runs_bind.mp bursting
  have before : quiet.filterMap Deed.airing? = [] :=
    stood.airings_of_quiet (isQuiet_report describe trivial)
  have afterwards : behind.filterMap Deed.airing? = [] :=
    settling.airings_of_settle (isQuiet_retreat describe)
  refine ⟨middle, _, ending, finish, fun deed member => by simp [member], sent, ?_⟩
  rw [List.filterMap_cons_none rfl, List.filterMap_cons_none rfl, List.filterMap_append, before,
    List.nil_append, List.filterMap_cons_none rfl, List.filterMap_append, afterwards,
    List.append_nil]

/-- A station that runs and has no packet announced serves the request to send that
waits first. -/
theorem runs_step_of_waiting {flow : Station.Flow} {others : List Request}
    (runs : Runs d (step describe setup) before deeds flow after)
    (running : before.queue.activity ≠ .shutDown) (calm : before.queue.ready = false)
    (waiting : before.queue.requests.toList = .transmit transmission :: others) :
    flow = .goesOn ∧ ∃ middle start ending finish, middle ⊆ deeds ∧
      Runs d (burst (.encode setup.key transmission.command) transmission.repeats)
        start middle ending finish ∧
      deeds.filterMap Deed.airing? = middle.filterMap Deed.airing? := by
  obtain ⟨_, rfl, taking⟩ := runs_step_of_running runs running
  rw [if_neg (by simpa using calm)] at taking
  obtain ⟨request, _, _, taken, rfl, serving⟩ := runs_once_bind.mp taking
  obtain ⟨rfl, rfl⟩ := Station.consult_eq_ok Queue.take taken
  have first : before.queue.calm.take.1 = some (.transmit transmission) :=
    Queue.take_of_cons waiting
  rw [first] at serving
  obtain ⟨served, _, _, _, rfl, sent, done⟩ := runs_bind.mp serving
  cases done
  obtain ⟨middle, start, ending, finish, among, bursting, onAir⟩ := runs_transmit sent
  refine ⟨rfl, middle, start, ending, finish, fun deed member => by simp [among member],
    bursting, ?_⟩
  rw [List.filterMap_cons_none rfl, List.filterMap_cons_none rfl, List.filterMap_cons_none rfl,
    List.append_nil, onAir]

end Program

namespace Station

variable {σ ε τ : Type}

/-- The deeds of the next step of a station with nobody else around. -/
def deeds (d : Device σ ε τ) (station : Station σ) : List (Deed ε) :=
  (Program.step d.describe station.setup).chronicle d station

/-- The packets that its next step puts on air. -/
def airings (d : Device σ ε τ) (station : Station σ) : List Airing :=
  (station.deeds d).filterMap Deed.airing?

/-- A station that finds a request to send puts the burst on air, on a precise
device with frames that begin close to each other if none is on air for longer than
the debounce window. -/
theorem step_sends {d : Device σ ε τ} (patient : d.Patient) (precise : d.IsPrecise)
    {station : Station σ} {transmission : Transmission} {others : List Request}
    (running : station.queue.activity ≠ .shutDown) (calm : station.queue.ready = false)
    (waiting : station.queue.requests.toList = .transmit transmission :: others)
    (unfailing : Deed.Unfailing (station.deeds d))
    (short : ∀ airing ∈ (station.airings d).tail,
      airing.ended.since airing.begun < debounceWindow) :
    ∃ after wake framed, step d station = .ok .goesOn after ∧
      station.airings d = wake :: framed ∧ wake.packet = Burst.wakePattern ∧
      framed.map Airing.packet = List.replicate (transmission.repeats.toNat + 1)
        (Frame.encode station.setup.key transmission.command).bytes ∧
      (framed.map Airing.begun).IsChain Instant.Close := by
  obtain ⟨flow, after, runs⟩ :=
    Program.exists_runs patient (Program.step d.describe station.setup) station
  obtain ⟨rfl, middle, start, ending, finish, among, bursting, onAir⟩ :=
    Program.runs_step_of_waiting runs running calm waiting
  obtain ⟨-, mark, wake, framed, -, -, -, -, -, airings, pattern, packets, -, chained⟩ :=
    Program.runs_burst bursting (unfailing.of_subset among)
  have same : station.airings d = wake :: framed := onAir.trans airings
  rw [same] at short
  exact ⟨after, wake, framed, (Program.runs_iff.mp runs).1, same, pattern, packets,
    (chained precise).close (Burst.isChain_due _) short⟩

end Station

end ShutterRadio
