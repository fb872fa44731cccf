/-
# Programs carried out with nobody else around

`Program.alone` says what becomes of a station that carries out a program by
itself.  `Program.chronicle` lists the deeds of that, and `Program.Runs` relates
the two, so that a run can be taken apart where its program was put together.

A device that is never impatient comes to the end of every program
(`exists_runs`); what it answers to a call may still be a failure.
-/

import ShutterRadio.Proofs.Program.Path

namespace ShutterRadio

/-- A device that refuses no pause and abandons no call. -/
structure Device.Patient {σ ε τ : Type} (d : Device σ ε τ) : Prop where
  pause : ∀ micros s, ∃ s', d.pause micros s = .ok () s'
  perform : ∀ activity asked s reason, (d.perform activity asked s).ending ≠ .abandoned reason

namespace Program

variable {σ ε τ α β : Type}

/-- What a station does when it carries out a program with nobody else around. -/
def chronicle (d : Device σ ε τ) : Program ε α → Station σ → List (Deed ε)
  | .done _, _ => []
  | .act first next, before =>
      match first.perform d before with
      | .ok answer after =>
          ⟨first, answer, d.time before.device, d.time after.device⟩ ::
            chronicle d (next answer) after
      | .error _ _ => []

/-- A program was carried out to its end with these deeds. -/
inductive Runs (d : Device σ ε τ) :
    Program ε α → Station σ → List (Deed ε) → α → Station σ → Prop
  | done (result : α) (station : Station σ) : Runs d (.done result) station [] result station
  | act {first : Act} (next : first.Answer ε → Program ε α) {before between after : Station σ}
      {answer : first.Answer ε} {deeds : List (Deed ε)} {result : α} :
      first.perform d before = .ok answer between →
      Runs d (next answer) between deeds result after →
      Runs d (.act first next) before
        (⟨first, answer, d.time before.device, d.time between.device⟩ :: deeds) result after

variable {d : Device σ ε τ} {program : Program ε α} {before after : Station σ}
  {deeds : List (Deed ε)} {result : α}

/-- What a program comes to is what it runs to, with the deeds of its chronicle. -/
theorem runs_iff : Runs d program before deeds result after ↔
    program.alone d before = .ok result after ∧ deeds = program.chronicle d before := by
  constructor
  · intro runs
    induction runs with
    | done result station => exact ⟨rfl, rfl⟩
    | act next performed _ ih => simp only [alone, chronicle, performed, ih, and_self]
  · rintro ⟨ended, rfl⟩
    induction program generalizing before with
    | done result =>
        injection ended with same unchanged
        subst same unchanged
        exact .done _ _
    | act first next ih =>
        simp only [alone] at ended
        simp only [chronicle]
        cases performed : first.perform d before with
        | ok answer between =>
            rw [performed] at ended
            exact .act next performed (ih answer ended)
        | error reason between =>
            rw [performed] at ended
            cases ended

/-- A run of an act and the rest. -/
theorem runs_act {first : Act} {next : first.Answer ε → Program ε α} :
    Runs d (.act first next) before deeds result after ↔
      ∃ answer between more, first.perform d before = .ok answer between ∧
        deeds = ⟨first, answer, d.time before.device, d.time between.device⟩ :: more ∧
          Runs d (next answer) between more result after := by
  constructor
  · intro runs
    cases runs with
    | act _ performed runs => exact ⟨_, _, _, performed, rfl, runs⟩
  · rintro ⟨answer, between, more, performed, rfl, runs⟩
    exact .act next performed runs

/-- A run of two programs one after the other is a run of each. -/
theorem runs_bind {rest : α → Program ε β} {final : β} :
    Runs d (program >>= rest) before deeds final after ↔
      ∃ first second result between, deeds = first ++ second ∧
        Runs d program before first result between ∧
          Runs d (rest result) between second final after := by
  induction program generalizing before deeds with
  | done result =>
      constructor
      · exact fun runs => ⟨[], deeds, result, before, rfl, .done _ _, runs⟩
      · rintro ⟨first, second, same, between, rfl, runs, further⟩
        cases runs
        exact further
  | act act next ih =>
      constructor
      · intro runs
        cases runs with
        | act _ performed runs =>
            obtain ⟨first, second, result, between, rfl, earlier, later⟩ := (ih _).mp runs
            exact ⟨_ :: first, second, result, between, rfl, .act next performed earlier, later⟩
      · rintro ⟨first, second, result, between, rfl, runs, further⟩
        cases runs with
        | act _ performed runs =>
            exact .act _ performed ((ih _).mpr ⟨_, _, _, _, rfl, runs, further⟩)

theorem runs_once {act : Act} {answer : act.Answer ε} :
    Runs d (once act) before deeds answer after ↔
      act.perform d before = .ok answer after ∧
        deeds = [⟨act, answer, d.time before.device, d.time after.device⟩] := by
  constructor
  · intro runs
    cases runs with
    | act _ performed runs =>
        cases runs
        exact ⟨performed, rfl⟩
  · rintro ⟨performed, rfl⟩
    exact .act _ performed (.done _ _)

theorem runs_once_bind {act : Act} {rest : act.Answer ε → Program ε β} {final : β} :
    Runs d (once act >>= rest) before deeds final after ↔
      ∃ answer between more, act.perform d before = .ok answer between ∧
        deeds = ⟨act, answer, d.time before.device, d.time between.device⟩ :: more ∧
          Runs d (rest answer) between more final after :=
  runs_act

/-- The deeds of a run are a whole path. -/
theorem Runs.leads (runs : Runs d program before deeds result after) :
    program.Leads deeds (.done result) := by
  induction runs with
  | done result station => exact .start _
  | @act first next before between after answer deeds result performed runs ih =>
      exact @Leads.act ε _ ⟨first, answer, _, _⟩ deeds _ next ih

/-- A station that runs first sees whether a packet was announced. -/
theorem runs_step_of_running {describe : ε → String} {setup : Setup} {flow : Station.Flow}
    (runs : Runs d (step describe setup) before deeds flow after)
    (running : before.queue.activity ≠ .shutDown) :
    ∃ more,
      deeds = ⟨.look, before.queue.activity, d.time before.device, d.time before.device⟩ ::
        ⟨.calm, before.queue.ready, d.time before.device, d.time before.device⟩ :: more ∧
      Runs d (if before.queue.ready then do
            fetch describe
            pure .goesOn
          else do
            match ← once .next with
            | some request => serve describe setup request
            | none => do
                once (.pause Station.idlePoll)
                pure .goesOn)
        { before with queue := before.queue.calm } more flow after := by
  obtain ⟨_, _, _, looked, rfl, calming⟩ := runs_once_bind.mp runs
  obtain ⟨rfl, rfl⟩ := Station.consult_eq_ok (fun queue => (queue.activity, queue)) looked
  rw [if_neg running] at calming
  obtain ⟨_, _, more, calmed, rfl, rest⟩ := runs_once_bind.mp calming
  obtain ⟨rfl, rfl⟩ := Station.consult_eq_ok (fun queue => (queue.ready, queue.calm)) calmed
  exact ⟨more, rfl, rest⟩

/-! ## Patient devices -/

/-- On a patient device every act comes to its end. -/
theorem exists_perform (patient : d.Patient) (act : Act) (before : Station σ) :
    ∃ answer after, act.perform d before = .ok answer after := by
  have passing {lapse : σ → EStateM.Result τ σ Unit} {s' : σ}
      (lapsed : lapse before.device = .ok () s') :
      ∃ answer after, Station.passing lapse before = .ok answer after :=
    ⟨(), { before with device := s' }, by rw [Station.passing, lapsed]⟩
  cases act with
  | call asked =>
      simp only [Act.perform, Station.call]
      split
      · exact ⟨_, _, rfl⟩
      · exact ⟨_, _, rfl⟩
      · rename_i reason abandoned
        exact absurd abandoned (patient.perform _ _ _ reason)
  | pause micros =>
      obtain ⟨s', paused⟩ := patient.pause micros before.device
      exact passing paused
  | wait deadline =>
      obtain ⟨s', waited⟩ := d.exists_wait patient.pause deadline before.device
      exact passing waited
  | _ => exact ⟨_, _, rfl⟩

/-- On a patient device every program comes to its end. -/
theorem exists_runs (patient : d.Patient) (program : Program ε α) (before : Station σ) :
    ∃ result after, Runs d program before (program.chronicle d before) result after := by
  induction program generalizing before with
  | done result => exact ⟨result, before, .done _ _⟩
  | act first next ih =>
      obtain ⟨answer, between, performed⟩ := exists_perform patient first before
      obtain ⟨result, after, runs⟩ := ih answer between
      simp only [chronicle, performed]
      exact ⟨result, after, .act next performed runs⟩

end Program

end ShutterRadio
