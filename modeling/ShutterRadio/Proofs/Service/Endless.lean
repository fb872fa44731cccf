/-
# A run that cannot end

A station that serves a settled queue finds no request in it, so it never finds the
one to shut down.  Its steps say that it stops only if it had shut down before, and a
start makes it forget that.  So whoever starts a station on a settled queue and takes
steps until it stops will take steps for ever: `Station.run_endless`.

This is about a station with nobody else around.  Producers could not help it, as a
settled queue refuses what they ask for.
-/

import ShutterRadio.Proofs.Program.Alone
import ShutterRadio.Proofs.Program.Spare
import ShutterRadio.Proofs.Service.Crew

namespace ShutterRadio

variable {σ ε τ α : Type} {d : Device σ ε τ} {before after : Station σ} {deeds : List (Deed ε)}

/-- Nobody finds a request in a queue that is settled. -/
theorem Deed.free_of_settled {deed : Deed ε} (settled : before.queue.Settled)
    (performed : deed.act.perform d before = .ok deed.answer after) :
    after.queue.Settled ∧ deed.request? = none := by
  obtain ⟨stays, nothing⟩ := (deed.explains d performed).settled settled
  exact ⟨stays, List.filterMap_eq_nil_iff.mp nothing deed List.mem_cons_self⟩

/-- What a look sees is what the queue says. -/
theorem Deed.seen?_of_perform {deed : Deed ε}
    (performed : deed.act.perform d before = .ok deed.answer after) :
    deed.seen? = if deed.act = .look then some before.queue.activity else none := by
  rcases deed with ⟨act, answer, begun, ended⟩
  cases act with
  | look =>
      injection performed with same _
      exact congrArg some same.symm
  | _ => rfl

namespace Program

variable {program : Program ε α} {result : α}

/-- On a settled queue no request is taken, and it stays settled. -/
theorem Runs.free (runs : Runs d program before deeds result after)
    (settled : before.queue.Settled) : Deed.Free deeds ∧ after.queue.Settled := by
  induction runs with
  | done result station => exact ⟨nofun, settled⟩
  | @act first next before between after answer deeds result performed _ ih =>
      let deed : Deed ε := ⟨first, answer, d.time before.device, d.time between.device⟩
      have done : deed.act.perform d before = .ok deed.answer between := performed
      obtain ⟨stays, nothing⟩ := Deed.free_of_settled settled done
      obtain ⟨free, settled⟩ := ih stays
      exact ⟨List.forall_mem_cons.mpr ⟨nothing, free⟩, settled⟩

/-- A station that has not shut down, and does not, never sees that it has. -/
theorem Runs.going (runs : Runs d program before deeds result after)
    (becomes : ∀ deed ∈ deeds, ∀ activity, deed.act = .become activity → activity = .idle)
    (going : before.queue.activity ≠ .shutDown) :
    after.queue.activity ≠ .shutDown ∧ ∀ deed ∈ deeds, deed.seen? ≠ some .shutDown := by
  induction runs with
  | done result station => exact ⟨going, nofun⟩
  | @act first next before between after answer deeds result performed _ ih =>
      obtain ⟨idle, later⟩ := List.forall_mem_cons.mp becomes
      have goes : between.queue.activity ≠ .shutDown := by
        by_cases makes : ∃ activity, first = .become activity
        · obtain ⟨activity, rfl⟩ := makes
          obtain rfl := idle activity rfl
          injection performed with _ changed
          subst changed
          exact nofun
        · rw [Act.activity_of_perform (not_exists.mp makes) performed]
          exact going
      let deed : Deed ε := ⟨first, answer, d.time before.device, d.time between.device⟩
      have done : deed.act.perform d before = .ok deed.answer between := performed
      have unseen : deed.seen? ≠ some .shutDown := by
        rw [Deed.seen?_of_perform done]
        split
        · exact fun same => going (Option.some.inj same)
        · exact nofun
      obtain ⟨goes, others⟩ := ih later goes
      exact ⟨goes, List.forall_mem_cons.mpr ⟨unseen, others⟩⟩

end Program

namespace Station

/-- A station that goes on does so after every step. -/
theorem step_endless {flow : Flow} (settled : before.queue.Settled)
    (going : before.queue.activity ≠ .shutDown) (stepped : step d before = .ok flow after) :
    flow = .goesOn ∧ after.queue.Settled ∧ after.queue.activity ≠ .shutDown := by
  have runs := Program.runs_iff.mpr ⟨stepped, rfl⟩
  obtain ⟨free, stays⟩ := runs.free settled
  have spare := runs.leads.satisfies (Program.spare_program d.describe before.setup .step) free
  obtain ⟨goes, unseen⟩ := runs.going (fun deed done _ => spare.becomes done) going
  refine ⟨?_, stays, goes⟩
  cases flow with
  | goesOn => rfl
  | stopped => exact absurd rfl (spare.goes_on unseen)

/-- A station that was started goes on, whatever it had done before. -/
theorem start_endless (settled : before.queue.Settled) (started : start d before = .ok () after) :
    after.queue.Settled ∧ after.queue.activity ≠ .shutDown := by
  have runs := Program.runs_iff.mpr ⟨started, rfl⟩
  have spare := runs.leads.among (Program.isSpare_start d.describe before.setup)
  refine ⟨(runs.free settled).2, ?_⟩
  -- The first act makes the queue idle, and the others leave it at that.
  obtain ⟨_, _, more, performed, same, rest⟩ := Program.runs_once_bind.mp runs
  rw [same] at spare
  injection performed with _ changed
  subst changed
  have idle (deed : Deed ε) (done : deed ∈ more) (activity : Activity)
      (becomes : deed.act = .become activity) : activity = .idle := by
    have allowed := spare deed (List.mem_cons_of_mem _ done)
    rw [becomes] at allowed
    exact allowed
  exact (rest.going idle nofun).1

theorem steps_endless (limit : Nat) (settled : before.queue.Settled)
    (going : before.queue.activity ≠ .shutDown) : steps d limit before ≠ .ok true after := by
  induction limit generalizing before with
  | zero => exact nofun
  | succ limit ih =>
      intro ended
      simp only [steps, bind, EStateM.bind] at ended
      cases stepped : step d before with
      | error reason between =>
          rw [stepped] at ended
          cases ended
      | ok flow between =>
          obtain ⟨rfl, settled, going⟩ := step_endless settled going stepped
          rw [stepped] at ended
          exact ih settled going ended

/-- On a settled queue a run never comes to its end. -/
theorem run_endless (limit : Nat) (settled : before.queue.Settled) :
    run d limit before ≠ .ok true after := by
  intro ended
  simp only [run, bind, EStateM.bind] at ended
  cases started : start d before with
  | error reason between =>
      rw [started] at ended
      cases ended
  | ok _ between =>
      obtain ⟨settled, going⟩ := start_endless settled started
      rw [started] at ended
      exact steps_endless limit settled going ended

end Station

end ShutterRadio
