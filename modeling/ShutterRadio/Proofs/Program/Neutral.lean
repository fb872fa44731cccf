/-
# What most acts leave alone

Only four kinds of acts are for changing what waits in the queue, what was received,
what the station is said to be doing, or a count.  All others change at most the
device, the journal and the announcement of a packet, and that is also all that an
act has changed when it gets stuck.
-/

import ShutterRadio.Station.Program

namespace ShutterRadio.Act

variable {σ ε τ : Type} {d : Device σ ε τ} {act : Act} {before after : Station σ}

/-- An act that is not for changing requests, receptions, the activity or a count. -/
def IsNeutral : Act → Prop
  | .next => False
  | .record _ _ => False
  | .become _ => False
  | .count _ => False
  | _ => True

theorem neutral_eq {answer : act.Answer ε} (performed : act.perform d before = .ok answer after)
    (neutral : act.IsNeutral) :
    ∃ device journal ready, after =
      { before with device, journal, queue := { before.queue with ready } } := by
  cases act with
  | call asked =>
      obtain ⟨ready, journal, changed⟩ := Station.call_eq_ok performed
      exact ⟨_, journal, ready, changed⟩
  | light on =>
      injection performed with _ changed
      subst changed
      rcases before with ⟨setup, indicator, tally, queue, device, journal⟩
      cases indicator <;> exact ⟨_, _, _, rfl⟩
  | pause micros =>
      rw [(Station.passing_eq_ok performed).2]
      exact ⟨_, _, _, rfl⟩
  | wait deadline =>
      rw [(Station.passing_eq_ok performed).2]
      exact ⟨_, _, _, rfl⟩
  | next => exact neutral.elim
  | record command stamp => exact neutral.elim
  | become activity => exact neutral.elim
  | count counter => exact neutral.elim
  | _ =>
      injection performed with _ changed
      exact ⟨_, _, _, changed.symm⟩

/-- An act changes what the queue says the station is doing only if that is what it
is for. -/
theorem activity_of_perform {answer : act.Answer ε} (other : ∀ activity, act ≠ .become activity)
    (performed : act.perform d before = .ok answer after) :
    after.queue.activity = before.queue.activity := by
  cases act with
  | become activity => exact absurd rfl (other activity)
  | next => rw [(Station.consult_eq_ok Queue.take performed).2, before.queue.take_eq.2]
  | record command stamp =>
      injection performed with _ changed
      subst changed
      rfl
  | count counter =>
      injection performed with _ changed
      subst changed
      rfl
  | _ =>
      obtain ⟨device, journal, ready, rfl⟩ := neutral_eq performed trivial
      rfl

/-- Whatever it was for, an act that got stuck has not done it. -/
theorem stuck_eq {reason : τ} (stuck : act.perform d before = .error reason after) :
    ∃ device journal ready, after =
      { before with device, journal, queue := { before.queue with ready } } := by
  have passing {lapse : σ → EStateM.Result τ σ Unit}
      (failed : Station.passing lapse before = .error reason after) :
      ∃ device journal ready, after =
        { before with device, journal, queue := { before.queue with ready } } := by
    unfold Station.passing at failed
    split at failed
    · cases failed
    · injection failed with _ changed
      exact ⟨_, _, _, changed.symm⟩
  cases act with
  | call asked =>
      simp only [perform, Station.call] at stuck
      split at stuck
      · cases stuck
      · cases stuck
      · injection stuck with _ changed
        subst changed
        cases (d.perform before.queue.activity asked before.device).edge <;>
          exact ⟨_, _, _, rfl⟩
  | pause micros => exact passing stuck
  | wait deadline => exact passing stuck
  | _ => cases stuck

end ShutterRadio.Act
