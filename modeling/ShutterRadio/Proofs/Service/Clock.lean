/-
# Deeds follow one another in time

A timebase promises that its clock does not run backwards while it is read or
while a pause lasts.  `Device.KeepsTime` asks the same of the rest of a device.
On such a device every deed of a service ends before the next one begins, in
whatever turn that is, since only the station moves the device.
-/

import ShutterRadio.Proofs.Service.Effect

namespace ShutterRadio

/-- Time does not run backwards in calls or while the light is switched. -/
structure Device.KeepsTime {σ ε τ : Type} (d : Device σ ε τ) : Prop where
  perform : ∀ activity asked s, d.time s ≤ d.time (d.perform activity asked s).device
  indicate : ∀ level s, d.time s ≤ d.time (d.indicate level s)

namespace Act

variable {σ ε τ : Type}

theorem time_le_perform {d : Device σ ε τ} (keeps : d.KeepsTime) (act : Act)
    {before after : Station σ} {answer : act.Answer ε}
    (performed : act.perform d before = .ok answer after) :
    d.time before.device ≤ d.time after.device := by
  have passing {lapse : σ → EStateM.Result τ σ Unit}
      (onwards : ∀ s s', lapse s = .ok () s' → d.time s ≤ d.time s')
      (passed : Station.passing lapse before = .ok () after) :
      d.time before.device ≤ d.time after.device :=
    onwards _ _ (Station.passing_eq_ok passed).1
  cases act with
  | call asked =>
      obtain ⟨ready, journal, rfl⟩ := Station.call_eq_ok performed
      exact keeps.perform _ _ _
  | clock =>
      injection performed with same changed
      subst changed
      exact Nat.le_trans (d.time_le_read before.device) (d.read_le_time before.device)
  | pause micros => exact passing (fun _ _ => d.time_le_pause) performed
  | wait deadline => exact passing (fun _ _ waited => (d.wait_reaches deadline waited).2) performed
  | light on =>
      injection performed with same changed
      subst changed
      rcases before with ⟨setup, _ | polarity, tally, queue, device, journal⟩
      · exact Nat.le_refl _
      · exact keeps.indicate _ _
  | _ =>
      injection performed with same changed
      subst changed
      exact Nat.le_refl _

end Act

namespace Service

variable {σ ε τ : Type}

/-- The deeds of a service follow one another in time. -/
structure Timed (d : Device σ ε τ) (service : Service σ ε) : Prop where
  each : ∀ deed ∈ service.deeds, deed.begun ≤ deed.ended
  order : service.deeds.Pairwise fun earlier later => earlier.ended ≤ later.begun
  now : service.stuck = false →
    ∀ deed ∈ service.deeds, deed.ended ≤ d.time service.station.device

theorem timed_fresh (d : Device σ ε τ) (setup : Setup) (indicator : Option Polarity)
    (device : σ) : (fresh setup indicator device : Service σ ε).Timed d where
  each deed member := by cases member
  order := .nil
  now _ deed member := by cases member

theorem timed_move {d : Device σ ε τ} (keeps : d.KeepsTime) (service : Service σ ε)
    (move : Move) (timed : service.Timed d) : (service.move d move).Timed d := by
  cases shows_move d service move with
  | nothing station deeds _ stuck =>
      refine ⟨deeds ▸ timed.each, deeds ▸ timed.order, ?_⟩
      rw [station, deeds, stuck]
      exact timed.now
  | deed deed performed begun ended deeds _ able _ =>
      have onwards : deed.begun ≤ deed.ended := by
        rw [begun, ended]
        exact deed.act.time_le_perform keeps performed
      have done : ∀ earlier ∈ service.deeds, earlier.ended ≤ deed.begun := by
        rw [begun]
        exact timed.now able
      refine ⟨?_, ?_, fun _ => ?_⟩
      · rw [deeds]
        intro other member
        rcases List.mem_append.mp member with earlier | here
        · exact timed.each other earlier
        · exact List.mem_singleton.mp here ▸ onwards
      · rw [deeds]
        refine List.pairwise_append.mpr ⟨timed.order, List.pairwise_singleton _ _, ?_⟩
        intro earlier member last here
        exact List.mem_singleton.mp here ▸ done earlier member
      · rw [deeds, ← ended]
        intro other member
        rcases List.mem_append.mp member with earlier | here
        · exact Nat.le_trans (done other earlier) onwards
        · exact List.mem_singleton.mp here ▸ Nat.le_refl _
  | jam _ _ _ deeds _ stuck =>
      refine ⟨deeds ▸ timed.each, deeds ▸ timed.order, fun able => ?_⟩
      rw [stuck] at able
      cases able
  | dealing dealing granted deeds _ stuck =>
      refine ⟨deeds ▸ timed.each, deeds ▸ timed.order, ?_⟩
      rw [deeds, stuck, (dealing.wish.explains_grant granted).station]
      exact timed.now

/-- The deeds of every run follow one another in time. -/
theorem timed_run {d : Device σ ε τ} (keeps : d.KeepsTime) (setup : Setup)
    (indicator : Option Polarity) (device : σ) (moves : List Move) :
    ((fresh setup indicator device : Service σ ε).run d moves).Timed d :=
  run_induction d (timed_move keeps) (timed_fresh d setup indicator device) moves

end Service

end ShutterRadio
