/-
# Indicator pins

The light of a station is on a pin of its own, apart from the radio and the clock, and the
station never asks whether writing the pin worked.  `Device.wired` puts a device and a pin
together; a pin that keeps all levels written to it shows how the light was switched.

Seen without its pin, a wired device is the same with every pin.  So what becomes of a
run does not depend on whether the pin can be written (`Service.run_wired`).
-/

import ShutterRadio.Proofs.Service.Lights
import ShutterRadio.Proofs.Service.Likeness

namespace ShutterRadio

/-- An output pin on a state of its own.  Writing a level may fail. -/
structure Pin (π : Type) where
  write : (level : Bool) → π → Except String Unit × π

/-- A pin that takes every level, and keeps them in order. -/
def Pin.keeping : Pin (List Bool) := ⟨fun level levels => (.ok (), levels ++ [level])⟩

variable {σ ε τ π : Type}

namespace Device

/-- A device with its light on a pin.  Whether a level could be written is not asked. -/
def wired (d : Device σ ε τ) (pin : Pin π) : Device (σ × π) ε τ where
  toTimebase := d.toTimebase.focus Prod.fst (fun whole part => (part, whole.2)) fun _ _ => rfl
  perform activity asked whole :=
    { d.perform activity asked whole.1 with
      device := ((d.perform activity asked whole.1).device, whole.2) }
  indicate level whole := (whole.1, (pin.write level whole.2).2)
  describe := d.describe

/-- A device without a light. -/
def unlit (d : Device σ ε τ) : Device σ ε τ := { d with indicate := fun _ s => s }

variable (d : Device σ ε τ) (pin : Pin π)

theorem pause_wired (micros : Nat) (s : σ) (level : π) :
    (d.wired pin).pause micros (s, level) = through (fun s => (s, level)) (d.pause micros s) := by
  simp only [wired, Timebase.focus]
  cases d.pause micros s <;> rfl

/-- Without its pin a wired device looks like one without a light. -/
theorem maps_fst : (d.wired pin).Maps Prod.fst d.unlit where
  timebase :=
    { time := fun _ => rfl
      read := fun _ => rfl
      pause := fun micros whole => by
        rw [d.pause_wired pin micros whole.1 whole.2]
        show d.pause micros whole.1 = _
        cases d.pause micros whole.1 <;> rfl }
  perform _ _ _ := rfl
  describe := rfl

/-- All that a wired device does but to switch its light leaves the pin alone. -/
theorem maps_wired (level : π) : d.Maps (fun s => (s, level)) (d.wired pin) where
  timebase :=
    { time := fun _ => rfl
      read := fun _ => rfl
      pause := fun micros s => d.pause_wired pin micros s level }
  perform _ _ _ := rfl
  describe := rfl

end Device

/-- Without the pin the same comes of a run with every pin. -/
theorem Service.run_wired (d : Device σ ε τ) (pin : Pin π) (service : Service (σ × π) ε)
    (moves : List Move) :
    (service.run (d.wired pin) moves).map Prod.fst = (service.map Prod.fst).run d.unlit moves :=
  (run_map (d.maps_fst pin) (fun _ _ => rfl) service moves).symm

/-! ## The levels that were written -/

namespace Act

variable {act : Act}

/-- An act that does not switch the light leaves the pin alone, even if it gets stuck. -/
theorem pin_left (d : Device σ ε τ) (pin : Pin π) (other : ∀ on, act ≠ .light on)
    (before : Station (σ × π)) :
    (left (act.perform (d.wired pin) before)).device.2 = before.device.2 := by
  have same : act.perform (d.wired pin) before = _ :=
    act.perform_map (d.maps_wired pin before.device.2) (fun on here => absurd here (other on))
      (before.map Prod.fst)
  rw [same, left_through]
  rfl

theorem pin_of_perform {d : Device σ ε τ} {pin : Pin π} {before after : Station (σ × π)}
    {answer : act.Answer ε} (other : ∀ on, act ≠ .light on)
    (performed : act.perform (d.wired pin) before = .ok answer after) :
    after.device.2 = before.device.2 := by
  have untouched := pin_left d pin other before
  rw [performed] at untouched
  exact untouched

/-- Switching the light writes one level, which depends on the polarity. -/
theorem levels_of_light {d : Device σ ε τ} {polarity : Polarity}
    {before after : Station (σ × List Bool)} {on : Bool}
    (indicator : before.indicator = some polarity)
    (performed : (light on).perform (d.wired .keeping) before = .ok () after) :
    after.device.2 = before.device.2 ++ [polarity.level on] := by
  rcases before with ⟨setup, indicated, tally, queue, device, journal⟩
  obtain rfl := indicator
  injection performed with _ changed
  rw [← changed]
  rfl

/-- A station keeps its indicator. -/
theorem indicator_of_perform {d : Device σ ε τ} {before after : Station σ} {answer : act.Answer ε}
    (performed : act.perform d before = .ok answer after) :
    after.indicator = before.indicator := by
  cases act with
  | next =>
      obtain ⟨-, rfl⟩ := Station.consult_eq_ok Queue.take performed
      rfl
  | become activity =>
      injection performed with _ changed
      exact changed ▸ rfl
  | record command stamp =>
      injection performed with _ changed
      exact changed ▸ rfl
  | count counter =>
      injection performed with _ changed
      exact changed ▸ rfl
  | _ =>
      obtain ⟨device, journal, ready, rfl⟩ := neutral_eq performed trivial
      rfl

end Act

namespace Service

variable {d : Device σ ε τ} {polarity : Polarity}

/-- The pin has kept a level for each time that the light was switched. -/
structure Keeps (polarity : Polarity) (service : Service (σ × List Bool) ε) : Prop where
  indicator : service.station.indicator = some polarity
  levels : service.station.device.2 = (Deed.lights service.deeds).map polarity.level

theorem Keeps.move {service : Service (σ × List Bool) ε} (keeps : service.Keeps polarity)
    (move : Move) : (service.move (d.wired .keeping) move).Keeps polarity := by
  cases shows_move (d.wired .keeping) service move with
  | nothing station deeds _ _ =>
      refine ⟨?_, ?_⟩
      · rw [station, keeps.indicator]
      · rw [station, deeds, keeps.levels]
  | jam act reason stuck deeds _ _ =>
      refine ⟨?_, ?_⟩
      · obtain ⟨device, journal, ready, changed⟩ := Act.stuck_eq stuck
        rw [changed]
        exact keeps.indicator
      · have other (on : Bool) : act ≠ .light on := by
          rintro rfl
          cases stuck
        have pin := Act.pin_left d .keeping other service.station
        rw [stuck] at pin
        rw [deeds, ← keeps.levels]
        exact pin
  | dealing dealing granted deeds _ _ =>
      have station := (dealing.wish.explains_grant granted).station
      refine ⟨?_, ?_⟩
      · rw [station]
        exact keeps.indicator
      · rw [station, deeds]
        exact keeps.levels
  | deed deed performed _ _ deeds _ _ _ =>
      refine ⟨(Act.indicator_of_perform performed).trans keeps.indicator, ?_⟩
      rw [deeds, Deed.lights_append, List.map_append, ← keeps.levels]
      rcases deed with ⟨act, answer, begun, ended⟩
      replace performed : act.perform (d.wired .keeping) service.station =
        .ok answer (service.move (d.wired .keeping) move).station := performed
      cases act with
      | light on => exact Act.levels_of_light keeps.indicator performed
      | _ =>
          rw [Act.pin_of_perform (by simp) performed]
          exact (List.append_nil _).symm

theorem keeps_run (d : Device σ ε τ) (setup : Setup) (polarity : Polarity) (device : σ)
    (moves : List Move) :
    ((fresh setup (some polarity) (device, []) : Service (σ × List Bool) ε).run
      (d.wired .keeping) moves).Keeps polarity :=
  run_induction (d.wired .keeping) (fun _ move keeps => keeps.move move) ⟨rfl, rfl⟩ moves

theorem Keeps.getLast?_levels {service : Service (σ × List Bool) ε}
    (keeps : service.Keeps polarity) :
    service.station.device.2.getLast? = service.posture.light.map polarity.level := by
  rw [keeps.levels, List.getLast?_map, posture]

end Service

/-- The levels that a turn has written to the pin. -/
def Turn.levels (polarity : Polarity) (turn : Turn ε) : List Bool :=
  (Deed.lights turn.deeds).map polarity.level

/-- What a station says it is doing and its indicator bracket every burst, whichever way
the pin turns the light on, whatever calls fail and whatever producers do.

Whenever a packet is to be sent the station says that it transmits, and the last level
written turned the light on; whenever one is to be fetched it says that it is idle.  When a task
is over it says that it is idle or has shut down, and the last level written, if any,
turned the light off.  Turn by turn, all that is written for a request to send that was taken
out of the queue is on and then off, and nothing is written without one.

With a pin that refuses some of this, or all of it, the run is the same but for the pin. -/
theorem Service.indicator_brackets (d : Device σ ε τ) (setup : Setup) (polarity : Polarity)
    (device : σ) (moves : List Move) :
    let service : Service (σ × List Bool) ε :=
      (fresh setup (some polarity) (device, [])).run (d.wired .keeping) moves
    let levels := service.station.device.2
    (∀ packet, service.calling? = some (.transmit packet) →
      service.station.queue.activity = .transmitting ∧
        levels.getLast? = some (polarity.level true)) ∧
    (∀ length, service.calling? = some (.receive length) →
      service.station.queue.activity = .idle) ∧
    ((∀ job ∈ service.job, job.rest.result?.isSome) →
      (service.station.queue.activity = .idle ∨ service.station.queue.activity = .shutDown) ∧
        ∀ level ∈ levels.getLast?, level = polarity.level false) ∧
    levels = service.turns.flatMap (Turn.levels polarity) ∧
    (∀ turn ∈ service.turns, ∃ rest,
      turn.levels polarity ++ rest = (Deed.transmissions turn.deeds).flatMap
        (fun _ => [polarity.level true, polarity.level false]) ∧
      (turn.flow.isSome → rest = [])) ∧
    ∀ (π : Type) (pin : Pin π) (state : π),
      (run (d.wired pin) (fresh setup (some polarity) (device, state)) moves).map Prod.fst =
        service.map Prod.fst := by
  intro service levels
  have posed : service.Posed := posed_run _ setup _ _ moves
  have keeps : service.Keeps polarity := keeps_run d setup polarity device moves
  have faithful : service.Faithful (d.wired .keeping) setup := faithful_run _ setup _ _ moves
  have last : levels.getLast? = service.posture.light.map polarity.level := keeps.getLast?_levels
  refine ⟨fun packet calls => ?send, fun length calls => posed.allows calls, fun ended => ?rest,
    ?all, fun turn among => ?turn, fun π pin state => ?pins⟩
  case send =>
    obtain ⟨transmitting, lit⟩ := posed.allows calls
    exact ⟨transmitting, by rw [last, lit, Option.map_some]⟩
  case rest =>
    obtain ⟨said, dark⟩ := posed.atRest ended
    refine ⟨said, fun level here => ?_⟩
    rw [last] at here
    obtain ⟨on, switched, rfl⟩ := Option.map_eq_some_iff.mp here
    cases on with
    | false => rfl
    | true => exact absurd switched dark
  case all =>
    show levels = _
    rw [show levels = _ from keeps.levels, deeds, Deed.lights, List.filterMap_flatMap,
      List.map_flatMap]
    rfl
  case turn =>
    obtain ⟨⟨rest, split⟩, whole⟩ := (faithful.isPath among).brackets
    have pair : (Deed.transmissions turn.deeds).flatMap
        (fun _ => [polarity.level true, polarity.level false]) =
          ((Deed.transmissions turn.deeds).flatMap fun _ => [true, false]).map polarity.level := by
      rw [List.map_flatMap]
      rfl
    refine ⟨rest.map polarity.level, ?_, fun finished => ?_⟩
    · rw [pair, ← split, List.map_append, Turn.levels]
    · rw [whole finished] at split
      rw [List.append_right_eq_self.mp split, List.map_nil]
  case pins =>
    rw [run_wired, run_wired]
    rfl

end ShutterRadio
