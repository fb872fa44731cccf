/-
# The light around a burst

Turn by turn a station switches its light on and off again for each request to send that
it takes out of the queue, and at no other time (`Turn.IsPath.brackets`).  And at any moment
of a run the station is in a posture from which its task goes on as it may
(`Service.posed_run`), so nothing is sent unless the station says so and its light is on.

Both hold whatever calls fail and whatever producers do meanwhile.
-/

import ShutterRadio.Proofs.Program.Posture
import ShutterRadio.Proofs.Service.Turns

namespace ShutterRadio

namespace Deed

variable {ε : Type}

/-- How the light was switched, if it was. -/
def light? : Deed ε → Option Bool
  | ⟨.light on, _, _, _⟩ => some on
  | _ => none

def lights (deeds : List (Deed ε)) : List Bool := deeds.filterMap light?

@[simp]
theorem lights_append (first second : List (Deed ε)) :
    lights (first ++ second) = lights first ++ lights second :=
  List.filterMap_append

/-- What requests to send were taken out of the queue. -/
def transmissions (deeds : List (Deed ε)) : List Transmission :=
  (deeds.filterMap request?).filterMap Request.transmission?

@[simp]
theorem transmissions_append (first second : List (Deed ε)) :
    transmissions (first ++ second) = transmissions first ++ transmissions second := by
  simp [transmissions]

end Deed

/-- An act that neither switches the light nor takes a request. -/
def Act.IsDark : Act → Prop
  | .light _ => False
  | .next => False
  | _ => True

theorem Deed.lights_of_dark {ε : Type} {deeds : List (Deed ε)}
    (dark : ∀ deed ∈ deeds, deed.act.IsDark) : lights deeds = [] ∧ transmissions deeds = [] := by
  have none {deed : Deed ε} (dark : deed.act.IsDark) :
      deed.light? = none ∧ deed.request? = none := by
    rcases deed with ⟨act, answer, begun, ended⟩
    cases act with
    | light on => exact dark.elim
    | next => exact dark.elim
    | _ => exact ⟨rfl, rfl⟩
  have requests : deeds.filterMap request? = [] :=
    List.filterMap_eq_nil_iff.mpr fun deed among => (none (dark deed among)).2
  exact ⟨List.filterMap_eq_nil_iff.mpr fun deed among => (none (dark deed among)).1,
    by rw [transmissions, requests, List.filterMap_nil]⟩

/-! ## Turn by turn -/

namespace Program

variable {ε α β : Type}

/-- A specification holds of the switching of the light on every path, of the requests to send
that were taken, and of whether the path has come to its end. -/
def Blinks (program : Program ε α) (spec : List Bool → List Transmission → Bool → Prop) : Prop :=
  program.Follows fun deeds result =>
    spec (Deed.lights deeds) (Deed.transmissions deeds) result.isSome

variable {spec : List Bool → List Transmission → Bool → Prop}

theorem blinks_of_dark {program : Program ε α} (dark : program.Uses Act.IsDark)
    (holds : ∀ finished, spec [] [] finished) : program.Blinks spec :=
  dark.follows fun deeds result others => by
    rw [(Deed.lights_of_dark others).1, (Deed.lights_of_dark others).2]
    exact holds _

/-- What is dark, in front of the rest. -/
theorem blinks_dark_bind {program : Program ε α} {rest : α → Program ε β}
    (dark : program.Uses Act.IsDark) (stopped : spec [] [] false)
    (blinks : ∀ result, (rest result).Blinks spec) : (program >>= rest).Blinks spec := by
  refine follows_bind.mpr (dark.follows fun deeds result others => ?_)
  obtain ⟨lights, transmissions⟩ := Deed.lights_of_dark others
  cases result with
  | none =>
      rw [lights, transmissions]
      exact stopped
  | some result =>
      refine Follows.mono (blinks result) fun more final holds => ?_
      rw [Deed.lights_append, Deed.transmissions_append, lights, transmissions]
      exact holds

theorem blinks_light {on : Bool} {rest : Unit → Program ε α} (stopped : spec [] [] false)
    (blinks : (rest ()).Blinks fun lights => spec (on :: lights)) :
    (once (.light on) >>= rest).Blinks spec :=
  ⟨stopped, fun _ _ _ => blinks⟩

theorem blinks_next {rest : Option Request → Program ε α} (stopped : spec [] [] false)
    (blinks : ∀ request, (rest request).Blinks fun lights transmissions =>
      spec lights ((request.bind Request.transmission?).toList ++ transmissions)) :
    (once .next >>= rest).Blinks spec := by
  refine ⟨stopped, fun request begun ended => ?_⟩
  refine Follows.mono (blinks request) fun deeds result holds => ?_
  have taken : Deed.transmissions (⟨.next, request, begun, ended⟩ :: deeds) =
      (request.bind Request.transmission?).toList ++ Deed.transmissions deeds := by
    cases request with
    | none => rfl
    | some request =>
        cases transmits : request.transmission? <;>
          simp [Deed.transmissions, Deed.request?, transmits]
  show spec (Deed.lights deeds) (Deed.transmissions (⟨.next, request, begun, ended⟩ :: deeds)) _
  rw [taken]
  exact holds

/-- The light goes on and off again for each request to send, by the end of the turn. -/
def Brackets (lights : List Bool) (transmissions : List Transmission) (finished : Bool) : Prop :=
  lights <+: transmissions.flatMap (fun _ => [true, false]) ∧
    (finished = true → lights = transmissions.flatMap fun _ => [true, false])

variable (describe : ε → String) (setup : Setup)

theorem dark_report {asked : Call} : (report describe asked).Uses Act.IsDark :=
  Uses.report describe trivial fun _ => trivial

theorem dark_listen : (listen describe).Uses Act.IsDark :=
  Uses.listen describe trivial trivial trivial fun _ => trivial

/-- However a burst ends, the light goes on before it and off after it. -/
theorem blinks_transmit (transmission : Transmission) :
    (transmit describe setup transmission).Blinks fun lights transmissions =>
      Brackets lights (transmission :: transmissions) := by
  have dark {act : Act} (dark : act.IsDark) : (once act : Program ε _).Uses Act.IsDark :=
    (uses_once act).mpr dark
  have burst : (burst (Frame.encode setup.key transmission.command) transmission.repeats :
      Program ε _).Uses Act.IsDark :=
    Uses.burst (fun _ _ => trivial) trivial fun _ => trivial
  have before : Brackets [] [transmission] false := ⟨List.nil_prefix, nofun⟩
  have meanwhile : Brackets [true] [transmission] false := ⟨by simp, nofun⟩
  refine blinks_dark_bind (dark trivial) before fun _ => ?_
  refine blinks_dark_bind (dark trivial) before fun _ => ?_
  refine blinks_dark_bind (dark_report describe) before fun _ => ?_
  refine blinks_light before ?_
  refine blinks_dark_bind burst meanwhile fun ending => ?_
  refine blinks_dark_bind (Uses.settle describe _ ending trivial trivial fun _ => trivial)
    meanwhile fun _ => ?_
  refine blinks_light meanwhile ?_
  have retreat : (do
      report describe .standby
      let _ ← once .calm
      listen describe
      once (.become .idle) : Program ε Unit).Uses Act.IsDark := by
    refine Uses.bind (dark_report describe) fun _ => ?_
    refine Uses.bind (dark trivial) fun _ => ?_
    exact Uses.bind (dark_listen describe) fun _ => dark trivial
  exact blinks_of_dark retreat fun _ => ⟨List.prefix_rfl, fun _ => rfl⟩

theorem blinks_serve (request : Request) :
    (serve describe setup request).Blinks fun lights transmissions =>
      Brackets lights (request.transmission?.toList ++ transmissions) := by
  cases request with
  | transmit transmission =>
      refine follows_bind.mpr
        (Follows.mono (blinks_transmit describe setup transmission) fun deeds result holds => ?_)
      cases result with
      | none => exact holds
      | some result => rwa [pure_eq, Follows, List.append_nil]
  | listen =>
      exact blinks_of_dark (Uses.bind (dark_listen describe) fun _ => uses_done _)
        fun _ => ⟨List.nil_prefix, fun _ => rfl⟩
  | shutdown =>
      have dark : (shutDown describe).Uses Act.IsDark :=
        Uses.shutDown describe trivial trivial fun _ => trivial
      exact blinks_of_dark (Uses.bind dark fun _ => uses_done _)
        fun _ => ⟨List.nil_prefix, fun _ => rfl⟩

/-- A task switches the light for the requests to send that it takes, and for nothing else. -/
theorem blinks_program (task : Task) : (task.program describe setup).Blinks Brackets := by
  have dark {act : Act} (dark : act.IsDark) : (once act : Program ε _).Uses Act.IsDark :=
    (uses_once act).mpr dark
  have nothing (finished : Bool) : Brackets [] [] finished := ⟨List.nil_prefix, fun _ => rfl⟩
  cases task with
  | start =>
      have start : (start describe setup).Uses Act.IsDark :=
        Uses.start describe setup trivial (fun _ _ => trivial) fun _ => trivial
      exact blinks_of_dark (Uses.bind start fun _ => uses_done _) nothing
  | step =>
      refine blinks_dark_bind (dark trivial) (nothing false) fun activity => ?_
      split
      · exact nothing true
      refine blinks_dark_bind (dark trivial) (nothing false) fun ready => ?_
      cases ready with
      | true =>
          have fetch : (fetch describe).Uses Act.IsDark := by
            apply Uses.fetch describe trivial _ (dark_listen describe) fun _ => trivial
            intro packet
            exact Uses.absorb trivial (fun _ _ => trivial) trivial trivial trivial fun _ => trivial
          exact blinks_of_dark (Uses.bind fetch fun _ => uses_done _) nothing
      | false =>
          refine blinks_next (nothing false) fun request => ?_
          cases request with
          | some request => exact blinks_serve describe setup request
          | none => exact blinks_of_dark (Uses.bind (dark trivial) fun _ => uses_done _) nothing

end Program

/-- A turn switches the light on and off again if it took a request to send. -/
theorem Turn.IsPath.brackets {σ ε τ : Type} {d : Device σ ε τ} {setup : Setup} {turn : Turn ε}
    (path : turn.IsPath d setup) :
    Program.Brackets (Deed.lights turn.deeds) (Deed.transmissions turn.deeds) turn.flow.isSome :=
  path.satisfies (Program.blinks_program d.describe setup turn.task)

/-! ## At any moment -/

/-- What the station is doing is as a posture says it is after one more act, and a station
that looks sees that. -/
theorem Act.said_of_perform {σ ε τ : Type} {d : Device σ ε τ} {act : Act}
    {before after : Station σ} {answer : act.Answer ε} {posture : Posture}
    (performed : act.perform d before = .ok answer after)
    (said : posture.activity = before.queue.activity) :
    (posture.after act).activity = after.queue.activity ∧ posture.Answers act answer := by
  cases act with
  | become activity =>
      injection performed with _ changed
      subst changed
      exact ⟨rfl, trivial⟩
  | look =>
      obtain ⟨rfl, rfl⟩ := Station.consult_eq_ok (fun queue => (queue.activity, queue)) performed
      exact ⟨said, said.symm⟩
  | _ => exact ⟨said.trans (activity_of_perform (by simp) performed).symm, trivial⟩

/-- The light is as a posture says it is after one more deed. -/
theorem Deed.light_after {ε : Type} (deeds : List (Deed ε)) (deed : Deed ε) (activity : Activity) :
    (lights (deeds ++ [deed])).getLast? =
      (Posture.after ⟨activity, (lights deeds).getLast?⟩ deed.act).light := by
  rcases deed with ⟨act, answer, begun, ended⟩
  cases act with
  | light on => simp [lights, light?, Posture.after]
  | _ => simp [lights, light?, Posture.after]

namespace Service

variable {σ ε τ : Type} {d : Device σ ε τ}

/-- What the station is seen to do, and its light. -/
def posture (service : Service σ ε) : Posture :=
  ⟨service.station.queue.activity, (Deed.lights service.deeds).getLast?⟩

/-- What is left to do is done in the right posture, and a station with nothing to do is at
rest. -/
structure Posed (service : Service σ ε) : Prop where
  job : ∀ job ∈ service.job, job.rest.Poised Posture.AtRest service.posture
  rest : service.job = none → service.posture.AtRest

theorem posed_fresh (setup : Setup) (indicator : Option Polarity) (device : σ) :
    (fresh setup indicator device : Service σ ε).Posed where
  job _ at_ := nomatch at_
  rest _ := ⟨.inl rfl, nofun⟩

theorem posture_eq {before after : Service σ ε}
    (activity : after.station.queue.activity = before.station.queue.activity)
    (deeds : after.deeds = before.deeds) : after.posture = before.posture := by
  rw [posture, activity, deeds, posture]

/-- One more act leads to the posture that what is left expects, or the station gets stuck
in the posture that it was in. -/
theorem Posed.act {service : Service σ ε} (posed : service.Posed) {task : Task}
    {deeds : List (Deed ε)} {first : Act} {next : first.Answer ε → Program ε Station.Flow}
    (job : service.job = some ⟨task, deeds, .act first next⟩) :
    (service.act d task deeds first next).Posed := by
  have poised := posed.job _ job
  unfold Service.act
  cases performed : first.perform d service.station with
  | ok answer station =>
      have said : service.posture.activity = service.station.queue.activity := rfl
      obtain ⟨activity, honest⟩ := Act.said_of_perform performed said
      let deed : Deed ε := ⟨first, answer, d.time service.station.device, d.time station.device⟩
      let after : Service σ ε :=
        { service with station, job := some ⟨task, deeds ++ [deed], next answer⟩ }
      have grown : after.deeds = service.deeds ++ [deed] := by simp [after, deeds_eq, job]
      have light : (Deed.lights after.deeds).getLast? = (service.posture.after first).light :=
        grown ▸ Deed.light_after service.deeds deed _
      have same : after.posture = service.posture.after first := Posture.ext activity.symm light
      refine ⟨fun job begun => ?_, nofun⟩
      obtain rfl := Option.mem_some.mp begun
      show (next answer).Poised _ after.posture
      rw [same]
      exact poised.2 answer honest
  | error reason station =>
      obtain ⟨device, journal, ready, rfl⟩ := Act.stuck_eq performed
      exact ⟨posed.job, posed.rest⟩

theorem Posed.move {service : Service σ ε} (posed : service.Posed) (move : Move) :
    (service.move d move).Posed := by
  cases move with
  | set task =>
      show (service.set d task).Posed
      unfold set
      cases resting : service.job with
      | some job => exact posed
      | none =>
          have same : posture { service with
              job := some ⟨task, [], task.program d.describe service.station.setup⟩ } =
                service.posture := posture_eq rfl (by simp [deeds_eq, resting])
          refine ⟨fun job begun => ?_, nofun⟩
          obtain rfl := Option.mem_some.mp begun
          rw [same]
          exact Program.poised_program _ _ task (posed.rest resting)
  | ask wish =>
      show (service.ask wish).Posed
      unfold ask
      cases granted : wish.grant service.station with
      | ok answer station =>
          have same : posture { service with
              station, dealings := service.dealings ++ [⟨wish, answer⟩] } = service.posture :=
            posture_eq (wish.explains_grant granted).activity rfl
          exact ⟨fun job at_ => same ▸ posed.job job at_, fun resting => same ▸ posed.rest resting⟩
      | error reason _ => exact reason.elim
  | proceed =>
      show (service.proceed d).Posed
      unfold proceed
      split
      · rename_i task deeds flow able job
        have same : posture { service with
            job := none, past := service.past ++ [⟨task, deeds, some flow⟩] } = service.posture :=
          posture_eq rfl (by simp [deeds_eq, job])
        exact ⟨nofun, fun _ => same ▸ posed.job _ job⟩
      · rename_i task deeds first next able job
        exact posed.act job
      · exact posed

/-- The call that the station is about to make. -/
def calling? (service : Service σ ε) : Option Call :=
  match service.job with
  | some ⟨_, _, .act (.call asked) _⟩ => some asked
  | _ => none

theorem Posed.allows {service : Service σ ε} (posed : service.Posed) {asked : Call}
    (calls : service.calling? = some asked) : service.posture.Allows (.call asked) := by
  unfold calling? at calls
  split at calls
  · rename_i task deeds asked next job
    obtain rfl := Option.some.inj calls
    exact (posed.job _ job).1
  · cases calls

/-- A station that has come to the end of its task is at rest. -/
theorem Posed.atRest {service : Service σ ε} (posed : service.Posed)
    (ended : ∀ job ∈ service.job, job.rest.result?.isSome) : service.posture.AtRest := by
  cases current : service.job with
  | none => exact posed.rest current
  | some job =>
      have poised := posed.job job current
      have returned := ended job current
      cases rest : job.rest with
      | done flow =>
          rw [rest] at poised
          exact poised
      | act first next =>
          rw [rest] at returned
          cases returned

/-- Whatever happens, a station is in the right posture for what it does next. -/
theorem posed_run (d : Device σ ε τ) (setup : Setup) (indicator : Option Polarity) (device : σ)
    (moves : List Move) : ((fresh setup indicator device : Service σ ε).run d moves).Posed :=
  run_induction d (fun _ move posed => posed.move move) (posed_fresh setup indicator device) moves

end Service

end ShutterRadio
