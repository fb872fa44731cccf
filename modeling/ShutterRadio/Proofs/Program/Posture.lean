/-
# What a station is seen to do, and its light

A station says what it is doing, and its light is on or off.  Both change by acts of the
station, some way apart from the calls that they are to go with.  A posture is the two
of them: packets may be sent only by a station that says so and has its light on, and
fetched only by one that is idle.

`Program.Poised` computes along a program that it keeps to that, whatever its acts are
answered.  The one answer that matters is what a station sees of itself when it looks.
`Program.poised_program` says that every task that begins at rest keeps to it and ends at
rest, whichever calls fail.
-/

import ShutterRadio.Proofs.Program.BurstPath
import ShutterRadio.Proofs.Service.Basic

namespace ShutterRadio

/-- What a station says it is doing, and how its light was switched last, if it was. -/
@[ext]
structure Posture where
  activity : Activity
  light : Option Bool

namespace Posture

variable {ε : Type}

/-- The posture after an act. -/
def after (posture : Posture) : Act → Posture
  | .become activity => { posture with activity }
  | .light on => { posture with light := some on }
  | _ => posture

/-- In which posture packets may be sent and fetched. -/
def Allows (posture : Posture) : Act → Prop
  | .call (.transmit _) => posture.activity = .transmitting ∧ posture.light = some true
  | .call (.receive _) => posture.activity = .idle
  | _ => True

/-- A station that looks sees what it has said. -/
def Answers (posture : Posture) : (act : Act) → act.Answer ε → Prop
  | .look, answer => answer = posture.activity
  | _, _ => True

/-- Nothing is being sent, and the light is not on. -/
def AtRest (posture : Posture) : Prop :=
  (posture.activity = .idle ∨ posture.activity = .shutDown) ∧ posture.light ≠ some true

/-- An act that is allowed and changes nothing. -/
def Leaves (posture : Posture) (act : Act) : Prop :=
  posture.Allows act ∧ posture.after act = posture

end Posture

namespace Program

variable {ε α β : Type}

/-- Every act is allowed in the posture that it is done in, and the last posture satisfies a
condition. -/
def Poised (final : Posture → Prop) : Posture → Program ε α → Prop
  | posture, .done _ => final posture
  | posture, .act first next => posture.Allows first ∧
      ∀ answer, posture.Answers first answer → Poised final (posture.after first) (next answer)

variable {posture : Posture} {final middle : Posture → Prop} {program : Program ε α}

theorem Poised.bind {rest : α → Program ε β} (first : program.Poised middle posture)
    (second : ∀ result between, middle between → (rest result).Poised final between) :
    (program >>= rest).Poised final posture := by
  induction program generalizing posture with
  | done result => exact second result posture first
  | act act next ih => exact ⟨first.1, fun answer honest => ih answer (first.2 answer honest)⟩

theorem Poised.mono (poised : program.Poised middle posture)
    (weaken : ∀ after, middle after → final after) : program.Poised final posture := by
  induction program generalizing posture with
  | done result => exact weaken posture poised
  | act act next ih => exact ⟨poised.1, fun answer honest => ih answer (poised.2 answer honest)⟩

/-- An act in front of the rest. -/
theorem poised_act {act : Act} {rest : act.Answer ε → Program ε α} (allowed : posture.Allows act)
    (poised : ∀ answer, posture.Answers act answer →
      (rest answer).Poised final (posture.after act)) :
    (once act >>= rest).Poised final posture :=
  ⟨allowed, poised⟩

theorem Uses.poised (uses : program.Uses posture.Leaves) :
    program.Poised (· = posture) posture := by
  induction program with
  | done result => exact rfl
  | act first next ih =>
      refine ⟨uses.1.1, fun answer _ => ?_⟩
      rw [uses.1.2]
      exact ih answer (uses.2 answer)

/-- What leaves the posture alone, in front of the rest. -/
theorem poised_aside {rest : α → Program ε β} (uses : program.Uses posture.Leaves)
    (poised : ∀ result, (rest result).Poised final posture) :
    (program >>= rest).Poised final posture :=
  uses.poised.bind fun result _ same => same ▸ poised result

/-! ## What a station does -/

variable (describe : ε → String) (setup : Setup)

theorem leaves_report {asked : Call} (leaves : posture.Leaves (.call asked)) :
    (report describe asked).Uses posture.Leaves :=
  Uses.report describe leaves fun _ => ⟨trivial, rfl⟩

theorem leaves_listen : (listen describe).Uses posture.Leaves :=
  Uses.listen describe ⟨trivial, rfl⟩ ⟨trivial, rfl⟩ ⟨trivial, rfl⟩ fun _ => ⟨trivial, rfl⟩

/-- A burst sends packets, and that is all that has to be allowed. -/
theorem leaves_burst (sending : posture.activity = .transmitting) (lit : posture.light = some true)
    (frame : Frame) (repeats : UInt16) :
    (burst frame repeats : Program ε _).Uses posture.Leaves := by
  apply Uses.burst _ ⟨trivial, rfl⟩ fun _ => ⟨trivial, rfl⟩
  intro asked planned
  cases asked with
  | transmit packet => exact ⟨⟨sending, lit⟩, rfl⟩
  | receive length => simp [Burst.calls, Burst.approach] at planned
  | _ => exact ⟨trivial, rfl⟩

/-- However its burst ended, a station that has sent is idle again with its light off. -/
theorem poised_transmit (transmission : Transmission) :
    (transmit describe setup transmission).Poised (· = ⟨.idle, some false⟩) posture := by
  have quiet {act : Act} {posture : Posture} (leaves : posture.Leaves act) :
      (once act : Program ε _).Uses posture.Leaves := (uses_once act).mpr leaves
  refine poised_act trivial fun _ _ => ?_
  refine poised_aside (quiet ⟨trivial, rfl⟩) fun _ => ?_
  refine poised_aside (leaves_report describe ⟨trivial, rfl⟩) fun _ => ?_
  refine poised_act trivial fun _ _ => ?_
  refine poised_aside (leaves_burst rfl rfl _ _) fun ending => ?_
  refine poised_aside (Uses.settle describe _ ending ⟨trivial, rfl⟩ ⟨trivial, rfl⟩
    fun _ => ⟨trivial, rfl⟩) fun _ => ?_
  refine poised_act trivial fun _ _ => ?_
  refine poised_aside (leaves_report describe ⟨trivial, rfl⟩) fun _ => ?_
  refine poised_aside (quiet ⟨trivial, rfl⟩) fun _ => ?_
  refine poised_aside (leaves_listen describe) fun _ => ?_
  exact ⟨trivial, fun _ _ => rfl⟩

/-- An idle station may fetch. -/
theorem leaves_fetch (idle : posture.activity = .idle) :
    (fetch describe).Uses posture.Leaves := by
  apply Uses.fetch describe ⟨idle, rfl⟩ _ (leaves_listen describe) fun _ => ⟨trivial, rfl⟩
  intro packet
  exact Uses.absorb ⟨trivial, rfl⟩ (fun _ _ => ⟨trivial, rfl⟩) ⟨trivial, rfl⟩ ⟨trivial, rfl⟩
    ⟨trivial, rfl⟩ fun _ => ⟨trivial, rfl⟩

theorem poised_shutDown (dark : posture.light ≠ some true) :
    (shutDown describe).Poised Posture.AtRest posture := by
  refine poised_aside (leaves_report describe ⟨trivial, rfl⟩) fun _ => ?_
  refine poised_act trivial fun _ _ => ?_
  exact ⟨trivial, fun _ _ => ⟨.inr rfl, dark⟩⟩

theorem poised_serve (request : Request) (rests : posture.AtRest) :
    (serve describe setup request).Poised Posture.AtRest posture := by
  cases request with
  | transmit transmission =>
      refine (poised_transmit describe setup transmission).bind fun _ _ same => ?_
      subst same
      exact ⟨.inl rfl, nofun⟩
  | listen => exact poised_aside (leaves_listen describe) fun _ => rests
  | shutdown => exact (poised_shutDown describe rests.2).bind fun _ _ rests => rests

/-- A station that starts says first that it is idle. -/
theorem poised_start (dark : posture.light ≠ some true) :
    (start describe setup).Poised Posture.AtRest posture := by
  have uses : (start describe setup).Uses { posture with activity := .idle }.Leaves := by
    apply Uses.start describe setup ⟨trivial, rfl⟩ _ fun _ => ⟨trivial, rfl⟩
    simp [Station.startCalls, Posture.Leaves, Posture.Allows, Posture.after]
  refine ⟨trivial, fun answer _ => (uses.2 answer).poised.mono fun _ same => ?_⟩
  subst same
  exact ⟨.inl rfl, dark⟩

/-- A task that begins at rest sends and fetches only as it may, and ends at rest. -/
theorem poised_program (task : Task) (rests : posture.AtRest) :
    (task.program describe setup).Poised Posture.AtRest posture := by
  cases task with
  | start => exact (poised_start describe setup rests.2).bind fun _ _ rests => rests
  | step =>
      refine poised_act trivial fun activity seen => ?_
      split
      · exact rests
      rename_i running
      -- A station at rest that has not shut down is idle.
      have idle : posture.activity = .idle := rests.1.resolve_right (seen ▸ running)
      refine poised_act trivial fun ready _ => ?_
      cases ready with
      | true => exact poised_aside (leaves_fetch describe idle) fun _ => rests
      | false =>
          refine poised_act trivial fun request _ => ?_
          cases request with
          | some request => exact poised_serve describe setup request rests
          | none => exact ⟨trivial, fun _ _ => rests⟩

end Program

end ShutterRadio
