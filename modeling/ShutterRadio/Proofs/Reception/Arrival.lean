/-
# A frame that arrives

A frame arrives when the radio has it, the ready line has risen and the station
takes a step.  `Station.hear_eq` says what that amounts to if the frame carries a
command: it is recorded with a reading of the clock, what became of it is
counted, and whatever else the step does leaves the queue and the tally alone.

How the radio gets hold of a frame is not said by the station.  It is a parameter
here, of which `Device.Receives` asks that the frame can be fetched.
-/

import ShutterRadio.Proofs.Program.Alone
import ShutterRadio.Proofs.Program.Neutral
import ShutterRadio.Proofs.Program.Repertoire

namespace ShutterRadio

/-! ## Acts that leave the queue and the tally alone -/

/-- An act that changes at most the device, the journal and the announcement of
a packet. -/
def Act.IsAside : Act → Prop
  | .tell _ => True
  | .call _ => True
  | _ => False

theorem Act.IsAside.isNeutral {act : Act} (aside : act.IsAside) : act.IsNeutral := by
  cases act with
  | tell note => trivial
  | call asked => trivial
  | _ => exact aside.elim

namespace Program

variable {σ ε τ α : Type} {d : Device σ ε τ}

theorem isAside_listen (describe : ε → String) : (listen describe).Uses Act.IsAside :=
  Uses.listen describe trivial trivial trivial fun _ => trivial

/-- What is done aside changes neither the queue nor the tally. -/
theorem Runs.aside {program : Program ε α} {before after : Station σ} {deeds : List (Deed ε)}
    {result : α} (runs : Runs d program before deeds result after)
    (aside : program.Uses Act.IsAside) :
    ∃ device journal ready, after =
      { before with device, journal, queue := { before.queue with ready } } := by
  induction runs with
  | done result station => exact ⟨_, _, _, rfl⟩
  | act next performed _ ih =>
      obtain ⟨_, _, _, rfl⟩ := Act.neutral_eq performed aside.1.isNeutral
      obtain ⟨_, _, _, rfl⟩ := ih (aside.2 _)
      exact ⟨_, _, _, rfl⟩

end Program

/-! ## Taking in a command -/

/-- How a tally goes on when a frame was handed to the receive buffer. -/
def Tally.afterPlacing (tally : Tally) : Placement → Tally
  | .appended => tally.bump .heard
  | .repeated => tally
  | .dropped => tally.bump .lost

namespace Program

variable {σ ε τ : Type} {d : Device σ ε τ} {before after : Station σ} {deeds : List (Deed ε)}

theorem runs_count_tell {counter : Counter} {note : Note}
    (runs : Runs d (once (.count counter) >>= fun _ => once (.tell note)) before deeds () after) :
    after = { before with
      tally := before.tally.bump counter
      journal := note :: before.journal } := by
  obtain ⟨_, counted, _, performed, -, runs⟩ := runs_once_bind.mp runs
  injection performed with _ changed
  subst changed
  obtain ⟨performed, -⟩ := runs_once.mp runs
  injection performed with _ changed
  exact changed.symm

/-- A command that is taken in is recorded with what the clock says, and counted. -/
theorem runs_takeIn {command : Command}
    (runs : Runs d (takeIn command) before deeds () after) :
    ∃ device journal, after = { before with
      device
      journal
      queue := (before.queue.record command (d.read before.device).1).2
      tally := before.tally.afterPlacing
        (before.queue.record command (d.read before.device).1).1 } := by
  obtain ⟨now, read, _, performed, -, runs⟩ := runs_once_bind.mp runs
  obtain ⟨rfl, rfl⟩ := Station.clock_eq_ok performed
  obtain ⟨placement, recorded, _, performed, -, runs⟩ := runs_once_bind.mp runs
  obtain ⟨placed, rfl⟩ := Station.consult_eq_ok (·.record command _) performed
  dsimp only at placed
  cases placement with
  | appended =>
      obtain rfl := runs_count_tell runs
      exact ⟨_, _, by rw [placed]; rfl⟩
  | repeated =>
      cases runs
      exact ⟨_, _, by rw [placed]; rfl⟩
  | dropped =>
      obtain rfl := runs_count_tell runs
      exact ⟨_, _, by rw [placed]; rfl⟩

/-- A frame that is fetched and carries a command has that command taken in. -/
theorem runs_fetch {describe : ε → String} {bytes : Vector UInt8 frameLength} {command : Command}
    (runs : Runs d (fetch describe) before deeds () after)
    (answered : (d.perform before.queue.activity (.receive frameLength) before.device).ending =
      .answered bytes) (carries : (Frame.ofVector bytes).decode = .ok command) :
    let fetched := (d.perform before.queue.activity (.receive frameLength) before.device).device
    let taken := before.queue.record command (d.read fetched).1
    ∃ device journal ready, after = { before with
      device
      journal
      queue := { taken.2 with ready }
      tally := before.tally.afterPlacing taken.1 } := by
  intro fetched taken
  obtain ⟨answer, between, _, performed, -, runs⟩ := runs_once_bind.mp runs
  obtain rfl := Station.answer_of_answered performed answered
  obtain ⟨_, _, rfl⟩ := Station.call_eq_ok performed
  obtain ⟨_, _, _, absorbed, -, absorbing, listening⟩ := runs_bind.mp runs
  rw [absorb, carries] at absorbing
  obtain ⟨_, _, rfl⟩ := runs_takeIn absorbing
  obtain ⟨_, _, _, rfl⟩ := listening.aside (isAside_listen describe)
  exact ⟨_, _, _, rfl⟩

/-- A station that runs and has a packet announced fetches it. -/
theorem runs_step_of_ready {describe : ε → String} {setup : Setup} {flow : Station.Flow}
    (runs : Runs d (step describe setup) before deeds flow after)
    (running : before.queue.activity ≠ .shutDown) (ready : before.queue.ready = true) :
    flow = .goesOn ∧ ∃ more,
      Runs d (fetch describe) { before with queue := before.queue.calm } more () after := by
  obtain ⟨_, -, serving⟩ := runs_step_of_running runs running
  rw [if_pos ready] at serving
  obtain ⟨_, _, _, _, -, fetching, done⟩ := runs_bind.mp serving
  cases done
  exact ⟨rfl, _, fetching⟩

end Program

/-! ## Hearing a frame -/

/-- The device has a packet presented to it in such a way that the next fetch
yields it, if it is a frame, and the clock then reads the moment it came. -/
structure Device.Receives {σ ε τ : Type} (d : Device σ ε τ)
    (present : List UInt8 → Instant → σ → σ) : Prop where
  fetch : ∀ activity (frame : Frame) moment s, ∃ bytes,
    (d.perform activity (.receive frameLength) (present frame.bytes moment s)).ending =
      .answered bytes ∧ Frame.ofVector bytes = frame
  clock : ∀ activity (frame : Frame) moment s,
    (d.read (d.perform activity (.receive frameLength)
      (present frame.bytes moment s)).device).1 = moment

namespace Station

variable {σ ε τ : Type} {d : Device σ ε τ} {present : List UInt8 → Instant → σ → σ}

/-- A packet is presented to the radio, which announces it, and the station takes
a step. -/
def hear (d : Device σ ε τ) (present : List UInt8 → Instant → σ → σ) (packet : List UInt8)
    (moment : Instant) : Work σ τ Flow := fun station =>
  step d { station with
    device := present packet moment station.device
    queue := station.queue.signal }

/-- A frame that is heard and carries a command is recorded and counted. -/
theorem hear_eq (patient : d.Patient) (receives : d.Receives present) {station : Station σ}
    (running : station.queue.activity ≠ .shutDown) {frame : Frame} {command : Command}
    (carries : frame.decode = .ok command) (moment : Instant) :
    ∃ after, hear d present frame.bytes moment station = .ok .goesOn after ∧
      after.queue.activity = station.queue.activity ∧
      after.queue.received = (station.queue.received.record command moment).2 ∧
      after.tally = station.tally.afterPlacing
        (station.queue.received.record command moment).1 := by
  obtain ⟨flow, after, runs⟩ := Program.exists_runs patient (Program.step d.describe station.setup)
    { station with
      device := present frame.bytes moment station.device
      queue := station.queue.signal }
  obtain ⟨rfl, more, fetching⟩ := Program.runs_step_of_ready runs running rfl
  obtain ⟨bytes, answered, rfl⟩ := receives.fetch station.queue.activity frame moment station.device
  obtain ⟨device, journal, ready, rfl⟩ := Program.runs_fetch fetching answered carries
  refine ⟨_, (Program.runs_iff.mp runs).1, rfl, ?_, ?_⟩
  · exact congrArg (fun now => (station.queue.received.record command now).2)
      (receives.clock _ _ _ _)
  · exact congrArg (fun now => station.tally.afterPlacing
      (station.queue.received.record command now).1) (receives.clock _ _ _ _)

end Station

end ShutterRadio
