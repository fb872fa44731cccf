/-
# A station among producers

Producers ask the station for things, announce packets and read what it has
received while it works.  Each of their wishes is granted or refused in one go,
and so is each act of the station, but between two acts anything may happen.
So a run is a list of moves in any order: the station is set to a task, does its
next act, or somebody has a wish.  A move that cannot be made then changes
nothing, which is why every list is a run.

A service keeps books of what it dealt with producers and of the deeds of its
station, turn by turn.  The books are kept for the statements about them; no
move looks into them.

`Service.exists_run_eq_step` ties this to the programs carried out with nobody else around: a
turn that nobody comes in between does just that.
-/

import ShutterRadio.Proofs.Program.Path

namespace ShutterRadio

/-! ## What producers want -/

/-- What a producer may want of the service. -/
inductive Wish
  | send (transmission : Transmission)
  | listen
  | close
  | announce
  | read (now : Instant)
  deriving DecidableEq

abbrev Wish.Answer : Wish → Type
  | .announce => Unit
  | .read _ => Option Reception
  | _ => Bool

/-- Grant a wish, or refuse it.  No device has a say in that. -/
def Wish.grant {σ : Type} : (wish : Wish) → Station.Work σ Empty wish.Answer
  | .send transmission => Station.offer (.transmit transmission)
  | .listen => Station.offer .listen
  | .close => Station.tryClose
  | .announce => Station.share Queue.signal
  | .read now => Station.read now

/-- A wish, and how it was answered. -/
structure Dealing where
  wish : Wish
  answer : wish.Answer

namespace Dealing

/-- The request that a producer was told is accepted. -/
def request? : Dealing → Option Request
  | ⟨.send transmission, true⟩ => some (.transmit transmission)
  | ⟨.listen, true⟩ => some .listen
  | ⟨.close, true⟩ => some .shutdown
  | _ => none

/-- The requests accepted so far, after one more dealing.  A shutdown is accepted
once; being told so again accepts nothing. -/
def accept (accepted : List Request) (dealing : Dealing) : List Request :=
  match dealing.request? with
  | none => accepted
  | some request =>
      if request = .shutdown ∧ .shutdown ∈ accepted then accepted else accepted ++ [request]

/-- The requests that were accepted, in that order. -/
def accepted (dealings : List Dealing) : List Request := dealings.foldl accept []

@[simp]
theorem accepted_snoc (dealings : List Dealing) (dealing : Dealing) :
    accepted (dealings ++ [dealing]) = accept (accepted dealings) dealing :=
  List.foldl_append

end Dealing

/-! ## What the station does -/

/-- What a station can be set to do. -/
inductive Task
  | start
  | step
  deriving DecidableEq

def Task.program {ε : Type} (describe : ε → String) (setup : Setup) :
    Task → Program ε Station.Flow
  | .start => do
      Program.start describe setup
      pure .goesOn
  | .step => Program.step describe setup

/-- A task as far as the station has come with it. -/
structure Turn (ε : Type) where
  task : Task
  deeds : List (Deed ε)
  /-- What it said in the end, if it has come to the end. -/
  flow : Option Station.Flow

/-- A task that a station is at. -/
structure Job (ε : Type) where
  task : Task
  deeds : List (Deed ε)
  rest : Program ε Station.Flow

/-- The turn that a job has been so far. -/
def Job.turn {ε : Type} (job : Job ε) : Turn ε := ⟨job.task, job.deeds, job.rest.result?⟩

/-! ## Both together -/

/-- A station among producers, and the books about it. -/
structure Service (σ ε : Type) where
  station : Station σ
  job : Option (Job ε)
  /-- Whether the device refused a pause; the station is stuck then. -/
  stuck : Bool
  past : List (Turn ε)
  dealings : List Dealing

/-- What can happen next. -/
inductive Move
  | set (task : Task)
  | proceed
  | ask (wish : Wish)
  deriving DecidableEq

namespace Service

variable {σ ε τ : Type}

/-- A service around a station that has not done anything yet. -/
def fresh (setup : Setup) (indicator : Option Polarity) (device : σ) : Service σ ε :=
  ⟨.fresh setup indicator device, none, false, [], []⟩

def turns (service : Service σ ε) : List (Turn ε) :=
  service.past ++ (service.job.map Job.turn).toList

/-- All deeds of the station so far, in order. -/
def deeds (service : Service σ ε) : List (Deed ε) := service.turns.flatMap Turn.deeds

def set (d : Device σ ε τ) (task : Task) (service : Service σ ε) : Service σ ε :=
  match service.job with
  | some _ => service
  | none =>
      { service with
        job := some ⟨task, [], task.program d.describe service.station.setup⟩ }

/-- Let the station do the next act of a job. -/
def act (d : Device σ ε τ) (service : Service σ ε) (task : Task) (deeds : List (Deed ε))
    (first : Act) (next : first.Answer ε → Program ε Station.Flow) : Service σ ε :=
  match first.perform d service.station with
  | .ok answer station =>
      let deed := ⟨first, answer, d.time service.station.device, d.time station.device⟩
      { service with station, job := some ⟨task, deeds ++ [deed], next answer⟩ }
  | .error _ station => { service with station, stuck := true }

/-- Let the station do its next act, or end its turn if there is none. -/
def proceed (d : Device σ ε τ) (service : Service σ ε) : Service σ ε :=
  match service.stuck, service.job with
  | false, some ⟨task, deeds, .done flow⟩ =>
      { service with job := none, past := service.past ++ [⟨task, deeds, some flow⟩] }
  | false, some ⟨task, deeds, .act first next⟩ => service.act d task deeds first next
  | _, _ => service

def ask (wish : Wish) (service : Service σ ε) : Service σ ε :=
  match wish.grant service.station with
  | .ok answer station =>
      { service with station, dealings := service.dealings ++ [⟨wish, answer⟩] }
  | .error reason _ => reason.elim

def move (d : Device σ ε τ) (service : Service σ ε) : Move → Service σ ε
  | .set task => service.set d task
  | .proceed => service.proceed d
  | .ask wish => service.ask wish

def run (d : Device σ ε τ) (service : Service σ ε) (moves : List Move) : Service σ ε :=
  moves.foldl (move d) service

@[simp]
theorem run_nil (d : Device σ ε τ) (service : Service σ ε) : service.run d [] = service := rfl

@[simp]
theorem run_cons (d : Device σ ε τ) (service : Service σ ε) (first : Move) (rest : List Move) :
    service.run d (first :: rest) = (service.move d first).run d rest := rfl

theorem run_append (d : Device σ ε τ) (service : Service σ ε) (first second : List Move) :
    service.run d (first ++ second) = (service.run d first).run d second :=
  List.foldl_append

/-- What holds in the beginning and is kept by every move holds after every run. -/
theorem run_induction (d : Device σ ε τ) {holds : Service σ ε → Prop}
    (step : ∀ service move, holds service → holds (service.move d move))
    {service : Service σ ε} (initially : holds service) (moves : List Move) :
    holds (service.run d moves) := by
  induction moves generalizing service with
  | nil => exact initially
  | cons first rest ih => exact ih (step service first initially)

/-! ## Turns that nobody comes in between -/

/-- Proceeding with nobody else around carries out what is left of a job. -/
theorem exists_run_eq_alone (d : Device σ ε τ) (task : Task)
    (program : Program ε Station.Flow) (deeds : List (Deed ε)) (service : Service σ ε)
    {flow : Station.Flow} {after : Station σ} (able : service.stuck = false)
    (job : service.job = some ⟨task, deeds, program⟩)
    (alone : program.alone d service.station = .ok flow after) :
    ∃ acts more, service.run d (List.replicate acts .proceed) =
      { service with
        station := after
        job := none
        past := service.past ++ [⟨task, deeds ++ more, some flow⟩] } := by
  induction program generalizing service deeds with
  | done result =>
      injection alone with same unchanged
      subst same unchanged
      refine ⟨1, [], ?_⟩
      simp [move, proceed, able, job]
  | act first next ih =>
      rcases performed : first.perform d service.station with ⟨answer, between⟩ | ⟨reason, between⟩
      · have acted : service.move d .proceed =
            { service with
              station := between
              job := some ⟨task, deeds ++ [⟨first, answer, d.time service.station.device,
                d.time between.device⟩], next answer⟩ } := by
          simp only [move, proceed, act, able, job, performed]
        simp only [Program.alone, performed] at alone
        obtain ⟨acts, more, ran⟩ :=
          ih answer _ (service.move d .proceed) (by rw [acted]; exact able) (by rw [acted])
            (by rw [acted]; exact alone)
        refine ⟨acts + 1, ⟨first, answer, d.time service.station.device,
          d.time between.device⟩ :: more, ?_⟩
        rw [List.replicate_succ, run_cons, ran, acted, List.append_assoc]
        rfl
      · simp only [Program.alone, performed] at alone
        cases alone

/-- A step that nobody comes in between is a step of the station by itself. -/
theorem exists_run_eq_step (d : Device σ ε τ) (service : Service σ ε) {flow : Station.Flow}
    {after : Station σ} (able : service.stuck = false) (resting : service.job = none)
    (stepped : Station.step d service.station = .ok flow after) :
    ∃ acts deeds, service.run d (.set .step :: List.replicate acts .proceed) =
      { service with station := after, past := service.past ++ [⟨.step, deeds, some flow⟩] } := by
  have begun : service.move d (.set .step) =
      { service with
        job := some ⟨.step, [], Program.step d.describe service.station.setup⟩ } := by
    simp only [move, set, resting, Task.program]
  obtain ⟨acts, deeds, ran⟩ := exists_run_eq_alone d .step _ [] (service.move d (.set .step))
    (by rw [begun]; exact able) (by rw [begun]) (by rw [begun]; exact stepped)
  refine ⟨acts, deeds, ?_⟩
  rw [run_cons, ran, begun, ← resting, List.nil_append]

end Service

end ShutterRadio
