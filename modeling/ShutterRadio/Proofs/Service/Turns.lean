/-
# The turns of a service

However producers come in between, every turn of the station is a path through
the program of its task, and all turns but the last have come to their end.  So
what is known of one turn, `Account.IsTurn`, is known of each turn of a run, and
what the station did altogether is what it did turn by turn.
-/

import ShutterRadio.Proofs.Program.Alone
import ShutterRadio.Proofs.Program.Turn
import ShutterRadio.Proofs.Service.Balance

namespace ShutterRadio

def Request.transmission? : Request → Option Transmission
  | .transmit transmission => some transmission
  | _ => none

namespace Turn

variable {σ ε τ : Type}

def account (turn : Turn ε) : Account := .ofDeeds turn.deeds

/-- The deeds of a turn are a path through the program of its task, and it has
said something in the end only if nothing was left to do. -/
def IsPath (d : Device σ ε τ) (setup : Setup) (turn : Turn ε) : Prop :=
  ∃ rest, (turn.task.program d.describe setup).Leads turn.deeds rest ∧ turn.flow = rest.result?

/-- The turn has come to its end: its deeds are all that its task asked for. -/
def IsOver (d : Device σ ε τ) (setup : Setup) (turn : Turn ε) : Prop :=
  ∃ flow, (turn.task.program d.describe setup).Leads turn.deeds (.done flow)

/-- A path whose end has been said has come to its end. -/
theorem IsPath.isOver {d : Device σ ε τ} {setup : Setup} {turn : Turn ε}
    (path : turn.IsPath d setup) (said : turn.flow.isSome) : turn.IsOver d setup := by
  obtain ⟨rest, leads, flow⟩ := path
  cases rest with
  | done result => exact ⟨result, leads⟩
  | act first next =>
      rw [flow] at said
      cases said

/-- What the program of a task follows is true of its turns. -/
theorem IsPath.satisfies {d : Device σ ε τ} {setup : Setup} {turn : Turn ε}
    {spec : List (Deed ε) → Option Station.Flow → Prop} (path : turn.IsPath d setup)
    (follows : (turn.task.program d.describe setup).Follows spec) :
    spec turn.deeds turn.flow := by
  obtain ⟨rest, leads, flow⟩ := path
  rw [flow]
  exact leads.satisfies follows

/-- The account of a path makes a turn. -/
theorem IsPath.isTurn {d : Device σ ε τ} {setup : Setup} {turn : Turn ε}
    (path : turn.IsPath d setup) : turn.account.IsTurn setup.key turn.flow.isSome := by
  obtain ⟨rest, leads, flow⟩ := path
  have accounts : (turn.task.program d.describe setup).Accounts fun account result =>
      account.IsTurn setup.key result.isSome := by
    cases turn.task with
    | start =>
        have quiet := (Program.isQuiet_start d.describe setup).bind fun _ =>
          Program.uses_done Station.Flow.goesOn
        exact Program.accounts_of_quiet quiet fun _ => .idle
    | step => exact Program.accounts_step d.describe setup
  rw [flow]
  exact leads.satisfies accounts

end Turn

namespace Account

variable {key : UInt8} {account : Account} {finished : Bool}

/-- A turn that is over has counted each of its requests to send once. -/
theorem IsTurn.counted (turn : account.IsTurn key true) :
    account.verdicts.count .sent + account.verdicts.count .abandoned =
      (account.requests.filterMap Request.transmission?).length := by
  cases turn with
  | idle => rfl
  | listening => rfl
  | stopping _ => rfl
  | sending _ counted =>
      obtain rfl := counted.resolve_left nofun
      split <;> rfl

/-- A turn without a request counts nothing. -/
theorem IsTurn.verdicts_of_requests (turn : account.IsTurn key finished)
    (none : account.requests = []) : account.verdicts = [] := by
  cases turn with
  | idle => rfl
  | _ => cases none

/-- A turn that stops for good serves a request to shut down. -/
theorem IsTurn.requests_of_stops (turn : account.IsTurn key finished)
    (stops : account.stops = true) : account.requests = [.shutdown] ∧ account.verdicts = [] := by
  cases turn with
  | stopping _ => exact ⟨rfl, rfl⟩
  | _ => cases stops

end Account

namespace Service

variable {σ ε τ : Type}

/-- Every turn is a path, and the past ones are over. -/
structure Faithful (d : Device σ ε τ) (setup : Setup) (service : Service σ ε) : Prop where
  kept : service.station.setup = setup
  past : ∀ turn ∈ service.past, turn.IsPath d setup ∧ turn.flow.isSome
  job : ∀ job ∈ service.job, (job.task.program d.describe setup).Leads job.deeds job.rest

theorem faithful_fresh (d : Device σ ε τ) (setup : Setup) (indicator : Option Polarity)
    (device : σ) : (fresh setup indicator device : Service σ ε).Faithful d setup where
  kept := rfl
  past turn member := by cases member
  job job member := by cases member

theorem setup_move (d : Device σ ε τ) (service : Service σ ε) (move : Move) :
    (service.move d move).station.setup = service.station.setup := by
  cases shows_move d service move with
  | nothing station _ _ _ => rw [station]
  | deed deed performed _ _ _ _ _ _ => exact (deed.explains d performed).setup
  | jam act _ stuck _ _ _ => exact (act.explains_stuck d stuck).setup
  | dealing dealing granted _ _ _ => rw [(dealing.wish.explains_grant granted).station]

theorem faithful_move (d : Device σ ε τ) (setup : Setup) (service : Service σ ε) (move : Move)
    (faithful : service.Faithful d setup) : (service.move d move).Faithful d setup := by
  suffices paths : (∀ turn ∈ (service.move d move).past, turn.IsPath d setup ∧ turn.flow.isSome) ∧
      ∀ job ∈ (service.move d move).job,
        (job.task.program d.describe setup).Leads job.deeds job.rest from
    ⟨(setup_move d service move).trans faithful.kept, paths.1, paths.2⟩
  cases move with
  | set task =>
      simp only [Service.move, set]
      split
      · exact ⟨faithful.past, faithful.job⟩
      · refine ⟨faithful.past, fun job begun => ?_⟩
        obtain rfl := Option.mem_some.mp begun
        rw [faithful.kept]
        exact .start _
  | ask wish =>
      simp only [Service.move, ask]
      split
      · exact ⟨faithful.past, faithful.job⟩
      · rename_i reason _ _
        exact reason.elim
  | proceed =>
      simp only [Service.move, proceed]
      split
      · rename_i task deeds flow able job
        refine ⟨fun turn member => ?_, by simp⟩
        rcases List.mem_append.mp member with earlier | ended
        · exact faithful.past turn earlier
        · obtain rfl := List.mem_singleton.mp ended
          exact ⟨⟨.done flow, faithful.job _ job, rfl⟩, rfl⟩
      · rename_i task deeds first next able job
        have leads := faithful.job _ job
        unfold act
        split
        · rename_i answer station performed
          refine ⟨faithful.past, fun job begun => ?_⟩
          obtain rfl := Option.mem_some.mp begun
          exact leads.snoc
        · exact ⟨faithful.past, faithful.job⟩
      · exact ⟨faithful.past, faithful.job⟩

/-- Every turn of every run is on its path. -/
theorem faithful_run (d : Device σ ε τ) (setup : Setup) (indicator : Option Polarity)
    (device : σ) (moves : List Move) :
    ((fresh setup indicator device : Service σ ε).run d moves).Faithful d setup :=
  run_induction d (faithful_move d setup) (faithful_fresh d setup indicator device) moves

variable {d : Device σ ε τ} {setup : Setup} {service : Service σ ε}

theorem Faithful.isPath (faithful : service.Faithful d setup) {turn : Turn ε}
    (member : turn ∈ service.turns) : turn.IsPath d setup := by
  rcases List.mem_append.mp member with past | present
  · exact (faithful.past turn past).1
  · obtain ⟨job, at_, rfl⟩ := Option.map_eq_some_iff.mp (Option.mem_toList.mp present)
    exact ⟨job.rest, faithful.job job at_, rfl⟩

theorem Faithful.finished (faithful : service.Faithful d setup) {turn : Turn ε}
    (member : turn ∈ service.turns.dropLast) : turn.flow.isSome := by
  refine (faithful.past turn ?_).2
  unfold turns at member
  cases job : service.job with
  | none =>
      rw [job] at member
      simpa using List.dropLast_subset _ member
  | some job =>
      simpa [job] using member

/-- What every task keeps to on every path, and what can be continued once a turn is over,
a run keeps to: it is over as long as the station rests. -/
theorem Faithful.accrues (faithful : service.Faithful d setup)
    (spec : List (Deed ε) → Bool → Prop) (initially : spec [] true)
    (append : ∀ first second finished, spec first true → spec second finished →
      spec (first ++ second) finished)
    (unfinished : ∀ deeds finished, spec deeds finished → spec deeds false)
    (task : ∀ task : Task, (task.program d.describe setup).Follows fun deeds result =>
      spec deeds result.isSome) :
    spec service.deeds service.job.isNone := by
  have each : ∀ past : List (Turn ε), (∀ turn ∈ past, turn.IsPath d setup ∧ turn.flow.isSome) →
      spec (past.flatMap Turn.deeds) true := by
    intro past turns
    induction past with
    | nil => exact initially
    | cons turn past ih =>
        obtain ⟨path, ended⟩ := turns turn List.mem_cons_self
        have kept : spec turn.deeds turn.flow.isSome := path.satisfies (task turn.task)
        rw [ended] at kept
        exact append _ _ _ kept (ih fun turn member => turns turn (List.mem_cons_of_mem _ member))
  have past := each service.past faithful.past
  rw [deeds_eq]
  cases current : service.job with
  | none => simpa using past
  | some job =>
      have leads := faithful.job job current
      exact append _ _ _ past (unfinished _ _ (leads.satisfies (task job.task)))

/-- A station that rests is not stuck. -/
def Able (service : Service σ ε) : Prop := service.job = none → service.stuck = false

theorem able_move (d : Device σ ε τ) (service : Service σ ε) (move : Move)
    (able : service.Able) : (service.move d move).Able := by
  unfold Able
  cases move with
  | set task =>
      simp only [Service.move, set]
      split
      · exact able
      · intro resting
        cases resting
  | ask wish =>
      simp only [Service.move, ask]
      split
      · exact able
      · rename_i reason _ _
        exact reason.elim
  | proceed =>
      simp only [Service.move, proceed]
      split
      · rename_i free _
        exact fun _ => free
      · rename_i task deeds first next free job
        unfold act
        split
        · intro resting
          cases resting
        · intro resting
          rw [job] at resting
          cases resting
      · exact able

/-- A patient device never gets the station stuck. -/
theorem unstuck_move {d : Device σ ε τ} (patient : d.Patient) (service : Service σ ε) (move : Move)
    (able : service.stuck = false) : (service.move d move).stuck = false := by
  cases shows_move d service move with
  | nothing _ _ _ stuck => rw [stuck, able]
  | deed _ _ _ _ _ _ _ able => exact able
  | jam act reason stuck _ _ _ =>
      obtain ⟨answer, after, performed⟩ := Program.exists_perform patient act service.station
      rw [performed] at stuck
      cases stuck
  | dealing _ _ _ _ stuck => rw [stuck, able]

/-- On a patient device a station that is left to itself comes to the end of its turn. -/
theorem exists_run_rests {d : Device σ ε τ} (patient : d.Patient) (service : Service σ ε)
    {job : Job ε} (able : service.stuck = false) (begun : service.job = some job) :
    ∃ acts more flow, (service.run d (List.replicate acts .proceed)).job = none ∧
      (service.run d (List.replicate acts .proceed)).past =
        service.past ++ [⟨job.task, job.deeds ++ more, some flow⟩] := by
  obtain ⟨flow, after, runs⟩ := Program.exists_runs patient job.rest service.station
  obtain ⟨acts, more, ran⟩ := exists_run_eq_alone d job.task job.rest job.deeds service able begun
    (Program.runs_iff.mp runs).1
  exact ⟨acts, more, flow, by rw [ran], by rw [ran]⟩

/-- The station took the requests that its turns took, in that order. -/
theorem requests_account (service : Service σ ε) :
    service.account.requests = service.turns.flatMap fun turn => turn.account.requests :=
  List.filterMap_flatMap ..

/-- Bursts were counted as they were turn by turn. -/
theorem verdicts_account (service : Service σ ε) :
    service.account.verdicts = service.turns.flatMap fun turn => turn.account.verdicts :=
  List.filterMap_flatMap ..

end Service

end ShutterRadio
