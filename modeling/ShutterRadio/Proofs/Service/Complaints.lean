/-
# Failures are not silent, with one exception

A station writes its complaints into its journal, and on a device that leaves it to
the station to complain those are all that stand there.  So whoever reads the journal
learns of every call that failed, whichever calls fail and whatever producers do
meanwhile: `Service.run_complains` says so of every run.

The exception is that a start does not say anything if it cannot read the radio's own
figures back.  How many failures are silent is just how many of those calls failed.
-/

import ShutterRadio.Bench.Recorder
import ShutterRadio.Bench.RegisterFile
import ShutterRadio.Proofs.Chip.Keeping
import ShutterRadio.Proofs.Program.Telling
import ShutterRadio.Proofs.Service.Turns

namespace ShutterRadio

namespace Station

variable {σ : Type}

/-- The complaints in the journal, oldest first. -/
def complaints (station : Station σ) : List Note := station.journal.reverse.filter Note.isComplaint

/-- What is written into the journal adds its complaints. -/
theorem complaints_of_append {before after : Station σ} (notes : List Note)
    (written : after.journal = notes.reverse ++ before.journal) :
    after.complaints = before.complaints ++ notes.filter Note.isComplaint := by
  simp only [complaints, written, List.reverse_append, List.reverse_reverse, List.filter_append]

/-- Notes that complain of nothing do not show. -/
theorem complaints_of_mild {before after : Station σ} (notes : List Note)
    (written : after.journal = notes.reverse ++ before.journal)
    (mild : ∀ note ∈ notes, note.isComplaint = false) :
    after.complaints = before.complaints := by
  have none : notes.filter Note.isComplaint = [] :=
    List.filter_eq_nil_iff.mpr fun note member => by simp [mild note member]
  rw [complaints_of_append notes written, none, List.append_nil]

end Station

namespace Act

variable {σ ε τ : Type} {d : Device σ ε τ} {act : Act} {before after : Station σ}

/-- What an act adds to the complaints is what it tells. -/
theorem complaints_perform (discreet : d.Discreet) {answer : act.Answer ε}
    (performed : act.perform d before = .ok answer after) (begun ended : Instant) :
    after.complaints =
      before.complaints ++ Deed.complaints [(⟨act, answer, begun, ended⟩ : Deed ε)] := by
  have quiet (same : Deed.complaints [(⟨act, answer, begun, ended⟩ : Deed ε)] = [])
      (unchanged : after.complaints = before.complaints) : after.complaints =
        before.complaints ++ Deed.complaints [(⟨act, answer, begun, ended⟩ : Deed ε)] := by
    rw [same, List.append_nil, unchanged]
  cases act with
  | tell note =>
      injection performed with _ changed
      subst changed
      rw [Station.complaints_of_append [note] rfl]
      cases complaint : note.isComplaint <;>
        simp [Deed.complaints, Deed.complaint?, complaint]
  | call asked =>
      apply quiet rfl
      have honest := discreet before.queue.activity asked before.device
      simp only [perform, Station.call] at performed
      split at performed
      · injection performed with _ changed
        exact Station.complaints_of_mild _ (by rw [← changed]) honest
      · injection performed with _ changed
        exact Station.complaints_of_mild _ (by rw [← changed]) honest
      · cases performed
  | light on =>
      apply quiet rfl
      injection performed with _ changed
      subst changed
      rcases before with ⟨setup, indicator, tally, queue, device, journal⟩
      cases indicator <;> rfl
  | pause micros =>
      apply quiet rfl
      rw [(Station.passing_eq_ok performed).2]
      rfl
  | wait deadline =>
      apply quiet rfl
      rw [(Station.passing_eq_ok performed).2]
      rfl
  | _ =>
      apply quiet rfl
      injection performed with _ changed
      subst changed
      rfl

/-- An act that got stuck adds nothing. -/
theorem complaints_stuck (discreet : d.Discreet) {reason : τ}
    (stuck : act.perform d before = .error reason after) :
    after.complaints = before.complaints := by
  have passing {lapse : σ → EStateM.Result τ σ Unit}
      (failed : Station.passing lapse before = .error reason after) :
      after.complaints = before.complaints := by
    unfold Station.passing at failed
    split at failed
    · cases failed
    · injection failed with _ changed
      subst changed
      rfl
  cases act with
  | call asked =>
      simp only [perform, Station.call] at stuck
      split at stuck
      · cases stuck
      · cases stuck
      · injection stuck with _ changed
        exact Station.complaints_of_mild _ (by rw [← changed])
          (discreet before.queue.activity asked before.device)
  | pause micros => exact passing stuck
  | wait deadline => exact passing stuck
  | _ => cases stuck

end Act

/-- Producers are told of a refusal, which is no complaint of the station. -/
theorem Wish.complaints_grant {σ : Type} {wish : Wish} {before after : Station σ}
    {answer : wish.Answer} (granted : wish.grant before = .ok answer after) :
    after.complaints = before.complaints := by
  have offering {request : Request} {accepted : Bool}
      (offered : (Station.offer request : Station.Work σ Empty Bool) before = .ok accepted after) :
      after.complaints = before.complaints := by
    rw [Station.offer_eq] at offered
    injection offered with _ changed
    subst changed
    cases (Queue.offer request before.queue).1 with
    | true => rfl
    | false => exact Station.complaints_of_mild [.refused request] rfl (by simp [Note.isComplaint])
  cases wish with
  | send transmission => exact offering granted
  | listen => exact offering granted
  | close =>
      rw [grant, Station.tryClose_eq] at granted
      injection granted with _ changed
      subst changed
      rfl
  | announce =>
      injection granted with _ changed
      subst changed
      rfl
  | read now =>
      rw [(Station.consult_eq_ok (Queue.collect · now) granted).2]
      rfl

namespace Turn

variable {σ ε τ : Type} {d : Device σ ε τ} {setup : Setup} {turn : Turn ε}

/-- What failed in a turn was told of, once it is over. -/
theorem IsPath.told (path : turn.IsPath d setup) :
    Program.ToldOf d.describe setup turn.deeds turn.flow.isSome :=
  path.satisfies (Program.told_task d.describe setup turn.task)

/-- Only a start reads the radio's own figures back. -/
theorem IsPath.reads (path : turn.IsPath d setup) (step : turn.task = .step) :
    Deed.grievances turn.deeds = Deed.failures turn.deeds := by
  have follows := Program.grievances_step d.describe setup
  change (Task.step.program d.describe setup).Follows _ at follows
  rw [← step] at follows
  exact path.satisfies follows

/-- A turn stops the station for good only if it was asked to, and finds it stopped only
if it was. -/
theorem IsPath.stops (path : turn.IsPath d setup) (stopped : turn.flow = some .stopped) :
    (∃ begun ended, turn.deeds = [⟨.look, .shutDown, begun, ended⟩]) ∨
      .shutdown ∈ turn.account.requests := by
  have follows : (turn.task.program d.describe setup).Follows fun deeds result =>
      result = some .stopped →
        (∃ begun ended, deeds = [⟨.look, .shutDown, begun, ended⟩]) ∨
          .shutdown ∈ deeds.filterMap Deed.request? := by
    cases turn.task with
    | start =>
        exact (Program.goes_on (Program.start d.describe setup)).mono
          fun _ _ on stopped => absurd stopped on
    | step => exact Program.stops_step d.describe setup
  exact path.satisfies follows stopped

end Turn

namespace Service

variable {σ ε τ : Type}

/-- The complaints in the journal are those that the station told. -/
def Candid (service : Service σ ε) : Prop :=
  service.station.complaints = Deed.complaints service.deeds

theorem candid_move {d : Device σ ε τ} (discreet : d.Discreet) (service : Service σ ε)
    (move : Move) (candid : service.Candid) : (service.move d move).Candid := by
  unfold Candid at candid ⊢
  cases shows_move d service move with
  | nothing station deeds _ _ => rw [station, deeds, candid]
  | deed deed performed _ _ deeds _ _ _ =>
      rw [deed.act.complaints_perform discreet performed deed.begun deed.ended, candid, deeds,
        Deed.complaints_append]
  | jam act reason stuck deeds _ _ => rw [act.complaints_stuck discreet stuck, candid, deeds]
  | dealing dealing granted deeds _ _ => rw [dealing.wish.complaints_grant granted, candid, deeds]

theorem candid_run {d : Device σ ε τ} (discreet : d.Discreet) (setup : Setup)
    (indicator : Option Polarity) (device : σ) (moves : List Move) :
    ((fresh setup indicator device : Service σ ε).run d moves).Candid := by
  have initially : (fresh setup indicator device : Service σ ε).Candid := rfl
  exact run_induction d (candid_move discreet) initially moves

/-- What failed in a run was told of, but for what failed last while the station is at a
task. -/
theorem Faithful.told {d : Device σ ε τ} {setup : Setup} {service : Service σ ε}
    (faithful : service.Faithful d setup) :
    Program.ToldOf d.describe setup service.deeds service.job.isNone := by
  apply faithful.accrues (Program.ToldOf d.describe setup) Deed.told_nil
  · exact fun first second finished before after => before.append after
  · exact fun deeds finished told => told.unfinished
  · exact Program.told_task d.describe setup

/-- Whatever calls fail, and whatever producers do meanwhile:

* the complaints in the journal, all of which are warnings, are those of the turns;
* in every turn each failure was told of, once, in order and by words for it, but for
  those to read the radio's own figures back, and for the last one while the turn is
  not over;
* so there are as many failures as complaints and failures to read those figures, but
  for the one that the station may have to tell of yet;
* only a start reads those figures;
* and the work goes on: a turn ends it only if the station had shut down, or took a
  request to, and only a device that is not patient gets the station stuck. -/
theorem run_complains {d : Device σ ε τ} (discreet : d.Discreet) (setup : Setup)
    (indicator : Option Polarity) (device : σ) (moves : List Move) :
    let service := (fresh setup indicator device : Service σ ε).run d moves
    let failures := Deed.failures service.deeds
    let complaints := service.station.complaints
    complaints = service.turns.flatMap (fun turn => Deed.complaints turn.deeds) ∧
    (∀ note ∈ complaints, note.level = .warn) ∧
    (∀ turn ∈ service.turns,
      Program.ToldOf d.describe setup turn.deeds turn.flow.isSome) ∧
    (∃ inHand ≤ (if service.job.isNone then 0 else 1),
      failures.length = complaints.length + failures.countP (·.1.isReadBack) + inHand) ∧
    (∀ turn ∈ service.turns, turn.task = .step →
      ∀ failure ∈ Deed.failures turn.deeds, failure.1.isReadBack = false) ∧
    (∀ turn ∈ service.turns, turn.flow = some .stopped →
      (∃ begun ended, turn.deeds = [⟨.look, .shutDown, begun, ended⟩]) ∨
        .shutdown ∈ turn.account.requests) ∧
    (d.Patient → service.stuck = false) := by
  intro service failures complaints
  have faithful : service.Faithful d setup := faithful_run d setup indicator device moves
  have candid : complaints = Deed.complaints service.deeds :=
    candid_run discreet setup indicator device moves
  refine ⟨?_, ?_, ?_, ?_, ?_, ?_, ?_⟩
  · rw [candid, Deed.complaints, deeds, List.filterMap_flatMap]
    rfl
  · intro note member
    exact Note.level_of_isComplaint (List.mem_filter.mp member).2
  · exact fun turn member => (faithful.isPath member).told
  · obtain ⟨inHand, few, lag⟩ := faithful.told.lags.exists_le
    refine ⟨inHand, few, ?_⟩
    have whole : failures.length = (Deed.grievances service.deeds).length +
        failures.countP (·.1.isReadBack) := Deed.length_failures service.deeds
    rw [whole, lag, candid]
    omega
  · intro turn member step failure failed
    rw [← (faithful.isPath member).reads step] at failed
    simpa using (List.mem_filter.mp failed).2
  · exact fun turn member => (faithful.isPath member).stops
  · exact fun patient => run_induction d (unstuck_move patient) rfl moves

end Service

theorem Bench.discreet_recorder : recorder.Discreet := by
  intro activity asked board note member
  have none : (board.perform activity asked).notes = [] := by
    unfold Board.perform
    dsimp only
    split <;> rfl
  rw [show (recorder.perform activity asked board).notes = [] from none] at member
  cases member

/-- A radio that does not tell its version and does not go to standby, and refuses its
fourteenth call. -/
def Bench.unwilling : Board :=
  { Board.blank with failingNames := ["version", "standby"], failingCalls := [13] }

/-- A start and a press that nobody comes in between. -/
def Bench.unanswered : Service Board RadioFault :=
  (Service.fresh .standard none unwilling).run recorder
    (.set .start :: List.replicate 40 .proceed ++
      .ask (.send ⟨⟨5, 7, .up⟩, 0⟩) :: .set .step :: List.replicate 40 .proceed)

/-- A radio chip whose version cannot be read, as the tenth transaction fails, and which does
not take its sync word, as the thirteenth does. -/
def Bench.disturbed : Board :=
  { Board.blank with flags := ⟨0x80, 8⟩, failingTransfers := [9, 12] }

/-- A start on this chip. -/
def Bench.unsynced : Service (Chip.Driver Board) Chip.Fault :=
  (Service.fresh .standard none (.fresh disturbed)).run (registerDevice none)
    (.set .start :: List.replicate 40 .proceed)

/-- How many complaints there are once a station rests, by the calls that failed. -/
theorem Service.length_complaints {σ ε : Type} {service : Service σ ε} {calls : List Call}
    (rests : service.job.isNone = true)
    (failed : (Deed.failures service.deeds).map Prod.fst = calls)
    (lag : ∃ inHand ≤ (if service.job.isNone then 0 else 1),
      (Deed.failures service.deeds).length = service.station.complaints.length +
        (Deed.failures service.deeds).countP (·.1.isReadBack) + inHand) :
    service.station.complaints.length = calls.countP fun asked => !asked.isReadBack := by
  obtain ⟨inHand, few, count⟩ := lag
  rw [rests] at few
  obtain rfl := Nat.le_zero.mp few
  have split := List.length_eq_countP_add_countP (·.1.isReadBack) (l := Deed.failures service.deeds)
  rw [← failed, List.countP_map]
  simp only [Bool.not_eq_true, Bool.decide_eq_false] at split
  show _ = List.countP (fun failure => !failure.1.isReadBack) (Deed.failures service.deeds)
  omega

/-- On both radios the journal is silent about the version, and about nothing else. -/
theorem Service.run_complains_unanswered :
    (Bench.recorder.Discreet ∧ Bench.unanswered.job.isNone = true ∧
      (Deed.failures Bench.unanswered.deeds).map Prod.fst =
        [.version, .standby, .transmit Burst.wakePattern, .standby] ∧
      Bench.unanswered.station.complaints.length = 3) ∧
    (Bench.registerDevice none).Discreet ∧ Bench.unsynced.job.isNone = true ∧
      (Deed.failures Bench.unsynced.deeds).map Prod.fst =
        [.version, .setSync [0xe1, 0xe1, 0xfe]] ∧
      Bench.unsynced.station.complaints.length = 1 := by
  have discreet : (Bench.registerDevice none).Discreet := Chip.discreet_device _ _ _
  have rests : Bench.unanswered.job.isNone = true := by decide +kernel
  have failed : (Deed.failures Bench.unanswered.deeds).map Prod.fst =
      [.version, .standby, .transmit Burst.wakePattern, .standby] := by decide +kernel
  have rests' : Bench.unsynced.job.isNone = true := by decide +kernel
  have failed' : (Deed.failures Bench.unsynced.deeds).map Prod.fst =
      [.version, .setSync [0xe1, 0xe1, 0xfe]] := by decide +kernel
  refine ⟨⟨Bench.discreet_recorder, rests, failed, ?_⟩, discreet, rests', failed', ?_⟩
  · unfold Bench.unanswered at rests failed ⊢
    obtain ⟨-, -, -, lag, -⟩ :=
      run_complains Bench.discreet_recorder .standard none Bench.unwilling
        (.set .start :: List.replicate 40 .proceed ++
          .ask (.send ⟨⟨5, 7, .up⟩, 0⟩) :: .set .step :: List.replicate 40 .proceed)
    exact (length_complaints rests failed lag).trans rfl
  · unfold Bench.unsynced at rests' failed' ⊢
    obtain ⟨-, -, -, lag, -⟩ :=
      run_complains discreet .standard none (.fresh Bench.disturbed)
        (.set .start :: List.replicate 40 .proceed)
    exact (length_complaints rests' failed' lag).trans rfl

end ShutterRadio
