/-
# After a crew has shut down

A queue that has shut down accepts nothing any more, and nothing waits in it.  So
no member of the crew that serves it will ever send again, and a member that takes
a step is told to stop, at once and without a word to its radio.

But the queue does not say so for good.  A start makes it idle again, whoever is
started, and as nothing will be accepted, nobody will ever shut it down again:
a station that is started then has no reason to stop, and takes steps for ever.
`Crew.run_terminal` says both, of every run after every run that has led there
with nobody in the middle of a turn.  A member that is in the middle of one may be
sending, and makes the queue idle when it has sent.
-/

import Mathlib
import ShutterRadio.Bench.Recorder
import ShutterRadio.Proofs.Service.Endless

namespace ShutterRadio

namespace Service

variable {σ ε τ : Type}

/-- The queue says something else only if a station on a job has made it say so. -/
theorem activity_move (d : Device σ ε τ) (service : Service σ ε) (move : Move) :
    (service.move d move).station.queue.activity = service.station.queue.activity ∨
      ∃ job ∈ service.job, ∃ activity next, job.rest = .act (.become activity) next ∧
        (service.move d move).station.queue.activity = activity := by
  cases move with
  | set task =>
      simp only [Service.move, set]
      split <;> exact .inl rfl
  | ask wish =>
      simp only [Service.move, ask]
      split
      · rename_i answer station granted
        exact .inl (wish.explains_grant granted).activity
      · rename_i reason _ _
        exact reason.elim
  | proceed =>
      simp only [Service.move, proceed]
      split
      · exact .inl rfl
      · rename_i task deeds first next able job
        by_cases becomes : ∃ activity, first = .become activity
        · obtain ⟨activity, rfl⟩ := becomes
          exact .inr ⟨_, job, activity, next, rfl, rfl⟩
        · unfold act
          split
          · rename_i answer station performed
            exact .inl (Act.activity_of_perform (not_exists.mp becomes) performed)
          · rename_i reason station stuck
            obtain ⟨device, journal, ready, rfl⟩ := Act.stuck_eq stuck
            exact .inl rfl
      · exact .inl rfl

/-! ## Turns since some moment -/

/-- The service has had more turns, all of the same kind. -/
def Gains (before after : Service σ ε) (kind : Turn ε → Prop) : Prop :=
  ∃ later, after.turns = before.turns ++ later ∧ ∀ turn ∈ later, kind turn

/-- The turns behind the `earlier` ones have something in common, as far as they
have come. -/
structure Gaining (earlier : List (Turn ε)) (common : Task → List (Deed ε) → Prop)
    (service : Service σ ε) : Prop where
  past : ∃ later, service.past = earlier ++ later ∧
    ∀ turn ∈ later, common turn.task turn.deeds
  job : ∀ job ∈ service.job, common job.task job.deeds

variable {earlier : List (Turn ε)} {common : Task → List (Deed ε) → Prop}
  {d : Device σ ε τ} {service : Service σ ε}

theorem gaining_of_resting (resting : service.job = none) :
    service.Gaining service.past common where
  past := ⟨[], (List.append_nil _).symm, fun _ none => absurd none List.not_mem_nil⟩
  job job at_ := by
    rw [resting] at at_
    cases at_

/-- A turn keeps what its deeds have in common if each deed does. -/
theorem Gaining.move (gaining : service.Gaining earlier common) (move : Move)
    (begins : ∀ task, move = .set task → common task [])
    (goes : ∀ job ∈ service.job, ∀ (deed : Deed ε) next after,
      job.rest = .act deed.act next → deed.act.perform d service.station = .ok deed.answer after →
        common job.task job.deeds → common job.task (job.deeds ++ [deed])) :
    (service.move d move).Gaining earlier common := by
  obtain ⟨⟨later, past, same⟩, present⟩ := gaining
  cases move with
  | set task =>
      simp only [Service.move, set]
      split
      · exact ⟨⟨later, past, same⟩, present⟩
      · refine ⟨⟨later, past, same⟩, fun job begun => ?_⟩
        obtain rfl := Option.mem_some.mp begun
        exact begins task rfl
  | ask wish =>
      simp only [Service.move, ask]
      split
      · exact ⟨⟨later, past, same⟩, present⟩
      · rename_i reason _ _
        exact reason.elim
  | proceed =>
      simp only [Service.move, proceed]
      split
      · rename_i task deeds flow able job
        refine ⟨⟨later ++ [⟨task, deeds, some flow⟩], ?_, ?_⟩,
          fun job none => (Option.not_mem_none job none).elim⟩
        · rw [past, List.append_assoc]
        · intro turn member
          rcases List.mem_append.mp member with before | ended
          · exact same turn before
          · obtain rfl := List.mem_singleton.mp ended
            exact present _ job
      · rename_i task deeds first next able job
        unfold act
        split
        · rename_i answer station performed
          refine ⟨⟨later, past, same⟩, fun job begun => ?_⟩
          obtain rfl := Option.mem_some.mp begun
          exact goes _ job ⟨first, answer, _, _⟩ next station rfl performed (present _ job)
        · exact ⟨⟨later, past, same⟩, present⟩
      · exact ⟨⟨later, past, same⟩, present⟩

/-- Whoever keeps to something from some moment on has had more turns like it. -/
theorem Gaining.gains {before after : Service σ ε} {kind : Turn ε → Prop}
    (gaining : after.Gaining before.past common) (resting : before.job = none)
    (like : ∀ turn ∈ after.turns, common turn.task turn.deeds → kind turn) :
    before.Gains after kind := by
  obtain ⟨⟨later, past, same⟩, present⟩ := gaining
  refine ⟨later ++ (after.job.map Job.turn).toList, ?_, fun turn member => ?_⟩
  · have ended : before.turns = before.past := by
      rw [turns, resting]
      exact List.append_nil _
    rw [ended, turns, past, List.append_assoc]
  apply like
  · rw [turns, past, List.append_assoc]
    exact List.mem_append_right _ member
  · rcases List.mem_append.mp member with ended | underWay
    · exact same turn ended
    · obtain ⟨job, at_, rfl⟩ := Option.map_eq_some_iff.mp (Option.mem_toList.mp underWay)
      exact present job at_

/-! ## Turns of a station that finds no request -/

/-- A turn that took no request is a spare one. -/
theorem Faithful.spare {setup : Setup} (faithful : service.Faithful d setup) {turn : Turn ε}
    (member : turn ∈ service.turns) (free : Deed.Free turn.deeds) :
    Deed.Spare turn.task turn.deeds turn.flow := by
  obtain ⟨rest, leads, flow⟩ := faithful.isPath member
  rw [flow]
  exact leads.satisfies (Program.spare_program d.describe setup turn.task) free

/-- Whatever a station does next without taking a request makes a spare turn. -/
theorem Faithful.spare_snoc {setup : Setup} (faithful : service.Faithful d setup) {job : Job ε}
    (at_ : job ∈ service.job) {deed : Deed ε} {next : deed.act.Answer ε → Program ε Station.Flow}
    (rest : job.rest = .act deed.act next) (free : Deed.Free (job.deeds ++ [deed])) :
    Deed.Spare job.task (job.deeds ++ [deed]) (next deed.answer).result? := by
  have leads := faithful.job job at_
  rw [rest] at leads
  exact leads.snoc.satisfies (Program.spare_program d.describe setup job.task) free

/-- What a station is about to make the queue say makes a spare turn as well. -/
theorem Faithful.spare_become {setup : Setup} (faithful : service.Faithful d setup)
    {job : Job ε} (at_ : job ∈ service.job) (free : Deed.Free job.deeds) {activity : Activity}
    {next : Unit → Program ε Station.Flow} (rest : job.rest = .act (.become activity) next) :
    ∃ now flow, Deed.Spare job.task (job.deeds ++ [⟨.become activity, (), now, now⟩]) flow := by
  let now := d.time service.station.device
  let deed : Deed ε := ⟨.become activity, (), now, now⟩
  have more : Deed.Free (job.deeds ++ [deed]) := free.snoc rfl
  exact ⟨now, _, faithful.spare_snoc at_ rest more⟩

end Service

namespace Crew

variable {ι σ ε τ : Type} [DecidableEq ι]

/-- Nobody is in the middle of a turn. -/
def Rests (crew : Crew ι σ ε) : Prop := ∀ who, (crew.members who).job = none

variable {d : ι → Device σ ε τ} {setup : ι → Setup} {crew : Crew ι σ ε}
  {earlier : ι → List (Turn ε)}

/-- A member keeps to something if all that it does itself does. -/
theorem gaining_move {who : ι} {past : List (Turn ε)} {common : Task → List (Deed ε) → Prop}
    (gaining : (crew.members who).Gaining past common) (move : ι × Move)
    (begins : ∀ task, move = (who, .set task) → common task [])
    (goes : ∀ job ∈ (crew.members who).job, ∀ (deed : Deed ε) next after,
      job.rest = .act deed.act next →
      deed.act.perform (d who) (crew.members who).station = .ok deed.answer after →
        common job.task job.deeds → common job.task (job.deeds ++ [deed])) :
    ((crew.move d move).members who).Gaining past common := by
  obtain ⟨mover, move⟩ := move
  by_cases same : who = mover
  · subst same
    rw [members_move]
    exact gaining.move move (fun task sets => begins task (by rw [sets])) goes
  · rw [members_move_of_ne d crew same]
    exact ⟨gaining.past, gaining.job⟩

/-- A crew whose queue is settled.  No member has taken a request since some moment. -/
structure Spent (d : ι → Device σ ε τ) (setup : ι → Setup) (earlier : ι → List (Turn ε))
    (crew : Crew ι σ ε) : Prop where
  orderly : crew.Orderly d setup
  settled : crew.queue.Settled
  free : ∀ who, (crew.members who).Gaining (earlier who) fun _ => Deed.Free

omit [DecidableEq ι] in
theorem Spent.waits (spent : crew.Spent d setup earlier) (who : ι) :
    (crew.members who).station.queue.Settled := by
  rw [crew.shared]
  exact spent.settled

theorem Spent.move (spent : crew.Spent d setup earlier) (move : ι × Move) :
    (crew.move d move).Spent d setup earlier where
  orderly := spent.orderly.move move
  settled := settled_move d crew move spent.settled
  free who := by
    apply gaining_move (spent.free who) move
    · exact fun _ _ _ none => absurd none List.not_mem_nil
    · intro job at_ deed next after rest performed free
      exact free.snoc (Deed.free_of_settled (spent.waits who) performed).2

theorem Spent.run (spent : crew.Spent d setup earlier) (moves : List (ι × Move)) :
    (crew.run d moves).Spent d setup earlier :=
  run_induction d (fun _ move spent => spent.move move) spent moves

/-- Once the queue says anything else, it never says again that it has shut down. -/
theorem Spent.going_move (spent : crew.Spent d setup earlier)
    (going : crew.queue.activity ≠ .shutDown) (move : ι × Move) :
    (crew.move d move).queue.activity ≠ .shutDown := by
  obtain ⟨mover, move⟩ := move
  intro shut
  rcases Service.activity_move (d mover) (crew.members mover) move with
    same | ⟨job, at_, activity, next, rest, becomes⟩
  · rw [crew.shared] at same
    exact going (same.symm.trans shut)
  · obtain ⟨now, flow, spare⟩ :=
      (spent.orderly.faithful mover).spare_become at_ ((spent.free mover).job job at_) rest
    have idle := spare.becomes (List.mem_append_right _ List.mem_cons_self) rfl
    have same := becomes.symm.trans shut
    rw [idle] at same
    cases same

/-- Nothing has been seen but that the station has shut down, in steps. -/
def Refused (task : Task) (deeds : List (Deed ε)) : Prop :=
  task = .step ∧ ∀ deed ∈ deeds, deed.seen? = some .shutDown

/-- No request has been taken, and the station was never seen to have shut down. -/
def Restarted (_ : Task) (deeds : List (Deed ε)) : Prop :=
  Deed.Free deeds ∧ ∀ deed ∈ deeds, deed.seen? ≠ some .shutDown

theorem Spent.refused_move (spent : crew.Spent d setup earlier)
    (shut : crew.queue.activity = .shutDown)
    (refused : ∀ who, (crew.members who).Gaining (earlier who) Refused) {move : ι × Move}
    (steps : ∀ who, move ≠ (who, .set .start)) :
    (crew.move d move).queue.activity = .shutDown ∧
      ∀ who, ((crew.move d move).members who).Gaining (earlier who) Refused := by
  constructor
  · obtain ⟨mover, move⟩ := move
    rcases Service.activity_move (d mover) (crew.members mover) move with
      same | ⟨job, at_, activity, next, rest, _⟩
    · rw [crew.shared, shut] at same
      exact same
    · obtain ⟨step, seen⟩ := (refused mover).job job at_
      obtain ⟨now, flow, spare⟩ :=
        (spent.orderly.faithful mover).spare_become at_ ((spent.free mover).job job at_) rest
      rw [step] at spare
      have saw := spare.seen_of_snoc seen nofun
      cases saw
  · intro who
    apply gaining_move (refused who) move
    · intro task sets
      cases task with
      | start => exact absurd sets (steps who)
      | step => exact ⟨rfl, nofun⟩
    · intro job at_ deed next after rest performed refused
      have free := ((spent.free who).job job at_).snoc
        (Deed.free_of_settled (spent.waits who) performed).2
      have spare := (spent.orderly.faithful who).spare_snoc at_ rest free
      rw [refused.1] at spare
      have saw : deed.seen? = some .shutDown := by
        apply spare.seen_of_snoc refused.2
        intro looks
        rw [Deed.seen?_of_perform performed, if_pos looks, crew.shared, shut]
      refine ⟨refused.1, List.forall_mem_append.mpr ⟨refused.2, ?_⟩⟩
      exact List.forall_mem_singleton.mpr saw

/-- As long as nobody is started, the queue keeps saying that it has shut down, and
every step is refused. -/
theorem Spent.refused_run (spent : crew.Spent d setup earlier)
    (shut : crew.queue.activity = .shutDown)
    (refused : ∀ who, (crew.members who).Gaining (earlier who) Refused)
    (moves : List (ι × Move)) (steps : ∀ who, (who, .set .start) ∉ moves) :
    (crew.run d moves).queue.activity = .shutDown ∧
      ∀ who, ((crew.run d moves).members who).Gaining (earlier who) Refused := by
  induction moves generalizing crew with
  | nil => exact ⟨shut, refused⟩
  | cons first rest ih =>
      have here (who : ι) : first ≠ (who, .set .start) := by
        rintro rfl
        exact steps who List.mem_cons_self
      obtain ⟨shut, refused⟩ := spent.refused_move shut refused here
      apply ih (spent.move first) shut refused
      intro who later
      exact steps who (List.mem_cons_of_mem _ later)

theorem Spent.restarted_move (spent : crew.Spent d setup earlier)
    (going : crew.queue.activity ≠ .shutDown) {who : ι} {past : List (Turn ε)}
    (restarted : (crew.members who).Gaining past Restarted) (move : ι × Move) :
    ((crew.move d move).members who).Gaining past Restarted := by
  apply gaining_move restarted move
  · exact fun _ _ => ⟨nofun, nofun⟩
  · intro job at_ deed next after rest performed restarted
    have free := restarted.1.snoc (Deed.free_of_settled (spent.waits who) performed).2
    refine ⟨free, List.forall_mem_append.mpr ⟨restarted.2, List.forall_mem_singleton.mpr ?_⟩⟩
    intro saw
    rw [Deed.seen?_of_perform performed] at saw
    split at saw
    · rw [crew.shared] at saw
      exact going (Option.some.inj saw)
    · cases saw

/-- Once the queue says anything else, it does so for good, and no member will be told
to stop in a turn that it begins then. -/
theorem Spent.restarted_run (spent : crew.Spent d setup earlier)
    (going : crew.queue.activity ≠ .shutDown) {who : ι} {past : List (Turn ε)}
    (restarted : (crew.members who).Gaining past Restarted) (moves : List (ι × Move)) :
    (crew.run d moves).queue.activity ≠ .shutDown ∧
      ((crew.run d moves).members who).Gaining past Restarted := by
  induction moves generalizing crew with
  | nil => exact ⟨going, restarted⟩
  | cons first rest ih =>
      apply ih (spent.move first)
      · exact spent.going_move going first
      · exact spent.restarted_move going restarted first

/-- A member that is started makes the queue idle before it does anything else. -/
theorem activity_of_start {who : ι} (resting : (crew.members who).job = none)
    (able : (crew.members who).stuck = false) :
    (crew.run d [(who, .set .start), (who, .proceed)]).queue.activity = .idle := by
  rw [run_cons, run_cons, run_nil, ← shared _ who, members_move, members_move]
  simp only [Service.move, Service.set, resting, Service.proceed, able]
  rfl

/-! ## What comes of that in turns -/

omit [DecidableEq ι] in
/-- Nobody who has rested asks for a packet to be sent. -/
theorem Spent.silent {reached : Crew ι σ ε}
    (spent : crew.Spent d setup fun who => (reached.members who).past) (resting : reached.Rests)
    (who : ι) :
    (reached.members who).Gains (crew.members who) fun turn =>
      ∀ deed ∈ turn.deeds, ∀ packet, deed.act ≠ .call (.transmit packet) := by
  apply (spent.free who).gains (resting who)
  intro turn member free deed done packet
  exact ((spent.orderly.faithful who).spare member free).silent done packet

/-- As long as nobody is started, all that anybody does is to look, and to stop. -/
theorem Spent.refused (spent : crew.Spent d setup fun who => (crew.members who).past)
    (resting : crew.Rests) (shut : crew.queue.activity = .shutDown) (moves : List (ι × Move))
    (steps : ∀ who, (who, .set .start) ∉ moves) :
    (crew.run d moves).queue.activity = .shutDown ∧
      ∀ who, (crew.members who).Gains ((crew.run d moves).members who) fun turn =>
        turn.task = .step ∧ (∀ deed ∈ turn.deeds, ∀ asked, deed.act ≠ .call asked) ∧
          (turn.deeds ≠ [] → turn.flow = some .stopped) := by
  have begin (who : ι) : (crew.members who).Gaining (crew.members who).past Refused :=
    Service.gaining_of_resting (resting who)
  obtain ⟨shut, refused⟩ := spent.refused_run shut begin moves steps
  refine ⟨shut, fun who => ?_⟩
  have faithful := (spent.run moves).orderly.faithful who
  apply (refused who).gains (resting who)
  rintro ⟨task, deeds, flow⟩ member ⟨step, seen⟩
  obtain rfl : task = .step := step
  have free : Deed.Free deeds := fun deed done => Deed.request?_of_seen (seen deed done)
  refine ⟨rfl, fun deed done asked => ?_, fun looked => ?_⟩
  · rw [Deed.act_of_seen (seen deed done)]
    exact nofun
  · rcases (faithful.spare member free).stops seen with ⟨none, _⟩ | ⟨_, stopped⟩
    · exact absurd none looked
    · exact stopped

/-- Once the queue says anything else, nobody who rests will be told to stop. -/
theorem Spent.restarted (spent : crew.Spent d setup earlier)
    (going : crew.queue.activity ≠ .shutDown) {who : ι}
    (resting : (crew.members who).job = none) (moves : List (ι × Move)) :
    (crew.run d moves).queue.activity ≠ .shutDown ∧
      (crew.members who).Gains ((crew.run d moves).members who) fun turn =>
        turn.flow ≠ some .stopped := by
  obtain ⟨going, restarted⟩ :=
    spent.restarted_run going (Service.gaining_of_resting resting) moves
  refine ⟨going, ?_⟩
  apply restarted.gains resting
  rintro turn member ⟨free, unseen⟩
  exact (((spent.run moves).orderly.faithful who).spare member free).goes_on unseen

/-- Once a crew has shut down and rests, nothing is accepted, waits or is sent any more,
whatever its members and their producers do.  As long as no member is started, the queue
keeps saying that it has shut down, and every step stops as soon as it has looked, without
a call.  But no run of any member will ever end, as a run begins with a start: whoever is
started makes the queue idle.  Then it will never say again that it has shut down, and a
member that rests will never again be told to stop. -/
theorem run_terminal (d : ι → Device σ ε τ) (setup : ι → Setup)
    (indicator : ι → Option Polarity) (device : ι → σ) (moves more : List (ι × Move))
    (shut : ((fresh setup indicator device : Crew ι σ ε).run d moves).queue.isDrained = true)
    (resting : ((fresh setup indicator device : Crew ι σ ε).run d moves).Rests) :
    let reached := (fresh setup indicator device : Crew ι σ ε).run d moves
    let after := reached.run d more
    (after.queue.closing = true ∧ after.queue.pending = 0 ∧
      ∀ who, (reached.members who).Gains (after.members who) fun turn =>
        ∀ deed ∈ turn.deeds, ∀ packet, deed.act ≠ .call (.transmit packet)) ∧
    ((∀ who, (who, .set .start) ∉ more) →
      after.queue.isDrained = true ∧
        ∀ who, (reached.members who).Gains (after.members who) fun turn =>
          turn.task = .step ∧ (∀ deed ∈ turn.deeds, ∀ asked, deed.act ≠ .call asked) ∧
            (turn.deeds ≠ [] → turn.flow = some .stopped)) ∧
    (∀ who limit station,
      Station.run (d who) limit (after.members who).station ≠ .ok true station) ∧
    ∀ who, (after.members who).job = none →
      ((after.members who).stuck = false →
        (after.run d [(who, .set .start), (who, .proceed)]).queue.isDrained = false) ∧
      (after.queue.isDrained = false → ∀ further,
        (after.run d further).queue.isDrained = false ∧
          (after.members who).Gains ((after.run d further).members who) fun turn =>
            turn.flow ≠ some .stopped) := by
  intro reached after
  have orderly : reached.Orderly d setup := (orderly_fresh d setup indicator device).run moves
  have said : reached.queue.activity = .shutDown := Queue.isDrained_iff.mp shut
  have start : reached.Spent d setup fun who => (reached.members who).past :=
    ⟨orderly, orderly.activity said, fun who => Service.gaining_of_resting (resting who)⟩
  have spent : after.Spent d setup fun who => (reached.members who).past := start.run more
  refine ⟨⟨spent.settled.closing, congrArg List.length spent.settled.empty, spent.silent resting⟩,
    ?_, fun who limit _ => Station.run_endless limit (spent.waits who), ?_⟩
  · intro steps
    obtain ⟨shut, refused⟩ := start.refused resting said more steps
    exact ⟨Queue.isDrained_iff.mpr shut, refused⟩
  · intro who rests
    constructor
    · intro able
      apply Queue.isDrained_eq_false_iff.mpr
      rw [activity_of_start rests able]
      exact nofun
    · intro undrained further
      have going := Queue.isDrained_eq_false_iff.mp undrained
      obtain ⟨going, restarted⟩ := spent.restarted going rests further
      exact ⟨Queue.isDrained_eq_false_iff.mpr going, restarted⟩

end Crew

/-! ## A crew that starts again -/

namespace Bench

/-- Two recorders on one queue, one of which has served a request to shut down. -/
def shutPair : Crew Bool Board RadioFault :=
  (Crew.fresh (fun _ => .standard) (fun _ => none) fun _ => .blank).run (fun _ => recorder)
    ((false, .ask .close) :: (false, .set .step) :: List.replicate 7 (false, .proceed))

end Bench

/-- The other one is started, and the queue says no longer that it has shut down. -/
theorem Crew.run_terminal_started :
    Bench.shutPair.queue.isDrained = true ∧ Bench.shutPair.Rests ∧
    (Bench.shutPair.run (fun _ => Bench.recorder)
      [(true, .set .start), (true, .proceed)]).queue.isDrained = false := by
  have shut : Bench.shutPair.queue.isDrained = true := by cbv
  have resting : Bench.shutPair.Rests := by
    intro who
    cases who <;> cbv
  have terminal := run_terminal (fun _ => Bench.recorder) (fun _ => .standard) (fun _ => none)
    (fun _ => .blank) _ [] shut resting
  exact ⟨shut, resting, (terminal.2.2.2 true (resting true)).1 (by cbv)⟩

end ShutterRadio
