/-
# An announced packet comes first

A station takes a mark in its queue back before it looks for a request.  So if a packet is
announced while the station rests, its next step fetches that packet, whatever waits in
the queue and whatever producers do meanwhile: `Service.Dawns` follows that step from the
moment it is set.

With what is known of fetches and of what a turn leaves behind, that makes
`Service.run_announced`: no packet is fetched that was not announced, and none that was
announced to a station at rest is put off.
-/

import Mathlib
import ShutterRadio.Bench.Recorder
import ShutterRadio.Proofs.Program.Return
import ShutterRadio.Proofs.Program.Spare
import ShutterRadio.Proofs.Service.Solvency

namespace ShutterRadio

variable {σ ε τ : Type}

/-! ## Steps that fetch -/

namespace Deed

/-- How the deeds of a step begin: it looks, and then takes back what was announced. -/
inductive Opens : List (Deed ε) → Prop
  | nothing : Opens []
  | looked (activity : Activity) (begun ended : Instant) :
      Opens [⟨.look, activity, begun, ended⟩]
  | calmed (activity : Activity) (ready : Bool) (begun ended begun' ended' : Instant)
      (more : List (Deed ε)) :
      Opens (⟨.look, activity, begun, ended⟩ :: ⟨.calm, ready, begun', ended'⟩ :: more)

/-- How the deeds of a step begin that finds a packet announced. -/
inductive Dawn : List (Deed ε) → Prop
  | nothing : Dawn []
  | looked {activity : Activity} (begun ended : Instant) :
      activity ≠ .shutDown → Dawn [⟨.look, activity, begun, ended⟩]
  | calmed {activity : Activity} (begun ended begun' ended' : Instant) (more : List (Deed ε)) :
      activity ≠ .shutDown →
        Dawn (⟨.look, activity, begun, ended⟩ :: ⟨.calm, true, begun', ended'⟩ :: more)

/-- No request was taken, the first call was to fetch a packet, and in the end the station
goes on. -/
structure Fetching (deeds : List (Deed ε)) (flow : Option Station.Flow) : Prop where
  requests : deeds.filterMap request? = []
  first : ∀ call more, calls deeds = call :: more → call.1 = .receive frameLength
  ended : flow.isSome = true → flow = some .goesOn ∧ calls deeds ≠ []

end Deed

namespace Program

variable (describe : ε → String) (setup : Setup)

theorem opens_step : (step describe setup).Follows fun deeds _ => Deed.Opens deeds := by
  refine ⟨.nothing, fun activity begun ended => ?_⟩
  show Follows (ite _ _ _) _
  split
  · exact .looked activity begun ended
  · refine ⟨.looked activity begun ended, fun ready begun' ended' => ?_⟩
    exact follows_of_forall _ fun more _ => .calmed activity ready begun ended begun' ended' more

/-- To fetch a packet is to ask for it first of all, and to take no request. -/
theorem fetching_fetch :
    (fetch describe >>= fun _ => (pure .goesOn : Program ε Station.Flow)).Follows
      Deed.Fetching := by
  have others (answer : Except ε (Vector UInt8 frameLength)) :
      ((do
        match answer with
        | .error fault => once (.tell (.fetchFailed (describe fault)))
        | .ok bytes => absorb (Frame.ofVector bytes)
        listen describe) : Program ε Unit).Uses (· ≠ .next) := by
    have listens : (listen describe).Uses (· ≠ .next) :=
      Uses.listen describe nofun nofun nofun fun _ => nofun
    cases answer with
    | error fault => exact Uses.bind ((uses_once _).mpr nofun) fun _ => listens
    | ok bytes =>
        exact Uses.bind (Uses.absorb nofun (fun _ _ => nofun) nofun nofun nofun fun _ => nofun)
          fun _ => listens
  refine ⟨⟨rfl, nofun, nofun⟩, fun answer begun ended => ?_⟩
  have fetching (deeds : List (Deed ε)) (flow : Option Station.Flow)
      (free : ∀ deed ∈ deeds, deed.act ≠ .next) (said : flow.isSome = true → flow = some .goesOn) :
      Deed.Fetching (⟨.call (.receive frameLength), answer, begun, ended⟩ :: deeds) flow := by
    refine ⟨List.filterMap_eq_nil_iff.mpr fun deed member => ?_, fun call more calls => ?_,
      fun ended => ⟨said ended, nofun⟩⟩
    · rcases List.mem_cons.mp member with rfl | later
      · rfl
      · exact Option.eq_none_iff_forall_ne_some.mpr fun request takes =>
          free deed later (Deed.act_of_request takes)
    · obtain ⟨rfl, -⟩ := List.cons.inj calls
      rfl
  apply follows_bind.mpr
  apply (others answer).follows
  rintro deeds (_ | _) free
  · exact fetching deeds none free nofun
  · simpa only [pure_eq, Follows, List.append_nil] using
      fetching deeds (some .goesOn) free fun _ => rfl

/-- A step that finds a packet announced fetches it. -/
theorem fetching_step : (step describe setup).Follows fun deeds flow =>
    Deed.Dawn deeds → Deed.Fetching deeds flow := by
  refine ⟨fun _ => ⟨rfl, nofun, nofun⟩, fun activity begun ended => ?_⟩
  show Follows (ite _ _ _) _
  split
  · rename_i shut
    rintro (_ | ⟨_, _, going⟩)
    exact absurd shut going
  · refine ⟨fun _ => ⟨rfl, nofun, nofun⟩, fun ready begun' ended' => ?_⟩
    cases ready with
    | true =>
        apply Follows.mono (fetching_fetch describe)
        intro deeds flow fetching _
        exact ⟨fetching.requests, fetching.first, fetching.ended⟩
    | false => exact follows_of_forall _ fun _ _ => nofun

end Program

/-- A step that was set when a packet was announced: it takes no request, its first call
is to fetch the packet, and it goes on if it has come to its end. -/
structure Turn.Fetches {ε : Type} (turn : Turn ε) : Prop where
  task : turn.task = .step
  requests : turn.account.requests = []
  first : ∀ call more, Deed.calls turn.deeds = call :: more → call.1 = .receive frameLength
  ended : turn.flow.isSome = true → turn.flow = some .goesOn ∧ Deed.calls turn.deeds ≠ []

/-! ## The next step -/

namespace Service

variable {d : Device σ ε τ} {setup : Setup} {service : Service σ ε}

/-- The turn with a number is a step that finds a packet announced. -/
inductive Dawns (number : Nat) (service : Service σ ε) : Prop
  | current (job : Job ε) :
      service.job = some job → service.past.length = number → job.task = .step →
      Deed.Dawn job.deeds →
      (service.stuck = false → job.deeds.length < 2 → service.station.queue.ready = true) →
      (job.deeds = [] → service.station.queue.activity ≠ .shutDown) → Dawns number service
  | finished (turn : Turn ε) :
      service.past[number]? = some turn → turn.task = .step → Deed.Dawn turn.deeds →
        Dawns number service

/-- One more deed of such a step: it sees that the station has not shut down, and that a
packet was announced. -/
theorem dawn_snoc {deeds : List (Deed ε)} {deed : Deed ε} {before after : Station σ}
    (dawn : Deed.Dawn deeds) (opens : Deed.Opens (deeds ++ [deed]))
    (performed : deed.act.perform d before = .ok deed.answer after)
    (ready : deeds.length < 2 → before.queue.ready = true)
    (running : deeds = [] → before.queue.activity ≠ .shutDown) :
    Deed.Dawn (deeds ++ [deed]) ∧ (deeds = [] → after.queue.ready = true) := by
  cases dawn with
  | nothing =>
      cases opens with
      | looked activity begun ended =>
          obtain ⟨rfl, rfl⟩ :=
            Station.consult_eq_ok (fun queue => (queue.activity, queue)) performed
          exact ⟨.looked _ _ (running rfl), fun _ => ready (by simp)⟩
  | looked begun ended going =>
      cases opens with
      | calmed activity announced begun ended begun' ended' more =>
          obtain ⟨rfl, rfl⟩ :=
            Station.consult_eq_ok (fun queue => (queue.ready, queue.calm)) performed
          rw [ready (by simp)]
          exact ⟨.calmed _ _ _ _ _ going, nofun⟩
  | calmed begun ended begun' ended' more going => exact ⟨.calmed _ _ _ _ _ going, nofun⟩

/-- Turns that are over are not forgotten. -/
theorem past_move (d : Device σ ε τ) (service : Service σ ε) (move : Move) :
    ∃ more, (service.move d move).past = service.past ++ more := by
  cases move with
  | set task =>
      simp only [Service.move, set]
      split <;> exact ⟨[], (List.append_nil _).symm⟩
  | ask wish =>
      simp only [Service.move, ask]
      split
      · exact ⟨[], (List.append_nil _).symm⟩
      · rename_i reason _ _
        exact reason.elim
  | proceed =>
      simp only [Service.move, proceed]
      split
      · exact ⟨_, rfl⟩
      · unfold act
        split <;> exact ⟨[], (List.append_nil _).symm⟩
      · exact ⟨[], (List.append_nil _).symm⟩

theorem Dawns.proceed {number : Nat} {deeds : List (Deed ε)} {rest : Program ε Station.Flow}
    (faithful : service.Faithful d setup) (current : service.job = some ⟨.step, deeds, rest⟩)
    (length : service.past.length = number) (dawn : Deed.Dawn deeds)
    (ready : service.stuck = false → deeds.length < 2 → service.station.queue.ready = true)
    (running : deeds = [] → service.station.queue.activity ≠ .shutDown) :
    (service.proceed d).Dawns number := by
  cases stuck : service.stuck with
  | true =>
      have same : service.proceed d = service := by simp only [Service.proceed, stuck]
      rw [same]
      exact .current _ current length rfl dawn ready running
  | false =>
      cases rest with
      | done flow =>
          simp only [Service.proceed, stuck, current]
          refine .finished ⟨.step, deeds, some flow⟩ ?_ rfl dawn
          simp [← length]
      | act first next =>
          simp only [Service.proceed, stuck, current, act]
          cases performed : first.perform d service.station with
          | ok answer station =>
              let deed : Deed ε := ⟨first, answer, d.time service.station.device,
                d.time station.device⟩
              have leads : (Program.step d.describe setup).Leads (deeds ++ [deed]) (next answer) :=
                (faithful.job _ current).snoc
              have done : deed.act.perform d service.station = .ok deed.answer station := performed
              have opens : Deed.Opens (deeds ++ [deed]) :=
                leads.satisfies (Program.opens_step d.describe setup)
              obtain ⟨dawns, stays⟩ :=
                dawn_snoc dawn opens done (ready stuck) running
              refine .current _ rfl length rfl dawns (fun _ short => stays ?_) (by simp)
              have none : deeds.length + 1 < 2 := by simpa using short
              exact List.eq_nil_of_length_eq_zero (by omega)
          | error reason station =>
              obtain ⟨device, journal, ready, rfl⟩ := Act.stuck_eq performed
              exact .current _ rfl length rfl dawn (fun able => by cases able) running

/-- Whatever happens next, the step goes on as it began. -/
theorem Dawns.move {number : Nat} (dawns : service.Dawns number)
    (faithful : service.Faithful d setup) (move : Move) :
    (service.move d move).Dawns number := by
  cases dawns with
  | finished turn past task dawn =>
      obtain ⟨more, appended⟩ := past_move d service move
      have stays : (service.move d move).past[number]? = some turn := by
        obtain ⟨within, -⟩ := List.getElem?_eq_some_iff.mp past
        rw [appended, List.getElem?_append_left within]
        exact past
      exact .finished turn stays task dawn
  | current job current length task dawn ready running =>
      cases move with
      | set other =>
          have same : service.move d (.set other) = service := by
            simp only [Service.move, set, current]
          rw [same]
          exact .current job current length task dawn ready running
      | ask wish =>
          simp only [Service.move, ask]
          split
          · rename_i answer station granted
            refine .current job current length task dawn (fun able short => ?_) fun young => ?_
            · rw [Wish.ready_of_grant granted, ready able short, Bool.true_or]
            · rw [(wish.explains_grant granted).activity]
              exact running young
          · rename_i reason _ _
            exact reason.elim
      | proceed =>
          obtain ⟨own, deeds, rest⟩ := job
          obtain rfl : own = .step := task
          exact Dawns.proceed faithful current length dawn ready running

theorem Dawns.run {number : Nat} (dawns : service.Dawns number)
    (faithful : service.Faithful d setup) (moves : List Move) :
    (service.run d moves).Dawns number := by
  have step (service : Service σ ε) (move : Move)
      (both : service.Dawns number ∧ service.Faithful d setup) :
      (service.move d move).Dawns number ∧ (service.move d move).Faithful d setup :=
    ⟨both.1.move both.2 move, faithful_move d setup service move both.2⟩
  exact (run_induction d step ⟨dawns, faithful⟩ moves).1

/-- So the turn fetches a packet. -/
theorem Dawns.fetches {number : Nat} (dawns : service.Dawns number)
    (faithful : service.Faithful d setup) :
    ∃ turn, service.turns[number]? = some turn ∧ turn.Fetches := by
  have fetches (turn : Turn ε) (member : turn ∈ service.turns) (task : turn.task = .step)
      (dawn : Deed.Dawn turn.deeds) : turn.Fetches := by
    obtain ⟨own, deeds, flow⟩ := turn
    obtain rfl : own = .step := task
    have fetching :=
      (faithful.isPath member).satisfies (Program.fetching_step d.describe setup) dawn
    exact ⟨rfl, fetching.requests, fetching.first, fetching.ended⟩
  cases dawns with
  | finished turn past task dawn =>
      obtain ⟨within, -⟩ := List.getElem?_eq_some_iff.mp past
      have here : service.turns[number]? = some turn := by
        rw [turns, List.getElem?_append_left within]
        exact past
      exact ⟨turn, here, fetches turn (List.mem_of_getElem? here) task dawn⟩
  | current job current length task dawn _ _ =>
      have here : service.turns[number]? = some job.turn := by
        simp [turns, current, ← length]
      exact ⟨job.turn, here, fetches job.turn (List.mem_of_getElem? here) task dawn⟩

/-- While a station rests, producers change nothing of it but its queue. -/
theorem run_ask (d : Device σ ε τ) (service : Service σ ε) (wishes : List Wish) :
    let after := service.run d (wishes.map .ask)
    after.job = service.job ∧ after.past = service.past ∧
      after.station.queue.activity = service.station.queue.activity ∧
      after.station.queue.ready = (service.station.queue.ready || decide (.announce ∈ wishes)) := by
  induction wishes generalizing service with
  | nil => simp
  | cons wish wishes ih =>
      have asked := ih (service.move d (.ask wish))
      simp only [Service.move, ask] at asked
      cases granted : wish.grant service.station with
      | error reason _ => exact reason.elim
      | ok answer station =>
          rw [granted] at asked
          obtain ⟨job, past, activity, ready⟩ := asked
          rw [(wish.explains_grant granted).activity] at activity
          rw [Wish.ready_of_grant granted] at ready
          simp only [List.map_cons, run_cons, Service.move, ask, granted]
          refine ⟨job, past, activity, ready.trans ?_⟩
          simp [List.mem_cons, Bool.or_assoc, eq_comm]

/-- A station that is set to a step when a packet is announced fetches it, whatever comes
in between. -/
theorem dawns_of_announced (resting : service.job = none) (faithful : service.Faithful d setup)
    (running : service.station.queue.activity ≠ .shutDown) {wishes : List Wish}
    (announces : .announce ∈ wishes) (later : List Move) :
    (service.run d (wishes.map .ask ++ .set .step :: later)).Dawns service.past.length := by
  obtain ⟨job, past, activity, ready⟩ := run_ask d service wishes
  have asked : (service.run d (wishes.map .ask)).Faithful d setup :=
    run_induction d (faithful_move d setup) faithful _
  rw [run_append, run_cons]
  have begun := faithful_move d setup _ (.set .step) asked
  refine Dawns.run ?_ begun later
  simp only [Service.move, set, job, resting]
  refine .current _ rfl (by rw [past]) rfl .nothing (fun _ _ => ?_) fun _ => ?_
  · rw [ready]
    simp [announces]
  · rw [activity]
    exact running

/-- On a device whose ready line rises while it sends, and on no other occasion, in every
run, whichever calls fail:

* the station asks its radio for no more packets than producers have announced, even if
  one counts a question that has not been answered and never will be;
* a turn that took a request to send leaves the flag clear, if no packet was announced
  from the moment before it began;
* and if packets are announced while the station rests and has not shut down, its next
  step takes no request and fetches a packet, whatever waits and whatever comes later. -/
theorem run_announced (d : Device σ ε τ) (sending : d.RaisesWhenSending) (setup : Setup)
    (indicator : Option Polarity) (device : σ) (moves : List Move) :
    let origin : Service σ ε := fresh setup indicator device
    let service := origin.run d moves
    service.inquiries + (if service.inquiring then 1 else 0) ≤ service.announced ∧
    (∀ earlier later, moves = earlier ++ later →
      let before := origin.run d earlier
      before.job = none → service.job = none → service.announced = before.announced →
      ∀ turn transmission, service.past = before.past ++ [turn] →
        .transmit transmission ∈ turn.account.requests → service.station.queue.ready = false) ∧
    (∀ (earlier : List Move) (wishes : List Wish) (later : List Move),
      moves = earlier ++ wishes.map .ask ++ .set .step :: later →
      let before := origin.run d earlier
      before.job = none → before.station.queue.activity ≠ .shutDown → .announce ∈ wishes →
      ∃ turn, service.turns[before.past.length]? = some turn ∧ turn.Fetches) := by
  intro origin service
  have faithful (moves : List Move) : (origin.run d moves).Faithful d setup :=
    faithful_run d setup indicator device moves
  refine ⟨?_, ?_, ?_⟩
  · have solvent : service.Solvent := solvent_run sending setup indicator device moves
    have worth := service.credit.held_le_worth (service.station.queue.ready && !service.stuck)
    have inHand : (if service.inquiring then 1 else 0) ≤ service.credit.held.toNat := by
      split
      · rename_i inquiring
        rw [(faithful moves).held_of_inquiring inquiring]
        decide
      · exact Nat.zero_le _
    have paid := Nat.add_le_add_left (Nat.le_trans inHand worth) service.inquiries
    exact Nat.le_trans paid solvent
  · intro earlier later split before resting ended unannounced turn transmission one took
    have ran : service = before.run d later := by
      rw [show service = origin.run d moves from rfl, split, run_append]
    have able : service.Able := run_induction d (able_move d) (fun _ => rfl) moves
    have kept := faithful moves
    rw [show origin.run d moves = before.run d later from ran] at kept
    replace able := able ended
    rw [ran] at able ended unannounced one ⊢
    exact clear_of_request sending resting able kept ended one unannounced
      (List.ne_nil_of_mem took)
  · intro earlier wishes later split before resting running announces
    have ran : service = before.run d (wishes.map .ask ++ .set .step :: later) := by
      rw [show service = origin.run d moves from rfl, split, List.append_assoc, run_append]
    have dawns := dawns_of_announced resting (faithful earlier) running announces later
    rw [← ran] at dawns
    exact dawns.fetches (faithful moves)

end Service

namespace Bench

theorem raisesWhenSending_recorder : recorder.RaisesWhenSending := by
  intro activity asked board raised
  have raises : board.raises asked = true := by
    replace raised : (Board.perform activity asked board).edge = true := raised
    unfold Board.perform at raised
    dsimp only at raised
    split at raised
    · cases raised
    · exact raised
  cases asked with
  | transmit packet => exact ⟨packet, rfl⟩
  | _ => cases raises

/-- What somebody asks a station to send, and a step in which it does. -/
def sending : List Move :=
  .ask (.send ⟨⟨5, 7, .up⟩, 0⟩) :: .set .step :: List.replicate 40 .proceed

/-- A packet that is announced behind a request, and the step after that. -/
def calling : List Move :=
  [Wish.listen, .announce].map .ask ++ .set .step :: List.replicate 40 .proceed

/-- A station that has sent something, on a radio that raises its ready line then. -/
def raised : Service Board RadioFault :=
  (Service.fresh .standard none { Board.blank with notify := true }).run recorder sending

/-- The same station after a packet was announced to it. -/
def called : Service Board RadioFault :=
  (Service.fresh .standard none { Board.blank with notify := true }).run recorder
    (sending ++ calling)

theorem resting_raised : raised.job = none :=
  Option.isNone_iff_eq_none.mp (show raised.job.isNone = true by cbv)

theorem requests_raised : raised.past.map (fun turn => turn.account.requests) =
    [[.transmit ⟨⟨5, 7, .up⟩, 0⟩]] := by
  cbv

end Bench

/-- The radio raises its line twice for what it has sent, and nothing comes of it.  What a
producer announces after that is fetched, though a request was there before it. -/
theorem Service.run_announced_raising :
    Bench.recorder.RaisesWhenSending ∧
    Bench.raised.station.queue.ready = false ∧
    (Bench.called.inquiries + (if Bench.called.inquiring then 1 else 0) ≤ Bench.called.announced ∧
      Bench.called.announced = 1) ∧
    ∃ turn, Bench.called.turns[1]? = some turn ∧ turn.Fetches := by
  refine ⟨Bench.raisesWhenSending_recorder, ?_, ?_, ?_⟩
  · obtain ⟨turn, past, took⟩ := List.map_eq_singleton_iff.mp Bench.requests_raised
    have unannounced : Bench.raised.announced = 0 := by cbv
    exact (run_announced Bench.recorder Bench.raisesWhenSending_recorder .standard none _
      Bench.sending).2.1 (Bench.sending.take 1) (Bench.sending.drop 1) rfl rfl
      Bench.resting_raised unannounced turn _ past (took ▸ List.mem_singleton_self _)
  · refine ⟨?_, by cbv⟩
    unfold Bench.called
    exact (run_announced Bench.recorder Bench.raisesWhenSending_recorder .standard none _
      (Bench.sending ++ Bench.calling)).1
  · have one : Bench.raised.past.length = 1 := by
      rw [← List.length_map, Bench.requests_raised]
      rfl
    have idle : Bench.raised.station.queue.activity = .idle := by cbv
    have running : Bench.raised.station.queue.activity ≠ .shutDown := by
      rw [idle]
      decide
    rw [← one]
    exact (run_announced Bench.recorder Bench.raisesWhenSending_recorder .standard none _
      (Bench.sending ++ Bench.calling)).2.2 Bench.sending [.listen, .announce]
      (List.replicate 40 .proceed) (List.append_assoc ..).symm Bench.resting_raised
      running (by decide)

end ShutterRadio
