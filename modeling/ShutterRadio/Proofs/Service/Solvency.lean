/-
# What was fetched was announced

The radio raises its ready line when it has sent a packet as well as when it has received
one, and both leave the same mark in the queue.  On a device whose line rises while it
sends, a mark that a station finds was left by a producer, or by a packet that it has sent
since it took the last one back; the credit that programs keep tells the two apart.

So what a service has fetched, holds in hand and would find in its queue never exceeds
what was announced, move by move (`Service.Solvent.move`).  And as no program leaves a
stale mark behind, a turn that took a request leaves none at all
(`Service.clear_of_request`).
-/

import ShutterRadio.Proofs.Program.Credit
import ShutterRadio.Proofs.Service.Turns

namespace ShutterRadio

variable {σ ε τ : Type} {d : Device σ ε τ}

/-! ## The mark in the queue -/

/-- What neither sends nor takes a mark back leaves it as it is. -/
theorem Act.ready_of_other (sending : d.RaisesWhenSending) {act : Act} {before after : Station σ}
    {answer : act.Answer ε} (sends : ∀ packet, act ≠ .call (.transmit packet)) (calms : act ≠ .calm)
    (performed : act.perform d before = .ok answer after) :
    after.queue.ready = before.queue.ready := by
  cases act with
  | calm => exact absurd rfl calms
  | call asked =>
      have still : (d.perform before.queue.activity asked before.device).edge = false := by
        apply Bool.eq_false_iff.mpr
        intro raised
        obtain ⟨packet, rfl⟩ := sending _ _ _ raised
        exact sends packet rfl
      simp only [perform, Station.call, still] at performed
      split at performed
      · injection performed with _ changed
        subst changed
        rfl
      · injection performed with _ changed
        subst changed
        rfl
      · cases performed
  | next =>
      obtain ⟨-, rfl⟩ := Station.consult_eq_ok Queue.take performed
      rw [before.queue.take_eq.2]
  | light on =>
      injection performed with _ changed
      subst changed
      rcases before with ⟨setup, indicator, tally, queue, device, journal⟩
      cases indicator <;> rfl
  | pause micros => rw [(Station.passing_eq_ok performed).2]
  | wait deadline => rw [(Station.passing_eq_ok performed).2]
  | _ =>
      injection performed with _ changed
      subst changed
      rfl

/-- Nothing but sending leaves a mark, and it stays until it is taken back. -/
theorem Act.ready_of_perform (sending : d.RaisesWhenSending) {act : Act}
    {before after : Station σ} {answer : act.Answer ε}
    (performed : act.perform d before = .ok answer after) (ready : after.queue.ready = true) :
    (∃ packet, act = .call (.transmit packet)) ∨ before.queue.ready = true ∧ act ≠ .calm := by
  by_cases calms : act = .calm
  · subst calms
    obtain ⟨-, rfl⟩ := Station.consult_eq_ok (fun queue => (queue.ready, queue.calm)) performed
    cases ready
  · by_cases sends : ∃ packet, act = .call (.transmit packet)
    · exact .inl sends
    · rw [Act.ready_of_other sending (not_exists.mp sends) calms performed] at ready
      exact .inr ⟨ready, calms⟩

/-- A producer leaves a mark by announcing a packet, and in no other way. -/
theorem Wish.ready_of_grant {wish : Wish} {before after : Station σ} {answer : wish.Answer}
    (granted : wish.grant before = .ok answer after) :
    after.queue.ready = (before.queue.ready || decide (wish = .announce)) := by
  have offered {request : Request} {answer : Bool}
      (made : (Station.offer request : Station.Work σ Empty Bool) before = .ok answer after) :
      after.queue.ready = before.queue.ready := by
    rw [Station.offer_eq] at made
    injection made with _ changed
    subst changed
    rw [before.queue.offer_aside request]
  cases wish with
  | send transmission => simp [offered granted]
  | listen => simp [offered granted]
  | close =>
      rw [grant, Station.tryClose_eq] at granted
      injection granted with _ changed
      subst changed
      rw [before.queue.close_aside]
      simp
  | announce =>
      injection granted with _ changed
      subst changed
      simp [Queue.signal]
  | read now =>
      obtain ⟨-, rfl⟩ := Station.consult_eq_ok (Queue.collect · now) granted
      rw [before.queue.collect_eq now]
      simp

/-! ## What a credit is worth -/

/-- A flag that is clear by now is clear in the queue. -/
theorem Deed.clear_after (sending : d.RaisesWhenSending) {deed : Deed ε} {before after : Station σ}
    {credit : Credit} (performed : deed.act.perform d before = .ok deed.answer after)
    (clear : (credit.after deed).flag = .cleared)
    (earlier : credit.flag = .cleared → before.queue.ready = false) :
    after.queue.ready = false := by
  by_contra set
  have marks := Act.ready_of_perform sending performed (Bool.not_eq_false _ ▸ set)
  rcases deed with ⟨act, answer, begun, ended⟩
  rcases marks with ⟨packet, rfl⟩ | ⟨ready, other⟩
  · cases clear
  · have same : (credit.after ⟨act, answer, begun, ended⟩).flag = .cleared →
        credit.flag = .cleared := by
      cases act with
      | calm => exact (other rfl).elim
      | call asked =>
          cases asked with
          | transmit packet => exact nofun
          | _ => exact id
      | _ => exact id
    rw [earlier (same clear)] at ready
    cases ready

namespace Deed

/-- A deed that asked the radio for a packet, whether or not there was one. -/
def isInquiry : Deed ε → Bool
  | ⟨.call (.receive _), _, _, _⟩ => true
  | _ => false

def inquiries (deeds : List (Deed ε)) : Nat := deeds.countP isInquiry

theorem act_of_request {deed : Deed ε} {request : Request}
    (takes : deed.request? = some request) : deed.act = .next := by
  unfold request? at takes
  split at takes
  · rfl
  · cases takes

end Deed

namespace Credit

/-- How many packets may be fetched on a credit, with or without a mark in the queue. -/
def worth (credit : Credit) (ready : Bool) : Nat :=
  credit.held.toNat + if credit.flag = .stale then 0 else ready.toNat

theorem worth_le {credit : Credit} {ready marked : Bool} (fewer : ready = true → marked = true) :
    credit.worth ready ≤ credit.worth marked := by
  have less : ready.toNat ≤ marked.toNat := by
    cases ready with
    | false => exact Nat.zero_le _
    | true => exact Nat.le_of_eq (congrArg Bool.toNat (fewer rfl).symm)
  unfold worth
  split <;> omega

/-- One more mark is worth one packet at most. -/
theorem worth_or (credit : Credit) (ready marked live : Bool) :
    credit.worth ((ready || marked) && live) ≤
      credit.worth (ready && live) + if marked then 1 else 0 := by
  have less : ((ready || marked) && live).toNat ≤
      (ready && live).toNat + if marked then 1 else 0 := by
    cases ready <;> cases marked <;> cases live <;> decide
  unfold worth
  split <;> omega

theorem held_le_worth (credit : Credit) (ready : Bool) : credit.held.toNat ≤ credit.worth ready :=
  Nat.le_add_right _ _

/-- What is held is worth one packet. -/
theorem worth_of_held {credit : Credit} (held : credit.held = true) (ready : Bool) :
    credit.worth ready = 1 + { credit with held := false }.worth ready := by
  simp [worth, held]

end Credit

/-- What a deed asks for, it is out of credit. -/
theorem Deed.worth_after (sending : d.RaisesWhenSending) {deed : Deed ε} {before after : Station σ}
    {credit : Credit} (allowed : credit.Allows deed.act)
    (performed : deed.act.perform d before = .ok deed.answer after) :
    inquiries [deed] + (credit.after deed).worth after.queue.ready ≤
      credit.worth before.queue.ready := by
  have marks := Act.ready_of_perform sending performed
  rcases deed with ⟨act, answer, begun, ended⟩
  cases act with
  | calm =>
      -- What was announced is in hand now, unless it may have been a packet that was sent.
      obtain ⟨rfl, rfl⟩ :=
        Station.consult_eq_ok (fun queue => (queue.ready, queue.calm)) performed
      rcases credit with ⟨held, flag⟩
      cases flag <;> simp [inquiries, isInquiry, Credit.after, Credit.worth, Queue.calm]
  | call asked =>
      have kept (other : ¬ ∃ packet, asked = .transmit packet) :
          after.queue.ready = true → before.queue.ready = true := by
        intro ready
        rcases marks ready with ⟨packet, sends⟩ | ⟨earlier, -⟩
        · exact absurd ⟨packet, Act.call.inj sends⟩ other
        · exact earlier
      cases asked with
      | transmit packet => simp [inquiries, isInquiry, Credit.after, Credit.worth]
      | receive length =>
          rw [Credit.worth_of_held allowed]
          exact Nat.add_le_add_left (Credit.worth_le (kept (by simp))) 1
      | _ =>
          rw [show inquiries [_] = 0 from rfl, Nat.zero_add]
          exact Credit.worth_le (kept (by simp))
  | _ =>
      rw [show inquiries [_] = 0 from rfl, Nat.zero_add]
      apply Credit.worth_le
      intro ready
      rcases marks ready with ⟨packet, sends⟩ | ⟨earlier, -⟩
      · cases sends
      · exact earlier

namespace Service

/-! ## Fetches and announcements -/

/-- How often the radio was asked for a packet. -/
def inquiries (service : Service σ ε) : Nat := Deed.inquiries service.deeds

/-- Whether the station is about to ask for a packet, or is in the middle of that. -/
def inquiring (service : Service σ ε) : Bool :=
  match service.job with
  | some ⟨_, _, .act (.call (.receive _)) _⟩ => true
  | _ => false

/-- How many packets were announced by producers. -/
def announced (service : Service σ ε) : Nat :=
  service.dealings.countP fun dealing => dealing.wish = .announce

/-- What the station has in hand. -/
def credit (service : Service σ ε) : Credit :=
  Credit.initial.afterAll service.deeds

variable {setup : Setup} {service : Service σ ε}

/-- Turn by turn a station keeps to its credit, and no turn that is over leaves a mark
behind that may stand for a packet it sent. -/
theorem Faithful.covers (faithful : service.Faithful d setup) {credit : Credit}
    (fresh : credit.flag ≠ .stale) :
    credit.Covers service.deeds ∧
      (service.job.isNone = true → (credit.afterAll service.deeds).flag ≠ .stale) := by
  refine faithful.accrues
    (fun deeds finished => ∀ credit : Credit, credit.flag ≠ .stale →
      credit.Covers deeds ∧ (finished = true → (credit.afterAll deeds).flag ≠ .stale))
    ?_ ?_ ?_ ?_ credit fresh
  · exact fun credit fresh => ⟨trivial, fun _ => fresh⟩
  · intro first second finished past present credit fresh
    obtain ⟨covered, left⟩ := past credit fresh
    rw [Credit.covers_append, Credit.afterAll_append]
    obtain ⟨more, later⟩ := present _ (left rfl)
    exact ⟨⟨covered, more⟩, later⟩
  · exact fun deeds finished spent credit fresh => ⟨(spent credit fresh).1, nofun⟩
  · intro task
    refine Program.follows_forall fun credit => Program.follows_forall fun fresh => ?_
    apply Program.Follows.mono (Program.spends_program d.describe setup task fresh)
    rintro deeds result ⟨covered, left⟩
    refine ⟨covered, fun finished => ?_⟩
    obtain ⟨flow, rfl⟩ := Option.isSome_iff_exists.mp finished
    exact left flow rfl

/-- A station that is about to fetch a packet holds an announcement: if it came to that
without one, a station that has fetched the packet would not have kept to its credit. -/
theorem Faithful.held_of_inquiring (faithful : service.Faithful d setup)
    (inquiring : service.inquiring = true) : service.credit.held = true := by
  unfold Service.inquiring at inquiring
  split at inquiring
  · rename_i task deeds length next current
    let deed : Deed ε := ⟨.call (.receive length), .ok (.replicate length 0), .origin, .origin⟩
    let further : Service σ ε :=
      { service with job := some ⟨task, deeds ++ [deed], next deed.answer⟩ }
    have leads : (task.program d.describe setup).Leads (deeds ++ [deed]) (next deed.answer) :=
      (faithful.job _ current).snoc
    have stays : further.Faithful d setup := by
      refine ⟨faithful.kept, faithful.past, fun job here => ?_⟩
      obtain rfl := Option.mem_some.mp here
      exact leads
    have deeds : further.deeds = service.deeds ++ [deed] := by
      simp [deeds_eq, further, current]
    have covered := (stays.covers Credit.fresh_initial).1
    rw [deeds, Credit.covers_append] at covered
    exact covered.2.1
  · cases inquiring

/-- What was fetched, what is in hand and what would be found in the queue were all
announced.  What is found there counts no more once the station is stuck. -/
def Solvent (service : Service σ ε) : Prop :=
  service.inquiries + service.credit.worth (service.station.queue.ready && !service.stuck) ≤
    service.announced

theorem Solvent.move (sending : d.RaisesWhenSending) {move : Move} (solvent : service.Solvent)
    (faithful : (service.move d move).Faithful d setup) : (service.move d move).Solvent := by
  unfold Solvent inquiries credit announced at *
  cases shows_move d service move with
  | nothing station deeds dealings stuck =>
      rw [station, deeds, dealings, stuck]
      exact solvent
  | deed deed performed _ _ deeds dealings before after =>
      have covered := (faithful.covers Credit.fresh_initial).1
      rw [deeds, Credit.covers_append] at covered
      have spent := Deed.worth_after sending covered.2.1 performed
      rw [before] at solvent
      rw [deeds, dealings, after, Credit.afterAll_append, Deed.inquiries, List.countP_append]
      simp only [Deed.inquiries, Bool.not_false, Bool.and_true, Credit.afterAll_cons,
        Credit.afterAll_nil] at *
      omega
  | jam act reason stuck deeds dealings after =>
      have less : (Credit.initial.afterAll service.deeds).worth false ≤
          (Credit.initial.afterAll service.deeds).worth
            (service.station.queue.ready && !service.stuck) :=
        Credit.worth_le nofun
      rw [deeds, dealings, after, Bool.not_true, Bool.and_false]
      omega
  | dealing dealing granted deeds dealings stuck =>
      have grown := Credit.worth_or (Credit.initial.afterAll service.deeds)
        service.station.queue.ready (decide (dealing.wish = .announce)) (!service.stuck)
      rw [deeds, dealings, stuck, Wish.ready_of_grant granted, List.countP_append,
        List.countP_singleton]
      omega

/-- Nothing is fetched that was not announced. -/
theorem solvent_run (sending : d.RaisesWhenSending) (setup : Setup)
    (indicator : Option Polarity) (device : σ) (moves : List Move) :
    ((fresh setup indicator device : Service σ ε).run d moves).Solvent := by
  have step (service : Service σ ε) (move : Move)
      (both : service.Solvent ∧ service.Faithful d setup) :
      (service.move d move).Solvent ∧ (service.move d move).Faithful d setup := by
    have stays := faithful_move d setup service move both.2
    exact ⟨both.1.move sending stays, stays⟩
  have initially : (fresh setup indicator device : Service σ ε).Solvent := Nat.le_refl 0
  exact (run_induction d step ⟨initially, faithful_fresh d setup indicator device⟩ moves).1

/-! ## What a turn leaves behind -/

theorem announced_eq {after : Service σ ε} (same : after.dealings = service.dealings) :
    after.announced = service.announced := by
  rw [announced, same, announced]

/-- What the station has done since some moment; the flag is clear if it was taken back
since, unless a packet was sent or announced after that. -/
structure Since (before after : Service σ ε) (since : List (Deed ε)) : Prop where
  deeds : after.deeds = before.deeds ++ since
  announced : before.announced ≤ after.announced
  clear : after.stuck = false → after.announced = before.announced →
    (Credit.initial.afterAll since).flag = .cleared →
      after.station.queue.ready = false

theorem Since.move (sending : d.RaisesWhenSending) {before : Service σ ε} {since : List (Deed ε)}
    (tracks : before.Since service since) (move : Move) :
    ∃ since, before.Since (service.move d move) since := by
  cases shows_move d service move with
  | nothing station deeds dealings stuck =>
      refine ⟨since, deeds.trans tracks.deeds, ?_, ?_⟩
      · rw [announced_eq dealings]
        exact tracks.announced
      · rw [announced_eq dealings, stuck, station]
        exact tracks.clear
  | deed deed performed _ _ deeds dealings able after =>
      refine ⟨since ++ [deed], ?_, ?_, ?_⟩
      · rw [deeds, tracks.deeds, List.append_assoc]
      · rw [announced_eq dealings]
        exact tracks.announced
      · intro _ same clear
        rw [announced_eq dealings] at same
        rw [Credit.afterAll_append] at clear
        exact deed.clear_after sending performed clear (tracks.clear able same)
  | jam act reason stuck deeds dealings after =>
      refine ⟨since, deeds.trans tracks.deeds, ?_, ?_⟩
      · rw [announced_eq dealings]
        exact tracks.announced
      · intro able
        rw [after] at able
        cases able
  | dealing dealing granted deeds dealings stuck =>
      have more := tracks.announced
      have counted : (service.move d move).announced =
          service.announced + if dealing.wish = .announce then 1 else 0 := by
        simp [Service.announced, dealings, List.countP_singleton]
      refine ⟨since, deeds.trans tracks.deeds, by omega, ?_⟩
      rw [stuck]
      intro able same clear
      have other : dealing.wish ≠ .announce := by
        intro announces
        rw [if_pos announces] at counted
        omega
      rw [if_neg other] at counted
      rw [Wish.ready_of_grant granted, tracks.clear able (counted.symm.trans same) clear]
      simp [other]

theorem since_run (sending : d.RaisesWhenSending) (service : Service σ ε) (moves : List Move) :
    ∃ since, service.Since (service.run d moves) since := by
  have step (after : Service σ ε) (move : Move) (tracks : ∃ since, service.Since after since) :
      ∃ since, service.Since (after.move d move) since := by
    obtain ⟨since, tracks⟩ := tracks
    exact tracks.move sending move
  exact run_induction d step ⟨[], (List.append_nil _).symm, Nat.le_refl _, nofun⟩ moves

/-- A turn that took a request leaves the flag clear, unless a packet was announced
meanwhile. -/
theorem clear_of_request (sending : d.RaisesWhenSending) {moves : List Move} {turn : Turn ε}
    (resting : service.job = none) (able : (service.run d moves).stuck = false)
    (faithful : (service.run d moves).Faithful d setup)
    (ended : (service.run d moves).job = none)
    (one : (service.run d moves).past = service.past ++ [turn])
    (unannounced : (service.run d moves).announced = service.announced)
    (took : turn.account.requests ≠ []) :
    (service.run d moves).station.queue.ready = false := by
  obtain ⟨since, tracks⟩ := since_run sending service moves
  have deeds : since = turn.deeds := by
    have all := tracks.deeds
    rw [deeds_eq, deeds_eq, resting, ended, one] at all
    simpa using all.symm
  subst deeds
  apply tracks.clear able unannounced
  -- The flag was taken back before the request was, and is not stale in the end.
  have member : turn ∈ (service.run d moves).past := by simp [one]
  obtain ⟨path, finished⟩ := faithful.past turn member
  obtain ⟨flow, said⟩ := Option.isSome_iff_exists.mp finished
  obtain ⟨covered, left⟩ := path.satisfies
    (Program.spends_program d.describe setup turn.task Credit.fresh_initial)
  have fresh := left flow said
  obtain ⟨request, taken⟩ := List.exists_mem_of_ne_nil _ took
  obtain ⟨deed, done, takes⟩ := List.mem_filterMap.mp taken
  have known := covered.flag_ne_found done (Deed.act_of_request takes)
  cases flag : (Credit.initial.afterAll turn.deeds).flag with
  | found => exact absurd flag known
  | cleared => rfl
  | stale => exact absurd flag fresh

end Service

end ShutterRadio
