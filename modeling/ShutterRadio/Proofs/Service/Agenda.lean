/-
# What a station has on its agenda

The next steps of a station are about what it finds in its queue: a packet that was
announced comes first, then the requests that wait, oldest first.  Once a shutdown has
been accepted producers cannot add a request.  So as long as they announce nothing, and
the ready line rises only while the radio sends, each step that comes to its end takes the
first item off the agenda and puts nothing on it, since a mark that sending leaves is
taken back in the same step (`Program.handles_step`).

A queue that its operations have brought about is orderly, so a shutdown that waits in it
is the last item of the agenda, and a burst or a fault in front of it cannot change that.
-/

import ShutterRadio.Proofs.Program.Amid
import ShutterRadio.Proofs.Program.Telling
import ShutterRadio.Proofs.Service.Announcements
import ShutterRadio.Proofs.Service.Endless

namespace ShutterRadio

variable {σ ε τ α : Type}

/-! ## Queues -/

namespace Queue

/-- A queue that its operations can bring about.  Nobody can offer a shutdown; it is
accepted by closing only. -/
inductive Reachable : Queue → Prop
  | empty : Reachable .empty
  | offer {queue : Queue} {request : Request} : Reachable queue → request ≠ .shutdown →
      Reachable (offer request queue).2
  | close {queue : Queue} : Reachable queue → Reachable (close queue).2
  | collect {queue : Queue} (now : Instant) : Reachable queue → Reachable (queue.collect now).2
  | signal {queue : Queue} : Reachable queue → Reachable queue.signal
  | calm {queue : Queue} : Reachable queue → Reachable queue.calm
  | take {queue : Queue} : Reachable queue → Reachable queue.take.2
  | record {queue : Queue} (command : Command) (now : Instant) : Reachable queue →
      Reachable (queue.record command now).2
  | become {queue : Queue} (activity : Activity) : Reachable queue →
      Reachable (queue.become activity)

/-- What waits for the station: the packet that was announced, if there is one, and then
the requests, oldest first. -/
def agenda (queue : Queue) : List (Option Request) :=
  (if queue.ready then [none] else []) ++ queue.requests.toList.map some

variable {queue after : Queue}

theorem length_agenda (queue : Queue) :
    queue.agenda.length = queue.pending + if queue.ready then 1 else 0 := by
  unfold agenda pending Bounded.size
  split
  · simp
  · simp

theorem agenda_of_ready (ready : queue.ready = true) :
    queue.agenda = none :: queue.requests.toList.map some := by
  simp [agenda, ready]

theorem agenda_of_clear (clear : queue.ready = false) :
    queue.agenda = queue.requests.toList.map some := by
  simp [agenda, clear]

/-- What is done to something else leaves a queue orderly. -/
theorem Orderly.aside (orderly : queue.Orderly) (requests : after.requests = queue.requests)
    (closing : after.closing = queue.closing) : after.Orderly :=
  orderly.taken (by rw [requests, List.nil_append]) closing

theorem Reachable.orderly (reachable : queue.Reachable) : queue.Orderly := by
  induction reachable with
  | empty => exact ⟨List.not_mem_nil, fun waits => absurd waits List.not_mem_nil⟩
  | @offer queue request _ proper ih =>
      rcases queue.offer_cases request with
        ⟨-, refused⟩ | ⟨running, -, added, accepted, longer, others⟩
      · rw [refused]
        exact ih
      · rw [accepted]
        apply ih.added running longer
        show added.closing = _
        rw [others]
        simp [running, proper]
  | @close queue _ ih =>
      rcases queue.close_cases with
        ⟨-, again⟩ | ⟨-, -, refused⟩ | ⟨running, closed, accepted, longer, others⟩
      · rw [again]
        exact ih
      · rw [refused]
        exact ih
      · rw [accepted]
        apply ih.added running longer
        show closed.closing = _
        rw [others]
        rfl
  | @collect queue now _ ih =>
      rw [queue.collect_eq now]
      exact ih.aside rfl rfl
  | signal _ ih => exact ih.aside rfl rfl
  | calm _ ih => exact ih.aside rfl rfl
  | @take queue _ ih =>
      obtain ⟨waited, others⟩ := queue.take_eq
      exact ih.taken waited (by rw [others])
  | record command now _ ih => exact ih.aside rfl rfl
  | become activity _ ih => exact ih.aside rfl rfl

/-- A shutdown that waits is the last item. -/
theorem Orderly.agenda_eq (orderly : queue.Orderly) (waits : .shutdown ∈ queue.requests.toList) :
    ∃ front, queue.agenda = front ++ [some .shutdown] ∧ some .shutdown ∉ front := by
  have last := orderly.last
  rcases List.eq_nil_or_concat' queue.requests.toList with none | ⟨front, request, split⟩
  · rw [none] at waits
    cases waits
  rw [split, List.dropLast_concat] at last
  obtain rfl : .shutdown = request := by
    rw [split] at waits
    rcases List.mem_append.mp waits with early | here
    · exact absurd early last
    · exact List.mem_singleton.mp here
  refine ⟨(if queue.ready then [none] else []) ++ front.map some, ?_, ?_⟩
  · rw [agenda, split, List.map_append, List.append_assoc]
    rfl
  · split <;> simpa using last

end Queue

/-! ## What producers can change of it -/

section Changes

variable {before between after : Station σ} {allowed : Wish → Prop}

/-- What two accounts explain one after the other, both together explain. -/
theorem Account.Explains.trans {first second : Account} (earlier : first.Explains before between)
    (later : second.Explains between after) : (first ++ second).Explains before after where
  requests := by
    rw [earlier.requests, later.requests, Account.append_def, List.append_assoc]
  closing := later.closing.trans earlier.closing
  activity shut := by
    simp only [Account.append_def, Bool.or_eq_true]
    rcases later.activity shut with before | stops
    · exact (earlier.activity before).imp_right .inl
    · exact .inr (.inr stops)
  tally counter watched := by
    rw [later.tally counter watched, earlier.tally counter watched, Account.append_def,
      List.count_append, UInt32.ofNat_add, UInt32.add_assoc]
  setup := later.setup.trans earlier.setup

/-- Once a shutdown was accepted, there is nothing to account for in what producers do. -/
theorem Station.Asked.explains (asked : before.Asked allowed after)
    (closing : before.queue.closing = true) : Account.empty.Explains before after := by
  obtain ⟨wish, answer, _, granted⟩ := asked
  have explains := wish.explains_grant granted
  rcases explains.requests with ⟨request, _, running, _, _⟩ | ⟨_, same, closes⟩
  · rw [closing] at running
    cases running
  · refine Account.explains_of_same rfl rfl ⟨same, closes, explains.activity, ?_, ?_⟩ <;>
      rw [explains.station]

/-- Who announces nothing leaves the mark as it is. -/
theorem Station.Asked.ready (asked : before.Asked (· ≠ .announce) after) :
    after.queue.ready = before.queue.ready := by
  obtain ⟨wish, answer, silent, granted⟩ := asked
  simp [Wish.ready_of_grant granted, silent]

theorem Station.Asked.activity (asked : before.Asked allowed after) :
    after.queue.activity = before.queue.activity := by
  obtain ⟨wish, answer, _, granted⟩ := asked
  exact (wish.explains_grant granted).activity

/-- Nor is there in all that they do until the station goes on. -/
theorem Station.explains_of_asked
    (asked : Relation.ReflTransGen (Station.Asked allowed) before after)
    (closing : before.queue.closing = true) : Account.empty.Explains before after := by
  induction asked using Relation.ReflTransGen.head_induction_on with
  | refl => exact Account.explains_of_same rfl rfl ⟨rfl, rfl, rfl, rfl, rfl⟩
  | head asked _ ih =>
      have here := asked.explains closing
      exact here.trans (ih (here.closing.trans closing))

end Changes

/-- A station that has not shut down, and to whose agenda nothing will be added. -/
structure Station.Faces (agenda : List (Option Request)) (station : Station σ) : Prop where
  closing : station.queue.closing = true
  agenda : station.queue.agenda = agenda
  running : station.queue.activity ≠ .shutDown

namespace Program

variable {d : Device σ ε τ} {allowed : Wish → Prop} {program left : Program ε α}
  {before after : Station σ} {deeds : List (Deed ε)} {agenda : List (Option Request)}

/-- Once a shutdown was accepted, an account of the deeds explains all there is. -/
theorem Amid.explains (amid : program.Amid d allowed before deeds left after)
    (closing : before.queue.closing = true) : (Account.ofDeeds deeds).Explains before after := by
  induction amid with
  | stay program station => exact Account.explains_of_same rfl rfl ⟨rfl, rfl, rfl, rfl, rfl⟩
  | @act first next before between after answer deeds left performed _ ih =>
      have here := Deed.explains d ⟨first, answer, d.time before.device, d.time between.device⟩
        performed
      rw [Account.ofDeeds_cons]
      exact here.trans (ih (here.closing.trans closing))
  | wish asked _ ih =>
      have here := asked.explains closing
      rw [← Account.empty_append (.ofDeeds _)]
      exact here.trans (ih (here.closing.trans closing))

/-- What the queue says of the station is for the station to change. -/
theorem Amid.activity (amid : program.Amid d allowed before deeds left after)
    (uses : program.Uses fun act => ∀ activity, act ≠ .become activity) :
    after.queue.activity = before.queue.activity := by
  apply amid.keeps fun station => station.queue.activity = before.queue.activity
  · intro deed member first second same performed
    rw [Act.activity_of_perform (amid.leads.among uses deed member) performed, same]
  · intro first second same asked
    rw [asked.activity, same]
  · rfl

/-- What has nothing to do with announcements leaves the mark in the queue as it is. -/
theorem Amid.ready_of_aside (sending : d.RaisesWhenSending)
    (amid : program.Amid d (· ≠ .announce) before deeds left after)
    (uses : program.Uses Credit.IsAside) : after.queue.ready = before.queue.ready := by
  apply amid.keeps fun station => station.queue.ready = before.queue.ready
  · intro deed member first second same performed
    have aside := amid.leads.among uses deed member
    rw [Act.ready_of_other sending _ _ performed, same]
    · intro packet sends
      rw [sends] at aside
      exact aside
    · intro calms
      rw [calms] at aside
      exact aside
  · intro first second same asked
    rw [asked.ready, same]
  · rfl

/-- A flag that is clear by now is clear in the queue. -/
theorem Amid.clear_after (sending : d.RaisesWhenSending)
    (amid : program.Amid d (· ≠ .announce) before deeds left after) {credit : Credit}
    (clear : (credit.afterAll deeds).flag = .cleared)
    (earlier : credit.flag = .cleared → before.queue.ready = false) :
    after.queue.ready = false := by
  induction amid generalizing credit with
  | stay program station => exact earlier clear
  | @act first next before between after answer deeds left performed _ ih =>
      let deed : Deed ε := ⟨first, answer, d.time before.device, d.time between.device⟩
      have done : deed.act.perform d before = .ok deed.answer between := performed
      exact ih clear fun known => deed.clear_after sending done known earlier
  | wish asked _ ih =>
      apply ih clear
      intro known
      rw [asked.ready, earlier known]

/-- What takes no request and has nothing to do with announcements leaves an agenda as
it is. -/
theorem Amid.agenda_of_aside (sending : d.RaisesWhenSending)
    (amid : program.Amid d (· ≠ .announce) before deeds left after)
    (closing : before.queue.closing = true) (uses : program.Uses Credit.IsAside)
    (nothing : (Account.ofDeeds deeds).requests = []) :
    after.queue.agenda = before.queue.agenda := by
  have waited := (amid.explains closing).requests
  rw [nothing, List.nil_append] at waited
  rw [Queue.agenda, Queue.agenda, amid.ready_of_aside sending uses, waited]

/-- Whatever producers do first, a station goes on to face its agenda. -/
theorem faces_of_asked (sending : d.RaisesWhenSending) (faces : before.Faces agenda)
    (asked : Relation.ReflTransGen (Station.Asked (· ≠ .announce)) before after) :
    after.Faces agenda := by
  have amid : (done () : Program ε Unit).Amid d (· ≠ .announce) before [] (done ()) after :=
    .of_asked asked (.stay _ _)
  have explains := amid.explains faces.closing
  refine ⟨explains.closing.trans faces.closing, ?_, ?_⟩
  · rw [amid.agenda_of_aside sending faces.closing (uses_done _) rfl, faces.agenda]
  · rw [amid.activity (uses_done _)]
    exact faces.running

end Program

/-! ## One step -/

/-- A step that took care of one item, and stops for a shutdown only.  The last that it
asked of its radio then is to stand by. -/
structure Turn.Handles (d : Device σ ε τ) (setup : Setup) (item : Option Request)
    (turn : Turn ε) : Prop where
  task : turn.task = .step
  path : turn.IsPath d setup
  flow : turn.flow = some (if item = some .shutdown then .stopped else .goesOn)
  requests : turn.account.requests = item.toList
  fetches : item = none → turn.Fetches
  standby : item = some .shutdown → ∃ answered, Deed.calls turn.deeds = [(.standby, answered)]

/-- Whoever has a request in hand takes no other in the same turn. -/
theorem Account.requests_of_taking {request : Request} {account : Account} {key : UInt8}
    {finished : Bool} (turn : (Account.taking request ++ account).IsTurn key finished) :
    account.requests = [] := by
  generalize taken : Account.taking request ++ account = whole at turn
  have first : whole.requests = request :: account.requests := taken ▸ rfl
  cases turn with
  | idle => cases first
  | listening => exact (List.cons.inj first).2.symm
  | stopping _ => exact (List.cons.inj first).2.symm
  | sending _ _ => exact (List.cons.inj first).2.symm

namespace Program

variable {d : Device σ ε τ} {setup : Setup} {allowed : Wish → Prop}
  {before after : Station σ} {deeds : List (Deed ε)} {flow : Station.Flow}

/-- Serving a shutdown stops the station, and asks its radio for nothing but to stand by. -/
theorem stands_serve (describe : ε → String) (setup : Setup) :
    (serve describe setup .shutdown).Follows fun deeds result =>
      result.isSome → result = some .stopped ∧
        ∃ answered, Deed.calls deeds = [(.standby, answered)] := by
  show (shutDown describe >>= fun _ => (pure .stopped : Program ε Station.Flow)).Follows _
  apply follows_bind.mpr
  apply follows_bind.mpr
  apply (follows_report describe .standby).mono
  intro deeds result stands
  cases result with
  | none => exact nofun
  | some _ =>
      -- What is left makes no call.
      obtain ⟨answered, calls⟩ := stands rfl
      refine ⟨nofun, fun _ _ _ => ⟨nofun, fun _ _ _ _ => ⟨rfl, answered, ?_⟩⟩⟩
      rw [List.append_nil, Deed.calls_append, calls]
      rfl

/-- Serving a shutdown makes the queue say so. -/
theorem activity_serve {describe : ε → String}
    (amid : (serve describe setup .shutdown).Amid d allowed before deeds (.done flow) after) :
    after.queue.activity = .shutDown := by
  obtain ⟨_, last, _, shut, rfl, shuts, rest⟩ := amid_bind amid
  obtain ⟨_, acts, _, reported, rfl, _, becomes⟩ := amid_bind shuts
  obtain ⟨here, _, between, told, _, performed, rfl, tells⟩ := amid_once_bind becomes
  injection performed with _ changed
  subst changed
  rw [rest.activity (uses_done _), tells.activity ((uses_once _).mpr (by simp))]
  rfl

/-- A station that faces something sees that it has not shut down, and takes back what was
announced. -/
theorem amid_step (sending : d.RaisesWhenSending) {agenda : List (Option Request)}
    (faces : before.Faces agenda)
    (amid : (step d.describe setup).Amid d (· ≠ .announce) before deeds (.done flow) after) :
    ∃ (activity : Activity) (there : Station σ) (begun ended begun' ended' : Instant)
        (more : List (Deed ε)),
      activity ≠ .shutDown ∧ there.Faces agenda ∧
      deeds = ⟨.look, activity, begun, ended⟩ ::
        ⟨.calm, there.queue.ready, begun', ended'⟩ :: more ∧
      (if there.queue.ready then do
            fetch d.describe
            pure .goesOn
          else do
            match ← once .next with
            | some request => serve d.describe setup request
            | none => do
                once (.pause Station.idlePoll)
                pure .goesOn : Program ε Station.Flow).Amid d (· ≠ .announce)
        { there with queue := there.queue.calm } more (.done flow) after := by
  obtain ⟨here, _, _, _, asked, looked, rfl, calming⟩ := amid_once_bind amid
  have stays := faces_of_asked sending faces asked
  obtain ⟨rfl, rfl⟩ := Station.consult_eq_ok (fun queue => (queue.activity, queue)) looked
  rw [if_neg stays.running] at calming
  obtain ⟨there, _, _, more, asked, calmed, rfl, rest⟩ := amid_once_bind calming
  obtain ⟨rfl, rfl⟩ := Station.consult_eq_ok (fun queue => (queue.ready, queue.calm)) calmed
  exact ⟨_, there, _, _, _, _, more, stays.running, faces_of_asked sending stays asked, rfl, rest⟩

/-- A station that takes a request serves it, and takes no other. -/
theorem amid_serve {request : Request} {others : List Request}
    (amid : (do
      match ← once .next with
      | some request => serve d.describe setup request
      | none => do
          once (.pause Station.idlePoll)
          pure .goesOn : Program ε Station.Flow).Amid d allowed before deeds (.done flow) after)
    (waiting : before.queue.requests.toList = request :: others)
    (closing : before.queue.closing = true) :
    (Account.ofDeeds deeds).requests = [request] ∧
    flow = (if request = .shutdown then .stopped else .goesOn) ∧
    (request = .shutdown → after.queue.activity = .shutDown ∧
      ∃ answered, Deed.calls deeds = [(.standby, answered)]) := by
  obtain ⟨here, taken, between, more, asked, performed, rfl, serves⟩ := amid_once_bind amid
  have untouched : here.queue.requests.toList = request :: others :=
    (Station.explains_of_asked asked closing).requests.symm.trans waiting
  obtain ⟨rfl, -⟩ := Station.consult_eq_ok Queue.take performed
  rw [Queue.take_of_cons untouched] at serves ⊢
  have turn := serves.leads.satisfies (accounts_serve d.describe setup request)
  have stops := serves.leads.satisfies (stops_serve d.describe setup request)
  refine ⟨congrArg (request :: ·) (Account.requests_of_taking turn), ?_⟩
  by_cases shut : request = .shutdown
  · subst shut
    have stands := serves.leads.satisfies (stands_serve d.describe setup) rfl
    rw [if_pos rfl]
    exact ⟨Option.some.inj stands.1, fun _ => ⟨activity_serve serves, stands.2⟩⟩
  · rw [if_neg shut]
    refine ⟨?_, fun same => absurd same shut⟩
    cases flow with
    | goesOn => rfl
    | stopped => exact absurd (stops rfl) shut

/-- A step takes care of the first item of an agenda, and leaves the others.  It shuts the
station down if that was what was asked for, and not otherwise. -/
theorem handles_step (sending : d.RaisesWhenSending) {item : Option Request}
    {others : List (Option Request)} (faces : before.Faces (item :: others))
    (amid : (step d.describe setup).Amid d (· ≠ .announce) before deeds (.done flow) after) :
    Turn.Handles d setup item ⟨.step, deeds, some flow⟩ ∧
      after.queue.closing = true ∧ after.queue.agenda = others ∧
        (after.queue.activity = .shutDown ↔ item = some .shutdown) := by
  have explains := amid.explains faces.closing
  have path : Turn.IsPath d setup ⟨.step, deeds, some flow⟩ := ⟨.done flow, amid.leads, rfl⟩
  have fetching := amid.leads.satisfies (fetching_step d.describe setup)
  have shuts (shut : after.queue.activity = .shutDown) :
      (Account.ofDeeds deeds).requests = [.shutdown] :=
    (path.isTurn.requests_of_stops ((explains.activity shut).resolve_left faces.running)).1
  obtain ⟨activity, there, begun, ended, begun', ended', more, going, stays, rfl, rest⟩ :=
    amid_step sending faces amid
  have onward := rest.explains stays.closing
  have waits := stays.agenda
  -- The flag was taken back at the beginning, and again if the work was to send.
  have clear : after.queue.ready = false := by
    have held : there.queue.ready = true →
        (⟨there.queue.ready, .cleared⟩ : Credit).held = true := id
    have spends := rest.leads.satisfies (spends_work d.describe setup rfl held)
    exact rest.clear_after sending (spends.2 flow rfl) fun _ => rfl
  refine and_left_comm.mp ⟨explains.closing.trans faces.closing, ?_⟩
  rw [Queue.agenda_of_clear clear]
  cases ready : there.queue.ready with
  | true =>
      rw [ready] at fetching path shuts
      rw [Queue.agenda_of_ready ready] at waits
      obtain ⟨rfl, rfl⟩ := List.cons.inj waits
      have fetched := fetching (.calmed _ _ _ _ _ going)
      have untouched := onward.requests
      rw [show (Account.ofDeeds more).requests = [] from fetched.requests] at untouched
      refine ⟨?_, congrArg _ untouched.symm, fun shut => ?_, nofun⟩
      · exact
          { task := rfl
            path := path
            flow := (fetched.ended rfl).1
            requests := fetched.requests
            fetches := fun _ => ⟨rfl, fetched.requests, fetched.first, fetched.ended⟩
            standby := nofun }
      · cases fetched.requests.symm.trans (shuts shut)
  | false =>
      rw [ready] at path shuts rest
      rw [if_neg Bool.false_ne_true] at rest
      rw [Queue.agenda_of_clear ready] at waits
      obtain ⟨request, behind, queued, rfl, rfl⟩ := List.map_eq_cons_iff.mp waits
      obtain ⟨requests, said, stands⟩ := amid_serve rest queued stays.closing
      have left := queued.symm.trans onward.requests
      rw [requests] at left
      refine ⟨?_, congrArg _ (List.cons.inj left).2.symm, fun shut => ?_, fun asked => ?_⟩
      · exact
          { task := rfl
            path := path
            flow := by simp [said]
            requests := requests
            fetches := nofun
            standby := fun asked => (stands (Option.some.inj asked)).2 }
      · exact congrArg some (List.cons.inj (requests.symm.trans (shuts shut))).1
      · exact (stands (Option.some.inj asked)).1

end Program

end ShutterRadio
