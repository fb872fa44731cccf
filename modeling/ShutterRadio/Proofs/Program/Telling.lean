/-
# What a station says of failures

Whatever task a station is set to, whatever the radio refuses and whatever producers do
meanwhile, it tells of every call that fails, each by its own words
(`Program.told_task`): of a call for its own sake by that call, of a call of a burst by
the remote that the burst was for, and of a packet that it could not fetch as such.

There is one exception.  A start reads the radio's own figures back and says nothing of
those calls if they fail; a step makes no such call (`Program.reads_step`).  No failure
ends the work either: a step says that the station has stopped only if it saw that, or
took a request to shut down (`Program.stops_step`).
-/

import ShutterRadio.Proofs.Program.Complaint
import ShutterRadio.Proofs.Program.Spare

namespace ShutterRadio.Program

variable {ε α β : Type} (describe : ε → String) (setup : Setup) {requests : List Request}

/-- A call for the station's own sake is told of by itself. -/
theorem tells_report {asked : Call} (own : asked ∈ Station.ownCalls setup) :
    (report describe asked).Tells (Station.Words describe setup requests) := by
  have loud : asked.isReadBack = false := by
    simp only [Station.ownCalls, List.mem_cons, List.not_mem_nil, or_false] at own
    rcases own with rfl | rfl | rfl | rfl | rfl | rfl | rfl | rfl <;> rfl
  apply tells_call (fun fault => .callFailed asked (describe fault)) (fun _ => pure ()) loud
  · exact fun fault => rfl
  · exact fun fault => .own asked fault own
  · exact fun reply => tells_done ()
  · exact fun fault => rfl
  · exact fun fault => tells_done ()

theorem tells_listen : (listen describe).Tells (Station.Words describe setup requests) := by
  refine Tells.bind (tells_report describe setup (by simp [Station.ownCalls])) fun _ => ?_
  refine Tells.bind (tells_report describe setup (by simp [Station.ownCalls])) fun _ => ?_
  exact tells_report describe setup (by simp [Station.ownCalls])

/-- A start says nothing of the radio's own figures if it cannot read them. -/
theorem tells_start : (start describe setup).Tells (Station.Words describe setup requests) := by
  refine Tells.bind (tells_once trivial) fun _ => ?_
  refine Tells.bind (tells_report describe setup (by simp [Station.ownCalls])) fun _ => ?_
  refine Tells.bind (tells_report describe setup (by simp [Station.ownCalls])) fun _ => ?_
  refine Tells.bind (tells_report describe setup (by simp [Station.ownCalls])) fun _ => ?_
  refine Tells.bind (tells_report describe setup (by simp [Station.ownCalls])) fun _ => ?_
  refine Tells.bind (tells_once rfl) fun version => ?_
  refine Tells.bind (tells_once rfl) fun bitRate => ?_
  refine Tells.bind (tells_once rfl) fun frequency => ?_
  have listens : (listen describe).Tells (Station.Words describe setup requests) :=
    tells_listen describe setup
  split
  · exact Tells.bind (tells_once rfl) fun _ => listens
  · exact listens

/-! ### Bursts -/

/-- What failed of planned calls, and what became of the plan. -/
inductive Blame (planned : List Call) : List (Call × ε) → Option (Except ε Unit) → Prop
  | fine {result : Option (Except ε Unit)} :
      (∀ fault, result ≠ some (.error fault)) → Blame planned [] result
  | failed {asked : Call} (fault : ε) :
      asked ∈ planned → Blame planned [(asked, fault)] (some (.error fault))

theorem Blame.mono {planned more : List Call} {failures : List (Call × ε)}
    {result : Option (Except ε Unit)} (blame : Blame planned failures result)
    (subset : planned ⊆ more) : Blame more failures result := by
  cases blame with
  | fine fine => exact .fine fine
  | failed fault member => exact .failed fault (subset member)

/-- Playing a plan ends at the first call that fails, and complains of nothing. -/
theorem blame_play (mark : Instant) (steps : List Burst.Step) :
    (play mark steps : Program ε _).Follows fun deeds result =>
      Blame (steps.filterMap Burst.Step.asked?) (Deed.failures deeds) result ∧
        Deed.complaints deeds = [] := by
  induction steps generalizing mark with
  | nil => exact ⟨.fine nofun, rfl⟩
  | cons step steps ih =>
      cases step with
      | mark => exact ⟨⟨.fine nofun, rfl⟩, fun now _ _ => ih now⟩
      | await offset => exact ⟨⟨.fine nofun, rfl⟩, fun _ _ _ => ih mark⟩
      | ask asked =>
          refine ⟨⟨.fine nofun, rfl⟩, fun answer begun ended => ?_⟩
          cases answer with
          | ok answer =>
              apply (ih mark).mono
              intro deeds result later
              exact ⟨later.1.mono (List.subset_cons_self _ _), later.2⟩
          | error fault => exact ⟨.failed fault List.mem_cons_self, rfl⟩

/-- No call of a burst is for the radio's own figures. -/
theorem isReadBack_of_mem_calls {frame : Frame} {repeats : Nat} {asked : Call}
    (planned : asked ∈ Burst.calls frame repeats) : asked.isReadBack = false := by
  cases asked with
  | version => simp [Burst.calls, Burst.approach] at planned
  | bitRate => simp [Burst.calls, Burst.approach] at planned
  | frequency => simp [Burst.calls, Burst.approach] at planned
  | _ => rfl

/-- Only planned calls can be to blame. -/
theorem Blame.planned {planned : List Call} {failures : List (Call × ε)}
    {result : Option (Except ε Unit)} (blame : Blame planned failures result)
    (failure : Call × ε) (member : failure ∈ failures) : failure.1 ∈ planned := by
  cases blame with
  | fine _ => cases member
  | failed fault planned =>
      obtain rfl := List.mem_singleton.mp member
      exact planned

/-- A burst that ended early is told of when it is settled. -/
theorem tells_burst {transmission : Transmission} (request : .transmit transmission ∈ requests) :
    (burst (Frame.encode setup.key transmission.command) transmission.repeats >>= fun ending =>
      settle describe transmission.command.remote ending).Tells
        (Station.Words describe setup requests) := by
  apply follows_bind.mpr
  apply (blame_play _ _).mono
  rintro deeds result ⟨blame, quiet⟩
  rw [Burst.filterMap_asked?_plan] at blame
  have grievances : Deed.grievances deeds = Deed.failures deeds := by
    apply List.filter_eq_self.mpr
    intro failure member
    rw [isReadBack_of_mem_calls (blame.planned failure member)]
    rfl
  generalize Deed.failures deeds = failures at blame grievances
  -- A burst tells of nothing itself: what it owes is paid by whoever settles it.
  cases blame with
  | fine fine =>
      have told : Deed.Told (Station.Words describe setup requests) deeds true :=
        Deed.told_of_quiet grievances quiet
      match result with
      | none => exact told.weaken false
      | some (.error fault) => exact absurd rfl (fine fault)
      | some (.ok ()) =>
          have counts : (once (.count .sent) : Program ε _).Tells
              (Station.Words describe setup requests) := tells_once trivial
          exact Follows.mono counts fun more final later => told.append later
  | failed fault planned =>
      refine follows_behind
        (fun deeds final => Deed.Told (Station.Words describe setup requests) deeds final.isSome)
        ⟨[], _, grievances, by rw [quiet]; exact .nil, Nat.le_refl 1⟩ fun answer begun ended => ?_
      apply follows_tell (pure ()) _ _ rfl (.burst transmission _ fault request planned)
        (tells_done ())
      · rw [Deed.grievances_append, grievances]
        rfl
      · rw [Deed.complaints_append, quiet]
        rfl

/-! ### Tasks -/

/-- Taking in a packet cannot fail, and what is said of it is no complaint. -/
theorem mild_takeIn (command : Command) : (takeIn command : Program ε Unit).Uses Act.IsMild := by
  refine Uses.bind ((uses_once _).mpr trivial) fun now => ?_
  refine Uses.bind ((uses_once _).mpr trivial) fun placement => ?_
  cases placement with
  | appended => exact Uses.bind ((uses_once _).mpr trivial) fun _ => (uses_once _).mpr rfl
  | repeated => exact uses_done ()
  | dropped => exact Uses.bind ((uses_once _).mpr trivial) fun _ => (uses_once _).mpr rfl

theorem mild_absorb (packet : Frame) : (absorb packet : Program ε Unit).Uses Act.IsMild := by
  unfold absorb
  split
  · exact mild_takeIn _
  · exact Uses.bind ((uses_once _).mpr trivial) fun _ => (uses_once _).mpr rfl

theorem tells_fetch : (fetch describe).Tells (Station.Words describe setup requests) := by
  have listens : (listen describe).Tells (Station.Words describe setup requests) :=
    tells_listen describe setup
  apply tells_call (fun fault => .fetchFailed (describe fault)) (fun _ => listen describe) rfl
  · exact fun fault => rfl
  · exact fun fault => .fetch fault
  · exact fun bytes => Tells.bind (mild_absorb (Frame.ofVector bytes)).tells fun _ => listens
  · exact fun fault => rfl
  · exact fun fault => listens

theorem tells_transmit {transmission : Transmission}
    (request : .transmit transmission ∈ requests) :
    (transmit describe setup transmission).Tells (Station.Words describe setup requests) := by
  refine Tells.bind (tells_once trivial) fun _ => ?_
  refine Tells.bind (tells_once rfl) fun _ => ?_
  refine Tells.bind (tells_report describe setup (by simp [Station.ownCalls])) fun _ => ?_
  refine Tells.bind (tells_once trivial) fun _ => ?_
  rw [← bind_assoc]
  refine Tells.bind (tells_burst describe setup request) fun _ => ?_
  refine Tells.bind (tells_once trivial) fun _ => ?_
  refine Tells.bind (tells_report describe setup (by simp [Station.ownCalls])) fun _ => ?_
  refine Tells.bind (tells_once trivial) fun _ => ?_
  refine Tells.bind (tells_listen describe setup) fun _ => ?_
  exact tells_once trivial

/-- Whatever request is served, its failures are told of. -/
theorem tells_serve {request : Request} (member : request ∈ requests) :
    (serve describe setup request).Tells (Station.Words describe setup requests) := by
  cases request with
  | transmit transmission =>
      exact Tells.bind (tells_transmit describe setup member) fun _ => tells_done _
  | listen => exact Tells.bind (tells_listen describe setup) fun _ => tells_done _
  | shutdown =>
      have own : Call.standby ∈ Station.ownCalls setup := by simp [Station.ownCalls]
      refine Tells.bind (Tells.bind (tells_report describe setup own) fun _ => ?_)
        fun _ => tells_done _
      exact Tells.bind (tells_once trivial) fun _ => tells_once rfl

/-- Failures are told of by words for the requests that were taken. -/
def ToldOf (deeds : List (Deed ε)) (finished : Bool) : Prop :=
  Deed.Told (Station.Words describe setup (deeds.filterMap Deed.request?)) deeds finished

/-- What makes no calls for a request has no need to know of any. -/
theorem Tells.toldOf {program : Program ε α}
    (tells : program.Tells (Station.Words describe setup [])) :
    program.Follows fun deeds result => ToldOf describe setup deeds result.isSome :=
  Follows.mono tells fun _ _ told => told.mono fun _ _ words => words.mono (List.nil_subset _)

/-- Behind what was told of, only what comes later can be untold. -/
theorem ToldOf.append {describe : ε → String} {setup : Setup} {first second : List (Deed ε)}
    {finished : Bool} (before : ToldOf describe setup first true)
    (after : ToldOf describe setup second finished) :
    ToldOf describe setup (first ++ second) finished := by
  unfold ToldOf
  rw [List.filterMap_append]
  apply Deed.Told.append
  · exact before.mono fun failure note words => words.mono (List.subset_append_left _ _)
  · exact after.mono fun failure note words => words.mono (List.subset_append_right _ _)

/-- A mild act in front of what tells of its failures. -/
theorem toldOf_after {act : Act} {rest : act.Answer ε → Program ε α} (mild : act.IsMild)
    (later : ∀ answer, (rest answer).Follows fun deeds result =>
      ToldOf describe setup deeds result.isSome) :
    (once act >>= rest).Follows fun deeds result => ToldOf describe setup deeds result.isSome := by
  refine ⟨Deed.told_nil.weaken false, fun answer begun ended => ?_⟩
  apply (later answer).mono
  intro deeds result told
  refine Deed.Told.cons (told.mono fun failure note words => words.mono ?_) mild
  exact ((List.sublist_cons_self _ deeds).filterMap Deed.request?).subset

/-- A request that is taken out of the queue in front of what is told of by it. -/
theorem toldOf_next {rest : Option Request → Program ε α}
    (later : ∀ request, (rest request).Tells (Station.Words describe setup request.toList)) :
    (once .next >>= rest).Follows fun deeds result => ToldOf describe setup deeds result.isSome := by
  refine ⟨Deed.told_nil.weaken false, fun request begun ended => ?_⟩
  apply Follows.mono (later request)
  intro deeds result told
  refine Deed.Told.cons (told.mono fun failure note words => words.mono ?_) trivial
  cases request with
  | none => exact List.nil_subset _
  | some request => exact List.cons_subset_cons request (List.nil_subset _)

/-- Whatever the station finds to do, a step tells of its failures. -/
theorem told_step : (step describe setup).Follows fun deeds result =>
    ToldOf describe setup deeds result.isSome := by
  refine toldOf_after describe setup trivial fun activity => ?_
  split
  · exact (tells_done _).toldOf describe setup
  refine toldOf_after describe setup trivial fun ready => ?_
  split
  · exact (Tells.bind (tells_fetch describe setup) fun _ => tells_done _).toldOf describe setup
  refine toldOf_next describe setup fun request => ?_
  cases request with
  | none => exact Tells.bind (tells_once trivial) fun _ => tells_done _
  | some request => exact tells_serve describe setup List.mem_cons_self

/-- Whatever task a station is set to, it tells of its failures. -/
theorem told_task (task : Task) : (task.program describe setup).Follows fun deeds result =>
    ToldOf describe setup deeds result.isSome := by
  cases task with
  | start =>
      exact (Tells.bind (tells_start describe setup) fun _ => tells_done _).toldOf describe setup
  | step => exact told_step describe setup

/-! ### Steps -/

/-- An act that is not a call to read one of the radio's own figures back. -/
def ReadsNothing : Act → Prop
  | .call asked => asked.isReadBack = false
  | _ => True

theorem reads_listen : (listen describe).Uses ReadsNothing :=
  Uses.listen describe rfl rfl rfl fun _ => trivial

theorem reads_fetch : (fetch describe).Uses ReadsNothing := by
  refine Uses.fetch describe rfl (fun packet => ?_) (reads_listen describe) fun _ => trivial
  exact Uses.absorb trivial (fun _ _ => trivial) trivial trivial trivial fun _ => trivial

theorem reads_transmit (transmission : Transmission) :
    (transmit describe setup transmission).Uses ReadsNothing := by
  have bursts : (burst (Frame.encode setup.key transmission.command)
      transmission.repeats : Program ε _).Uses ReadsNothing :=
    Uses.burst (fun _ => isReadBack_of_mem_calls) trivial fun _ => trivial
  have standby : ReadsNothing (.call .standby) := rfl
  exact Uses.transmit describe setup transmission ⟨trivial, trivial⟩ standby (fun _ => trivial)
    bursts ⟨trivial, trivial⟩ trivial (reads_listen describe) fun _ => trivial

theorem reads_serve (request : Request) : (serve describe setup request).Uses ReadsNothing :=
  Uses.serve describe setup (reads_transmit describe setup) (reads_listen describe)
    (Uses.shutDown describe rfl trivial fun _ => trivial)

/-- Only a start reads the radio's own figures back. -/
theorem reads_step : (step describe setup).Uses ReadsNothing := by
  refine Uses.bind ((uses_once _).mpr trivial) fun activity => ?_
  split
  · exact uses_done _
  refine Uses.bind ((uses_once _).mpr trivial) fun ready => ?_
  split
  · exact Uses.bind (reads_fetch describe) fun _ => uses_done _
  refine Uses.bind ((uses_once _).mpr trivial) fun request => ?_
  cases request with
  | none => exact Uses.bind ((uses_once _).mpr trivial) fun _ => uses_done _
  | some request => exact reads_serve describe setup request

/-- So there is something to say of every call of a step that fails. -/
theorem grievances_step : (step describe setup).Follows fun deeds _ =>
    Deed.grievances deeds = Deed.failures deeds := by
  apply (reads_step describe setup).follows
  intro deeds result harmless
  apply List.filter_eq_self.mpr
  intro failure member
  obtain ⟨deed, among, here⟩ := List.mem_filterMap.mp member
  have loud := harmless deed among
  unfold Deed.failure? at here
  split at here
  · obtain rfl := Option.some.inj here
    simpa [ReadsNothing] using loud
  · cases here

/-- A piece of work that goes on does not stop, whatever becomes of it. -/
theorem goes_on (program : Program ε Unit) :
    (program >>= fun _ => pure Station.Flow.goesOn).Follows fun _ result =>
      result ≠ some .stopped := by
  apply follows_bind.mpr
  apply follows_of_forall
  intro deeds result
  cases result with
  | none => exact nofun
  | some _ => exact nofun

/-- Only a request to shut down stops a station that serves it. -/
theorem stops_serve (request : Request) :
    (serve describe setup request).Follows fun _ result =>
      result = some .stopped → request = .shutdown := by
  cases request with
  | transmit transmission =>
      exact (goes_on (transmit describe setup transmission)).mono fun _ _ on stopped =>
        absurd stopped on
  | listen => exact (goes_on (listen describe)).mono fun _ _ on stopped => absurd stopped on
  | shutdown => exact follows_of_forall _ fun _ _ _ => rfl

/-- A step says that the station has stopped only if that is what it saw in the beginning,
or if it took a request to shut down. -/
theorem stops_step : (step describe setup).Follows fun deeds result =>
    result = some .stopped →
      (∃ begun ended, deeds = [⟨.look, .shutDown, begun, ended⟩]) ∨
        .shutdown ∈ deeds.filterMap Deed.request? := by
  refine ⟨nofun, fun activity begun ended => ?_⟩
  by_cases shut : activity = .shutDown
  · subst shut
    exact fun _ => .inl ⟨begun, ended, rfl⟩
  show Follows (ite _ _ _) _
  rw [if_neg shut]
  refine ⟨nofun, fun ready _ _ => ?_⟩
  show Follows (ite _ _ _) _
  split
  · exact (goes_on (fetch describe)).mono fun _ _ on stopped => absurd stopped on
  refine ⟨nofun, fun request _ _ => ?_⟩
  cases request with
  | none => exact ⟨nofun, fun _ _ _ => nofun⟩
  | some request =>
      apply (stops_serve describe setup request).mono
      intro deeds result stops stopped
      obtain rfl := stops stopped
      exact .inr List.mem_cons_self

end ShutterRadio.Program
