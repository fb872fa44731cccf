/-
# What is refused leaves no trace

Methods of remotes and of the registry may refuse: a name is too long, there are too many
blinds, a blind was not paired, the queue takes no more, an identity is taken, the registry
is full, or there is no such remote.  Which refusal is due is said from what there is before
and from nothing else (`Remote.pairDue?`, `Registry.addDue?` and their like); which one was
made, by the answer alone (`Refusal.ofAttempt?` and its like).

A method that abides by that refuses nothing without a reason or for another one, and what
it refuses it leaves as it was: no step of it has changed anything by then.  A session adds
that nothing else is touched either, except for notes about it.
`Session.refusals_leave_no_trace` says both.
-/

import ShutterRadio.Bench.Session.Play
import ShutterRadio.Proofs.Remote.Upkeep

namespace ShutterRadio

/-! ## Refusals -/

/-- What a refusal says: why, or nothing at all. -/
inductive Refusal
  | bare
  | because (error : RemoteError)
  deriving DecidableEq

namespace Refusal

def ofAttempt? : Except RemoteError Unit → Option Refusal
  | .ok () => none
  | .error error => some (.because error)

def ofFlag? : Bool → Option Refusal
  | true => none
  | false => some .bare

def ofTaken? : Option Remote → Option Refusal
  | some _ => none
  | none => some .bare

theorem ofAttempt?_eq_some_iff {attempt : Except RemoteError Unit} {error : RemoteError} :
    ofAttempt? attempt = some (.because error) ↔ attempt = .error error := by
  cases attempt <;> simp [ofAttempt?]

end Refusal

/-- A method answers the refusal that is due, and if one is, leaves the state as it was. -/
structure Abides {σ α : Type} (method : StateM σ α) (told? : α → Option Refusal)
    (due? : Option Refusal) (before : σ) : Prop where
  told : told? (method before).1 = due?
  kept : due? ≠ none → (method before).2 = before

section Abides

variable {σ α : Type} {method : StateM σ α} {told? : α → Option Refusal} {before after : σ}
  {answer : α}

theorem Abides.refused {refusal : Refusal} (done : method before = (answer, before))
    (told : told? answer = some refusal) : Abides method told? (some refusal) before :=
  ⟨by rw [done, told], fun _ => by rw [done]⟩

theorem Abides.granted (done : method before = (answer, after)) (told : told? answer = none) :
    Abides method told? none before :=
  ⟨by rw [done, told], fun due => absurd rfl due⟩

end Abides

/-! ## Remotes and queues -/

/-- A queue that is full or shutting down refuses requests. -/
def Queue.offerDue? (queue : Queue) : Option Refusal :=
  if queue.closing = true ∨ queue.pending = queueCapacity then some .bare else none

namespace Remote

def renameDue? (name : String) : Option Refusal :=
  if nameCapacity < name.utf8ByteSize then some (.because .nameTooLong) else none

def pairDue? (remote : Remote) (blind : UInt16) : Option Refusal :=
  if blind ∉ remote.profile.blinds.toList ∧ remote.profile.blinds.size = blindCapacity then
    some (.because .tooManyBlinds)
  else none

def partDue? (remote : Remote) (blind : UInt16) : Option Refusal :=
  if blind ∉ remote.profile.blinds.toList then some .bare else none

theorem abides_rename (remote : Remote) (name : String) :
    Abides (rename name) Refusal.ofAttempt? (renameDue? name) remote := by
  have renamed := remote.rename_eq name
  unfold renameDue?
  by_cases fits : name.utf8ByteSize ≤ nameCapacity
  · rw [Name.ofString, dif_pos fits] at renamed
    rw [if_neg (Nat.not_lt.mpr fits)]
    exact .granted renamed rfl
  · rw [Name.ofString, dif_neg fits] at renamed
    rw [if_pos (Nat.not_le.mp fits)]
    exact .refused renamed rfl

theorem pair_of_full {remote : Remote} {blind : UInt16}
    (unknown : blind ∉ remote.profile.blinds.toList)
    (full : remote.profile.blinds.size = blindCapacity) :
    pair blind remote = (.error .tooManyBlinds, remote) := by
  simp [pair_eq, unknown, Bounded.push?_eq_none_iff.mpr full]

theorem abides_pair (remote : Remote) (blind : UInt16) :
    Abides (pair blind) Refusal.ofAttempt? (remote.pairDue? blind) remote := by
  unfold pairDue?
  by_cases known : blind ∈ remote.profile.blinds.toList
  · have passed := remote.pair_eq blind
    rw [if_pos (List.contains_iff_mem.mpr known)] at passed
    rw [if_neg fun due => due.1 known]
    exact .granted passed rfl
  cases pushed : remote.profile.blinds.push? blind with
  | none =>
      have full := Bounded.push?_eq_none_iff.mp pushed
      rw [if_pos ⟨known, full⟩]
      exact .refused (pair_of_full known full) rfl
  | some blinds =>
      have paired : pair blind remote = (.ok (), changed { remote.profile with blinds }) := by
        simp [pair_eq, known, pushed]
      rw [if_neg fun due => Nat.ne_of_lt (Bounded.push?_eq_some_iff.mp pushed).1 due.2]
      exact .granted paired rfl

theorem pair_eq_error_iff {remote : Remote} {blind : UInt16} {error : RemoteError} :
    (pair blind remote).1 = .error error ↔
      (blind ∉ remote.profile.blinds.toList ∧ remote.profile.blinds.size = blindCapacity) ∧
        error = .tooManyBlinds := by
  rw [← Refusal.ofAttempt?_eq_some_iff, (remote.abides_pair blind).told, pairDue?]
  split
  · rename_i due
    simp [due, eq_comm]
  · rename_i fine
    simp [fine]

theorem part_of_unknown {remote : Remote} {blind : UInt16}
    (unknown : blind ∉ remote.profile.blinds.toList) : part blind remote = (false, remote) := by
  simp [part_eq, unknown]

theorem part_eq_false_iff {remote : Remote} {blind : UInt16} :
    (part blind remote).1 = false ↔ blind ∉ remote.profile.blinds.toList := by
  by_cases known : blind ∈ remote.profile.blinds.toList <;> simp [part_eq, known]

theorem abides_part (remote : Remote) (blind : UInt16) :
    Abides (part blind) Refusal.ofFlag? (remote.partDue? blind) remote := by
  unfold partDue?
  by_cases known : blind ∈ remote.profile.blinds.toList
  · have parted := remote.part_eq blind
    rw [if_pos (List.contains_iff_mem.mpr known)] at parted
    rw [if_neg (not_not.mpr known)]
    exact .granted parted rfl
  · rw [if_pos known]
    exact .refused (part_of_unknown known) rfl

/-- A press that the queue refuses leaves remote and queue as they were. -/
theorem abides_pressOn (remote : Remote) (queue : Queue) (button : Button) (repeats : UInt16) :
    Abides (pressOn button repeats) Refusal.ofFlag? queue.offerDue? (remote, queue) := by
  unfold Queue.offerDue?
  rcases remote.pressOn_cases queue button repeats with
    ⟨refusing, refused⟩ | ⟨running, room, added, accepted, -⟩
  · rw [if_pos refusing]
    exact .refused refused rfl
  · rw [if_neg (by simp [running, Nat.ne_of_lt room])]
    exact .granted accepted rfl

end Remote

/-! ## Registries -/

namespace Registry

variable {registry : Registry}

/-- That an identity is taken goes before that there is no room. -/
def addDue? (registry : Registry) (remote : Remote) : Option Refusal :=
  if remote.profile.identity ∈ identities registry.remotes.toList then
    some (.because (.duplicate remote.profile.identity))
  else if registry.remotes.size = registryCapacity then some (.because .registryFull)
  else none

def removeDue? (registry : Registry) (identity : UInt32) : Option Refusal :=
  if identity ∉ identities registry.remotes.toList then some .bare else none

theorem abides_add (registry : Registry) (remote : Remote) :
    Abides (add remote) Refusal.ofAttempt? (registry.addDue? remote) registry := by
  unfold addDue?
  rcases registry.add_cases remote with
    ⟨other, taken, refused⟩ | ⟨unknown, full, refused⟩ | ⟨unknown, room, remotes, -, added⟩
  · have known : remote.profile.identity ∈ identities registry.remotes.toList := by
      rw [← identity_of_find? taken]
      exact mem_identities (List.mem_of_find?_eq_some taken)
    rw [if_pos known]
    exact .refused refused rfl
  · rw [if_neg (find?_isOf_eq_none_iff.mp unknown), if_pos full]
    exact .refused refused rfl
  · rw [if_neg (find?_isOf_eq_none_iff.mp unknown), if_neg (Nat.ne_of_lt room)]
    exact .granted added rfl

/-- A remote without a name. -/
def nameless (identity : UInt32) : Remote := .restore ⟨⟨"", by decide⟩, identity, 0, .empty⟩

/-- As many remotes as there is room for. -/
def crowded : Registry := ⟨⟨(List.range 16).map fun n => nameless n.toUInt32, by decide⟩, .empty⟩

example : (add (nameless 3) crowded).1 = .error (.duplicate 3) := by decide

example : (add (nameless 16) crowded).1 = .error .registryFull := by decide

theorem abides_remove (registry : Registry) (identity : UInt32) :
    Abides (remove identity) Refusal.ofTaken? (registry.removeDue? identity) registry := by
  have removed := registry.remove_eq identity
  unfold removeDue?
  cases found : registry.find? identity with
  | none =>
      rw [found] at removed
      rw [if_pos (find?_isOf_eq_none_iff.mp found)]
      exact .refused removed rfl
  | some remote =>
      have known : identity ∈ identities registry.remotes.toList := by
        rw [← identity_of_find? found]
        exact mem_identities (List.mem_of_find?_eq_some found)
      rw [found] at removed
      rw [if_neg (not_not.mpr known)]
      exact .granted removed rfl

end Registry

namespace Bench.Session

/-! ## Sessions -/

/-- The refusal that is due when something is to be done with a remote.  A payload that
asks for no action is not refused but ignored. -/
def RemoteOp.due? (remote : Remote) (queue : Queue) : RemoteOp → Option Refusal
  | press _ _ => queue.offerDue?
  | action payload => if (Action.ofPayload? payload).isSome then queue.offerDue? else none
  | rename name => Remote.renameDue? name
  | pair blind => remote.pairDue? blind
  | part blind => remote.partDue? blind
  | adopt _ | takeDirty | restore => none

def RemoteAnswer.refusal? : RemoteAnswer → Option Refusal
  | failed error => some (.because error)
  | flag false => some .bare
  | _ => none

/-- The refusal that the answer to an operation on a remote tells of.  That a remote was
not marked is no refusal. -/
def RemoteOp.told? (op : RemoteOp) (answer : RemoteAnswer) : Option Refusal :=
  match op with
  | takeDirty => none
  | _ => answer.refusal?

theorem RemoteAnswer.refusal?_ofAttempt (attempt : Except RemoteError Unit) :
    (ofAttempt attempt).refusal? = Refusal.ofAttempt? attempt := by
  cases attempt <;> rfl

theorem RemoteAnswer.refusal?_flag (accepted : Bool) :
    (flag accepted).refusal? = Refusal.ofFlag? accepted := by
  cases accepted <;> rfl

/-- The refusal that the answer to an operation tells of. -/
def Op.told? : Op → Answer → Option Refusal
  | add .., .failed error => some (.because error)
  | remove _, .remote none => some .bare
  | manage _ _, .managed none => some .bare
  | manage _ op, .managed (some (answer, _)) => op.told? answer
  | _, _ => none

variable {σ ε α : Type}

/-- The refusal that is due when something is to be done with remotes. -/
def due? (session : Session σ) : Op → Option Refusal
  | .add name identity code blinds =>
      match remoteFor name identity code blinds with
      | .ok remote => session.registry.addDue? remote
      | .error error => some (.because error)
  | .remove identity => session.registry.removeDue? identity
  | .manage identity op =>
      match session.registry.find? identity with
      | some remote => op.due? remote session.station.queue
      | none => some .bare
  | _ => none

/-- Nothing has become different, except that something may have been told. -/
def Untouched (before after : Session σ) : Prop :=
  ∃ notes, after =
    { before with station := { before.station with journal := notes ++ before.station.journal } }

/-- Work is refused exactly as is due; if it is, it answers what is `idle` and leaves the
session alone. -/
def Heeds (session : Session σ) (work : Play σ α) (told? : α → Option Refusal)
    (due? : Option Refusal) (idle : α → Prop) : Prop :=
  ∃ answer after, work session = .ok answer after ∧ told? answer = due? ∧
    (due? ≠ none → idle answer ∧ session.Untouched after)

/-- An operation on a remote is refused exactly as is due, and then leaves the remote and
the session alone. -/
def HeedsOn (session : Session σ) (remote : Remote) (op : RemoteOp) : Prop :=
  session.Heeds (operate op remote) (fun answer => op.told? answer.1)
    (op.due? remote session.station.queue) (fun answer => answer.2 = remote)

/-- An operation is refused exactly as is due, and then leaves the session alone. -/
def HeedsAt (mount : Mount σ ε) (session : Session σ) (op : Op) : Prop :=
  session.Heeds (perform mount op) op.told? (session.due? op) (fun _ => True)

theorem Untouched.refl (session : Session σ) : session.Untouched session := ⟨[], rfl⟩

section Heeds

variable {session after : Session σ} {work : Play σ α} {told? : α → Option Refusal}
  {due? : Option Refusal} {idle : α → Prop} {answer : α}

theorem Heeds.refused (done : work session = .ok answer after) (told : told? answer = due?)
    (same : idle answer) (untouched : session.Untouched after) :
    session.Heeds work told? due? idle :=
  ⟨answer, after, done, told, fun _ => ⟨same, untouched⟩⟩

theorem Heeds.granted (done : work session = .ok answer after) (told : told? answer = none)
    (due : due? = none) : session.Heeds work told? due? idle :=
  ⟨answer, after, done, told.trans due.symm, fun refused => absurd due refused⟩

end Heeds

theorem bind_of_ok {β : Type} {work : Play σ β} {next : β → Play σ α} {session after : Session σ}
    {answer : β} (done : work session = .ok answer after) :
    (work >>= next) session = next answer after := by
  simp only [bind, EStateM.bind, done]

variable {session : Session σ} {remote : Remote}

/-- What a method of a remote abides by, an operation that only calls it heeds. -/
theorem heedsOn_of_abides {op : RemoteOp} {method : StateM Remote α}
    {told? : α → Option Refusal} {due? : Option Refusal}
    (abides : Abides method told? due? remote) (answer : α → RemoteAnswer)
    (plays : operate op remote session =
      .ok (answer (method remote).1, (method remote).2) session)
    (told : ∀ result, op.told? (answer result) = told? result)
    (due : op.due? remote session.station.queue = due?) : session.HeedsOn remote op := by
  refine ⟨_, session, plays, ?_, fun refused => ⟨?_, .refl session⟩⟩
  · exact (told _).trans (abides.told.trans due.symm)
  · rw [due] at refused
    exact abides.kept refused

/-- A press is refused if the queue takes no more, and then nothing happens. -/
theorem heedsOn_press (button : Button) (repeats : UInt16) :
    session.HeedsOn remote (.press button repeats) := by
  let request := remote.request button repeats
  let offered := Queue.offer request session.station.queue
  have pressed : operate (.press button repeats) remote session =
      .ok (.flag offered.1,
        if offered.1 then .changed { remote.profile with code := remote.profile.code + 1 }
        else remote)
        { session with station := { session.station with
          queue := offered.2
          journal := if offered.1 then session.station.journal
            else .refused request :: session.station.journal } } := by
    have asked : onStation (Station.offer request) session = .ok offered.1
        { session with station := { session.station with
          queue := offered.2
          journal := if offered.1 then session.station.journal
            else .refused request :: session.station.journal } } := by
      rw [onStation, Station.offer_eq]
    show ((pressRemote button repeats remote) >>= fun (accepted, remote) =>
      pure (.flag accepted, remote) : Play σ (RemoteAnswer × Remote)) session = _
    rw [pressRemote, Remote.press_eq, bind_assoc, bind_of_ok asked]
    rfl
  rcases session.station.queue.offer_cases request with
    ⟨refusing, refused⟩ | ⟨running, room, added, accepted, -⟩
  · rw [show offered = _ from refused] at pressed
    exact .refused pressed (if_pos refusing).symm rfl ⟨[.refused request], rfl⟩
  · rw [show offered = _ from accepted] at pressed
    exact .granted pressed rfl (if_neg (by simp [running, Nat.ne_of_lt room]))

/-- A payload that asks for an action presses its button. -/
theorem heedsOn_action (payload : List UInt8) : session.HeedsOn remote (.action payload) := by
  cases asked : Action.ofPayload? payload with
  | none =>
      have done : operate (.action payload) remote session = .ok (.ignored, remote) session := by
        simp only [operate, asked]
        rfl
      exact .granted done rfl (by simp [RemoteOp.due?, asked])
  | some action =>
      have due : (RemoteOp.action payload).due? remote session.station.queue =
          (RemoteOp.press action.button Burst.shortPress).due? remote session.station.queue := by
        simp [RemoteOp.due?, asked]
      have same : operate (σ := σ) (.action payload) =
          operate (.press action.button Burst.shortPress) := by
        simp only [operate, asked]
      have told : (RemoteOp.action payload).told? =
          (RemoteOp.press action.button Burst.shortPress).told? := rfl
      rw [HeedsOn, same, due, told]
      exact heedsOn_press action.button Burst.shortPress

theorem heedsOn (session : Session σ) (remote : Remote) (op : RemoteOp) :
    session.HeedsOn remote op := by
  cases op with
  | press button repeats => exact heedsOn_press button repeats
  | action payload => exact heedsOn_action payload
  | rename name =>
      exact heedsOn_of_abides (remote.abides_rename name) .ofAttempt rfl
        RemoteAnswer.refusal?_ofAttempt rfl
  | pair blind =>
      exact heedsOn_of_abides (remote.abides_pair blind) .ofAttempt rfl
        RemoteAnswer.refusal?_ofAttempt rfl
  | part blind =>
      exact heedsOn_of_abides (remote.abides_part blind) .flag rfl RemoteAnswer.refusal?_flag rfl
  | adopt code =>
      have done : operate (.adopt code) remote session =
          .ok (.done, remote.adopt code) session := rfl
      exact .granted done rfl rfl
  | takeDirty =>
      have done : operate .takeDirty remote session =
          .ok (.flag remote.dirty, remote.cleaned) session := rfl
      exact .granted done rfl rfl
  | restore =>
      have done : operate .restore remote session =
          .ok (.remote (.restore remote.profile), remote) session := rfl
      exact .granted done rfl rfl

/-! ## Operations on the registry -/

variable {mount : Mount σ ε}

/-- What a method of the registry abides by, an operation that only calls it heeds. -/
theorem heedsAt_of_abides {op : Op} {method : StateM Registry α}
    {told? : α → Option Refusal} {due? : Option Refusal}
    (abides : Abides method told? due? session.registry) (answer : α → Answer)
    (plays : perform mount op session = .ok (answer (method session.registry).1)
      { session with registry := (method session.registry).2 })
    (told : ∀ result, op.told? (answer result) = told? result)
    (due : session.due? op = due?) : HeedsAt mount session op := by
  refine ⟨_, _, plays, ?_, fun refused => ⟨trivial, ?_⟩⟩
  · rw [told, abides.told, due]
  · rw [due] at refused
    rw [abides.kept refused]
    exact .refl session

/-- A remote may be refused before it is there to be added. -/
theorem heedsAt_add (name : String) (identity : UInt32) (code : UInt16)
    (blinds : Option (List UInt16)) : HeedsAt mount session (.add name identity code blinds) := by
  cases made : remoteFor name identity code blinds with
  | error error =>
      have done : perform mount (.add name identity code blinds) session =
          .ok (.failed error) session := by
        simp only [perform, made]
        rfl
      exact .refused done (by simp [Session.due?, made, Op.told?]) trivial (.refl session)
  | ok remote =>
      refine heedsAt_of_abides (session.registry.abides_add remote) .ofAttempt ?_ ?_ ?_
      · simp only [perform, made]
        rfl
      · rintro (error | ⟨⟩) <;> rfl
      · simp [Session.due?, made]

theorem heedsAt_remove (identity : UInt32) : HeedsAt mount session (.remove identity) :=
  heedsAt_of_abides (session.registry.abides_remove identity) .remote rfl
    (fun taken => by cases taken <;> rfl) rfl

/-- The remote that comes out of an operation takes the place of the one that went in; if
that was refused, they are the same. -/
theorem heedsAt_manage (identity : UInt32) (op : RemoteOp) :
    HeedsAt mount session (.manage identity op) := by
  cases found : session.registry.find? identity with
  | none =>
      have done : perform mount (.manage identity op) session = .ok (.managed none) session := by
        dsimp only [perform, bind, EStateM.bind, get, getThe, MonadStateOf.get, EStateM.get]
        rw [found]
        rfl
      exact .refused done (by simp [Op.told?, Session.due?, found]) trivial (.refl session)
  | some remote =>
      obtain ⟨⟨answer, later⟩, after, operated, told, kept⟩ := session.heedsOn remote op
      have done : perform mount (.manage identity op) session =
          .ok (.managed (some (answer, later)))
            { after with registry := after.registry.replace identity later } := by
        dsimp only [perform, bind, EStateM.bind, get, getThe, MonadStateOf.get, EStateM.get]
        rw [found]
        exact bind_of_ok operated
      refine ⟨_, _, done, ?_, fun refused => ⟨trivial, ?_⟩⟩
      · simp [Op.told?, Session.due?, found, told]
      · simp only [Session.due?, found] at refused
        obtain ⟨rfl, notes, rfl⟩ := kept refused
        exact ⟨notes, by rw [Registry.replace_of_find? found]⟩

/-- Whatever the state and the arguments, methods of remotes and of registries refuse
exactly what is due to be refused, for the reason that is due, and then leave the remote,
the queue and the registry as they were.  So do the operations of a session: whatever is
done with a remote, registered or not, with the registry or with a remote in it, what is
refused leaves the remote, the registry, the queue and all the rest as they were. -/
theorem refusals_leave_no_trace :
    (∀ (remote : Remote) name,
      Abides (Remote.rename name) Refusal.ofAttempt? (Remote.renameDue? name) remote) ∧
    (∀ (remote : Remote) blind,
      Abides (Remote.pair blind) Refusal.ofAttempt? (remote.pairDue? blind) remote) ∧
    (∀ (remote : Remote) blind,
      Abides (Remote.part blind) Refusal.ofFlag? (remote.partDue? blind) remote) ∧
    (∀ (remote : Remote) (queue : Queue) button repeats,
      Abides (Remote.pressOn button repeats) Refusal.ofFlag? queue.offerDue? (remote, queue)) ∧
    (∀ (registry : Registry) remote,
      Abides (Registry.add remote) Refusal.ofAttempt? (registry.addDue? remote) registry) ∧
    (∀ (registry : Registry) identity,
      Abides (Registry.remove identity) Refusal.ofTaken? (registry.removeDue? identity)
        registry) ∧
    ∀ {σ ε : Type} (mount : Mount σ ε) (session : Session σ),
      (∀ remote op, session.HeedsOn remote op) ∧
      (∀ name identity code blinds,
        HeedsAt mount session (.add name identity code blinds)) ∧
      (∀ identity, HeedsAt mount session (.remove identity)) ∧
      ∀ identity op, HeedsAt mount session (.manage identity op) :=
  ⟨Remote.abides_rename, Remote.abides_pair, Remote.abides_part, Remote.abides_pressOn,
    Registry.abides_add, Registry.abides_remove, fun _ session =>
      ⟨session.heedsOn, heedsAt_add, heedsAt_remove, heedsAt_manage⟩⟩

end Bench.Session

end ShutterRadio
