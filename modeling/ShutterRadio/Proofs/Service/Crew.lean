/-
# Several stations on one queue

A queue does not say how many stations serve it.  A crew is any number of them,
each with its own device, setup and books, on one queue: what one of them or its
producers change of the queue, all others find changed.  A run is a list of moves
of its members in any order, and as before, any list will do.

A crew is orderly after every run: a shutdown waits behind everything else, once it
has been taken nothing waits any more and nothing else will be accepted, and a
queue says that it has shut down only then.  So a crew of several stations drains
its queue as one station does.  That its members keep out of each other's way is
not claimed: one may well be sending while another shuts down.
-/

import Mathlib.Logic.Function.Basic
import ShutterRadio.Proofs.Service.Shutdown

namespace ShutterRadio

namespace Queue

theorem isDrained_iff {queue : Queue} :
    queue.isDrained = true ↔ queue.activity = .shutDown := beq_iff_eq

theorem isDrained_eq_false_iff {queue : Queue} :
    queue.isDrained = false ↔ queue.activity ≠ .shutDown := beq_eq_false_iff_ne

/-- Nothing waits in the queue, and nothing will. -/
structure Settled (queue : Queue) : Prop where
  closing : queue.closing = true
  empty : queue.requests.toList = []

/-- A shutdown waits behind everything else, and nothing is accepted after it. -/
structure Orderly (queue : Queue) : Prop where
  last : .shutdown ∉ queue.requests.toList.dropLast
  closing : .shutdown ∈ queue.requests.toList → queue.closing = true

variable {queue after : Queue}

/-- Requests may be taken out at the front. -/
theorem Orderly.taken (orderly : queue.Orderly) {requests : List Request}
    (waited : queue.requests.toList = requests ++ after.requests.toList)
    (closing : after.closing = queue.closing) : after.Orderly := by
  constructor
  · intro early
    apply orderly.last
    rw [waited, List.dropLast_append_of_ne_nil]
    · exact List.mem_append_right _ early
    · rintro none
      rw [none] at early
      cases early
  · intro waits
    rw [closing]
    apply orderly.closing
    rw [waited]
    exact List.mem_append_right _ waits

/-- As long as no shutdown has been accepted, a request may be added at the end. -/
theorem Orderly.added (orderly : queue.Orderly) {request : Request}
    (running : queue.closing = false)
    (added : after.requests.toList = queue.requests.toList ++ [request])
    (closing : after.closing = decide (request = .shutdown)) : after.Orderly := by
  have none : .shutdown ∉ queue.requests.toList := by
    intro waits
    rw [orderly.closing waits] at running
    cases running
  constructor
  · rw [added]
    exact Service.shutdown_notMem_dropLast_snoc request none
  · intro waits
    rw [added] at waits
    rcases List.mem_append.mp waits with earlier | last
    · exact absurd earlier none
    · rw [closing]
      exact decide_eq_true (List.mem_singleton.mp last).symm

end Queue

section Changes

variable {σ : Type} {before after : Station σ}

theorem Account.Explains.settled {account : Account} (explains : account.Explains before after)
    (settled : before.queue.Settled) : after.queue.Settled ∧ account.requests = [] := by
  have nothing := explains.requests
  rw [settled.empty] at nothing
  obtain ⟨none, empty⟩ := List.append_eq_nil_iff.mp nothing.symm
  exact ⟨⟨explains.closing.trans settled.closing, empty⟩, none⟩

theorem Dealing.Explains.settled {dealing : Dealing} (explains : dealing.Explains before after)
    (settled : before.queue.Settled) : after.queue.Settled := by
  rcases explains.requests with ⟨request, _, running, _, _⟩ | ⟨_, same, closing⟩
  · rw [settled.closing] at running
    cases running
  · exact ⟨closing.trans settled.closing, by rw [same, settled.empty]⟩

/-- Whoever takes the shutdown leaves nothing behind. -/
theorem Account.Explains.settles {account : Account} (explains : account.Explains before after)
    (orderly : before.queue.Orderly) (taken : .shutdown ∈ account.requests) :
    after.queue.Settled := by
  obtain ⟨front, behind, split⟩ := List.append_of_mem taken
  have waited := explains.requests
  rw [split, List.append_assoc, List.cons_append] at waited
  have none := Service.eq_nil_of_notMem_dropLast (waited ▸ orderly.last)
  refine ⟨?_, (List.append_eq_nil_iff.mp none).2⟩
  rw [explains.closing]
  apply orderly.closing
  simp [waited]

theorem Account.Explains.orderly {account : Account} (explains : account.Explains before after)
    (orderly : before.queue.Orderly) : after.queue.Orderly :=
  orderly.taken explains.requests explains.closing

theorem Dealing.Explains.orderly {dealing : Dealing} (explains : dealing.Explains before after)
    (orderly : before.queue.Orderly) : after.queue.Orderly := by
  rcases explains.requests with ⟨request, _, running, added, closing⟩ | ⟨_, same, closing⟩
  · exact orderly.added running added closing
  · exact orderly.taken (by rw [same, List.nil_append]) closing

end Changes

namespace Service

variable {σ ε τ : Type}

/-! ## What a move does to an orderly queue -/

variable (d : Device σ ε τ) (service : Service σ ε) (move : Move)

theorem settled_move (settled : service.station.queue.Settled) :
    (service.move d move).station.queue.Settled := by
  cases shows_move d service move with
  | nothing station _ _ _ =>
      rw [station]
      exact settled
  | deed deed performed _ _ _ _ _ _ => exact ((deed.explains d performed).settled settled).1
  | jam act _ stuck _ _ _ => exact ((act.explains_stuck d stuck).settled settled).1
  | dealing dealing granted _ _ _ => exact (dealing.wish.explains_grant granted).settled settled

theorem orderly_move (orderly : service.station.queue.Orderly) :
    (service.move d move).station.queue.Orderly := by
  cases shows_move d service move with
  | nothing station _ _ _ =>
      rw [station]
      exact orderly
  | deed deed performed _ _ _ _ _ _ => exact (deed.explains d performed).orderly orderly
  | jam act _ stuck _ _ _ => exact (act.explains_stuck d stuck).orderly orderly
  | dealing dealing granted _ _ _ => exact (dealing.wish.explains_grant granted).orderly orderly

/-- If the shutdown has been taken, it was before, or it is now. -/
theorem taken_move (orderly : service.station.queue.Orderly)
    (taken : .shutdown ∈ (service.move d move).account.requests) :
    .shutdown ∈ service.account.requests ∨ (service.move d move).station.queue.Settled := by
  cases shows_move d service move with
  | nothing _ deeds _ _ =>
      rw [account, deeds] at taken
      exact .inl taken
  | jam _ _ _ deeds _ _ =>
      rw [account, deeds] at taken
      exact .inl taken
  | dealing _ _ deeds _ _ =>
      rw [account, deeds] at taken
      exact .inl taken
  | deed deed performed _ _ deeds _ _ _ =>
      rw [account, deeds, Account.ofDeeds_append] at taken
      rcases List.mem_append.mp taken with earlier | now
      · exact .inl earlier
      · exact .inr ((deed.explains d performed).settles orderly now)

/-- If the queue says that it has shut down, it did before, or the station has
stopped at some time. -/
theorem shut_move (shut : (service.move d move).station.queue.activity = .shutDown) :
    service.station.queue.activity = .shutDown ∨
      (service.move d move).account.stops = true := by
  cases shows_move d service move with
  | nothing station _ _ _ =>
      rw [station] at shut
      exact .inl shut
  | jam act _ stuck _ _ _ =>
      have earlier := (act.explains_stuck d stuck).activity shut
      exact .inl (earlier.resolve_right nofun)
  | dealing dealing granted _ _ _ =>
      rw [(dealing.wish.explains_grant granted).activity] at shut
      exact .inl shut
  | deed deed performed _ _ deeds _ _ _ =>
      rw [account, deeds, Account.ofDeeds_append, Account.append_def, Bool.or_eq_true]
      exact ((deed.explains d performed).activity shut).imp_right .inr

variable {d} {service}

/-- A station that has stopped has taken the shutdown. -/
theorem Faithful.taken_of_stops {setup : Setup} (faithful : service.Faithful d setup)
    (stops : service.account.stops = true) : .shutdown ∈ service.account.requests := by
  obtain ⟨deed, done, stopping⟩ := List.any_eq_true.mp stops
  obtain ⟨turn, member, within⟩ := List.mem_flatMap.mp done
  have taken := (faithful.isPath member).isTurn.requests_of_stops
    (List.any_eq_true.mpr ⟨deed, within, stopping⟩)
  rw [requests_account]
  apply List.mem_flatMap.mpr
  exact ⟨turn, member, by simp [taken.1]⟩

/-- A service that finds another queue, as others have changed it. -/
def sharing (queue : Queue) (service : Service σ ε) : Service σ ε :=
  { service with station := { service.station with queue } }

theorem Faithful.sharing {setup : Setup} (faithful : service.Faithful d setup) (queue : Queue) :
    (service.sharing queue).Faithful d setup :=
  ⟨faithful.kept, faithful.past, faithful.job⟩

end Service

/-! ## Crews -/

/-- Stations that serve one queue, each with books of its own. -/
structure Crew (ι σ ε : Type) where
  queue : Queue
  members : ι → Service σ ε
  shared : ∀ who, (members who).station.queue = queue

namespace Crew

variable {ι σ ε τ : Type}

/-- A crew none of whose stations has done anything yet. -/
def fresh (setup : ι → Setup) (indicator : ι → Option Polarity) (device : ι → σ) :
    Crew ι σ ε where
  queue := .empty
  members who := .fresh (setup who) (indicator who) (device who)
  shared _ := rfl

variable [DecidableEq ι]

/-- What can happen next to one of the members.  The rest see what it does to the
queue, and nothing else of it. -/
def move (d : ι → Device σ ε τ) (crew : Crew ι σ ε) : ι × Move → Crew ι σ ε
  | (who, move) =>
    let moved := (crew.members who).move (d who) move
    { queue := moved.station.queue
      members := fun other =>
        if other = who then moved else (crew.members other).sharing moved.station.queue
      shared := fun other => by
        by_cases same : other = who
        · rw [if_pos same]
        · rw [if_neg same]
          rfl }

def run (d : ι → Device σ ε τ) (crew : Crew ι σ ε) (moves : List (ι × Move)) : Crew ι σ ε :=
  moves.foldl (move d) crew

section Moves

variable (d : ι → Device σ ε τ) (crew : Crew ι σ ε)

@[simp]
theorem run_nil : crew.run d [] = crew := rfl

@[simp]
theorem run_cons (first : ι × Move) (rest : List (ι × Move)) :
    crew.run d (first :: rest) = (crew.move d first).run d rest := rfl

theorem members_move (who : ι) (move : Move) :
    (crew.move d (who, move)).members who = (crew.members who).move (d who) move :=
  if_pos rfl

theorem members_move_of_ne {who other : ι} (apart : other ≠ who) (move : Move) :
    (crew.move d (who, move)).members other =
      (crew.members other).sharing (crew.move d (who, move)).queue :=
  if_neg apart

theorem settled_move (move : ι × Move) (settled : crew.queue.Settled) :
    (crew.move d move).queue.Settled := by
  apply Service.settled_move
  rw [crew.shared]
  exact settled

/-- What a crew keeps, move by move, it keeps throughout a run. -/
theorem run_induction {holds : Crew ι σ ε → Prop}
    (step : ∀ crew move, holds crew → holds (crew.move d move)) {crew : Crew ι σ ε}
    (initially : holds crew) (moves : List (ι × Move)) : holds (crew.run d moves) := by
  induction moves generalizing crew with
  | nil => exact initially
  | cons first rest ih => exact ih (step crew first initially)

end Moves

/-! ## Orderly crews -/

/-- The order that a crew keeps among all its members. -/
structure Orderly (d : ι → Device σ ε τ) (setup : ι → Setup) (crew : Crew ι σ ε) : Prop where
  faithful : ∀ who, (crew.members who).Faithful (d who) (setup who)
  queue : crew.queue.Orderly
  taken : ∀ who, .shutdown ∈ (crew.members who).account.requests → crew.queue.Settled
  activity : crew.queue.activity = .shutDown → crew.queue.Settled

omit [DecidableEq ι] in
theorem orderly_fresh (d : ι → Device σ ε τ) (setup : ι → Setup)
    (indicator : ι → Option Polarity) (device : ι → σ) :
    (fresh setup indicator device : Crew ι σ ε).Orderly d setup where
  faithful who := Service.faithful_fresh (d who) (setup who) (indicator who) (device who)
  queue := ⟨List.not_mem_nil, fun waits => absurd waits List.not_mem_nil⟩
  taken _ taken := absurd taken List.not_mem_nil
  activity := nofun

variable {d : ι → Device σ ε τ} {setup : ι → Setup} {crew : Crew ι σ ε}

theorem Orderly.faithful_move (orderly : crew.Orderly d setup) (move : ι × Move) (who : ι) :
    ((crew.move d move).members who).Faithful (d who) (setup who) := by
  obtain ⟨mover, move⟩ := move
  by_cases same : who = mover
  · subst same
    rw [members_move]
    exact Service.faithful_move _ _ _ move (orderly.faithful who)
  · rw [members_move_of_ne d crew same]
    exact (orderly.faithful who).sharing _

theorem Orderly.move (orderly : crew.Orderly d setup) (move : ι × Move) :
    (crew.move d move).Orderly d setup := by
  obtain ⟨mover, move⟩ := move
  have shared := crew.shared mover
  have settles := settled_move d crew (mover, move)
  have waits : (crew.members mover).station.queue.Orderly := by
    rw [shared]
    exact orderly.queue
  have taken (who : ι)
      (taken : .shutdown ∈ ((crew.move d (mover, move)).members who).account.requests) :
      (crew.move d (mover, move)).queue.Settled := by
    by_cases same : who = mover
    · subst same
      rw [members_move] at taken
      rcases Service.taken_move _ _ move waits taken with earlier | now
      · exact settles (orderly.taken who earlier)
      · exact now
    · rw [members_move_of_ne d crew same] at taken
      exact settles (orderly.taken who taken)
  refine ⟨orderly.faithful_move (mover, move), Service.orderly_move _ _ move waits, taken, ?_⟩
  intro shut
  rcases Service.shut_move _ _ move shut with earlier | stops
  · rw [shared] at earlier
    exact settles (orderly.activity earlier)
  · apply taken mover
    have faithful := orderly.faithful_move (mover, move) mover
    rw [members_move] at faithful ⊢
    exact faithful.taken_of_stops stops

/-- Whatever its members and their producers do, a crew stays orderly. -/
theorem Orderly.run (orderly : crew.Orderly d setup) (moves : List (ι × Move)) :
    (crew.run d moves).Orderly d setup :=
  run_induction d (fun _ move orderly => orderly.move move) orderly moves

end Crew

end ShutterRadio
