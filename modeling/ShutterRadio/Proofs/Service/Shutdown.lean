/-
# Shutting down drains the queue

Once a shutdown has been accepted nothing else is, so whatever was accepted is
in front of it, and when the station has shut down it has taken all of that out
and served it to its end, and nothing waits any more.  `run_drains` says so of
every run: producers may ask for what they like whenever they like, and the
station may be started again even after it has shut down.

That a station which goes on taking steps does shut down one day is not claimed.
-/

import Mathlib.Data.List.Induction
import ShutterRadio.Proofs.Service.Turns

namespace ShutterRadio

namespace Service

variable {σ ε τ : Type}

/-! ## After a shutdown has been accepted -/

/-- Asked for something, the service gives an answer, and the queue stays as it is. -/
def AnswersOnly (d : Device σ ε τ) (service : Service σ ε) (wish : Wish)
    (answer : wish.Answer) : Prop :=
  (service.move d (.ask wish)).dealings = service.dealings ++ [⟨wish, answer⟩] ∧
    (service.move d (.ask wish)).station.queue = service.station.queue

theorem answersOnly_of_grant (d : Device σ ε τ) {service : Service σ ε} {wish : Wish}
    {answer : wish.Answer} {after : Station σ}
    (granted : wish.grant service.station = .ok answer after)
    (same : after.queue = service.station.queue) : service.AnswersOnly d wish answer := by
  simp only [AnswersOnly, move, ask, granted, same, and_self]

/-- A queue that is closing refuses every offer. -/
theorem offer_of_closing {τ : Type} (request : Request) {station : Station σ}
    (closing : station.queue.closing = true) :
    (Station.offer request : Station.Work σ τ Bool) station =
      .ok false { station with journal := .refused request :: station.journal } := by
  rw [Station.offer_eq, Queue.offer_of_closing closing]
  rfl

/-- A queue that is closing agrees to close, which changes nothing. -/
theorem tryClose_of_closing {τ : Type} {station : Station σ}
    (closing : station.queue.closing = true) :
    (Station.tryClose : Station.Work σ τ Bool) station = .ok true station := by
  rw [Station.tryClose_eq, Queue.close_of_closing closing]

/-! ## What was accepted -/

/-- A shutdown that a producer was told is accepted. -/
theorem shutdown_mem_accepted {dealings : List Dealing}
    (told : ⟨.close, true⟩ ∈ dealings) : .shutdown ∈ Dealing.accepted dealings := by
  have stays (accepted : List Request) (dealing : Dealing)
      (there : .shutdown ∈ accepted) : .shutdown ∈ Dealing.accept accepted dealing := by
    unfold Dealing.accept
    split
    · exact there
    · split
      · exact there
      · exact List.mem_append_left _ there
  induction dealings using List.reverseRecOn with
  | nil => cases told
  | append_singleton earlier last ih =>
      rw [Dealing.accepted_snoc]
      rcases List.mem_append.mp told with before | now
      · exact stays _ last (ih before)
      · obtain rfl := List.mem_singleton.mp now
        simp only [Dealing.accept, Dealing.request?, true_and]
        split
        · assumption
        · simp

/-- What stands behind the last of its kind is nothing. -/
theorem eq_nil_of_notMem_dropLast {front behind : List Request}
    (last : .shutdown ∉ (front ++ .shutdown :: behind).dropLast) : behind = [] := by
  cases behind with
  | nil => rfl
  | cons next others =>
      refine absurd ?_ last
      simp [List.dropLast_append_of_ne_nil]

/-! ## After the station has shut down -/

/-- What turns that are over took, they counted. -/
theorem count_verdicts_of_over {key : UInt8} {turns : List (Turn ε)}
    (ended : ∀ turn ∈ turns, turn.account.IsTurn key true) :
    (turns.flatMap fun turn => turn.account.verdicts).count .sent +
        (turns.flatMap fun turn => turn.account.verdicts).count .abandoned =
      ((turns.flatMap fun turn => turn.account.requests).filterMap
        Request.transmission?).length := by
  induction turns with
  | nil => rfl
  | cons turn turns ih =>
      have here := (ended turn (by simp)).counted
      have there := ih fun other member => ended other (by simp [member])
      simp only [List.flatMap_cons, List.count_append, List.filterMap_append, List.length_append]
      omega

/-- A station that has shut down has served everything that was accepted. -/
theorem drained_of_stops {d : Device σ ε τ} {setup : Setup} {service : Service σ ε}
    (balanced : service.Balanced) (faithful : service.Faithful d setup)
    (stops : service.account.stops = true) :
    service.waiting = [] ∧ ∃ served,
      served <+: service.turns ∧ (∀ turn ∈ served, turn.IsOver d setup) ∧
      service.accepted = (served.flatMap fun turn => turn.account.requests) ++ [.shutdown] ∧
      service.account.verdicts.count .sent + service.account.verdicts.count .abandoned =
        (service.accepted.filterMap Request.transmission?).length := by
  obtain ⟨deed, done, stopping⟩ := List.any_eq_true.mp stops
  obtain ⟨turn, member, within⟩ := List.mem_flatMap.mp done
  obtain ⟨served, later, split⟩ := List.append_of_mem member
  have paths (turn : Turn ε) (member : turn ∈ service.turns) :=
    (faithful.isPath member).isTurn
  -- The turn that stopped the station took the shutdown, so nothing was accepted behind that.
  obtain ⟨shutdown, uncounted⟩ := (paths turn member).requests_of_stops
    (List.any_eq_true.mpr ⟨deed, within, stopping⟩)
  have order : service.accepted = (served.flatMap fun turn => turn.account.requests) ++
      .shutdown :: ((later.flatMap fun turn => turn.account.requests) ++ service.waiting) := by
    rw [balanced.requests, requests_account, split]
    simp [shutdown]
  have behind := eq_nil_of_notMem_dropLast (order ▸ balanced.last)
  rw [behind] at order
  obtain ⟨idle, empty⟩ := List.append_eq_nil_iff.mp behind
  -- Whatever turn came later took nothing, and so counted nothing.
  have quiet : (later.flatMap fun turn => turn.account.verdicts) = [] := by
    apply List.flatMap_eq_nil_iff.mpr
    intro turn among
    exact (paths turn (by simp [split, among])).verdicts_of_requests
      (List.flatMap_eq_nil_iff.mp idle turn among)
  have ended (turn : Turn ε) (among : turn ∈ served) : turn.flow.isSome := by
    refine faithful.finished ?_
    rw [split, List.dropLast_append_of_ne_nil (by simp)]
    exact List.mem_append_left _ among
  have served_paths (turn : Turn ε) (among : turn ∈ served) : turn ∈ service.turns := by
    simp [split, among]
  refine ⟨empty, served, ⟨turn :: later, split.symm⟩, fun turn among => ?_, order, ?_⟩
  · exact (faithful.isPath (served_paths turn among)).isOver (ended turn among)
  · have counted := count_verdicts_of_over fun turn among =>
      ended turn among ▸ paths turn (served_paths turn among)
    have nothing : [Request.shutdown].filterMap Request.transmission? = [] := rfl
    rw [order, verdicts_account, split]
    simpa [uncounted, quiet, nothing] using counted

/-- Shutting down drains the queue: whatever comes in between, a shutdown waits
behind everything else; requests are taken out once, in the order in which they
were accepted, and nothing but what was accepted is; once a shutdown has been
accepted every further request is refused, and every further shutdown agreed to,
without any change of the queue; and when the station has shut down nothing
waits, all that was accepted before the shutdown was served to its end, and the
tally accounts for every request to send. -/
theorem run_drains (d : Device σ ε τ) (setup : Setup) (indicator : Option Polarity)
    (device : σ) (moves : List Move) :
    let service := (fresh setup indicator device : Service σ ε).run d moves
    .shutdown ∉ service.waiting.dropLast ∧
    service.accepted = service.account.requests ++ service.waiting ∧
    (⟨.close, true⟩ ∈ service.dealings →
      (∀ transmission, service.AnswersOnly d (.send transmission) false) ∧
        service.AnswersOnly d .listen false ∧ service.AnswersOnly d .close true) ∧
    (service.station.queue.isDrained = true →
      service.station.queue.pending = 0 ∧
      (∃ served,
        served <+: service.turns ∧ (∀ turn ∈ served, turn.IsOver d setup) ∧
        service.accepted = (served.flatMap fun turn => turn.account.requests) ++ [.shutdown]) ∧
      service.station.tally.sent + service.station.tally.abandoned =
        UInt32.ofNat (service.accepted.filterMap Request.transmission?).length) := by
  intro service
  have balanced : service.Balanced := balanced_run d setup indicator device moves
  have faithful : service.Faithful d setup := faithful_run d setup indicator device moves
  refine ⟨?_, balanced.requests, fun told => ?_, fun drained => ?_⟩
  · intro waits
    have accepted := balanced.last
    rw [balanced.requests, List.dropLast_append_of_ne_nil (by rintro none; simp [none] at waits)]
      at accepted
    exact accepted (List.mem_append_right _ waits)
  · have closing := balanced.closing.mpr (shutdown_mem_accepted told)
    exact ⟨fun transmission => answersOnly_of_grant d (offer_of_closing _ closing) rfl,
      answersOnly_of_grant d (offer_of_closing _ closing) rfl,
      answersOnly_of_grant d (tryClose_of_closing closing) rfl⟩
  · have stopped : service.station.queue.activity = .shutDown := by
      simpa [Queue.isDrained] using drained
    obtain ⟨empty, served, first, ended, order, counted⟩ :=
      drained_of_stops balanced faithful (balanced.activity stopped)
    refine ⟨congrArg List.length empty, ⟨served, first, ended, order⟩, ?_⟩
    rw [← counted, UInt32.ofNat_add, ← balanced.tally .sent (.inl rfl),
      ← balanced.tally .abandoned (.inr rfl)]
    rfl

end Service

end ShutterRadio
