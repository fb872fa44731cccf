/-
# What a move changes

Everything that can happen to a service is one of four things: nothing that
shows, a deed of the station, an act of it that got stuck, or a dealing with a
producer.  `Service.shows_move` says so once, and what the four change is said
here too, so that whoever looks for an invariant has four cases and never has to
open an act or a wish.

Accounts are what links deeds to the state: a deed takes out of the queue the
requests that its account names, and nothing else.
-/

import ShutterRadio.Proofs.Program.Account
import ShutterRadio.Proofs.Program.Neutral
import ShutterRadio.Proofs.Service.Basic

namespace ShutterRadio

def Tally.count (tally : Tally) : Counter → UInt32
  | .sent => tally.sent
  | .abandoned => tally.abandoned
  | .heard => tally.heard
  | .rejected => tally.rejected
  | .lost => tally.lost

theorem Tally.count_bump (tally : Tally) (bumped counter : Counter) :
    (tally.bump bumped).count counter =
      tally.count counter + if bumped = counter then 1 else 0 := by
  cases bumped <;> cases counter <;> simp [bump, count]

/-! ## Deeds -/

/-- How a station changes while it does what an account tells. -/
structure Account.Explains {σ : Type} (account : Account) (before after : Station σ) : Prop where
  requests : before.queue.requests.toList =
    account.requests ++ after.queue.requests.toList
  closing : after.queue.closing = before.queue.closing
  activity : after.queue.activity = .shutDown →
    before.queue.activity = .shutDown ∨ account.stops = true
  tally : ∀ counter, counter = .sent ∨ counter = .abandoned →
    after.tally.count counter =
      before.tally.count counter + UInt32.ofNat (account.verdicts.count counter)
  setup : after.setup = before.setup

/-- A change that leaves alone what accounts are about is explained by every
account that tells nothing of it. -/
theorem Account.explains_of_same {σ : Type} {account : Account} {before after : Station σ}
    (requests : account.requests = []) (verdicts : account.verdicts = [])
    (same : after.queue.requests = before.queue.requests ∧
      after.queue.closing = before.queue.closing ∧
      after.queue.activity = before.queue.activity ∧
      after.tally = before.tally ∧ after.setup = before.setup) :
    account.Explains before after := by
  obtain ⟨sameRequests, sameClosing, sameActivity, sameTally, sameSetup⟩ := same
  refine ⟨?_, sameClosing, ?_, ?_, sameSetup⟩
  · rw [requests, sameRequests, List.nil_append]
  · intro stopped
    exact .inl (sameActivity ▸ stopped)
  · intro counter _
    simp [verdicts, sameTally]

/-- A deed changes the station as its own account says. -/
theorem Deed.explains {σ ε τ : Type} (d : Device σ ε τ) (deed : Deed ε)
    {before after : Station σ} (performed : deed.act.perform d before = .ok deed.answer after) :
    (Account.ofDeeds [deed]).Explains before after := by
  rcases deed with ⟨act, answer, begun, ended⟩
  replace performed : act.perform d before = .ok answer after := performed
  cases act with
  | next =>
      obtain ⟨same, rfl⟩ := Station.consult_eq_ok Queue.take performed
      obtain ⟨oldest, others⟩ := before.queue.take_eq
      have taken : Account.ofDeeds [(⟨.next, answer, begun, ended⟩ : Deed ε)] =
          ⟨answer.toList, [], [], [], false⟩ := by
        cases answer <;> rfl
      rw [taken, ← same]
      exact ⟨oldest, by rw [others], fun stopped => .inl (by rwa [others] at stopped),
        fun counter _ => by simp, rfl⟩
  | count counter =>
      injection performed with same changed
      subst changed
      refine ⟨rfl, rfl, .inl, fun other watched => ?_, rfl⟩
      have counted : (Account.ofDeeds [(⟨.count counter, answer, begun, ended⟩ : Deed ε)]).verdicts =
          if counter = .sent ∨ counter = .abandoned then [counter] else [] := by
        cases counter <;> rfl
      rw [counted, Tally.count_bump]
      rcases watched with rfl | rfl <;> cases counter <;> rfl
  | become activity =>
      injection performed with same changed
      subst changed
      have stopping : (activity = .shutDown) → (Account.ofDeeds
          [(⟨.become activity, answer, begun, ended⟩ : Deed ε)]).stops = true := by
        rintro rfl
        rfl
      exact ⟨rfl, rfl, fun stopped => .inr (stopping stopped), fun counter _ => by
        simp [Account.ofDeeds, Deed.verdict?, List.filterMap_cons], rfl⟩
  | record command stamp =>
      injection performed with same changed
      subst changed
      exact Account.explains_of_same rfl rfl ⟨rfl, rfl, rfl, rfl, rfl⟩
  | _ =>
      obtain ⟨device, journal, ready, rfl⟩ := Act.neutral_eq performed trivial
      exact Account.explains_of_same rfl rfl ⟨rfl, rfl, rfl, rfl, rfl⟩

/-- An act that got stuck tells nothing in an account. -/
theorem Act.explains_stuck {σ ε τ : Type} (d : Device σ ε τ) (act : Act)
    {before after : Station σ} {reason : τ} (stuck : act.perform d before = .error reason after) :
    Account.empty.Explains before after := by
  obtain ⟨device, journal, ready, rfl⟩ := Act.stuck_eq stuck
  exact Account.explains_of_same rfl rfl ⟨rfl, rfl, rfl, rfl, rfl⟩

/-! ## Dealings -/

/-- How a station changes while a dealing is made.  A request is accepted only
before a shutdown has been, and then waits behind all others. -/
structure Dealing.Explains {σ : Type} (dealing : Dealing) (before after : Station σ) : Prop where
  station : after = { before with queue := after.queue, journal := after.journal }
  activity : after.queue.activity = before.queue.activity
  requests :
    (∃ request, dealing.request? = some request ∧ before.queue.closing = false ∧
      after.queue.requests.toList = before.queue.requests.toList ++ [request] ∧
      after.queue.closing = decide (request = .shutdown)) ∨
    ((dealing.request? = none ∨ dealing.request? = some .shutdown ∧ before.queue.closing = true) ∧
      after.queue.requests = before.queue.requests ∧
      after.queue.closing = before.queue.closing)

/-- An offer that is not one to shut down. -/
theorem Dealing.explains_offer {σ τ : Type} {request : Request}
    (proper : request ≠ .shutdown) {before after : Station σ} {answer : Bool}
    (offered : (Station.offer request : Station.Work σ τ Bool) before = .ok answer after)
    {dealing : Dealing} (told : dealing.request? = if answer then some request else none) :
    dealing.Explains before after := by
  rw [Station.offer_eq] at offered
  injection offered with same changed
  subst same changed
  rcases before.queue.offer_cases request with
    ⟨-, refused⟩ | ⟨running, -, queue, accepted, added, others⟩
  · rw [refused] at told ⊢
    exact ⟨rfl, rfl, .inr ⟨.inl told, rfl, rfl⟩⟩
  · rw [accepted] at told ⊢
    refine ⟨rfl, by rw [others], .inl ⟨request, told, running, added, ?_⟩⟩
    show queue.closing = _
    rw [others]
    simp [running, proper]

/-- A wish that was granted or refused changes the station as the dealing says. -/
theorem Wish.explains_grant {σ : Type} (wish : Wish) {before after : Station σ}
    {answer : wish.Answer} (granted : wish.grant before = .ok answer after) :
    (⟨wish, answer⟩ : Dealing).Explains before after := by
  cases wish with
  | send transmission =>
      exact Dealing.explains_offer (by simp) granted (by cases answer <;> rfl)
  | listen => exact Dealing.explains_offer (by simp) granted (by cases answer <;> rfl)
  | close =>
      rw [grant, Station.tryClose_eq] at granted
      injection granted with same changed
      subst same changed
      rcases before.queue.close_cases with
        ⟨closing, again⟩ | ⟨-, -, refused⟩ | ⟨running, queue, accepted, added, others⟩
      · rw [again]
        exact ⟨rfl, rfl, .inr ⟨.inr ⟨rfl, closing⟩, rfl, rfl⟩⟩
      · rw [refused]
        exact ⟨rfl, rfl, .inr ⟨.inl rfl, rfl, rfl⟩⟩
      · rw [accepted]
        exact ⟨rfl, by rw [others], .inl ⟨.shutdown, rfl, running, added, by rw [others]; rfl⟩⟩
  | announce =>
      injection granted with same changed
      subst changed
      exact ⟨rfl, rfl, .inr ⟨.inl rfl, rfl, rfl⟩⟩
  | read now =>
      obtain ⟨same, rfl⟩ := Station.consult_eq_ok (Queue.collect · now) granted
      have others := before.queue.collect_eq now
      exact ⟨rfl, by rw [others], .inr ⟨.inl rfl, by rw [others], by rw [others]⟩⟩

/-! ## Moves -/

namespace Service

variable {σ ε τ : Type}

/-- What shows of a move in the station and the books. -/
inductive Shows (d : Device σ ε τ) (before after : Service σ ε) : Prop
  -- Nothing shows: a turn began or ended, or the move could not be made.
  | nothing :
      after.station = before.station → after.deeds = before.deeds →
      after.dealings = before.dealings → after.stuck = before.stuck → Shows d before after
  | deed (deed : Deed ε) :
      deed.act.perform d before.station = .ok deed.answer after.station →
      deed.begun = d.time before.station.device → deed.ended = d.time after.station.device →
      after.deeds = before.deeds ++ [deed] → after.dealings = before.dealings →
      before.stuck = false → after.stuck = false → Shows d before after
  | jam (act : Act) (reason : τ) :
      act.perform d before.station = .error reason after.station →
      after.deeds = before.deeds → after.dealings = before.dealings →
      after.stuck = true → Shows d before after
  | dealing (dealing : Dealing) :
      dealing.wish.grant before.station = .ok dealing.answer after.station →
      after.deeds = before.deeds → after.dealings = before.dealings ++ [dealing] →
      after.stuck = before.stuck → Shows d before after

theorem deeds_eq (service : Service σ ε) :
    service.deeds = service.past.flatMap Turn.deeds ++ (service.job.map Job.deeds).getD [] := by
  cases h : service.job <;> simp [deeds, turns, h, Job.turn]

/-- These are all the things that can happen. -/
theorem shows_move (d : Device σ ε τ) (service : Service σ ε) (move : Move) :
    Shows d service (service.move d move) := by
  cases move with
  | set task =>
      show Shows d service (service.set d task)
      unfold set
      cases job : service.job with
      | some _ => exact .nothing rfl rfl rfl rfl
      | none => exact .nothing rfl (by simp [deeds_eq, job]) rfl rfl
  | ask wish =>
      show Shows d service (service.ask wish)
      unfold ask
      cases granted : wish.grant service.station with
      | ok answer station => exact .dealing ⟨wish, answer⟩ granted rfl rfl rfl
      | error reason _ => exact reason.elim
  | proceed =>
      show Shows d service (service.proceed d)
      unfold proceed
      split
      · rename_i task deeds flow able job
        exact .nothing rfl (by simp [deeds_eq, job]) rfl rfl
      · rename_i task deeds first next able job
        unfold act
        cases performed : first.perform d service.station with
        | ok answer station =>
            exact .deed ⟨first, answer, d.time service.station.device, d.time station.device⟩
              performed rfl rfl (by simp [deeds_eq, job]) rfl able able
        | error reason station => exact .jam first reason performed rfl rfl rfl
      · exact .nothing rfl rfl rfl rfl

end Service

end ShutterRadio
