/-
# The books of a service balance

Whatever producers do and however far the station has come, the books agree with
the state: the accepted requests are those that the station took out, in that
order, and behind them those that still wait; the queue is closing exactly if a
shutdown was accepted, and then it was accepted last; and the tally counts the
bursts of the books.  `Service.Balanced` is that invariant and `balanced_run` the
statement that it holds after every run.

Nothing is said here about how far the station has come with what it took.
-/

import ShutterRadio.Proofs.Service.Effect

namespace ShutterRadio

namespace Service

variable {σ ε τ : Type}

/-- The account of all that the station did. -/
def account (service : Service σ ε) : Account := .ofDeeds service.deeds

/-- The requests that wait for the station, oldest first. -/
def waiting (service : Service σ ε) : List Request := service.station.queue.requests.toList

/-- The requests that were accepted, in that order. -/
def accepted (service : Service σ ε) : List Request := Dealing.accepted service.dealings

/-- The books agree with the state. -/
structure Balanced (service : Service σ ε) : Prop where
  requests : service.accepted = service.account.requests ++ service.waiting
  closing : service.station.queue.closing = true ↔ .shutdown ∈ service.accepted
  last : .shutdown ∉ service.accepted.dropLast
  activity : service.station.queue.activity = .shutDown → service.account.stops = true
  tally : ∀ counter, counter = .sent ∨ counter = .abandoned →
    service.station.tally.count counter =
      UInt32.ofNat (service.account.verdicts.count counter)

theorem balanced_fresh (setup : Setup) (indicator : Option Polarity) (device : σ) :
    (fresh setup indicator device : Service σ ε).Balanced where
  requests := rfl
  closing := by simp [fresh, Station.fresh, Queue.empty, accepted, Dealing.accepted]
  last := by simp [fresh, accepted, Dealing.accepted]
  activity stopped := by cases stopped
  tally counter watched := by rcases watched with rfl | rfl <;> rfl

/-- What the station does keeps the books balanced, if an account of it is added. -/
theorem Balanced.explained {before after : Service σ ε} {account : Account}
    (balanced : before.Balanced) (explains : account.Explains before.station after.station)
    (dealings : after.dealings = before.dealings)
    (added : after.account = before.account ++ account) : after.Balanced where
  requests := by
    have taken := explains.requests
    simp only [accepted, dealings, added, Account.append_def, List.append_assoc]
    exact balanced.requests.trans (congrArg _ taken)
  closing := by
    simp only [accepted, dealings, explains.closing]
    exact balanced.closing
  last := by
    simp only [accepted, dealings]
    exact balanced.last
  activity stopped := by
    simp only [added, Account.append_def, Bool.or_eq_true]
    exact (explains.activity stopped).imp_left balanced.activity
  tally counter watched := by
    simp only [added, Account.append_def, List.count_append, UInt32.ofNat_add]
    rw [explains.tally counter watched, balanced.tally counter watched]

/-- One more request, before any to shut down. -/
theorem shutdown_notMem_dropLast_snoc {requests : List Request} (request : Request)
    (running : .shutdown ∉ requests) : .shutdown ∉ (requests ++ [request]).dropLast := by
  rwa [List.dropLast_concat]

theorem Balanced.dealt {before after : Service σ ε} {dealing : Dealing}
    (balanced : before.Balanced) (explains : dealing.Explains before.station after.station)
    (dealings : after.dealings = before.dealings ++ [dealing])
    (deeds : after.deeds = before.deeds) : after.Balanced := by
  have account : after.account = before.account := by simp only [Service.account, deeds]
  have accepted : after.accepted = Dealing.accept before.accepted dealing := by
    simp only [Service.accepted, dealings, Dealing.accepted_snoc]
  have activity (stopped : after.station.queue.activity = .shutDown) :
      after.account.stops = true := by
    rw [account]
    exact balanced.activity (explains.activity ▸ stopped)
  have tally (counter : Counter) (watched : counter = .sent ∨ counter = .abandoned) :
      after.station.tally.count counter =
        UInt32.ofNat (after.account.verdicts.count counter) := by
    rw [account, explains.station]
    exact balanced.tally counter watched
  rcases explains.requests with
    ⟨request, told, running, added, closing⟩ | ⟨nothing, same, closing⟩
  · have none : .shutdown ∉ before.accepted := by simp [← balanced.closing, running]
    have more : after.accepted = before.accepted ++ [request] := by
      simp [accepted, Dealing.accept, told, none]
    refine ⟨?_, ?_, ?_, activity, tally⟩
    · rw [more, account, balanced.requests, List.append_assoc]
      exact congrArg _ added.symm
    · rw [closing, more]
      simp [none, eq_comm]
    · rw [more]
      exact shutdown_notMem_dropLast_snoc request none
  · have unchanged : after.accepted = before.accepted := by
      rcases nothing with nothing | ⟨again, closed⟩
      · simp only [accepted, Dealing.accept, nothing]
      · simp only [accepted, Dealing.accept, again, balanced.closing.mp closed, and_self, if_true]
    refine ⟨?_, ?_, ?_, activity, tally⟩
    · simp only [unchanged, account, waiting, same]
      exact balanced.requests
    · rw [unchanged, closing]
      exact balanced.closing
    · rw [unchanged]
      exact balanced.last

theorem balanced_move (d : Device σ ε τ) (service : Service σ ε) (move : Move)
    (balanced : service.Balanced) : (service.move d move).Balanced := by
  cases shows_move d service move with
  | nothing station deeds dealings _ =>
      have explains : Account.empty.Explains service.station (service.move d move).station := by
        rw [station]
        exact Account.explains_of_same rfl rfl ⟨rfl, rfl, rfl, rfl, rfl⟩
      exact balanced.explained explains dealings (by simp only [account, deeds, Account.append_empty])
  | deed deed performed _ _ deeds dealings _ _ =>
      refine balanced.explained (deed.explains d performed) dealings ?_
      simp only [account, deeds, Account.ofDeeds_append]
  | jam act reason stuck deeds dealings _ =>
      refine balanced.explained (act.explains_stuck d stuck) dealings ?_
      simp only [account, deeds, Account.append_empty]
  | dealing dealing granted deeds dealings _ =>
      exact balanced.dealt (dealing.wish.explains_grant granted) dealings deeds

/-- The books of a service balance after every run. -/
theorem balanced_run (d : Device σ ε τ) (setup : Setup) (indicator : Option Polarity)
    (device : σ) (moves : List Move) :
    ((fresh setup indicator device : Service σ ε).run d moves).Balanced :=
  run_induction d (balanced_move d) (balanced_fresh setup indicator device) moves

end Service

end ShutterRadio
