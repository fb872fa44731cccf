/-
# All that was asked of a queue

A docket is a queue with what was taken out of it so far, so every request that was
ever accepted stands in it, in order: first those that were taken out, behind them
those that still wait.  Taking a request out moves it from one part to the other and
changes nothing else, so what stands in a docket only ever grows at the end.

A press of a remote either adds its own request and moves the rolling code on by one,
or is refused and changes nothing at all (`Docket.press_cases`).  Who else uses the
queue, and what becomes of a request that was taken out, is not looked at here.
-/

import ShutterRadio.Remote.Basic

namespace ShutterRadio

/-- The rolling code of a request to send as the remote of an identity. -/
def Request.codeOf? (identity : UInt32) : Request → Option UInt16
  | .transmit ⟨⟨remote, code, _⟩, _⟩ => if remote = identity then some code else none
  | _ => none

/-- A queue, and what was taken out of it. -/
structure Docket where
  queue : Queue
  taken : List Request

/-- What may be done with a queue without a remote. -/
inductive Errand
  | send (transmission : Transmission)
  | listen
  | close
  | take
  | announce
  | calm
  | read (now : Instant)
  | record (command : Command) (now : Instant)
  | become (activity : Activity)
  deriving DecidableEq

namespace Docket

/-- A docket of which nothing was taken out yet. -/
def ofQueue (queue : Queue) : Docket := ⟨queue, []⟩

/-- All requests that were accepted, in order. -/
def requests (docket : Docket) : List Request := docket.taken ++ docket.queue.requests.toList

/-- The rolling codes of the requests to send as the remote of an identity, in order. -/
def codes (docket : Docket) (identity : UInt32) : List UInt16 :=
  docket.requests.filterMap (Request.codeOf? identity)

def offer (docket : Docket) (request : Request) : Docket :=
  { docket with queue := (Queue.offer request docket.queue).2 }

def run (docket : Docket) : Errand → Docket
  | .send transmission => docket.offer (.transmit transmission)
  | .listen => docket.offer .listen
  | .close => { docket with queue := (Queue.close docket.queue).2 }
  | .take => ⟨docket.queue.take.2, docket.taken ++ docket.queue.take.1.toList⟩
  | .announce => { docket with queue := docket.queue.signal }
  | .calm => { docket with queue := docket.queue.calm }
  | .read now => { docket with queue := (docket.queue.collect now).2 }
  | .record command now => { docket with queue := (docket.queue.record command now).2 }
  | .become activity => { docket with queue := docket.queue.become activity }

/-- Press buttons of a remote. -/
def press (button : Button) (repeats : UInt16) : StateM (Remote × Docket) Bool :=
  fun (remote, docket) =>
    let (accepted, remote, queue) := Remote.pressOn button repeats (remote, docket.queue)
    (accepted, remote, { docket with queue })

variable {docket after : Docket} {remote : Remote} {button : Button} {repeats : UInt16}

/-- Requests that are added to the queue stand at the end of the docket. -/
theorem requests_of_append {queue : Queue} {request : Request}
    (added : queue.requests.toList = docket.queue.requests.toList ++ [request]) :
    ({ docket with queue } : Docket).requests = docket.requests ++ [request] := by
  simp only [requests, added, List.append_assoc]

/-- An errand adds at most one request, which is no other than the one that it is for. -/
theorem requests_run (docket : Docket) (errand : Errand) :
    (docket.run errand).requests = docket.requests ∨
      ∃ request, (docket.run errand).requests = docket.requests ++ [request] ∧
        ∀ transmission, request = .transmit transmission → errand = .send transmission := by
  have offered (request : Request) : (docket.offer request).requests = docket.requests ∨
      (docket.offer request).requests = docket.requests ++ [request] := by
    unfold offer
    rcases docket.queue.offer_cases request with ⟨-, refused⟩ | ⟨-, -, queue, accepted, added, -⟩
    · rw [refused]
      exact .inl rfl
    · rw [accepted]
      exact .inr (requests_of_append added)
  cases errand with
  | send transmission =>
      refine (offered _).imp_right fun added => ⟨_, added, fun other same => ?_⟩
      exact congrArg Errand.send (Request.transmit.inj same)
  | listen =>
      refine (offered _).imp_right fun added => ⟨_, added, fun other same => ?_⟩
      cases same
  | close =>
      unfold run
      rcases docket.queue.close_cases with
        ⟨-, again⟩ | ⟨-, -, refused⟩ | ⟨-, queue, accepted, added, -⟩
      · rw [again]
        exact .inl rfl
      · rw [refused]
        exact .inl rfl
      · rw [accepted]
        refine .inr ⟨.shutdown, requests_of_append added, fun other same => ?_⟩
        cases same
  | take =>
      left
      simp only [run, requests, docket.queue.take_eq.1, List.append_assoc]
  | read now =>
      left
      rw [run, docket.queue.collect_eq now]
      rfl
  | _ => exact .inl rfl

/-- Errands leave the codes of a remote alone, unless somebody else sends as it. -/
theorem codes_run (docket : Docket) {errand : Errand} {identity : UInt32}
    (others : ∀ transmission, errand = .send transmission →
      transmission.command.remote ≠ identity) :
    (docket.run errand).codes identity = docket.codes identity := by
  rcases docket.requests_run errand with same | ⟨request, added, origin⟩
  · rw [codes, same, codes]
  · have foreign : request.codeOf? identity = none := by
      cases request with
      | transmit transmission => exact if_neg (others transmission (origin transmission rfl))
      | listen => rfl
      | shutdown => rfl
    simp [codes, added, foreign]

/-- A press is refused exactly if the queue is full or shutting down, and then changes
nothing; one that is accepted asks for its own code, and the next press will carry the one
after it. -/
theorem press_cases (docket : Docket) (remote : Remote) (button : Button) (repeats : UInt16) :
    ((docket.queue.closing = true ∨ docket.queue.pending = queueCapacity) ∧
      press button repeats (remote, docket) = (false, remote, docket)) ∨
    (¬(docket.queue.closing = true ∨ docket.queue.pending = queueCapacity) ∧
      ∃ after, press button repeats (remote, docket) =
          (true, .changed { remote.profile with code := remote.profile.code + 1 }, after) ∧
        after.requests = docket.requests ++ [remote.request button repeats]) := by
  unfold press
  dsimp only
  rcases remote.pressOn_cases docket.queue button repeats with
    ⟨refusing, refused⟩ | ⟨running, room, queue, accepted, added⟩
  · rw [refused]
    exact .inl ⟨refusing, rfl⟩
  · rw [accepted]
    refine .inr ⟨?_, { docket with queue }, rfl, requests_of_append added⟩
    rintro (closing | full)
    · rw [running] at closing
      cases closing
    · exact absurd full (Nat.ne_of_lt room)

/-- A press that is accepted adds its code to those of its own remote, and to no others. -/
theorem codes_of_request (added : after.requests = docket.requests ++
      [remote.request button repeats]) (identity : UInt32) :
    after.codes identity = docket.codes identity ++
      if remote.profile.identity = identity then [remote.profile.code] else [] := by
  have carried : (remote.request button repeats).codeOf? identity =
      if remote.profile.identity = identity then some remote.profile.code else none := rfl
  rw [codes, added, List.filterMap_append, codes]
  congr 1
  split <;> simp_all

end Docket

end ShutterRadio
