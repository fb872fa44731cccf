/-
# Rolling codes without gaps

A fleet is any number of remotes that are pressed on one queue, while others ask for
things and a station takes requests out.  Every press that is accepted carries the
next rolling code of its remote, and one that is refused carries none, so the codes
that were asked for as one remote are consecutive, whatever comes in between and
however often they wrap round.

Identities have to be different for that, and nobody but the fleet may send as its
remotes.  A remote that follows what is heard of it is not part of a fleet.
-/

import Mathlib.Logic.Function.Basic
import ShutterRadio.Proofs.Remote.Docket
import ShutterRadio.Station.Burst

namespace ShutterRadio

/-- Remotes on one queue, by name. -/
structure Fleet (ι : Type) where
  remotes : ι → Remote
  docket : Docket
  answers : List (ι × Bool)

namespace Fleet

variable {ι : Type} [DecidableEq ι]

/-- Remotes that have not been pressed yet, on a queue as it is. -/
def fresh (remotes : ι → Remote) (queue : Queue) : Fleet ι := ⟨remotes, .ofQueue queue, []⟩

/-- What can happen to a fleet. -/
inductive Move (ι : Type)
  | press (name : ι) (button : Button) (repeats : UInt16)
  | order (name : ι) (action : Action)
  | errand (errand : Errand)

def press (fleet : Fleet ι) (name : ι) (button : Button) (repeats : UInt16) : Fleet ι :=
  let (accepted, remote, docket) := Docket.press button repeats (fleet.remotes name, fleet.docket)
  ⟨Function.update fleet.remotes name remote, docket, fleet.answers ++ [(name, accepted)]⟩

def move (fleet : Fleet ι) : Move ι → Fleet ι
  | .press name button repeats => fleet.press name button repeats
  | .order name action => fleet.press name action.button Burst.shortPress
  | .errand errand => { fleet with docket := fleet.docket.run errand }

def run (fleet : Fleet ι) (moves : List (Move ι)) : Fleet ι := moves.foldl move fleet

def identity (fleet : Fleet ι) (name : ι) : UInt32 := (fleet.remotes name).profile.identity

/-- The rolling code that the next press of a remote will carry. -/
def code (fleet : Fleet ι) (name : ι) : UInt16 := (fleet.remotes name).profile.code

/-- How many presses of a remote were accepted. -/
def accepted (fleet : Fleet ι) (name : ι) : Nat := fleet.answers.count (name, true)

/-- Consecutive rolling codes, as many as that, wrapping round. -/
def codesFrom (first : UInt16) (count : Nat) : List UInt16 :=
  (List.range count).map fun number => first + UInt16.ofNat number

theorem codesFrom_succ (first : UInt16) (count : Nat) :
    codesFrom first (count + 1) = codesFrom first count ++ [first + UInt16.ofNat count] := by
  simp [codesFrom, List.range_succ]

/-- Nobody but the fleet sends as its remotes. -/
def IsProper (fleet : Fleet ι) (move : Move ι) : Prop :=
  ∀ transmission, move = .errand (.send transmission) →
    ∀ name, transmission.command.remote ≠ fleet.identity name

/-- The codes of a remote are consecutive from the one it began with, and the next one
continues them. -/
structure Gapless (start fleet : Fleet ι) (name : ι) : Prop where
  identity : fleet.identity name = start.identity name
  codes : fleet.docket.codes (start.identity name) =
    codesFrom (start.code name) (fleet.accepted name)
  next : fleet.code name = start.code name + UInt16.ofNat (fleet.accepted name)

variable {start fleet : Fleet ι}

/-- What a press comes to: it is refused, and no remote and no request changes, or it
is accepted, and its remote has moved on by one. -/
theorem press_cases (fleet : Fleet ι) (name : ι) (button : Button) (repeats : UInt16) :
    ((fleet.docket.queue.closing = true ∨ fleet.docket.queue.pending = queueCapacity) ∧
      fleet.press name button repeats =
        { fleet with answers := fleet.answers ++ [(name, false)] }) ∨
    (¬(fleet.docket.queue.closing = true ∨ fleet.docket.queue.pending = queueCapacity) ∧
      ∃ remote docket, remote.profile =
          { (fleet.remotes name).profile with code := (fleet.remotes name).profile.code + 1 } ∧
        docket.requests =
          fleet.docket.requests ++ [(fleet.remotes name).request button repeats] ∧
        fleet.press name button repeats =
          ⟨Function.update fleet.remotes name remote, docket, fleet.answers ++ [(name, true)]⟩) := by
  unfold press
  rcases fleet.docket.press_cases (fleet.remotes name) button repeats with
    ⟨refusing, refused⟩ | ⟨taking, docket, accepted, added⟩
  · rw [refused]
    refine .inl ⟨refusing, ?_⟩
    simp only [Function.update_eq_self]
  · rw [accepted]
    exact .inr ⟨taking, _, docket, rfl, added, rfl⟩

theorem gapless_press (gapless : ∀ name, Gapless start fleet name)
    (distinct : Function.Injective start.identity) (name : ι) (button : Button)
    (repeats : UInt16) (other : ι) : Gapless start (fleet.press name button repeats) other := by
  rcases fleet.press_cases name button repeats with
    ⟨-, same⟩ | ⟨-, remote, docket, profile, added, same⟩
  · have counts : (fleet.press name button repeats).accepted other = fleet.accepted other := by
      simp [same, accepted]
    constructor
    · rw [same]
      exact (gapless other).identity
    · rw [counts, same]
      exact (gapless other).codes
    · rw [counts, same]
      exact (gapless other).next
  have itself : (fleet.remotes name).profile.identity = start.identity name :=
    (gapless name).identity
  by_cases here : other = name
  · subst here
    have code : (fleet.remotes other).profile.code =
        start.code other + UInt16.ofNat (fleet.accepted other) := (gapless other).next
    have counts : (fleet.press other button repeats).accepted other =
        fleet.accepted other + 1 := by
      simp [same, accepted]
    constructor
    · simp [same, Fleet.identity, profile, itself]
    · rw [counts, codesFrom_succ, ← (gapless other).codes, same, Docket.codes_of_request added,
        if_pos itself, code]
    · rw [counts, UInt16.ofNat_add, ← UInt16.add_assoc, ← code]
      simp [same, Fleet.code, profile]
  · have counts : (fleet.press name button repeats).accepted other = fleet.accepted other := by
      simp [same, accepted, Ne.symm here]
    have apart : (fleet.remotes name).profile.identity ≠ start.identity other := by
      rw [itself]
      exact fun equal => here (distinct equal).symm
    have untouched : (fleet.press name button repeats).remotes other = fleet.remotes other := by
      simp [same, here]
    constructor
    · rw [Fleet.identity, untouched]
      exact (gapless other).identity
    · rw [counts, ← (gapless other).codes, same, Docket.codes_of_request added, if_neg apart,
        List.append_nil]
    · rw [counts, Fleet.code, untouched]
      exact (gapless other).next

theorem gapless_move (gapless : ∀ name, Gapless start fleet name)
    (distinct : Function.Injective start.identity) {move : Move ι}
    (proper : start.IsProper move) (name : ι) : Gapless start (fleet.move move) name := by
  cases move with
  | press pressed button repeats => exact gapless_press gapless distinct pressed button repeats name
  | order pressed action =>
      exact gapless_press gapless distinct pressed action.button Burst.shortPress name
  | errand errand =>
      refine ⟨(gapless name).identity, ?_, (gapless name).next⟩
      show (fleet.docket.run errand).codes (start.identity name) = _
      rw [fleet.docket.codes_run fun transmission same => proper transmission (by rw [same]) name]
      exact (gapless name).codes

theorem gapless_run (gapless : ∀ name, Gapless start fleet name)
    (distinct : Function.Injective start.identity) {moves : List (Move ι)}
    (proper : ∀ move ∈ moves, start.IsProper move) (name : ι) :
    Gapless start (fleet.run moves) name := by
  induction moves generalizing fleet with
  | nil => exact gapless name
  | cons first rest ih =>
      obtain ⟨here, later⟩ := List.forall_mem_cons.mp proper
      exact ih (gapless_move gapless distinct here) later

/-- A fleet whose queue holds nothing of its remotes yet is gapless. -/
theorem gapless_fresh {remotes : ι → Remote} {queue : Queue} {name : ι}
    (clear : (Docket.ofQueue queue).codes (remotes name).profile.identity = []) :
    Gapless (fresh remotes queue) (fresh remotes queue) name where
  identity := rfl
  codes := clear
  next := by simp [accepted, fresh]

/-- Rolling codes leave no gap and none is used twice: however many remotes with
different identities share a queue, and whatever else is asked of it and taken out of
it, the requests to send as one of them carry consecutive codes, beginning with the
code it had and one for each of its presses that was accepted, and the next press
carries the one after them.  A press is refused exactly if the queue is full or
shutting down, and changes neither a remote nor a request then. -/
theorem run_gapless {remotes : ι → Remote} {queue : Queue} {moves : List (Move ι)}
    (distinct : Function.Injective (fresh remotes queue).identity)
    (clear : ∀ name, (Docket.ofQueue queue).codes (remotes name).profile.identity = [])
    (proper : ∀ move ∈ moves, (fresh remotes queue).IsProper move) (name : ι) :
    let fleet := (fresh remotes queue).run moves
    fleet.docket.codes (remotes name).profile.identity =
      codesFrom (remotes name).profile.code (fleet.accepted name) ∧
    fleet.code name = (remotes name).profile.code + UInt16.ofNat (fleet.accepted name) ∧
    ∀ button repeats,
      let after := fleet.press name button repeats
      (after.answers = fleet.answers ++ [(name, false)] ↔
        fleet.docket.queue.closing = true ∨ fleet.docket.queue.pending = queueCapacity) ∧
      (after.answers = fleet.answers ++ [(name, false)] →
        after.remotes = fleet.remotes ∧ after.docket = fleet.docket) := by
  intro fleet
  have gapless : Gapless (fresh remotes queue) fleet name :=
    gapless_run (fun name => gapless_fresh (clear name)) distinct proper name
  refine ⟨gapless.codes, gapless.next, fun button repeats => ?_⟩
  rcases fleet.press_cases name button repeats with
    ⟨refusing, same⟩ | ⟨taking, _, _, _, _, same⟩
  · simp [same, refusing]
  · simp [same, taking]

/-- Two remotes, the first of which will soon wrap round. -/
def pair (second : Bool) : Remote :=
  .restore ⟨⟨"pair", by decide⟩, if second then 2 else 1, if second then 7 else 0xfffe, .empty⟩

/-- More presses than the queue has room for, and others once there is room again. -/
def crowd : List (Move Bool) :=
  List.replicate 17 (.press false .up 3) ++
    [.errand .take, .press true .my 0, .errand .take, .order false .stop]

/-- The press that is refused leaves no gap. -/
theorem run_gapless_crowded :
    Function.Injective (fresh pair .empty).identity ∧
    (∀ name, (Docket.ofQueue .empty).codes (pair name).profile.identity = []) ∧
    (∀ move ∈ crowd, (fresh pair .empty).IsProper move) ∧
    ((fresh pair .empty).run crowd).answers.count (false, false) = 1 ∧
    ((fresh pair .empty).run crowd).docket.codes 1 = codesFrom 0xfffe 17 := by
  have distinct : Function.Injective (fresh pair .empty).identity := by
    unfold Function.Injective
    decide
  have clear (name : Bool) :
      (Docket.ofQueue .empty).codes (pair name).profile.identity = [] := rfl
  have proper : ∀ move ∈ crowd, (fresh pair .empty).IsProper move := by
    simp [crowd, IsProper]
  have accepted : ((fresh pair .empty).run crowd).accepted false = 17 := by decide +kernel
  refine ⟨distinct, clear, proper, by decide +kernel, ?_⟩
  rw [← accepted]
  exact (run_gapless distinct clear proper false).1

end Fleet

end ShutterRadio
