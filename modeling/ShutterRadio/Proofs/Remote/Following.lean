/-
# Pressing a remote that is also heard

A household has a registry of remotes and a queue.  Its remotes are pressed on the queue
and may be heard as well, in any order, while others ask for things, a station takes
requests out, and remotes are added, changed and removed.  What is heard of a remote is
trusted more than what was pressed for it, so hearing it moves its code back as well as on.

`Household.run_ascends` says what comes of that: the codes that a remote's presses carry
are the ones after what was pressed or heard last, and they ascend exactly if no press
comes directly after hearing a code that lies behind one pressed earlier.  A remote that
is pressed twice and then heard with the code of the first press does carry a code twice
(`Household.codes_fall_back`).
-/

import ShutterRadio.Proofs.Remote.Docket
import ShutterRadio.Proofs.Remote.Marks
import ShutterRadio.Proofs.Remote.Sparing

namespace ShutterRadio

/-- A registry of remotes, and the queue that they are pressed on. -/
structure Household where
  registry : Registry
  docket : Docket

namespace Household

/-- What can happen in a household. -/
inductive Move
  | press (identity : UInt32) (button : Button) (repeats : UInt16)
  | order (identity : UInt32) (action : Action)
  | manage (operation : Registry.Operation)
  | errand (errand : Errand)

/-- Press buttons of a registered remote. -/
def press (identity : UInt32) (button : Button) (repeats : UInt16) : StateM Household Bool :=
  fun household =>
    match household.registry.find? identity with
    | none => (false, household)
    | some remote =>
        let (accepted, pressed, docket) := Docket.press button repeats (remote, household.docket)
        (accepted, ⟨household.registry.replace identity pressed, docket⟩)

def move (household : Household) : Move → Household
  | .press identity button repeats => (press identity button repeats household).2
  | .order identity action => (press identity action.button Burst.shortPress household).2
  | .manage operation =>
      { household with registry := (household.registry.perform operation).2 }
  | .errand errand => { household with docket := household.docket.run errand }

def run (household : Household) (moves : List Move) : Household := moves.foldl move household

/-- The mark of a press on a remote, if it is accepted. -/
def pressMark? (household : Household) (identity pressed : UInt32) (button : Button)
    (repeats : UInt16) : Option Mark :=
  if pressed = identity ∧ (press pressed button repeats household).1 = true then
    (household.registry.find? identity).map fun remote => .pressed remote.profile.code
  else none

/-- The mark of a reception on its remote. -/
def heardMark? (identity : UInt32) : Registry.Operation → Option Mark
  | .hear reception =>
      if reception.command.remote = identity then some (.heard reception.command.code) else none
  | _ => none

/-- The mark that a move leaves on a remote. -/
def mark? (household : Household) (identity : UInt32) : Move → Option Mark
  | .press pressed button repeats => household.pressMark? identity pressed button repeats
  | .order pressed action =>
      household.pressMark? identity pressed action.button Burst.shortPress
  | .manage operation => heardMark? identity operation
  | .errand _ => none

/-- The marks that a run leaves on a remote, in order. -/
def marks (household : Household) (identity : UInt32) : List Move → List Mark
  | [] => []
  | first :: rest =>
      (household.mark? identity first).toList ++ (household.move first).marks identity rest

theorem marks_nil (household : Household) (identity : UInt32) :
    household.marks identity [] = [] := rfl

/-- Nobody else sends as a remote, and whatever is done with the registry but to hear the
remote spares it. -/
def IsProper (identity : UInt32) : Move → Prop
  | .manage (.hear _) => True
  | .manage operation => operation.Spares identity
  | .errand (.send transmission) => transmission.command.remote ≠ identity
  | _ => True

/-- A remote is registered, its code is the one that its marks make due, and they tell
what was asked to be sent as it. -/
structure Tracks (identity : UInt32) (first : UInt16) (earlier : List UInt16)
    (marks : List Mark) (household : Household) : Prop where
  registered : household.registry.Awaits identity (Mark.due first marks)
  codes : household.docket.codes identity = earlier ++ marks.filterMap Mark.pressed?
  continued : Mark.Continued first marks

variable {household : Household} {identity : UInt32} {first : UInt16} {earlier : List UInt16}
  {marks : List Mark}

/-- What a press comes to: nothing at all, or the next code of a registered remote is
asked for, and the remote is left with the one after it. -/
theorem press_cases (household : Household) (identity : UInt32) (button : Button)
    (repeats : UInt16) :
    press identity button repeats household = (false, household) ∨
    ∃ remote docket, household.registry.find? identity = some remote ∧
      docket.requests = household.docket.requests ++ [remote.request button repeats] ∧
      press identity button repeats household = (true,
        ⟨household.registry.replace identity
          (.changed { remote.profile with code := remote.profile.code + 1 }), docket⟩) := by
  unfold press
  cases found : household.registry.find? identity with
  | none => exact .inl rfl
  | some remote =>
      dsimp only
      rcases household.docket.press_cases remote button repeats with
        ⟨-, refused⟩ | ⟨-, docket, accepted, added⟩
      · left
        rw [refused]
        simp only [Registry.replace_of_find? found]
      · rw [accepted]
        exact .inr ⟨remote, docket, rfl, added, rfl⟩

theorem Tracks.pressed (tracks : Tracks identity first earlier marks household)
    (pressed : UInt32) (button : Button) (repeats : UInt16) :
    Tracks identity first earlier
      (marks ++ (household.pressMark? identity pressed button repeats).toList)
      (press pressed button repeats household).2 := by
  obtain ⟨remote, found, code⟩ := tracks.registered
  rcases household.press_cases pressed button repeats with
    refused | ⟨other, docket, there, added, accepted⟩
  · have none : household.pressMark? identity pressed button repeats = none := by
      simp [pressMark?, refused]
    rw [none, refused, Option.toList_none, List.append_nil]
    exact tracks
  have itself : other.profile.identity = pressed := Registry.identity_of_find? there
  by_cases here : pressed = identity
  · subst here
    obtain rfl : remote = other := Option.some.inj (found.symm.trans there)
    have one : household.pressMark? pressed pressed button repeats =
        some (.pressed remote.profile.code) := by
      simp [pressMark?, accepted, found]
    rw [one, accepted]
    constructor
    · refine ⟨_, Registry.find?_replace_self there itself, ?_⟩
      simp only [Remote.changed, Option.toList_some, Mark.due_snoc, Mark.code]
    · rw [Docket.codes_of_request added, if_pos itself, tracks.codes]
      simp [Mark.pressed?]
    · apply tracks.continued.snoc
      intro due same
      obtain rfl := Mark.pressed.inj same
      exact code
  · have none : household.pressMark? identity pressed button repeats = none := by
      simp [pressMark?, here]
    rw [none, accepted, Option.toList_none, List.append_nil]
    refine ⟨⟨remote, ?_, code⟩, ?_, tracks.continued⟩
    · rw [← found]
      exact Registry.find?_replace_of_ne itself (Ne.symm here)
    · rw [Docket.codes_of_request added, if_neg (by rw [itself]; exact here), List.append_nil]
      exact tracks.codes

/-- Hearing the remote takes over the code that was heard. -/
theorem Tracks.heard (tracks : Tracks identity first earlier marks household)
    {reception : Reception} (here : reception.command.remote = identity) :
    Tracks identity first earlier (marks ++ [.heard reception.command.code])
      (household.move (.manage (.hear reception))) := by
  obtain ⟨remote, found, -⟩ := tracks.registered
  subst here
  constructor
  · refine ⟨_, Registry.find?_hear_self found, ?_⟩
    simp only [Remote.profile_adopt, Mark.due_snoc, Mark.code]
  · show household.docket.codes _ = _
    simp [tracks.codes, Mark.pressed?]
  · apply tracks.continued.snoc
    intro code same
    cases same

/-- What spares the remote leaves no mark on it. -/
theorem Tracks.spared (tracks : Tracks identity first earlier marks household)
    {operation : Registry.Operation} (spares : operation.Spares identity) :
    Tracks identity first earlier (marks ++ (heardMark? identity operation).toList)
      (household.move (.manage operation)) := by
  have none : heardMark? identity operation = none := by
    cases operation with
    | hear reception => exact if_neg spares
    | _ => rfl
  rw [none, Option.toList_none, List.append_nil]
  exact ⟨tracks.registered.perform spares, tracks.codes, tracks.continued⟩

theorem Tracks.managed (tracks : Tracks identity first earlier marks household)
    {operation : Registry.Operation} (proper : IsProper identity (.manage operation)) :
    Tracks identity first earlier (marks ++ (heardMark? identity operation).toList)
      (household.move (.manage operation)) := by
  cases operation with
  | hear reception =>
      by_cases here : reception.command.remote = identity
      · rw [heardMark?, if_pos here, Option.toList_some]
        exact tracks.heard here
      · exact tracks.spared here
  | _ => exact tracks.spared proper

theorem Tracks.move (tracks : Tracks identity first earlier marks household) {move : Move}
    (proper : IsProper identity move) :
    Tracks identity first earlier (marks ++ (household.mark? identity move).toList)
      (household.move move) := by
  cases move with
  | press pressed button repeats => exact tracks.pressed pressed button repeats
  | order pressed action => exact tracks.pressed pressed action.button Burst.shortPress
  | manage operation => exact tracks.managed proper
  | errand errand =>
      rw [mark?, Option.toList_none, List.append_nil]
      refine ⟨tracks.registered, ?_, tracks.continued⟩
      have others : ∀ transmission, errand = .send transmission →
          transmission.command.remote ≠ identity := by
        rintro transmission rfl
        exact proper
      exact (household.docket.codes_run others).trans tracks.codes

theorem Tracks.run (tracks : Tracks identity first earlier marks household) {moves : List Move}
    (proper : ∀ move ∈ moves, IsProper identity move) :
    Tracks identity first earlier (marks ++ household.marks identity moves)
      (household.run moves) := by
  -- Every move adds its marks to those of the ones before, so they vary with the household.
  induction moves generalizing household marks with
  | nil =>
      rw [marks_nil, List.append_nil]
      exact tracks
  | cons next rest ih =>
      obtain ⟨here, later⟩ := List.forall_mem_cons.mp proper
      have after := ih (tracks.move here) later
      rw [List.append_assoc] at after
      exact after

/-- A registered remote that has no marks yet. -/
theorem tracks_of_find? {remote : Remote}
    (found : household.registry.find? identity = some remote) :
    Tracks identity remote.profile.code (household.docket.codes identity) [] household where
  registered := ⟨remote, found, rfl⟩
  codes := by simp
  continued before code after split := by simp at split

/-- Whatever else happens, a registered remote is pressed with the code after the one
that was pressed or heard last.  If it begins with a low code, only low codes are heard
of it and it is not pressed too often, so that nothing wraps round, then the codes of the
requests that were accepted ascend, and none is used twice, exactly if no press comes
directly after hearing a code that lies behind one pressed earlier. -/
theorem run_ascends {remote : Remote} {moves : List Move}
    (registered : household.registry.find? identity = some remote)
    (clear : household.docket.codes identity = [])
    (proper : ∀ move ∈ moves, IsProper identity move)
    (low : remote.profile.code < 0x8000)
    (heard_low : ∀ old, .heard old ∈ household.marks identity moves → old < 0x8000)
    (few : ((household.marks identity moves).filterMap Mark.pressed?).length < 0x8000) :
    let marks := household.marks identity moves
    let codes := (household.run moves).docket.codes identity
    codes = marks.filterMap Mark.pressed? ∧
      Mark.Continued remote.profile.code marks ∧
      (codes.Pairwise (· < ·) ↔ Mark.NeverBehind marks) := by
  intro marks codes
  have tracks := (tracks_of_find? registered).run proper
  rw [clear, List.nil_append] at tracks
  have same : codes = marks.filterMap Mark.pressed? := tracks.codes
  refine ⟨same, tracks.continued, ?_⟩
  rw [same]
  exact tracks.continued.ascends_iff (tracks.continued.room low heard_low few)

/-- The remote of an identity, which will be pressed with a code next. -/
def followed (identity : UInt32) (code : UInt16) : Remote :=
  .restore ⟨⟨"followed", by decide⟩, identity, code, .empty⟩

/-- One remote is registered, and nothing was asked for yet. -/
def small : Household := ⟨⟨⟨[followed 5 10], by decide⟩, .empty⟩, .ofQueue .empty⟩

/-- To hear the remote with a code. -/
def hearing (code : UInt16) : Move := .manage (.hear ⟨⟨5, code, .up⟩, 0⟩)

/-- The remote is pressed twice, is heard with the code of the first press, and is
pressed again. -/
def fallingBack : List Move := [.order 5 .up, .order 5 .stop, hearing 10, .order 5 .down]

/-- Codes that are low and presses that are few do not keep a code from being used
again. -/
theorem codes_fall_back :
    small.registry.find? 5 = some (followed 5 10) ∧
    small.docket.codes 5 = [] ∧
    (∀ move ∈ fallingBack, IsProper 5 move) ∧
    small.marks 5 fallingBack = [.pressed 10, .pressed 11, .heard 10, .pressed 11] ∧
    (small.run fallingBack).docket.codes 5 = [10, 11, 11] ∧
    ¬ ((small.run fallingBack).docket.codes 5).Pairwise (· < ·) := by
  have proper : ∀ move ∈ fallingBack, IsProper 5 move := by simp [fallingBack, IsProper, hearing]
  have codes : (small.run fallingBack).docket.codes 5 = [10, 11, 11] := by decide
  refine ⟨by decide, by decide, proper, by decide, codes, ?_⟩
  rw [codes]
  decide

/-- The remote is pressed twice, is heard with the code of the first press and then with
a later one, and is pressed again.  Meanwhile another one comes and is pressed, and this
one is renamed. -/
def catchingUp : List Move :=
  [.order 5 .up, .press 5 .prog 100, .manage (.add (followed 6 1)), hearing 10, .errand .take,
    .order 6 .up, .manage (.manage 5 (.rename "caught")), hearing 20, .errand .announce,
    .order 5 .down]

/-- Hearing an old code does no harm if a later one is heard before the next press. -/
theorem run_ascends_catching_up :
    small.registry.find? 5 = some (followed 5 10) ∧
    small.docket.codes 5 = [] ∧
    (∀ move ∈ catchingUp, IsProper 5 move) ∧
    (followed 5 10).profile.code < 0x8000 ∧
    (∀ old, .heard old ∈ small.marks 5 catchingUp → old < 0x8000) ∧
    ((small.marks 5 catchingUp).filterMap Mark.pressed?).length < 0x8000 ∧
    (small.run catchingUp).docket.codes 5 = [10, 11, 21] ∧
    Mark.NeverBehind (small.marks 5 catchingUp) := by
  have proper : ∀ move ∈ catchingUp, IsProper 5 move := by
    simp [catchingUp, IsProper, hearing, Registry.Operation.Spares, Remote.Handling.KeepsCode]
  have marks : small.marks 5 catchingUp =
      [.pressed 10, .pressed 11, .heard 10, .heard 20, .pressed 21] := by decide
  have heard_low : ∀ old, .heard old ∈ small.marks 5 catchingUp → old < 0x8000 := by
    rw [marks]
    simp
  have few : ((small.marks 5 catchingUp).filterMap Mark.pressed?).length < 0x8000 := by
    rw [marks]
    decide
  have codes : (small.run catchingUp).docket.codes 5 = [10, 11, 21] := by decide
  have registered : small.registry.find? 5 = some (followed 5 10) := by decide
  obtain ⟨-, -, ascends⟩ :=
    run_ascends registered (by decide) proper (by decide) heard_low few
  refine ⟨registered, by decide, proper, by decide, heard_low, few, codes, ascends.mp ?_⟩
  rw [codes]
  decide

end Household

end ShutterRadio
