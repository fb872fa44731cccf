/-
# Turns that take no request

A station that finds no request does little in a turn.  It may see that it has
shut down, and says at once that it stops.  If not, it fetches what was announced
or sleeps, and says that it goes on.  A start resets the radio, whatever the
station was doing before.

`Program.spare_program` puts every path through a task that takes no request among
these, so that such a turn never sends anything and never shuts the station down.
-/

import ShutterRadio.Proofs.Program.Account
import ShutterRadio.Proofs.Service.Basic

namespace ShutterRadio

/-- An act in reach of a station that has looked and taken no request. -/
def Act.IsSpare : Act → Prop
  | .look => False
  | .become activity => activity = .idle
  | .call (.transmit _) => False
  | _ => True

namespace Deed

variable {ε : Type}

/-- What the station was seen to be doing. -/
def seen? : Deed ε → Option Activity
  | ⟨.look, activity, _, _⟩ => some activity
  | _ => none

theorem act_of_seen {deed : Deed ε} {activity : Activity} (saw : deed.seen? = some activity) :
    deed.act = .look := by
  unfold seen? at saw
  split at saw
  · rfl
  · cases saw

/-- To look is not to take a request. -/
theorem request?_of_seen {deed : Deed ε} {activity : Activity}
    (saw : deed.seen? = some activity) : deed.request? = none := by
  unfold seen? at saw
  split at saw
  · rfl
  · cases saw

/-- No request was taken. -/
def Free (deeds : List (Deed ε)) : Prop := ∀ deed ∈ deeds, deed.request? = none

theorem Free.tail {deed : Deed ε} {deeds : List (Deed ε)} (free : Free (deed :: deeds)) :
    Free deeds :=
  (List.forall_mem_cons.mp free).2

theorem Free.snoc {deeds : List (Deed ε)} {deed : Deed ε} (free : Free deeds)
    (nothing : deed.request? = none) : Free (deeds ++ [deed]) :=
  List.forall_mem_append.mpr ⟨free, List.forall_mem_singleton.mpr nothing⟩

/-- How far a turn that takes no request has come, and what it has said. -/
inductive Spare : Task → List (Deed ε) → Option Station.Flow → Prop
  | waiting (task : Task) : Spare task [] none
  | refused (begun ended : Instant) : Spare .step [⟨.look, .shutDown, begun, ended⟩] (some .stopped)
  | stepping {activity : Activity} {begun ended : Instant} {more : List (Deed ε)}
      {flow : Option Station.Flow} :
      activity ≠ .shutDown → (∀ deed ∈ more, deed.act.IsSpare) → flow ≠ some .stopped →
        Spare .step (⟨.look, activity, begun, ended⟩ :: more) flow
  -- A start does not look.
  | starting {begun ended : Instant} {more : List (Deed ε)} {flow : Option Station.Flow} :
      (∀ deed ∈ more, deed.act.IsSpare) → flow ≠ some .stopped →
        Spare .start (⟨.become .idle, (), begun, ended⟩ :: more) flow

variable {task : Task} {deeds : List (Deed ε)} {flow : Option Station.Flow}

/-- Besides looking, such a turn keeps to the spare acts. -/
theorem Spare.acts (spare : Spare task deeds flow) {deed : Deed ε} (done : deed ∈ deeds) :
    deed.act = .look ∨ deed.act.IsSpare := by
  cases spare with
  | waiting task => cases done
  | refused begun ended =>
      obtain rfl := List.mem_singleton.mp done
      exact .inl rfl
  | stepping going spare flow =>
      rcases List.mem_cons.mp done with rfl | later
      · exact .inl rfl
      · exact .inr (spare deed later)
  | starting spare flow =>
      rcases List.mem_cons.mp done with rfl | later
      · exact .inr rfl
      · exact .inr (spare deed later)

/-- A turn without a request asks for no packet to be sent. -/
theorem Spare.silent (spare : Spare task deeds flow) {deed : Deed ε} (done : deed ∈ deeds)
    (packet : List UInt8) : deed.act ≠ .call (.transmit packet) := by
  intro sends
  rcases spare.acts done with looks | harmless
  · rw [sends] at looks
    cases looks
  · rw [sends] at harmless
    exact harmless

/-- Nothing but an idle station comes of a turn without a request. -/
theorem Spare.becomes (spare : Spare task deeds flow) {deed : Deed ε} (done : deed ∈ deeds)
    {activity : Activity} (becomes : deed.act = .become activity) : activity = .idle := by
  rcases spare.acts done with looks | harmless
  · rw [becomes] at looks
    cases looks
  · rw [becomes] at harmless
    exact harmless

/-- A turn without a request stops only if it has seen that the station had shut
down before. -/
theorem Spare.goes_on (spare : Spare task deeds flow)
    (going : ∀ deed ∈ deeds, deed.seen? ≠ some .shutDown) : flow ≠ some .stopped := by
  cases spare with
  | waiting task => exact nofun
  | refused begun ended => exact absurd rfl (going _ List.mem_cons_self)
  | stepping going spare flow => exact flow
  | starting spare flow => exact flow

/-- Whatever comes after looks that saw the station shut down is another such look. -/
theorem Spare.seen_of_snoc {deed : Deed ε} (spare : Spare .step (deeds ++ [deed]) flow)
    (seen : ∀ deed ∈ deeds, deed.seen? = some .shutDown)
    (looks : deed.act = .look → deed.seen? = some .shutDown) : deed.seen? = some .shutDown := by
  generalize whole : deeds ++ [deed] = all at spare
  have last : deed ∈ all := by
    rw [← whole]
    exact List.mem_append_right _ List.mem_cons_self
  cases spare with
  | waiting task => cases last
  | refused begun ended =>
      obtain rfl := List.mem_singleton.mp last
      rfl
  | stepping going spare flow =>
      -- The first look saw something else, so it is none of those before.
      cases deeds with
      | nil =>
          obtain ⟨rfl, -⟩ := List.cons.inj whole
          exact looks rfl
      | cons first others =>
          obtain ⟨rfl, -⟩ := List.cons.inj whole
          have same := seen _ List.mem_cons_self
          exact absurd (Option.some.inj same) going

/-- A step that has seen the station shut down does nothing else. -/
theorem Spare.stops (spare : Spare .step deeds flow)
    (shut : ∀ deed ∈ deeds, deed.seen? = some .shutDown) :
    deeds = [] ∧ flow = none ∨
      (∃ begun ended, deeds = [⟨.look, .shutDown, begun, ended⟩]) ∧ flow = some .stopped := by
  cases spare with
  | waiting task => exact .inl ⟨rfl, rfl⟩
  | refused begun ended => exact .inr ⟨⟨begun, ended, rfl⟩, rfl⟩
  | stepping going spare flow =>
      have same := shut _ List.mem_cons_self
      exact absurd (Option.some.inj same) going

end Deed

namespace Program

variable {ε : Type} (describe : ε → String) (setup : Setup)

/-- What holds of everything holds of every path. -/
theorem follows_of_forall {α : Type} {spec : List (Deed ε) → Option α → Prop}
    (program : Program ε α) (always : ∀ deeds result, spec deeds result) :
    program.Follows spec := by
  induction program generalizing spec with
  | done result => exact always _ _
  | act first next ih =>
      exact ⟨always _ _, fun answer begun ended => ih answer fun _ _ => always _ _⟩

/-- Every path that takes no request keeps to the spare acts and says that the
station goes on, if it says anything. -/
def Spares (program : Program ε Station.Flow) : Prop :=
  program.Follows fun deeds flow =>
    Deed.Free deeds → (∀ deed ∈ deeds, deed.act.IsSpare) ∧ flow ≠ some .stopped

/-- What keeps to the spare acts may be followed by going on. -/
theorem Uses.spares {program : Program ε Unit} (uses : program.Uses Act.IsSpare) :
    (program >>= fun _ => pure .goesOn).Spares := by
  apply follows_bind.mpr
  apply uses.follows
  intro deeds result harmless
  cases result with
  | none => exact fun _ => ⟨harmless, nofun⟩
  | some _ =>
      intro _
      rw [List.append_nil]
      exact ⟨harmless, nofun⟩

/-- A spare act in front of the rest.  If it takes a request, the rest may be
anything. -/
theorem spares_act {act : Act} {rest : act.Answer ε → Program ε Station.Flow}
    (spare : act.IsSpare)
    (spares : ∀ answer begun ended,
      (⟨act, answer, begun, ended⟩ : Deed ε).request? = none → (rest answer).Spares) :
    (once act >>= rest).Spares := by
  refine ⟨fun _ => ⟨nofun, nofun⟩, fun answer begun ended => ?_⟩
  by_cases nothing : (⟨act, answer, begun, ended⟩ : Deed ε).request? = none
  · apply (spares answer begun ended nothing).mono
    intro deeds flow harmless free
    obtain ⟨later, goes⟩ := harmless free.tail
    exact ⟨List.forall_mem_cons.mpr ⟨spare, later⟩, goes⟩
  · apply follows_of_forall
    intro deeds flow free
    exact absurd (free _ List.mem_cons_self) nothing

theorem isSpare_listen : (listen describe).Uses Act.IsSpare :=
  Uses.listen describe trivial trivial trivial fun _ => trivial

theorem isSpare_start : (start describe setup).Uses Act.IsSpare := by
  have idle : Act.IsSpare (.become .idle) := rfl
  apply Uses.start describe setup idle _ fun _ => trivial
  simp [Station.startCalls, Act.IsSpare]

theorem isSpare_fetch : (fetch describe).Uses Act.IsSpare := by
  refine Uses.fetch describe trivial (fun packet => ?_) (isSpare_listen describe) fun _ => trivial
  exact Uses.absorb trivial (fun _ _ => trivial) trivial trivial trivial fun _ => trivial

/-- A step that has not seen the station shut down keeps to the spare acts, unless it
finds a request. -/
theorem spares_work :
    (do
      if ← once .calm then do
        fetch describe
        pure .goesOn
      else
        match ← once .next with
        | some request => serve describe setup request
        | none => do
            once (.pause Station.idlePoll)
            pure .goesOn : Program ε Station.Flow).Spares := by
  refine spares_act trivial fun ready _ _ _ => ?_
  split
  · exact (isSpare_fetch describe).spares
  refine spares_act trivial fun request _ _ nothing => ?_
  cases request with
  | none => exact spares_act trivial fun _ _ _ _ _ => ⟨nofun, nofun⟩
  | some request => cases nothing

/-- Whatever the task, a path that takes no request is a spare one. -/
theorem spare_program (task : Task) :
    (task.program describe setup).Follows fun deeds flow =>
      Deed.Free deeds → Deed.Spare task deeds flow := by
  cases task with
  | start =>
      refine ⟨fun _ => .waiting .start, fun _ begun ended => ?_⟩
      have later := (isSpare_start describe setup).2 ()
      apply Follows.mono (Uses.spares later)
      intro deeds flow harmless free
      obtain ⟨spare, goes⟩ := harmless free.tail
      exact .starting spare goes
  | step =>
      refine ⟨fun _ => .waiting .step, fun activity begun ended => ?_⟩
      by_cases shut : activity = .shutDown
      · subst shut
        exact fun _ => .refused begun ended
      · show Follows (ite _ _ _) _
        rw [if_neg shut]
        apply Follows.mono (spares_work describe setup)
        intro deeds flow harmless free
        obtain ⟨spare, goes⟩ := harmless free.tail
        exact .stepping shut spare goes

end Program

end ShutterRadio
