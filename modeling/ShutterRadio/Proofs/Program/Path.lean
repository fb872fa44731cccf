/-
# Paths of a program

A program that shares its queue with others is not carried out in one go.  What
stays true of it all the same is the order of its acts: however the answers come
about, the acts done so far are the beginning of a path through the program, and
what is left to do is where that path ends.

`Program.Leads` says so of a list of deeds.  `Program.Follows` is its dual for
proofs: a specification that holds of every path, finished or not, computed along
the program.  Nothing is assumed about answers here, so what is proved this way
holds on every device, whichever of its calls fail, and in the presence of any
number of producers.
-/

import ShutterRadio.Station.Serve

namespace ShutterRadio

/-- An act that was carried out. -/
structure Deed (ε : Type) where
  act : Act
  answer : act.Answer ε
  begun : Instant
  ended : Instant

namespace Program

variable {ε α β : Type}

/-- The result of a program that has nothing left to do. -/
def result? : Program ε α → Option α
  | .done result => some result
  | .act _ _ => none

/-- The deeds are the first that a program did, and what is left to do of it. -/
inductive Leads : Program ε α → List (Deed ε) → Program ε α → Prop
  | start (program : Program ε α) : Leads program [] program
  | act {deed : Deed ε} {deeds : List (Deed ε)} {left : Program ε α}
      (next : deed.act.Answer ε → Program ε α) :
      Leads (next deed.answer) deeds left → Leads (.act deed.act next) (deed :: deeds) left

/-- One more deed, at the end of a path. -/
theorem Leads.snoc {program : Program ε α} {deeds : List (Deed ε)} {deed : Deed ε}
    {next : deed.act.Answer ε → Program ε α}
    (leads : program.Leads deeds (.act deed.act next)) :
    program.Leads (deeds ++ [deed]) (next deed.answer) := by
  generalize hleft : Program.act deed.act next = left at leads
  induction leads with
  | start program =>
      subst hleft
      exact .act next (.start _)
  | act further _ ih => exact .act further (ih hleft)

/-- A specification holds of every path of a program: of the deeds so far, and
of the result if there is one. -/
def Follows : Program ε α → (List (Deed ε) → Option α → Prop) → Prop
  | .done result, spec => spec [] (some result)
  | .act first next, spec =>
      spec [] none ∧ ∀ (answer : first.Answer ε) (begun ended : Instant),
        (next answer).Follows fun deeds result =>
          spec (⟨first, answer, begun, ended⟩ :: deeds) result

variable {spec weaker : List (Deed ε) → Option α → Prop}

/-- What a program follows is true of each of its paths. -/
theorem Leads.satisfies {program left : Program ε α} {deeds : List (Deed ε)}
    (leads : program.Leads deeds left) (follows : program.Follows spec) :
    spec deeds left.result? := by
  induction leads generalizing spec with
  | start program =>
      cases program with
      | done result => exact follows
      | act first next => exact follows.1
  | act next _ ih => exact ih (follows.2 _ _ _)

theorem Follows.mono {program : Program ε α} (follows : program.Follows spec)
    (weaken : ∀ deeds result, spec deeds result → weaker deeds result) :
    program.Follows weaker := by
  induction program generalizing spec weaker with
  | done result => exact weaken _ _ follows
  | act first next ih =>
      exact ⟨weaken _ _ follows.1, fun answer begun ended =>
        ih answer (follows.2 answer begun ended) fun _ _ => weaken _ _⟩

theorem Follows.and {also : List (Deed ε) → Option α → Prop} {program : Program ε α}
    (first : program.Follows spec) (second : program.Follows also) :
    program.Follows fun deeds result => spec deeds result ∧ also deeds result := by
  induction program generalizing spec also with
  | done result => exact ⟨first, second⟩
  | act act next ih =>
      exact ⟨⟨first.1, second.1⟩, fun answer begun ended =>
        ih answer (first.2 answer begun ended) (second.2 answer begun ended)⟩

/-- Many specifications at once. -/
theorem follows_forall {ι : Sort _} {specs : ι → List (Deed ε) → Option α → Prop}
    {program : Program ε α} (each : ∀ i, program.Follows (specs i)) :
    program.Follows fun deeds result => ∀ i, specs i deeds result := by
  induction program generalizing specs with
  | done result => exact each
  | act act next ih =>
      exact ⟨fun i => (each i).1, fun answer begun ended =>
        ih answer fun i => (each i).2 answer begun ended⟩

/-- Programs one after the other: the second starts where the first ended. -/
theorem follows_bind {program : Program ε α} {rest : α → Program ε β}
    {spec : List (Deed ε) → Option β → Prop} :
    (program >>= rest).Follows spec ↔
      program.Follows fun deeds result =>
        match result with
        | none => spec deeds none
        | some result => (rest result).Follows fun more final => spec (deeds ++ more) final := by
  induction program generalizing spec with
  | done result => simp only [done_bind, Follows, List.nil_append]
  | act first next ih => simp only [act_bind, Follows, ih, List.cons_append]

/-! ## Programs that use some acts only -/

/-- Every act that a program can come to is allowed. -/
def Uses (allowed : Act → Prop) : Program ε α → Prop
  | .done _ => True
  | .act first next => allowed first ∧ ∀ answer, (next answer).Uses allowed

variable {allowed : Act → Prop}

@[simp]
theorem uses_done (result : α) : (Program.done result : Program ε α).Uses allowed := trivial

@[simp]
theorem uses_once (act : Act) : (once act : Program ε _).Uses allowed ↔ allowed act :=
  ⟨And.left, fun permitted => ⟨permitted, fun _ => trivial⟩⟩

theorem Uses.bind {program : Program ε α} {rest : α → Program ε β}
    (first : program.Uses allowed) (second : ∀ result, (rest result).Uses allowed) :
    (program >>= rest).Uses allowed := by
  induction program with
  | done result => exact second result
  | act act next ih => exact ⟨first.1, fun answer => ih answer (first.2 answer)⟩

/-- A specification that holds whenever only allowed acts were done. -/
theorem Uses.follows {program : Program ε α} (uses : program.Uses allowed)
    (holds : ∀ deeds result, (∀ deed ∈ deeds, allowed deed.act) → spec deeds result) :
    program.Follows spec := by
  induction program generalizing spec with
  | done result => exact holds _ _ (by simp)
  | act first next ih =>
      refine ⟨holds _ _ (by simp), fun answer begun ended => ih answer (uses.2 answer) ?_⟩
      intro deeds result others
      exact holds _ _ (List.forall_mem_cons.mpr ⟨uses.1, others⟩)

/-- What a program cannot come to is not on its paths. -/
theorem Leads.among {program left : Program ε α} {deeds : List (Deed ε)}
    (leads : program.Leads deeds left) (uses : program.Uses allowed) :
    ∀ deed ∈ deeds, allowed deed.act :=
  have follows : program.Follows fun deeds _ => ∀ deed ∈ deeds, allowed deed.act :=
    uses.follows fun _ _ each => each
  leads.satisfies follows

end Program

end ShutterRadio
