/-
# Programs carried out among producers

`Program.Amid` says how far a program has come that shares its queue with producers:
the deeds that are done, what is left, and the station as it is by now.  Before each act
and after the last, producers may have had any number of wishes granted or refused, of
those that they are supposed to have.

It is taken apart as programs are put together: where one program follows another
(`amid_bind`), and in front of an act (`amid_act`), where there is a station that only
producers have touched.  What is kept by the deeds and by the wishes is kept throughout
(`Amid.keeps`).
-/

import Mathlib.Logic.Relation
import ShutterRadio.Proofs.Program.Alone
import ShutterRadio.Proofs.Service.Basic

namespace ShutterRadio

variable {σ ε τ α β : Type}

/-- One wish was granted or refused. -/
def Station.Asked (allowed : Wish → Prop) (before after : Station σ) : Prop :=
  ∃ wish answer, allowed wish ∧ wish.grant before = .ok answer after

namespace Program

/-- A program was carried out so far while producers had some wishes. -/
inductive Amid (d : Device σ ε τ) (allowed : Wish → Prop) :
    Program ε α → Station σ → List (Deed ε) → Program ε α → Station σ → Prop
  | stay (program : Program ε α) (station : Station σ) :
      Amid d allowed program station [] program station
  | act {first : Act} (next : first.Answer ε → Program ε α) {before between after : Station σ}
      {answer : first.Answer ε} {deeds : List (Deed ε)} {left : Program ε α} :
      first.perform d before = .ok answer between →
      Amid d allowed (next answer) between deeds left after →
      Amid d allowed (.act first next) before
        (⟨first, answer, d.time before.device, d.time between.device⟩ :: deeds) left after
  | wish {program left : Program ε α} {before between after : Station σ} {deeds : List (Deed ε)} :
      before.Asked allowed between → Amid d allowed program between deeds left after →
      Amid d allowed program before deeds left after

variable {d : Device σ ε τ} {allowed : Wish → Prop} {program left : Program ε α}
  {before between after : Station σ} {deeds more : List (Deed ε)} {result : α}

/-- What is done with nobody else around is done among producers that want nothing. -/
theorem Runs.amid (runs : Runs d program before deeds result after) :
    program.Amid d allowed before deeds (.done result) after := by
  induction runs with
  | done result station => exact .stay _ _
  | act next performed _ ih => exact .act next performed ih

/-- The deeds are a path through the program. -/
theorem Amid.leads (amid : program.Amid d allowed before deeds left after) :
    program.Leads deeds left := by
  induction amid with
  | stay program station => exact .start _
  | @act first next before between after answer deeds left performed _ ih =>
      exact @Leads.act ε _ ⟨first, answer, _, _⟩ deeds _ next ih
  | wish _ _ ih => exact ih

/-- What was done so far, and what was done after that. -/
theorem Amid.trans {final : Program ε α} {last : Station σ}
    (first : program.Amid d allowed before deeds left between)
    (second : left.Amid d allowed between more final last) :
    program.Amid d allowed before (deeds ++ more) final last := by
  induction first with
  | stay program station => exact second
  | act next performed _ ih => exact .act next performed (ih second)
  | wish asked _ ih => exact .wish asked (ih second)

/-- What the deeds and the wishes keep is kept. -/
theorem Amid.keeps (holds : Station σ → Prop)
    (amid : program.Amid d allowed before deeds left after)
    (acts : ∀ deed ∈ deeds, ∀ before after : Station σ, holds before →
      deed.act.perform d before = .ok deed.answer after → holds after)
    (asked : ∀ before after : Station σ, holds before → before.Asked allowed after → holds after)
    (initially : holds before) : holds after := by
  induction amid with
  | stay program station => exact initially
  | act next performed _ ih =>
      obtain ⟨here, later⟩ := List.forall_mem_cons.mp acts
      exact ih later (here _ _ initially performed)
  | wish wanted _ ih => exact ih acts (asked _ _ initially wanted)

/-- Before anything else is done, producers may have some wishes. -/
theorem Amid.of_asked (asked : Relation.ReflTransGen (Station.Asked allowed) before between)
    (amid : program.Amid d allowed between deeds left after) :
    program.Amid d allowed before deeds left after := by
  induction asked using Relation.ReflTransGen.head_induction_on with
  | refl => exact amid
  | head asked _ ih => exact .wish asked ih

/-- A program with nothing left to do does nothing. -/
theorem amid_done (amid : (done result).Amid d allowed before deeds left after) :
    deeds = [] ∧ left = .done result ∧
      Relation.ReflTransGen (Station.Asked allowed) before after := by
  generalize begun : (Program.done result : Program ε α) = program at amid
  induction amid with
  | stay program station =>
      subst begun
      exact ⟨rfl, rfl, .refl⟩
  | act next _ _ _ => cases begun
  | wish asked _ ih =>
      obtain ⟨nothing, same, others⟩ := ih begun
      exact ⟨nothing, same, .head asked others⟩

/-- An act that was followed by the rest to the end: first only producers did anything. -/
theorem amid_act {first : Act} {next : first.Answer ε → Program ε α}
    (amid : (act first next).Amid d allowed before deeds (.done result) after) :
    ∃ here answer between more, Relation.ReflTransGen (Station.Asked allowed) before here ∧
      first.perform d here = .ok answer between ∧
      deeds = ⟨first, answer, d.time here.device, d.time between.device⟩ :: more ∧
      (next answer).Amid d allowed between more (.done result) after := by
  generalize begun : Program.act first next = program at amid
  generalize ended : (Program.done result : Program ε α) = left at amid
  induction amid with
  | stay program station => exact nomatch begun.trans ended.symm
  | act next' performed rest _ =>
      cases begun
      subst ended
      exact ⟨_, _, _, _, .refl, performed, rfl, rest⟩
  | wish asked _ ih =>
      obtain ⟨here, answer, between, more, others, performed, split, rest⟩ := ih begun ended
      exact ⟨here, answer, between, more, .head asked others, performed, split, rest⟩

theorem amid_once_bind {act : Act} {rest : act.Answer ε → Program ε α}
    (amid : (once act >>= rest).Amid d allowed before deeds (.done result) after) :
    ∃ here answer between more, Relation.ReflTransGen (Station.Asked allowed) before here ∧
      act.perform d here = .ok answer between ∧
      deeds = ⟨act, answer, d.time here.device, d.time between.device⟩ :: more ∧
      (rest answer).Amid d allowed between more (.done result) after :=
  amid_act amid

/-- Two programs one after the other: the second began where the first had ended. -/
theorem amid_bind {rest : α → Program ε β} {final : β}
    (amid : (program >>= rest).Amid d allowed before deeds (.done final) after) :
    ∃ first second result between, deeds = first ++ second ∧
      program.Amid d allowed before first (.done result) between ∧
      (rest result).Amid d allowed between second (.done final) after := by
  induction program generalizing before deeds with
  | done result => exact ⟨[], deeds, result, before, rfl, .stay _ _, amid⟩
  | act act next ih =>
      obtain ⟨here, answer, between, more, asked, performed, rfl, later⟩ := amid_act amid
      obtain ⟨first, second, result, middle, rfl, done, rest⟩ := ih answer later
      exact ⟨_ :: first, second, result, middle, rfl, .of_asked asked (.act next performed done),
        rest⟩

end Program

end ShutterRadio
