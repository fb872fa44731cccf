/-
# Programs of a station

What a station does is written down as a program: acts one after the other,
where what comes next may depend on what the last act answered.  An act is what
nobody else can come in between: one look at what is shared with producers, one
change of it, or one use of the device.  Between two acts everybody else may do
what they like.

A program knows nothing of the device or of the producers, only what its acts
answer.  `Program.alone` carries it out with nobody else around; nothing is
claimed here about what others may do meanwhile.
-/

import ShutterRadio.Station.Basic

namespace ShutterRadio

/-- What a station can do in one go. -/
inductive Act
  | tell (note : Note)
  | count (counter : Counter)
  | become (activity : Activity)
  -- See what was said last.
  | look
  -- Take back the announcement of a packet, and see whether there was one.
  | calm
  | next
  | record (command : Command) (stamp : Instant)
  | call (asked : Call)
  | clock
  | pause (micros : Nat)
  | wait (deadline : Instant)
  | light (on : Bool)
  deriving DecidableEq

namespace Act

/-- The kind of answer to an act, if calls fail with `ε`. -/
abbrev Answer (ε : Type) : Act → Type
  | .look => Activity
  | .calm => Bool
  | .next => Option Request
  | .record _ _ => Placement
  | .call asked => Except ε asked.Reply
  | .clock => Instant
  | _ => Unit

variable {σ ε τ : Type}

def perform (d : Device σ ε τ) : (act : Act) → Station.Work σ τ (act.Answer ε)
  | .tell note => Station.tell note
  | .count counter => Station.count counter
  | .become activity => Station.share (·.become activity)
  | .look => Station.consult fun queue => (queue.activity, queue)
  | .calm => Station.consult fun queue => (queue.ready, queue.calm)
  | .next => Station.consult Queue.take
  | .record command stamp => Station.consult (·.record command stamp)
  | .call asked => Station.call d asked
  | .clock => Station.clock d
  | .pause micros => Station.pause d micros
  | .wait deadline => Station.waitUntil d deadline
  | .light on => Station.light d on

end Act

/-- Acts one after the other, and a result in the end. -/
inductive Program (ε α : Type)
  | done (result : α)
  | act (first : Act) (next : first.Answer ε → Program ε α)

namespace Program

variable {σ ε τ α β γ : Type}

def once (act : Act) : Program ε (act.Answer ε) := .act act .done

/-- A program, and what is to be done after each of its results. -/
def bind : Program ε α → (α → Program ε β) → Program ε β
  | .done result, rest => rest result
  | .act first next, rest => .act first fun answer => (next answer).bind rest

instance : Monad (Program ε) where
  pure := .done
  bind := .bind

@[simp]
theorem pure_eq (result : α) : (pure result : Program ε α) = .done result := rfl

@[simp]
theorem done_bind (result : α) (rest : α → Program ε β) :
    Program.done result >>= rest = rest result := rfl

@[simp]
theorem act_bind (first : Act) (next : first.Answer ε → Program ε α)
    (rest : α → Program ε β) :
    Program.act first next >>= rest = .act first fun answer => next answer >>= rest := rfl

@[simp]
theorem once_bind (act : Act) (rest : act.Answer ε → Program ε β) :
    once act >>= rest = .act act rest := rfl

theorem bind_done (program : Program ε α) : program.bind .done = program := by
  induction program with
  | done result => rfl
  | act first next ih => exact congrArg (Program.act first) (funext ih)

theorem bind_bind (program : Program ε α) (middle : α → Program ε β)
    (rest : β → Program ε γ) :
    (program.bind middle).bind rest = program.bind fun result => (middle result).bind rest := by
  induction program with
  | done result => rfl
  | act first next ih => exact congrArg (Program.act first) (funext ih)

instance : LawfulMonad (Program ε) :=
  LawfulMonad.mk' (Program ε) bind_done (fun _ _ => rfl) bind_bind

/-- Carry out a program with nobody else around. -/
def alone (d : Device σ ε τ) : Program ε α → Station.Work σ τ α
  | .done result => fun station => .ok result station
  | .act first next => fun station =>
      match first.perform d station with
      | .ok answer after => alone d (next answer) after
      | .error reason after => .error reason after

end Program

end ShutterRadio
