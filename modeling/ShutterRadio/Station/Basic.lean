/-
# Stations

A station owns a device and serves one queue.  `Work` is what can be done to it:
change its state, its device's included, and possibly be abandoned half-way when
the device refuses a pause.  Being abandoned loses nothing; the state is kept
as it was then.

This module holds the state and the primitive changes of it.  Every one of them
touches the device through exactly one of its operations.
-/

import ShutterRadio.Radio.Device

namespace ShutterRadio

/-- What a station sets its radio up with, and what it puts in every frame. -/
structure Setup where
  frequency : Frequency
  /-- Width of a symbol, in microseconds. -/
  symbolWidth : UInt16
  key : UInt8
  deriving DecidableEq, Repr

/-- The width of a symbol, half a Manchester bit, in microseconds. -/
def standardSymbolWidth : UInt16 := 640

def Setup.standard : Setup := ⟨.standard, standardSymbolWidth, Frame.standardKey⟩

/-- Which level turns an indicator light on. -/
inductive Polarity
  | activeHigh
  | activeLow
  deriving DecidableEq, Repr

/-- The level of the pin for a light that is to be on, or off. -/
def Polarity.level (polarity : Polarity) (on : Bool) : Bool :=
  match polarity with
  | .activeHigh => on
  | .activeLow => !on

/-- What a station has counted since it was made.  The counts wrap round. -/
structure Tally where
  /-- Bursts sent in full. -/
  sent : UInt32
  /-- Bursts abandoned at a fault. -/
  abandoned : UInt32
  /-- Received frames that started a new reception. -/
  heard : UInt32
  /-- Received frames that carried no command. -/
  rejected : UInt32
  /-- Received frames that found the receive buffer full. -/
  lost : UInt32
  deriving DecidableEq, Repr, Inhabited

/-- A station and all it works with. -/
structure Station (σ : Type) where
  setup : Setup
  indicator : Option Polarity
  tally : Tally
  queue : Queue
  device : σ
  /-- What there was to tell, newest first. -/
  journal : List Note

/-- What a station counts. -/
inductive Counter
  | sent
  | abandoned
  | heard
  | rejected
  | lost
  deriving DecidableEq, Repr

/-- One more of something; a count wraps round. -/
def Tally.bump (tally : Tally) : Counter → Tally
  | .sent => { tally with sent := tally.sent + 1 }
  | .abandoned => { tally with abandoned := tally.abandoned + 1 }
  | .heard => { tally with heard := tally.heard + 1 }
  | .rejected => { tally with rejected := tally.rejected + 1 }
  | .lost => { tally with lost := tally.lost + 1 }

namespace Station

/-- A station that has not done anything yet. -/
def fresh {σ : Type} (setup : Setup) (indicator : Option Polarity) (device : σ) : Station σ :=
  ⟨setup, indicator, ⟨0, 0, 0, 0, 0⟩, .empty, device, []⟩

/-- What can be done to a station: it may be abandoned for `τ`, and keeps its
state then. -/
abbrev Work (σ τ : Type) := EStateM τ (Station σ)

variable {σ ε τ : Type}

def tell (note : Note) : Work σ τ Unit :=
  modify fun station => { station with journal := note :: station.journal }

def count (counter : Counter) : Work σ τ Unit :=
  modify fun station => { station with tally := station.tally.bump counter }

def share (change : Queue → Queue) : Work σ τ Unit :=
  modify fun station => { station with queue := change station.queue }

/-- Make a call.  A ready line that rose meanwhile leaves its mark in the queue. -/
def call (d : Device σ ε τ) (asked : Call) : Work σ τ (Except ε asked.Reply) := fun station =>
  let outcome := d.perform station.queue.activity asked station.device
  let after := { station with
    device := outcome.device
    journal := outcome.notes.reverse ++ station.journal
    queue := if outcome.edge then station.queue.signal else station.queue }
  match outcome.ending with
  | .answered answer => .ok (.ok answer) after
  | .failed fault => .ok (.error fault) after
  | .abandoned reason => .error reason after

def clock (d : Device σ ε τ) : Work σ τ Instant := fun station =>
  let (moment, device) := d.read station.device
  .ok moment { station with device }

def passing (lapse : σ → EStateM.Result τ σ Unit) : Work σ τ Unit := fun station =>
  match lapse station.device with
  | .ok () device => .ok () { station with device }
  | .error reason device => .error reason { station with device }

/-- Pause for about so many microseconds. -/
def pause (d : Device σ ε τ) (micros : Nat) : Work σ τ Unit :=
  passing (d.pause micros)

/-- Wait until the clock reads a deadline. -/
def waitUntil (d : Device σ ε τ) (deadline : Instant) : Work σ τ Unit :=
  passing (d.toTimebase.wait deadline)

/-- Turn the indicator light on or off, if there is one. -/
def light (d : Device σ ε τ) (on : Bool) : Work σ τ Unit :=
  modify fun station =>
    match station.indicator with
    | none => station
    | some polarity =>
        { station with device := d.indicate (polarity.level on) station.device }

/-- Change what is shared with producers and answer what that brought to light. -/
def consult {α : Type} (access : Queue → α × Queue) : Work σ τ α := fun station =>
  let (answer, queue) := access station.queue
  .ok answer { station with queue }

/-! ## What the primitive changes change -/

/-- Letting time pass changes nothing but the device. -/
theorem passing_eq_ok {lapse : σ → EStateM.Result τ σ Unit} {before after : Station σ}
    (passed : passing lapse before = .ok () after) :
    lapse before.device = .ok () after.device ∧
      after = { before with device := after.device } := by
  unfold passing at passed
  split at passed
  · rename_i device lapsed
    injection passed with _ changed
    subst changed
    exact ⟨lapsed, rfl⟩
  · cases passed

/-- Reading the clock changes nothing but the device. -/
theorem clock_eq_ok {d : Device σ ε τ} {before after : Station σ} {now : Instant}
    (reading : clock d before = .ok now after) :
    (d.read before.device).1 = now ∧
      after = { before with device := (d.read before.device).2 } := by
  injection reading with same changed
  exact ⟨same, changed.symm⟩

/-- A call that comes to an end may raise the ready line and tell something, and
leaves the device as it says. -/
theorem call_eq_ok {d : Device σ ε τ} {asked : Call}
    {before after : Station σ} {answer : Except ε asked.Reply}
    (made : call d asked before = .ok answer after) :
    ∃ ready journal, after = { before with
      device := (d.perform before.queue.activity asked before.device).device
      journal := journal
      queue := { before.queue with ready := ready } } := by
  simp only [call] at made
  have raised : (if (d.perform before.queue.activity asked before.device).edge then
      before.queue.signal else before.queue) =
        { before.queue with ready := before.queue.ready ||
          (d.perform before.queue.activity asked before.device).edge } := by
    cases (d.perform before.queue.activity asked before.device).edge <;>
      simp [Queue.signal]
  rw [raised] at made
  split at made
  · injection made with _ changed
    exact ⟨_, _, changed.symm⟩
  · injection made with _ changed
    exact ⟨_, _, changed.symm⟩
  · cases made

/-- A call that the radio answers has that answer. -/
theorem answer_of_answered {d : Device σ ε τ} {asked : Call}
    {before after : Station σ} {answer : Except ε asked.Reply} {reply : asked.Reply}
    (made : call d asked before = .ok answer after)
    (answered : (d.perform before.queue.activity asked before.device).ending = .answered reply) :
    answer = .ok reply := by
  simp only [call, answered] at made
  injection made with same _
  exact same.symm

theorem consult_eq_ok {α : Type} (access : Queue → α × Queue) {before after : Station σ}
    {answer : α} (consulted : (consult access : Work σ τ α) before = .ok answer after) :
    (access before.queue).1 = answer ∧
      after = { before with queue := (access before.queue).2 } := by
  injection consulted with same changed
  exact ⟨same, changed.symm⟩

end Station

end ShutterRadio
