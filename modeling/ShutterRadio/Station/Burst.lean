/-
# Bursts

One press is sent as a burst: a wake pulse without sync word and coding, the
frame after a short sync word, and the repeats after the full one.  Motors rely
on the cadence, so every frame but the wake pulse has a due time, and all due
times are counted from one reading of the clock just before the wake pulse.
Time spent on air or on the bus therefore never pushes later frames back.

`Burst.plan` writes the whole burst down as a list; `Program.play` does what
the list says until something fails.  What is left of the burst is dropped
then, since a motor would misread a burst with a gap anyway.
-/

import ShutterRadio.Station.Program

namespace ShutterRadio

namespace Burst

/-- What is sent raw, to wake the receiver of a motor. -/
def wakePattern : List UInt8 := [0xff, 0xff]

/-- The sync word of the first frame. -/
def firstSync : List UInt8 := [0xf0, 0xf0, 0xfe]

/-- The sync word of the repeats, which ends with that of the first frame. -/
def repeatSync : List UInt8 := [0xf0, 0xf0, 0xf0, 0xf0, 0xf0, 0xf0, 0xf0, 0xfe]

/-- From the wake pulse to the first frame, in microseconds. -/
def firstFrameDelay : Nat := 29000

/-- From the first frame to the first repeat, in microseconds. -/
def firstRepeatDelay : Nat := 115000

/-- From one repeat to the next, in microseconds. -/
def repeatInterval : Nat := 139000

/-- How often a short press is repeated. -/
def shortPress : UInt16 := 3

/-- How often a long press is repeated. -/
def longPress : UInt16 := 12

/-- One entry of a plan. -/
inductive Step
  | ask (call : Call)
  -- Read the clock: due times count from here.
  | mark
  -- Wait until so many microseconds after the mark.
  | await (offset : Nat)
  deriving DecidableEq

/-- When a repeat is due, counted from the wake pulse; the first has number 0. -/
def repeatDue (number : Nat) : Nat :=
  firstFrameDelay + firstRepeatDelay + number * repeatInterval

/-- What wakes the motor and sends the first frame, up to the sync word that is
ready for repeats, whether or not there are any. -/
def opening (frame : Frame) : List Step :=
  [.ask (.setSync []), .ask (.setFormat false 2), .mark, .ask (.transmit wakePattern),
    .ask (.setSync firstSync), .ask (.setFormat true 7), .await firstFrameDelay,
    .ask (.transmit frame.bytes), .ask (.setSync repeatSync)]

def plan (frame : Frame) (repeats : Nat) : List Step :=
  opening frame ++ (List.range repeats).flatMap fun number =>
    [.await (repeatDue number), .ask (.transmit frame.bytes)]

end Burst

namespace Program

variable {ε : Type}

/-- Do what a plan says, up to the first call that fails; `mark` is what due
times count from. -/
def play (mark : Instant) : List Burst.Step → Program ε (Except ε Unit)
  | [] => pure (.ok ())
  | .ask asked :: rest => do
      match ← once (.call asked) with
      | .ok _ => play mark rest
      | .error fault => pure (.error fault)
  | .mark :: rest => do
      let now ← once .clock
      play now rest
  | .await offset :: rest => do
      once (.wait (mark.later offset))
      play mark rest

def burst (frame : Frame) (repeats : UInt16) : Program ε (Except ε Unit) :=
  play .origin (Burst.plan frame repeats.toNat)

end Program

/-- Send a frame and its repeats on a device. -/
def Station.burst {σ ε τ : Type} (d : Device σ ε τ) (frame : Frame) (repeats : UInt16) :
    Work σ τ (Except ε Unit) :=
  (Program.burst frame repeats).alone d

end ShutterRadio
