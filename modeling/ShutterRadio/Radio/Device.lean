/-
# Devices

A device is all the hardware that a station works with: a timebase, a radio and
an indicator light.  It acts on a state of its own, about which nothing is
assumed, so whatever holds of a station on every device holds of it on every
board, whichever of its calls fail.

A call is answered, fails, or is abandoned because a pause in it was refused.
In each case the device is left in some state, may have had something to tell,
and may have raised its ready line on the way.
-/

import ShutterRadio.Note
import ShutterRadio.Time.Timebase

namespace ShutterRadio

/-- How a call ended: answered with `α`, failed with `ε`, or abandoned for `τ`. -/
inductive Ending (ε τ α : Type)
  | answered (answer : α)
  | failed (fault : ε)
  -- The call never came to an end.
  | abandoned (reason : τ)
  deriving DecidableEq

/-- All that a call brings about. -/
structure Outcome (σ ε τ α : Type) where
  device : σ
  ending : Ending ε τ α
  notes : List Note
  edge : Bool

/-- The hardware of a station, on a state `σ`, with faults `ε` of its radio and
reasons `τ` to abandon what is going on. -/
structure Device (σ ε τ : Type) extends Timebase σ τ where
  /-- Make a call.  What the station is doing is shown to the device, which may
  put it on record but has no other use for it. -/
  perform : Activity → (call : Call) → σ → Outcome σ ε τ call.Reply
  /-- Drive the pin of the indicator light to a level.  Whether that worked is
  of no interest to anybody. -/
  indicate : Bool → σ → σ
  describe : ε → String

end ShutterRadio
