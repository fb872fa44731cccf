/-
# Carrier frequencies

A carrier frequency is given in megahertz as a 64-bit floating-point number and
kept as its bit pattern, because a radio is told the very number that the setup
holds, whatever it stands for.  A synthesiser has no such numbers: it counts
steps, and which count comes nearest is computed in floating point and rounded
exactly.
-/

import ShutterRadio.Decimal.Shortest
import ShutterRadio.Text.Hex

namespace ShutterRadio

/-- A carrier frequency in megahertz. -/
structure Frequency where
  bits : UInt64
  deriving DecidableEq, Repr, Inhabited

namespace Frequency

/-- The frequency that a number of megahertz stands for. -/
def ofFloat (megahertz : Float) : Frequency := ⟨megahertz.toBits⟩

/-- The frequency of shutter motors, 433.42 MHz. -/
def standard : Frequency := ⟨0x407b16b851eb851f⟩

/-- The number in megahertz, with as few digits as tell it from all others. -/
def text (frequency : Frequency) : String :=
  Decimal.text (Binary64.ofBits frequency.bits)

/-- One step of the synthesiser, in hertz. -/
def step : Float := 61.03515625

/-- Hertz in a megahertz. -/
def perMega : Float := 1000000.0

/-- The count of steps nearest to a frequency, as a 32-bit number: what lies
outside counts as the nearest end, and what is no number as zero. -/
def steps (frequency : Frequency) : UInt32 :=
  let count := Float.ofBits frequency.bits * perMega / step
  UInt32.ofNat ((Binary64.ofBits count.toBits).roundTo (UInt32.size - 1))

/-- The frequency that a count of steps stands for. -/
def ofSteps (count : UInt32) : Frequency :=
  ofFloat (count.toFloat * step / perMega)

end Frequency

end ShutterRadio
