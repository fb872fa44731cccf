/-
# The shortest decimal that reads back

Many decimals lie close enough to a binary number to read back as it.  Of those
with the fewest digits, the nearest is written; of two equally near, the
larger.  Everything is decided on whole numbers.

A number with a given count of digits is a point of a decimal grid.  If a grid
has any point in the interval of reals that read back as the number, then one
of the number's two neighbours on that grid is such a point, so only those two
are looked at, on ever finer grids.

No exponents are written, and no point after a whole number.
-/

import ShutterRadio.Decimal.Binary64

namespace ShutterRadio.Decimal

/-- The number `digits * 10 ^ scale`. -/
structure Approximation where
  digits : Nat
  scale : Int
  deriving DecidableEq, Repr

/-- A fraction of whole numbers. -/
structure Fraction where
  top : Nat
  bottom : Nat

/-- Multiply by a power of a base, which may be negative. -/
def Fraction.scaled (value : Fraction) (base : Nat) : Int → Fraction
  | .ofNat up => ⟨value.top * Nat.pow base up, value.bottom⟩
  | .negSucc down => ⟨value.top, value.bottom * Nat.pow base (down + 1)⟩

/-- How many decimal digits a number is written with. -/
def digitCount (value : Nat) : Nat := (Nat.toDigits 10 value).length

/-- The power of ten of the first digit of a positive fraction.  The digit
counts of both sides leave only two candidates. -/
def leadingPower (value : Fraction) : Int :=
  let guess : Int := digitCount value.top - digitCount value.bottom
  let atGuess := value.scaled 10 (-guess)
  if atGuess.bottom ≤ atGuess.top then guess else guess - 1

/-- Four times a positive mantissa, with the ends of the interval of reals that
round to it in the same unit.  Numbers are half as dense above a power of two as
below it, so there the interval is shorter on the low side. -/
structure Interval where
  low : Nat
  middle : Nat
  high : Nat
  /-- Whether the ends themselves round to the number. -/
  closed : Bool

def Interval.of (mantissa : Nat) (exponent : Int) : Interval where
  low := 4 * mantissa -
    if mantissa = Binary64.hiddenBit ∧ exponent ≠ Binary64.lowestExponent then 1 else 2
  middle := 4 * mantissa
  high := 4 * mantissa + 2
  closed := mantissa % 2 == 0

/-- Whether a multiple of some unit lies in the interval; `unit` says how many
quarter steps of the mantissa the unit is. -/
def Interval.holds (interval : Interval) (unit : Fraction) (count : Nat) : Bool :=
  let point := count * unit.top
  let low := interval.low * unit.bottom
  let high := interval.high * unit.bottom
  if interval.closed then low ≤ point ∧ point ≤ high else low < point ∧ point < high

/-- The point of one decimal grid that is to be written, if the grid has one. -/
def Interval.onGrid? (interval : Interval) (unit : Fraction) : Option Nat :=
  let below := interval.middle * unit.bottom / unit.top
  let fitsBelow := interval.holds unit below
  let fitsAbove := interval.holds unit (below + 1)
  let nearerBelow :=
    2 * (interval.middle * unit.bottom) < (2 * below + 1) * unit.top
  if fitsBelow && (!fitsAbove || nearerBelow) then some below
  else if fitsAbove then some (below + 1)
  else none

/-- Digits that end in a zero count the next power of ten. -/
def Approximation.trimmed (value : Approximation) : Approximation :=
  if value.digits % 10 = 0 then ⟨value.digits / 10, value.scale + 1⟩ else value

/-- As many digits as are needed to tell any two numbers apart. -/
def enoughDigits : Nat := 17

/-- The shortest decimal that reads back as `mantissa * 2 ^ exponent`, for a
positive mantissa. -/
def shortest (mantissa : Nat) (exponent : Int) : Approximation :=
  let interval := Interval.of mantissa exponent
  let power := leadingPower ((Fraction.mk mantissa 1).scaled 2 exponent)
  let onGrid (count : Nat) : Option Approximation :=
    let scale := power - count
    let unit := ((Fraction.mk 1 1).scaled 10 scale).scaled 2 (2 - exponent)
    (interval.onGrid? unit).map fun digits => Approximation.trimmed ⟨digits, scale⟩
  ((List.range enoughDigits).findSome? onGrid).getD ⟨0, 0⟩

/-- Write digits without an exponent. -/
def Approximation.positional (value : Approximation) : String :=
  let digits := (toString value.digits).toList
  match value.scale with
  | .ofNat zeros => String.ofList (digits ++ List.replicate zeros '0')
  | .negSucc fewer =>
      let places := fewer + 1
      let padded := List.replicate (places + 1 - digits.length) '0' ++ digits
      let whole := padded.length - places
      String.ofList (padded.take whole ++ '.' :: padded.drop whole)

/-- The text of a floating-point number.  Zero keeps its sign. -/
def text : Binary64 → String
  | .nan => "NaN"
  | .infinite negative => if negative then "-inf" else "inf"
  | .finite negative mantissa exponent =>
      (if negative then "-" else "") ++
        if mantissa = 0 then "0" else (shortest mantissa exponent).positional

end ShutterRadio.Decimal
