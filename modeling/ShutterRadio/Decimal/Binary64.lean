/-
# Binary floating-point numbers, taken apart

A 64-bit pattern stands for no number, an infinity, or a whole mantissa times a
power of two.  Taking it apart lets everything after that be computed exactly,
on whole numbers.
-/

namespace ShutterRadio

/-- What a 64-bit floating-point pattern stands for. -/
inductive Binary64
  | nan
  | infinite (negative : Bool)
  -- The number `mantissa * 2 ^ exponent`, with a sign that zero has too.
  | finite (negative : Bool) (mantissa : Nat) (exponent : Int)
  deriving DecidableEq, Repr

namespace Binary64

/-- The mantissa bit that normal numbers leave out of their pattern. -/
def hiddenBit : Nat := 0x10000000000000

def lowestExponent : Int := -1074

def ofBits (bits : UInt64) : Binary64 :=
  let pattern := bits.toNat
  let negative := pattern >>> 63 == 1
  let field := (pattern >>> 52) % 2048
  let fraction := pattern % hiddenBit
  if field = 2047 then
    if fraction = 0 then infinite negative else nan
  else if field = 0 then
    finite negative fraction lowestExponent
  else
    finite negative (hiddenBit + fraction) (Int.ofNat (field - 1) + lowestExponent)

/-- The nearest whole number that is not negative and not beyond `limit`; a half
goes away from zero, and what is no number at all counts as zero. -/
def roundTo (limit : Nat) : Binary64 → Nat
  | nan => 0
  | infinite negative => if negative then 0 else limit
  | finite true _ _ => 0
  | finite false mantissa exponent =>
      match exponent with
      | .ofNat up => min (mantissa <<< up) limit
      | .negSucc down => min ((mantissa + (1 <<< down)) >>> (down + 1)) limit

end Binary64

end ShutterRadio
