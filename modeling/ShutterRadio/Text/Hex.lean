/-
# Hexadecimal text

Bytes are written as two lowercase digits each, without separators; numbers as
`0x` followed by as few lowercase digits as they need; whole words with all
their digits.  Reading is the inverse of writing bytes, and also admits
uppercase digits.
-/

namespace ShutterRadio.Hex

/-- The lowercase digit of a number below sixteen. -/
def digit (value : Nat) : Char :=
  if value < 10 then Char.ofNat (48 + value) else Char.ofNat (87 + value)

/-- The value of one digit, in either case. -/
def digitValue? (c : Char) : Option Nat :=
  if '0' ≤ c ∧ c ≤ '9' then some (c.toNat - 48)
  else if 'a' ≤ c ∧ c ≤ 'f' then some (c.toNat - 87)
  else if 'A' ≤ c ∧ c ≤ 'F' then some (c.toNat - 55)
  else none

/-- The two digits of a byte, high half first. -/
def byteDigits (byte : UInt8) : List Char :=
  [digit (byte.toNat / 16), digit (byte.toNat % 16)]

def ofBytes (bytes : List UInt8) : String :=
  String.ofList (bytes.flatMap byteDigits)

/-- The bytes that pairs of digits stand for; nothing for an odd digit or a
character that is none. -/
def bytesOfChars? : List Char → Option (List UInt8)
  | [] => some []
  | [_] => none
  | high :: low :: rest => do
      let h ← digitValue? high
      let l ← digitValue? low
      let bytes ← bytesOfChars? rest
      return UInt8.ofNat (16 * h + l) :: bytes

/-- Read bytes written as pairs of digits. -/
def toBytes? (text : String) : Option (List UInt8) :=
  bytesOfChars? text.toList

/-- A number with the `0x` mark and no leading zeros. -/
def ofNat (value : Nat) : String :=
  "0x" ++ String.ofList (Nat.toDigits 16 value)

/-- The last `count` digits of a number, high digit first, zeros included. -/
def lastDigits (value : Nat) : (count : Nat) → List Char
  | 0 => []
  | count + 1 => digit (value / 16 ^ count % 16) :: lastDigits value count

/-- A 64-bit word with all its sixteen digits. -/
def ofWord (word : UInt64) : String :=
  String.ofList (lastDigits word.toNat 16)

/-- Read a number written in digits alone. -/
def toNat? (text : String) : Option Nat :=
  text.toList.foldlM (fun value c => (digitValue? c).map (16 * value + ·)) 0

end ShutterRadio.Hex
