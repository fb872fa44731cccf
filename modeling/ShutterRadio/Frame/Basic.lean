/-
# Frames

A frame is seven bytes.  Laid out plainly it carries a key, the buttons with a
checksum, a rolling code and the identity of a remote; on air the same seven
bytes are chained, each onto the one before it, so that the fields below name
places rather than meanings there.

Chaining is a running exclusive-or and unchaining takes neighbours apart again.
Both are defined on any seven bytes and neither looks at the checksum.
-/

namespace ShutterRadio

def frameLength : Nat := 7

/-- Seven bytes, named for what they carry before chaining. -/
@[ext]
structure Frame where
  /-- The key; receivers ignore it. -/
  key : UInt8
  /-- Buttons in the high half, checksum in the low half. -/
  control : UInt8
  codeHigh : UInt8
  codeLow : UInt8
  idHigh : UInt8
  idMid : UInt8
  idLow : UInt8
  deriving DecidableEq, Repr, Inhabited

namespace Frame

/-- The bytes in the order in which they are sent. -/
def bytes (f : Frame) : List UInt8 :=
  [f.key, f.control, f.codeHigh, f.codeLow, f.idHigh, f.idMid, f.idLow]

@[simp]
theorem length_bytes (f : Frame) : f.bytes.length = frameLength := rfl

/-- The frame made of seven received bytes. -/
def ofVector (bytes : Vector UInt8 frameLength) : Frame :=
  ⟨bytes[0], bytes[1], bytes[2], bytes[3], bytes[4], bytes[5], bytes[6]⟩

/-- The frame made of a list of bytes, if there are exactly seven. -/
def ofBytes? : List UInt8 → Option Frame
  | [key, control, codeHigh, codeLow, idHigh, idMid, idLow] =>
      some ⟨key, control, codeHigh, codeLow, idHigh, idMid, idLow⟩
  | _ => none

theorem ofBytes?_bytes (f : Frame) : ofBytes? f.bytes = some f := rfl

/-- Chain every byte onto the byte sent before it, first to last, so that each
becomes the exclusive-or of all bytes up to it. -/
def chain (f : Frame) : Frame :=
  let control := f.control ^^^ f.key
  let codeHigh := f.codeHigh ^^^ control
  let codeLow := f.codeLow ^^^ codeHigh
  let idHigh := f.idHigh ^^^ codeLow
  let idMid := f.idMid ^^^ idHigh
  let idLow := f.idLow ^^^ idMid
  ⟨f.key, control, codeHigh, codeLow, idHigh, idMid, idLow⟩

/-- Take every byte off the byte received before it.  All differences are of
bytes as received, so the order of the places does not matter. -/
def unchain (f : Frame) : Frame where
  key := f.key
  control := f.control ^^^ f.key
  codeHigh := f.codeHigh ^^^ f.control
  codeLow := f.codeLow ^^^ f.codeHigh
  idHigh := f.idHigh ^^^ f.codeLow
  idMid := f.idMid ^^^ f.idHigh
  idLow := f.idLow ^^^ f.idMid

/-- Add both halves of a byte to a running sum; only the low half of the sum
will count. -/
def addHalves (sum byte : UInt8) : UInt8 := sum ^^^ byte ^^^ (byte >>> 4)

/-- The exclusive-or of all fourteen half bytes, as a number below sixteen. -/
def checksum (f : Frame) : UInt8 := f.bytes.foldl addHalves 0 &&& 0x0f

/-- The low half of the control byte, where the checksum is carried. -/
def carried (f : Frame) : UInt8 := f.control &&& 0x0f

/-- The frame with no checksum in it yet. -/
def bare (f : Frame) : Frame := { f with control := f.control &&& 0xf0 }

/-- The rolling code, high byte first. -/
def code (f : Frame) : UInt16 :=
  f.codeHigh.toUInt16 <<< 8 ||| f.codeLow.toUInt16

/-- The identity of the remote, high byte first. -/
def identity (f : Frame) : UInt32 :=
  f.idHigh.toUInt32 <<< 16 ||| f.idMid.toUInt32 <<< 8 ||| f.idLow.toUInt32

end Frame

end ShutterRadio
