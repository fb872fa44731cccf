/-
# Commands and their frames

A command says which remote presses which buttons under which rolling code.
`Frame.encode` lays a command out, adds the checksum and chains the bytes;
`Frame.decode` goes back.  Decoding compares the checksum first and looks at
the buttons only when it fits, so a frame with both faults is rejected for its
checksum.  It never looks at the key.

Identities have twenty-four bits and the frame has room for four buttons: what
goes beyond that is dropped by encoding, without complaint.
-/

import ShutterRadio.Frame.Basic
import ShutterRadio.Frame.Button

namespace ShutterRadio

/-- The significant bits of a remote's identity. -/
def identityMask : UInt32 := 0x00ffffff

/-- What one frame says. -/
structure Command where
  remote : UInt32
  code : UInt16
  button : Button
  deriving DecidableEq, Repr, Inhabited

/-- Why a received frame says nothing to us. -/
inductive Rejection
  | checksumMismatch (computed carried : UInt8)
  | invalidButton (mask : UInt8)
  deriving DecidableEq, Repr

def Rejection.message : Rejection → String
  | .checksumMismatch computed carried =>
      "checksum mismatch: computed " ++ Hex.ofNat computed.toNat ++
        ", frame carried " ++ Hex.ofNat carried.toNat
  | .invalidButton mask => "invalid button mask " ++ Hex.ofNat mask.toNat

namespace Frame

/-- The key of every frame sent, unless the setup names another. -/
def standardKey : UInt8 := 0x50

/-- The key sent by older deployments. -/
def legacyKey : UInt8 := 0xa7

/-- A command laid out without its checksum. -/
def layout (key : UInt8) (command : Command) : Frame where
  key := key
  control := (command.button.mask &&& 0x0f) <<< 4
  codeHigh := (command.code >>> 8).toUInt8
  codeLow := command.code.toUInt8
  idHigh := (command.remote >>> 16).toUInt8
  idMid := (command.remote >>> 8).toUInt8
  idLow := command.remote.toUInt8

/-- A command laid out with its checksum, not chained yet. -/
def plain (key : UInt8) (command : Command) : Frame :=
  let unsigned := layout key command
  { unsigned with control := unsigned.control ||| unsigned.checksum }

/-- The frame that is sent for a command. -/
def encode (key : UInt8) (command : Command) : Frame :=
  (plain key command).chain

/-- The command that a received frame carries. -/
def decode (received : Frame) : Except Rejection Command :=
  let frame := received.unchain
  let computed := frame.bare.checksum
  let button : Button := ⟨frame.control >>> 4⟩
  if computed ≠ frame.carried then
    .error (.checksumMismatch computed frame.carried)
  else if button.isSinglePress then
    .ok ⟨frame.identity, frame.code, button⟩
  else
    .error (.invalidButton button.mask)

end Frame

end ShutterRadio
