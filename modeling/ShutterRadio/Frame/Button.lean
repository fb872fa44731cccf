/-
# Buttons

The four buttons of a remote are single bits of a byte, and several of them may
be pressed together.  The upper half of the byte names no button, but whoever
hands a mask in gets it back unchanged: bits without a name are kept and shown
as a number.
-/

import ShutterRadio.Text.Hex

namespace ShutterRadio

/-- A set of pressed buttons, one bit each. -/
structure Button where
  /-- The bits of the buttons pressed, bits without a name included. -/
  mask : UInt8
  deriving DecidableEq, Repr, Inhabited

namespace Button

/-- The stop button, which also moves a resting shutter to its favourite
position. -/
def my : Button := ⟨0x01⟩

def up : Button := ⟨0x02⟩

def down : Button := ⟨0x04⟩

/-- The programming button on the back of a remote. -/
def prog : Button := ⟨0x08⟩

/-- Turn the sun detector on: stop and programming together. -/
def sunDetectorOn : Button := ⟨0x09⟩

/-- Turn the sun detector off: up and programming together. -/
def sunDetectorOff : Button := ⟨0x0a⟩

def known : UInt8 := 0x0f

def isEmpty (b : Button) : Bool := b.mask == 0

/-- All four buttons, whatever else is set. -/
def isAll (b : Button) : Bool := b.mask &&& known == known

/-- Whether every bit of `other` is set in `b`. -/
def contains (b other : Button) : Bool := b.mask &&& other.mask == other.mask

/-- Whether some bit is set in both. -/
def intersects (b other : Button) : Bool := b.mask &&& other.mask != 0

def union (b other : Button) : Button := ⟨b.mask ||| other.mask⟩

def intersection (b other : Button) : Button := ⟨b.mask &&& other.mask⟩

/-- Everything set in `b` and not in `other`. -/
def difference (b other : Button) : Button := ⟨b.mask &&& ~~~other.mask⟩

/-- Everything set in exactly one of the two. -/
def toggle (b other : Button) : Button := ⟨b.mask ^^^ other.mask⟩

/-- The named buttons that are not pressed. -/
def complement (b : Button) : Button := ⟨~~~b.mask &&& known⟩

/-- Only the bits that name a button. -/
def truncated (b : Button) : Button := ⟨b.mask &&& known⟩

/-- The mask itself, provided that every bit of it names a button. -/
def checked? (b : Button) : Option Button :=
  if b.mask &&& ~~~known == 0 then some b else none

/-- The four single buttons with their names, lowest bit first. -/
def singles : List (Button × String) :=
  [(my, "MY"), (up, "UP"), (down, "DOWN"), (prog, "PROG")]

/-- The names of the buttons pressed, lowest bit first.  The sun detector's
chords have no name here, since the names of their buttons say as much. -/
def names (b : Button) : List String :=
  (singles.filter fun single => b.contains single.1).map Prod.snd

/-- How a mask is shown in diagnostics: names, then the rest as one number. -/
def text (b : Button) : String :=
  let rest := b.mask &&& ~~~known
  let parts := b.names ++ if rest == 0 then [] else [Hex.ofNat rest.toNat]
  "Button(" ++ (if b.isEmpty then Hex.ofNat 0 else " | ".intercalate parts) ++ ")"

/-- Whether the mask is one press of stop, up or down, the only presses taken
from the air. -/
def isSinglePress (b : Button) : Bool :=
  b == my || b == up || b == down

end Button

end ShutterRadio
