/-
# What a radio can be asked to do

A radio is a half-duplex transceiver for on-off keyed packets.  Everything it
can be asked is a value of `Call`, and what it answers depends on what it was
asked.  So a plan for the radio is a list of calls, and a record of what was
done with it is one too.
-/

import ShutterRadio.Radio.Frequency

namespace ShutterRadio

/-- One thing to ask of a radio. -/
inductive Call
  | reset
  | configure
  | setFrequency (frequency : Frequency)
  | frequency
  | setSymbolWidth (micros : UInt16)
  -- In bits per second.
  | bitRate
  | version
  -- An empty sync word turns it off.
  | setSync (pattern : List UInt8)
  | setFormat (manchester : Bool) (length : UInt8)
  -- Returns when the packet has left the antenna.
  | transmit (packet : List UInt8)
  | receive (length : Nat)
  | listen
  | standby
  deriving DecidableEq, Repr

namespace Call

/-- The kind of answer to a call. -/
abbrev Reply : Call → Type
  | .frequency => Frequency
  | .bitRate => UInt32
  | .version => UInt8
  | .receive length => Vector UInt8 length
  | _ => Unit

/-- What diagnostics call the things whose failure they report. -/
def title : Call → String
  | .reset => "reset"
  | .configure => "initialize"
  | .setFrequency _ => "set frequency"
  | .frequency => "frequency"
  | .setSymbolWidth _ => "set symbol width"
  | .bitRate => "bit rate"
  | .version => "version"
  | .setSync _ => "set sync bytes"
  | .setFormat _ _ => "set packet format"
  | .transmit _ => "transmit"
  | .receive _ => "receive"
  | .listen => "enable receive"
  | .standby => "standby"

end Call

end ShutterRadio
