/-
# Notes

What the parts of the library have to say about their work while they do it.  A
note is a value that says what happened; how urgent it is and how it is worded
is decided here, for all of them.
-/

import ShutterRadio.Queue
import ShutterRadio.Radio.Call

namespace ShutterRadio

/-- The status bytes of a radio chip. -/
structure StatusFlags where
  first : UInt8
  second : UInt8
  deriving DecidableEq, Repr, Inhabited

/-- How urgent a note is. -/
inductive Level
  | debug
  | info
  | warn
  deriving DecidableEq, Repr

def Level.text : Level → String
  | .debug => "DEBUG"
  | .info => "INFO"
  | .warn => "WARN"

/-- Something worth telling. -/
inductive Note
  | refused (request : Request)
  | callFailed (call : Call) (fault : String)
  | ready (version : UInt8) (frequency : Frequency) (bitRate : UInt32)
  | stopped
  | sending (transmission : Transmission)
  | burstAbandoned (remote : UInt32) (fault : String)
  | fetchFailed (fault : String)
  | frameIgnored (reason : Rejection)
  | received (command : Command)
  | pressLost (remote : UInt32)
  | modeTimeout (flags : StatusFlags)
  | sendTimeout (flags : StatusFlags)
  | pressed (reception : Reception)
  | discovered (remote : UInt32)
  | overlooked (remote : UInt32)
  deriving DecidableEq

namespace Note

def level : Note → Level
  | refused _ | callFailed _ _ | burstAbandoned _ _ | fetchFailed _ | pressLost _
  | modeTimeout _ | sendTimeout _ => .warn
  | ready _ _ _ | stopped | received _ | discovered _ => .info
  | sending _ | frameIgnored _ | pressed _ | overlooked _ => .debug

def identity (remote : UInt32) : String := Hex.ofNat remote.toNat

def flagsText (flags : StatusFlags) : String :=
  Hex.ofNat flags.first.toNat ++ " " ++ Hex.ofNat flags.second.toNat

def text : Note → String
  | refused request => "Radio queue full or stopping, dropped " ++ request.text
  | callFailed call fault => "Radio " ++ call.title ++ " failed: " ++ fault
  | ready version frequency bitRate =>
      "Radio version " ++ Hex.ofNat version.toNat ++ " ready at " ++ frequency.text ++
        " MHz, " ++ toString bitRate ++ " bps"
  | stopped => "Radio worker stopped"
  | sending ⟨command, repeats⟩ =>
      "Sending " ++ command.button.text ++ " as remote " ++ identity command.remote ++
        ", rolling code " ++ toString command.code ++ ", " ++ toString repeats ++ " repeats"
  | burstAbandoned remote fault =>
      "Burst for remote " ++ identity remote ++ " abandoned: " ++ fault
  | fetchFailed fault => "Reading received packet failed: " ++ fault
  | frameIgnored reason => "Ignoring received frame: " ++ reason.message
  | received command =>
      "Received " ++ command.button.text ++ " from remote " ++ identity command.remote ++
        ", rolling code " ++ toString command.code
  | pressLost remote =>
      "Receive buffer full, dropped press from remote " ++ identity remote
  | modeTimeout flags => "Waited too long for mode ready, flags " ++ flagsText flags
  | sendTimeout flags => "Waited too long for packet sent, flags " ++ flagsText flags
  | pressed ⟨command, repeats⟩ =>
      "Remote " ++ identity command.remote ++ " pressed " ++ command.button.text ++ ", " ++
        toString repeats ++ " repeats"
  | discovered remote => "Detected unknown remote " ++ identity remote
  | overlooked remote =>
      "Ignoring unknown remote " ++ identity remote ++ ", discovery list full"

def line (note : Note) : String := note.level.text ++ " " ++ note.text

end Note

end ShutterRadio
