/-
# Events on the bench

What the simulated board puts on record: calls of the radio, levels of pins,
transactions on the bus, pauses.  An event keeps everything that happened;
which events are shown, and how much of them, depends on who looks.
-/

import ShutterRadio.Note
import ShutterRadio.Time.Instant

namespace ShutterRadio.Bench

/-- One part of a transaction on the bus. -/
inductive Part
  | written (bytes : List UInt8)
  | read (bytes : List UInt8)
  | unread (count : Nat)
  deriving DecidableEq, Repr

/-- Something that happened on the board. -/
inductive Event
  | call (failed : Bool) (asked : Call) (moment : Instant) (activity : Activity)
  | light (failed level : Bool) (moment : Instant)
  | reset (failed level : Bool)
  | transfer (failed : Bool) (parts : List Part)
  | pause (micros : Nat)
  deriving DecidableEq

/-- Who looks at events. -/
inductive View
  | burst
  | session
  | chip
  deriving DecidableEq, Repr

def callName : Call → String
  | .reset => "reset"
  | .configure => "initialize"
  | .setFrequency _ => "set_frequency"
  | .frequency => "frequency"
  | .setSymbolWidth _ => "set_symbol_width"
  | .bitRate => "bit_rate"
  | .version => "version"
  | .setSync _ => "sync"
  | .setFormat _ _ => "format"
  | .transmit _ => "transmit"
  | .receive _ => "receive"
  | .listen => "listen"
  | .standby => "standby"

def levelText (level : Bool) : String := if level then "1" else "0"

/-- What a call was given, each thing after a blank. -/
def callDetail : Call → String
  | .setFrequency frequency => " " ++ Hex.ofWord frequency.bits
  | .setSymbolWidth micros => " " ++ toString micros
  | .setSync pattern => " " ++ Hex.ofBytes pattern
  | .setFormat manchester length => " " ++ levelText manchester ++ " " ++ toString length
  | .transmit packet => " " ++ Hex.ofBytes packet
  | .receive length => " " ++ toString length
  | _ => ""

def activityMark : Activity → String
  | .idle => " [I]"
  | .transmitting => " [T]"
  | .shutDown => " [S]"

/-- The mark of a failure, after the name of what failed. -/
def failureMark (failed : Bool) : String := if failed then "!" else ""

def momentText (moment : Instant) : String := " @" ++ toString moment.micros

/-- A part of a transaction, after a blank. -/
def Part.text : Part → String
  | written bytes => " w" ++ Hex.ofBytes bytes
  | read bytes => " r" ++ Hex.ofBytes bytes
  | unread count => " r(" ++ toString count ++ ")"

namespace Event

/-- Whether an event is shown at all. -/
def isShown (view : View) : Event → Bool
  | pause _ => view == .chip
  | _ => true

def text (view : View) : Event → String
  | call failed asked moment activity =>
      callName asked ++ failureMark failed ++ callDetail asked ++ momentText moment ++
        if view == .session then activityMark activity else ""
  | light failed level moment =>
      "led" ++ failureMark failed ++ " " ++ levelText level ++ momentText moment
  | reset failed level => "rst" ++ failureMark failed ++ " " ++ levelText level
  | transfer failed parts =>
      "spi" ++ failureMark failed ++ String.join (parts.map Part.text)
  | pause micros => "delay " ++ toString micros

/-- How many lines a list may have before its middle is left out. -/
def longestList : Nat := 120

/-- How many lines are shown before what is left out. -/
def shownBefore : Nat := 80

/-- How many lines are shown after what is left out. -/
def shownAfter : Nat := 40

/-- Events, given newest first, as lines in the order in which they happened;
of a long list the middle is only counted. -/
def lines (view : View) (newestFirst : List Event) : List String :=
  let shown := (newestFirst.filter (isShown view)).reverse
  let count := shown.length
  if count ≤ longestList then shown.map (text view)
  else
    (shown.take shownBefore).map (text view) ++
      ["... " ++ toString (count - longestList) ++ " more"] ++
      (shown.drop (count - shownAfter)).map (text view)

/-- The pauses among events, newest first, as they were asked for: runs of equal
lengths with their counts, in order. -/
def pauseRuns (newestFirst : List Event) : List (Nat × Nat) :=
  newestFirst.foldl (fun runs event =>
    match event, runs with
    | pause micros, (latest, count) :: rest =>
        if micros = latest then (latest, count + 1) :: rest
        else (micros, 1) :: runs
    | pause micros, [] => [(micros, 1)]
    | _, _ => runs) []

end Event

end ShutterRadio.Bench
