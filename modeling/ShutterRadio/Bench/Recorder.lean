/-
# The recording radio

A radio that does nothing but put on record what it is asked.  It remembers the
two settings that can be read back, gives out the frames that it was let
receive, and takes its time when it sends.  A call that fails is recorded and
has no other effect.
-/

import ShutterRadio.Bench.Board
import ShutterRadio.Radio.Device

namespace ShutterRadio.Bench

/-- The only fault of the recording radio. -/
inductive RadioFault
  | refused
  deriving DecidableEq, Repr

def RadioFault.text : RadioFault → String
  | .refused => "RadioFault"

namespace Board

/-- The next airtime; the last one is for all packets that follow. -/
def takeAirtime (board : Board) : Nat × Board :=
  match board.airtimes with
  | [] => (0, board)
  | [last] => (last, board)
  | next :: rest => (next, { board with airtimes := rest })

/-- Microseconds in a second. -/
def microsPerSecond : UInt32 := 1000000

/-- What a call that does not fail answers and brings about. -/
def comply (board : Board) : (asked : Call) → asked.Reply × Board
  | .setFrequency frequency => ((), { board with frequency })
  | .frequency => (board.frequency, board)
  | .setSymbolWidth symbolWidth => ((), { board with symbolWidth })
  | .bitRate => (microsPerSecond / (max board.symbolWidth 1).toUInt32, board)
  | .version => (board.version, board)
  | .transmit _ =>
      let (airtime, board) := board.takeAirtime
      ((), board.advance airtime)
  | .receive length =>
      match board.inbox with
      | [] => (.replicate length 0, board)
      | frame :: rest =>
          (.ofFn fun place => frame.bytes.getD place 0, { board with inbox := rest })
  | .reset | .configure | .setSync _ | .setFormat _ _ | .listen | .standby => ((), board)

def refuses (board : Board) (asked : Call) : Bool :=
  board.failingCalls.contains board.calls || board.failingNames.contains (callName asked)

/-- Whether a call that does not fail raises the ready line. -/
def raises (board : Board) : Call → Bool
  | .transmit _ => board.notify
  | _ => false

/-- Make a call of the recording radio. -/
def perform (activity : Activity) (asked : Call) (board : Board) :
    Outcome Board RadioFault Stuck asked.Reply :=
  let failed := board.refuses asked
  let recorded :=
    { board with calls := board.calls + 1 }.log (.call failed asked board.now activity)
  if failed then ⟨recorded, .failed .refused, [], false⟩
  else
    let (answer, after) := recorded.comply asked
    ⟨after, .answered answer, [], board.raises asked⟩

end Board

/-- The board with the recording radio, as a station's hardware. -/
def recorder : Device Board RadioFault Stuck where
  toTimebase := Board.timebase (some patience)
  perform := Board.perform
  indicate := Board.indicate
  describe := RadioFault.text

end ShutterRadio.Bench
