/-
# Sessions

A session has a station on the board and a registry of remotes beside it, and
plays everybody else: producers that ask for transmissions, remotes that are
heard, whoever turns the settings of the board, and whoever calls the station's
steps.

This module says what a session is made of, what can be done in it, what that
answers, and what is seen afterwards.
-/

import ShutterRadio.Bench.Recorder
import ShutterRadio.Bench.RegisterFile
import ShutterRadio.Bench.Settings
import ShutterRadio.Remote.Registry
import ShutterRadio.Station.Serve

namespace ShutterRadio.Bench

/-- A radio mounted on the board: a device, and where its state keeps the board. -/
structure Mount (σ ε : Type) where
  device : Device σ ε Stuck
  board : σ → Board
  onBoard : (Board → Board) → σ → σ

def recorderMount : Mount Board RadioFault := ⟨recorder, id, id⟩

/-- The radio chip with its driver, mounted. -/
def chipMount : Mount (Chip.Driver Board) Chip.Fault :=
  ⟨chipDevice, Chip.Driver.bus, fun change driver => { driver with bus := change driver.bus }⟩

/-- A session: a station, and the registry beside it. -/
structure Session (σ : Type) where
  station : Station σ
  registry : Registry

namespace Session

/-- One operation on a registered remote. -/
inductive RemoteOp
  | press (button : Button) (repeats : UInt16)
  | action (payload : List UInt8)
  | rename (name : String)
  | adopt (code : UInt16)
  | pair (blind : UInt16)
  | part (blind : UInt16)
  | takeDirty
  | restore
  deriving DecidableEq

/-- One operation of a session. -/
inductive Op
  | start
  | run
  | step (count : Nat)
  | send (transmission : Transmission) (times : Nat)
  | listen (times : Nat)
  | tryClose
  | pollDrained
  -- Ask for a shutdown, letting the station take so many steps in between.
  | close (steps : Nat)
  -- Wait for the shutdown, letting the station take so many steps in between.
  | awaitDrained (steps : Nat)
  | read (moment : Option Instant)
  | signal
  | hear (frame : Frame) (times : Nat) (announce : Bool)
  | advance (micros : Nat)
  | adjust (settings : Settings)
  | showQueue
  | add (name : String) (identity : UInt32) (code : UInt16) (blinds : Option (List UInt16))
  | remove (identity : UInt32)
  | get (identity : UInt32)
  | list
  | heard (reception : Reception)
  | poll (moment : Option Instant)
  | forget
  | manage (identity : UInt32) (op : RemoteOp)

/-- What an operation on a remote answers. -/
inductive RemoteAnswer
  | done
  | failed (error : RemoteError)
  | flag (value : Bool)
  | ignored
  | remote (remote : Remote)
  deriving DecidableEq

def RemoteAnswer.ofAttempt : Except RemoteError Unit → RemoteAnswer
  | .ok () => done
  | .error error => failed error

/-- What an operation answers. -/
inductive Answer
  | done
  | failed (error : RemoteError)
  | wouldBlock
  | stuck
  | flows (flows : List Station.Flow)
  | accepted (flags : List Bool)
  | text (text : String)
  | reception (reception : Option Reception)
  | remote (remote : Option Remote)
  | registry (registry : Registry)
  | heard (hearing : Hearing) (detected : List UInt32)
  | polled (result : Option (Reception × Hearing × List UInt32))
  -- What an operation on a remote answered, and the remote afterwards, if there
  -- is one.
  | managed (result : Option (RemoteAnswer × Remote))

def Answer.ofAttempt : Except RemoteError Unit → Answer
  | .ok () => done
  | .error error => failed error

/-- All that is seen after an operation. -/
structure Report where
  answer : Answer
  events : List String
  now : Instant
  pauses : Nat
  paused : Nat
  activity : Activity
  pending : Nat
  received : Nat
  tally : Tally
  notes : List Note

end Session

end ShutterRadio.Bench
