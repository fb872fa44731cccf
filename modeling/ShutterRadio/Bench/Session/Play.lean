/-
# Playing a session

Every operation of a session is a change of its station, of its registry or of
the board, and answers something.  After each operation everything that can be
seen is seen.

A session ends early when an operation gets stuck.  What can be seen by then is
still seen.
-/

import ShutterRadio.Bench.Session.Basic

namespace ShutterRadio.Bench

namespace Session

abbrev Play (σ : Type) := EStateM Stuck (Session σ)

variable {σ ε : Type}

def onStation {α : Type} (work : Station.Work σ Stuck α) : Play σ α := fun session =>
  match work session.station with
  | .ok result station => .ok result { session with station }
  | .error reason station => .error reason { session with station }

def onBoard (mount : Mount σ ε) (change : Board → Board) : Play σ Unit :=
  modify fun session =>
    { session with station :=
        { session.station with device := mount.onBoard change session.station.device } }

/-- Do something again and again and collect what it answers. -/
def repeatedly {m : Type → Type} [Monad m] {α : Type} (action : m α) : (times : Nat) → m (List α)
  | 0 => pure []
  | times + 1 => return (← action) :: (← repeatedly action times)

/-- How a producer sleeps that waits for the station: the board pauses, and the
station takes some steps meanwhile. -/
def sleep (mount : Mount σ ε) (steps : Nat) : Station.Work σ Stuck Unit := do
  Station.pause mount.device (Station.shutdownPollMillis * 1000)
  let _ ← repeatedly (Station.step mount.device) steps

/-- How often polling is tried.  Every try that does not end the polling uses up
a pause, a request or a ready line, of which together there are fewer. -/
def pollLimit : Nat := patience + 2 * queueCapacity

def unlessEndless (ended : Bool) : Play σ Answer :=
  if ended then pure .done else throw .stuck

/-- The moment that is meant: the given one, or the board's now. -/
def momentOr (mount : Mount σ ε) (moment : Option Instant) : Play σ Instant :=
  return moment.getD (mount.board (← get).station.device).now

/-- Let the registry do something. -/
def onRegistry {α : Type} (method : StateM Registry α) : Play σ α :=
  modifyGet fun session =>
    let (answer, registry) := method session.registry
    (answer, { session with registry })

def hearing (reception : Reception) : Play σ (Hearing × List UInt32) := do
  let hearing ← onRegistry (·.hear reception)
  match hearing.note? reception with
  | some note => onStation (Station.tell note)
  | none => pure ()
  return (hearing, (← get).registry.detected.toList)

/-- The remote to be added: a new one, or one just as it was stored. -/
def remoteFor (name : String) (identity : UInt32) (code : UInt16) :
    Option (List UInt16) → Except RemoteError Remote
  | none => Remote.make name identity code
  | some blinds => do
      let name ← Name.ofString name
      match Bounded.ofList? blinds with
      | some blinds => return .restore ⟨name, identity, code, blinds⟩
      | none => throw .tooManyBlinds

def settle (identity : UInt32) (remote : Remote) : Play σ Unit :=
  modify fun session => { session with registry := session.registry.replace identity remote }

/-- Press buttons of a remote; a refusal is told.  Answers whether the queue
accepted. -/
def pressRemote (button : Button) (repeats : UInt16) : StateT Remote (Play σ) Bool :=
  Remote.press (fun request => onStation (Station.offer request)) button repeats

/-- Do something with a remote. -/
def operate : RemoteOp → StateT Remote (Play σ) RemoteAnswer
  | .press button repeats => return .flag (← pressRemote button repeats)
  | .action payload => do
      match Action.ofPayload? payload with
      | none => return .ignored
      | some action => return .flag (← pressRemote action.button Burst.shortPress)
  | .rename name => return .ofAttempt (← modifyGet (Remote.rename name))
  | .adopt code => do
      modify (·.adopt code)
      return .done
  | .pair blind => return .ofAttempt (← modifyGet (Remote.pair blind))
  | .part blind => return .flag (← modifyGet (Remote.part blind))
  | .takeDirty => return .flag (← modifyGet fun remote => (remote.dirty, remote.cleaned))
  | .restore => return .remote (.restore (← get).profile)

def perform (mount : Mount σ ε) : Op → Play σ Answer
  | .start => do
      onStation (Station.start mount.device)
      return .done
  | .run => do unlessEndless (← onStation (Station.run mount.device pollLimit))
  | .step count =>
      return .flows (← repeatedly (onStation (Station.step mount.device)) count)
  | .send transmission times =>
      return .accepted (← repeatedly (onStation (Station.offer (.transmit transmission))) times)
  | .listen times =>
      return .accepted (← repeatedly (onStation (Station.offer .listen)) times)
  | .tryClose => do
      if ← onStation Station.tryClose then pure .done else pure .wouldBlock
  | .pollDrained =>
      return if (← get).station.queue.isDrained then .done else .wouldBlock
  | .close steps => do
      unlessEndless (← onStation (Station.close (sleep mount steps) pollLimit))
  | .awaitDrained steps => do
      unlessEndless (← onStation (Station.awaitDrained (sleep mount steps) pollLimit))
  | .read moment => do
      let moment ← momentOr mount moment
      return .reception (← onStation (Station.read moment))
  | .signal => do
      onStation (Station.share Queue.signal)
      return .done
  | .hear frame times announce => do
      let _ ← repeatedly (onBoard mount (·.hear frame)) times
      if announce then onStation (Station.share Queue.signal)
      return .done
  | .advance micros => do
      onBoard mount (·.advance micros)
      return .done
  | .adjust settings => do
      onBoard mount (·.adjust settings)
      return .done
  | .showQueue => return .text (← get).station.queue.text
  | .add name identity code blinds => do
      match remoteFor name identity code blinds with
      | .ok remote => return .ofAttempt (← onRegistry (Registry.add remote))
      | .error error => pure (.failed error)
  | .remove identity => return .remote (← onRegistry (Registry.remove identity))
  | .get identity => return .remote ((← get).registry.find? identity)
  | .list => return .registry (← get).registry
  | .heard reception => do
      let (hearing, detected) ← hearing reception
      return .heard hearing detected
  | .poll moment => do
      let moment ← momentOr mount moment
      match ← onStation (Station.read moment) with
      | none => pure (.polled none)
      | some reception => do
          let (hearing, detected) ← hearing reception
          return .polled (some (reception, hearing, detected))
  | .forget => do
      modify fun session => { session with registry := session.registry.forget }
      return .done
  | .manage identity op => do
      match (← get).registry.find? identity with
      | none => pure (.managed none)
      | some remote => do
          let (answer, remote) ← operate op remote
          settle identity remote
          return .managed (some (answer, remote))

/-- Look at everything there is to see. -/
def look (mount : Mount σ ε) (answer : Answer) (session : Session σ) : Report :=
  let station := session.station
  let board := mount.board station.device
  { answer
    events := Event.lines .session board.events
    now := board.now
    pauses := board.pauses
    paused := board.paused
    activity := station.queue.activity
    pending := station.queue.pending
    received := station.queue.receivedSize
    tally := station.tally
    notes := station.journal.reverse }

/-- The session after a change of the board, with nothing left to tell. -/
def turnPage (mount : Mount σ ε) (change : Board → Board) (session : Session σ) : Session σ :=
  { session with
    station :=
      { session.station with
        device := mount.onBoard change session.station.device
        journal := [] } }

/-- Carry out operations one by one, each with its own count of pauses, and look
after each of them, until all are done or one got stuck. -/
def runFrom (mount : Mount σ ε) (session : Session σ) : List Op → List Report
  | [] => []
  | op :: rest =>
      match perform mount op (turnPage mount Board.restart session) with
      | .ok answer after =>
          look mount answer after :: runFrom mount (turnPage mount Board.clear after) rest
      | .error .stuck after => [look mount .stuck after]

def fresh (setup : Setup) (indicator : Option Polarity) (device : σ) : Session σ :=
  ⟨.fresh setup indicator device, .empty⟩

def runRecorder (setup : Setup) (indicator : Option Polarity) (board : Board) (ops : List Op) :
    List Report :=
  runFrom recorderMount (fresh setup indicator board) ops

/-- A session with the radio chip, whose driver is attached first. -/
def runChip (setup : Setup) (indicator : Option Polarity) (board : Board) (ops : List Op) :
    List Report :=
  runFrom chipMount (fresh setup indicator (.attach chipBus board)) ops

end Session

end ShutterRadio.Bench
