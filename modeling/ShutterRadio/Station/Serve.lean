/-
# Serving a queue

Each step of a station does at most one piece of work.  A packet that the radio
has announced comes first; otherwise the oldest request is taken out and served
to its end, so a burst is never mixed with anything else; and with nothing to
do the station sleeps a little.  After every piece of work the radio is put
back to listening, so remotes are heard between transmissions.

A fault of the radio never stops the station: it is told and the work goes on,
as the requests have nowhere else to go.

Stations and producers that wait for each other poll.  Nothing bounds how long
that takes, so the functions that poll are given how often to try and say
whether they came to an end.
-/

import ShutterRadio.Station.Burst

namespace ShutterRadio

namespace Station

/-- The sync word to listen for.  It is the transmitted one, moved by a bit: the
sync pulses of remotes do not have the width of the symbols that follow. -/
def listenSync : List UInt8 := [0xe1, 0xe1, 0xfe]

/-- How long a station with nothing to do sleeps, in microseconds. -/
def idlePoll : Nat := 500

/-- How long a producer that waits for the station sleeps, in milliseconds. -/
def shutdownPollMillis : Nat := 10

/-- Whether a station goes on after a step. -/
inductive Flow
  | goesOn
  | stopped
  deriving DecidableEq, Repr

end Station

namespace Program

/-! ## What the station does

Programs are given the setup of the radio and the names of its faults. -/

variable {ε : Type} (describe : ε → String) (setup : Setup)

/-- Make a call for the station's own sake: a failure is told, and that is all. -/
def report (asked : Call) : Program ε Unit := do
  match ← once (.call asked) with
  | .ok _ => pure ()
  | .error fault => once (.tell (.callFailed asked (describe fault)))

/-- Put the radio to listening for frames. -/
def listen : Program ε Unit := do
  report describe (.setSync Station.listenSync)
  report describe (.setFormat true 7)
  report describe .listen

/-- Reset and set up the radio, and listen.  What the radio says of itself is
told if it can be read; if not, nothing is. -/
def start : Program ε Unit := do
  once (.become .idle)
  report describe .reset
  report describe .configure
  report describe (.setSymbolWidth setup.symbolWidth)
  report describe (.setFrequency setup.frequency)
  let version ← once (.call .version)
  let bitRate ← once (.call .bitRate)
  let frequency ← once (.call .frequency)
  match version, bitRate, frequency with
  | .ok version, .ok bitRate, .ok frequency =>
      once (.tell (.ready version frequency bitRate))
  | _, _, _ => pure ()
  listen describe

/-- Count how a burst ended; an early end is told as well. -/
def settle (remote : UInt32) : Except ε Unit → Program ε Unit
  | .ok () => once (.count .sent)
  | .error fault => do
      once (.count .abandoned)
      once (.tell (.burstAbandoned remote (describe fault)))

/-- Send one press.  Ready lines double as a sign that a packet was sent, so one
that rose during the burst announces nothing and is taken back. -/
def transmit (transmission : Transmission) : Program ε Unit := do
  once (.become .transmitting)
  once (.tell (.sending transmission))
  report describe .standby
  once (.light true)
  let ending ← burst (Frame.encode setup.key transmission.command) transmission.repeats
  settle describe transmission.command.remote ending
  once (.light false)
  report describe .standby
  let _ ← once .calm
  listen describe
  once (.become .idle)

/-- Take in a received command: it is stamped with a reading of the clock. -/
def takeIn (command : Command) : Program ε Unit := do
  let now ← once .clock
  match ← once (.record command now) with
  | .appended => do
      once (.count .heard)
      once (.tell (.received command))
  | .repeated => pure ()
  | .dropped => do
      once (.count .lost)
      once (.tell (.pressLost command.remote))

/-- Take in what a fetched packet says. -/
def absorb (packet : Frame) : Program ε Unit :=
  match packet.decode with
  | .ok command => takeIn command
  | .error reason => do
      once (.count .rejected)
      once (.tell (.frameIgnored reason))

/-- Fetch an announced packet and take in what it says. -/
def fetch : Program ε Unit := do
  match ← once (.call (.receive frameLength)) with
  | .error fault => once (.tell (.fetchFailed (describe fault)))
  | .ok bytes => absorb (Frame.ofVector bytes)
  listen describe

def shutDown : Program ε Unit := do
  report describe .standby
  once (.become .shutDown)
  once (.tell .stopped)

def serve : Request → Program ε Station.Flow
  | .transmit transmission => do
      transmit describe setup transmission
      pure .goesOn
  | .listen => do
      listen describe
      pure .goesOn
  | .shutdown => do
      shutDown describe
      pure .stopped

/-- Do at most one piece of work. -/
def step : Program ε Station.Flow := do
  if (← once .look) = .shutDown then
    pure .stopped
  else if ← once .calm then do
    fetch describe
    pure .goesOn
  else
    match ← once .next with
    | some request => serve describe setup request
    | none => do
        once (.pause Station.idlePoll)
        pure .goesOn

end Program

namespace Station

/-! ## Serving with nobody else around -/

variable {σ ε τ : Type}

/-- Carry out a program on a station, with the names its device has for faults
and its own setup. -/
def follow {α : Type} (d : Device σ ε τ)
    (program : (ε → String) → Setup → Program ε α) : Work σ τ α := fun station =>
  (program d.describe station.setup).alone d station

/-- Reset and set up the radio, and listen. -/
def start (d : Device σ ε τ) : Work σ τ Unit := follow d Program.start

/-- Do at most one piece of work. -/
def step (d : Device σ ε τ) : Work σ τ Flow := follow d Program.step

/-- Take steps until the station has shut down, at most `limit` of them. -/
def steps (d : Device σ ε τ) : (limit : Nat) → Work σ τ Bool
  | 0 => pure false
  | limit + 1 => do
      match ← step d with
      | .stopped => pure true
      | .goesOn => steps d limit

/-- Start, and serve until the station has shut down. -/
def run (d : Device σ ε τ) (limit : Nat) : Work σ τ Bool := do
  start d
  steps d limit

/-- Ask for something on behalf of a producer; a refusal is told. -/
def offer (request : Request) : Work σ τ Bool := do
  if ← consult (Queue.offer request) then
    return true
  else
    tell (.refused request)
    return false

/-- Try once to ask for a shutdown. -/
def tryClose : Work σ τ Bool := consult Queue.close

/-- Read the oldest reception on behalf of a producer. -/
def read (now : Instant) : Work σ τ (Option Reception) := consult (·.collect now)

/-- Try again and again, sleeping in between, at most `limit` times. -/
def poll (attempt : Work σ τ Bool) (sleep : Work σ τ Unit) : (limit : Nat) → Work σ τ Bool
  | 0 => pure false
  | limit + 1 => do
      if ← attempt then
        pure true
      else do
        sleep
        poll attempt sleep limit

/-- Ask for a shutdown, waiting for room in the queue. -/
def close (sleep : Work σ τ Unit) (limit : Nat) : Work σ τ Bool :=
  poll tryClose sleep limit

/-- Wait until the station has served a request to shut down. -/
def awaitDrained (sleep : Work σ τ Unit) (limit : Nat) : Work σ τ Bool :=
  poll (return (← get).queue.isDrained) sleep limit

/-- An offer does to the queue what it does to it, and a refusal is told. -/
theorem offer_eq (request : Request) (station : Station σ) :
    (offer request : Work σ τ Bool) station =
      .ok (Queue.offer request station.queue).1
        { station with
          queue := (Queue.offer request station.queue).2
          journal :=
            if (Queue.offer request station.queue).1 then station.journal
            else .refused request :: station.journal } := by
  show (if (Queue.offer request station.queue).1 then pure true
    else do tell (.refused request); return false : Work σ τ Bool)
      { station with queue := (Queue.offer request station.queue).2 } = _
  cases (Queue.offer request station.queue).1 <;> rfl

theorem tryClose_eq (station : Station σ) :
    (tryClose : Work σ τ Bool) station =
      .ok (Queue.close station.queue).1
        { station with queue := (Queue.close station.queue).2 } := rfl

end Station

end ShutterRadio
