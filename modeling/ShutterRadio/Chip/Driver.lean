/-
# Driving the radio chip

Everything that a radio can be asked is done by a few transactions.  Waiting for
the chip is bounded: when it takes too long the driver tells the status flags,
counts the event and carries on, because there is no second radio to fall back
to.

What the driver waits for, it asks for at most a fixed number of times, with a
pause after every answer that did not show it.
-/

import ShutterRadio.Chip.Bus

namespace ShutterRadio

namespace Chip

variable {σ τ : Type}

/-- Ask for the flags until they show something, at most `polls` times, pausing
after every other answer.  Answers nothing if they showed it, and otherwise the
flags seen `last`. -/
def await (b : Bus σ τ) (shown : StatusFlags → Bool) (micros : Nat) :
    (polls : Nat) → (last : StatusFlags) → Run σ τ (Option StatusFlags)
  | 0, last => pure (some last)
  | polls + 1, _ => do
      let seen ← flags b
      if shown seen then
        pure none
      else do
        pause b micros
        await b shown micros polls seen

/-- How often to ask whether the mode is ready. -/
def modePolls : Nat := 10000

/-- The pause in between, in microseconds. -/
def modePollMicros : Nat := 1

/-- How often to ask whether the packet has left. -/
def sendPolls : Nat := 100000

/-- The pause in between, in microseconds. -/
def sendPollMicros : Nat := 100

/-- How long the reset line is held, and the chip then left alone, in
milliseconds. -/
def resetPulseMillis : Nat := 250

/-- Count and tell that waiting was given up. -/
def giveUp (change : Driver σ → Driver σ) (note : Note) : Run σ τ Unit :=
  modify fun driver => { change driver with journal := note :: driver.journal }

/-- Wait until the chip has settled in its mode, or took too long. -/
def awaitMode (b : Bus σ τ) : Run σ τ Unit := do
  match ← await b modeReady modePollMicros modePolls ⟨0, 0⟩ with
  | none => pure ()
  | some last =>
      giveUp (fun driver => { driver with modeTimeouts := driver.modeTimeouts + 1 })
        (.modeTimeout last)

/-- Wait until the packet has left, or took too long. -/
def awaitSent (b : Bus σ τ) : Run σ τ Unit := do
  match ← await b packetSent sendPollMicros sendPolls ⟨0, 0⟩ with
  | none => pure ()
  | some last =>
      giveUp (fun driver => { driver with sendTimeouts := driver.sendTimeouts + 1 })
        (.sendTimeout last)

/-- Ask for a mode, without waiting for it. -/
def setMode (b : Bus σ τ) (mode : Mode) : Run σ τ Unit :=
  write b .mode [mode.byte]

def reset (b : Bus σ τ) : Run σ τ Unit := do
  drive b true
  pause b (resetPulseMillis * 1000)
  drive b false
  pause b (resetPulseMillis * 1000)

/-- Set up packet mode.  Frames bring their own preamble, so none is added. -/
def configure (b : Bus σ τ) : Run σ τ Unit := do
  setMode b .standby
  write b .modulation [modulationPacketKeyed]
  write b .protection [protectionOff]
  write b .amplifier [amplifierFull]
  write b .syncConfig [syncUnset]
  write b .packetConfig (packetConfigBytes true initialLength)
  write b .preamble (wordBytes 0)

def setFrequency (b : Bus σ τ) (frequency : Frequency) : Run σ τ Unit :=
  write b .carrier (carrierBytes frequency.steps)

def frequency (b : Bus σ τ) : Run σ τ Frequency := do
  let bytes ← read b .carrier 3
  return .ofSteps (stepsOf bytes[0] bytes[1] bytes[2])

/-- Set the width of a symbol, in microseconds. -/
def setSymbolWidth (b : Bus σ τ) (micros : UInt16) : Run σ τ Unit :=
  write b .bitRate (wordBytes (symbolWord micros))

/-- Read the width of a symbol back, in microseconds. -/
def symbolWidth (b : Bus σ τ) : Run σ τ UInt16 :=
  return symbolOfWord (← readWord b .bitRate)

/-- Set the bit rate, in bits per second. -/
def setBitRate (b : Bus σ τ) (rate : UInt32) : Run σ τ Unit :=
  write b .bitRate (wordBytes (bitRateWord rate))

/-- Read the bit rate back, in bits per second. -/
def bitRate (b : Bus σ τ) : Run σ τ UInt32 :=
  return rateOfWord (← readWord b .bitRate)

def version (b : Bus σ τ) : Run σ τ UInt8 := readByte b .version

/-- Whether a received packet waits to be fetched. -/
def isPayloadReady (b : Bus σ τ) : Run σ τ Bool :=
  return payloadReady (← flags b)

/-- Set the sync word, of which no more than eight bytes count. -/
def setSync (b : Bus σ τ) (pattern : List UInt8) : Run σ τ Unit := do
  let word := pattern.take syncCapacity
  let old ← readByte b .syncConfig
  write b .syncConfig [syncConfigFor old word]
  if word.isEmpty then pure () else writeApart b .syncValue word

def setFormat (b : Bus σ τ) (manchester : Bool) (length : UInt8) : Run σ τ Unit :=
  write b .packetConfig (packetConfigBytes manchester length)

/-- Send a packet and wait until it has left. -/
def transmit (b : Bus σ τ) (packet : List UInt8) : Run σ τ Unit := do
  awaitMode b
  writeApart b .packet packet
  setMode b .transmit
  awaitMode b
  awaitSent b
  setMode b .standby

/-- Fetch so many bytes of a received packet. -/
def receive (b : Bus σ τ) (length : Nat) : Run σ τ (Vector UInt8 length) :=
  read b .packet length

def listen (b : Bus σ τ) : Run σ τ Unit := do
  setMode b .receive
  awaitMode b

def standby (b : Bus σ τ) : Run σ τ Unit := do
  setMode b .standby
  awaitMode b

def answer (b : Bus σ τ) : (asked : Call) → Run σ τ asked.Reply
  | .reset => reset b
  | .configure => configure b
  | .setFrequency megahertz => setFrequency b megahertz
  | .frequency => frequency b
  | .setSymbolWidth micros => setSymbolWidth b micros
  | .bitRate => bitRate b
  | .version => version b
  | .setSync pattern => setSync b pattern
  | .setFormat manchester length => setFormat b manchester length
  | .transmit packet => transmit b packet
  | .receive length => receive b length
  | .listen => listen b
  | .standby => standby b

/-- Carry out one operation, collecting what there is to tell. -/
def perform {α : Type} (operation : Run σ τ α) (driver : Driver σ) :
    Outcome (Driver σ) Fault τ α :=
  let close (after : Driver σ) (ending : Ending Fault τ α) :
      Outcome (Driver σ) Fault τ α :=
    ⟨{ after with journal := [] }, ending, after.journal.reverse, false⟩
  match operation { driver with journal := [] } with
  | .ok result after => close after (.answered result)
  | .error (.fault fault) after => close after (.failed fault)
  | .error (.abandoned reason) after => close after (.abandoned reason)

/-- Take a driver into use: the reset line is let go, and whether that worked is
not asked. -/
def Driver.attach (b : Bus σ τ) (bus : σ) : Driver σ :=
  .fresh (b.drive false bus).2

/-- The device made of a chip on a bus, a timebase and an indicator light, all
on the same state. -/
def device (b : Bus σ τ) (base : Timebase σ τ) (indicate : Bool → σ → σ) :
    Device (Driver σ) Fault τ where
  toTimebase := base.focus Driver.bus (fun driver bus => { driver with bus }) fun _ _ => rfl
  perform _ asked := perform (answer b asked)
  indicate level driver := { driver with bus := indicate level driver.bus }
  describe := Fault.text

end Chip

end ShutterRadio
