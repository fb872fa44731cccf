/-
# The radio chip's registers

The chip, an RFM69, is a file of byte registers behind a serial bus.  Registers
of several bytes are big-endian and stand at consecutive addresses.  Writing
sets the top bit of the address byte and reading clears it; address zero is the
queue of packet bytes, which takes or gives one byte after the other.

This module names the registers used here and computes what goes into them.
-/

import ShutterRadio.Note

namespace ShutterRadio.Chip

/-- The registers used here. -/
inductive Register
  | packet
  | mode
  | modulation
  | bitRate
  | carrier
  | version
  | amplifier
  | protection
  | flags
  | preamble
  -- Whether there is a sync word, and of which size.
  | syncConfig
  | syncValue
  | packetConfig
  deriving DecidableEq, Repr

namespace Register

def address : Register → UInt8
  | packet => 0x00
  | mode => 0x01
  | modulation => 0x02
  | bitRate => 0x03
  | carrier => 0x07
  | version => 0x10
  | amplifier => 0x11
  | protection => 0x13
  | flags => 0x27
  | preamble => 0x2c
  | syncConfig => 0x2e
  | syncValue => 0x2f
  | packetConfig => 0x37

def writeByte (register : Register) : UInt8 := register.address ||| 0x80

def readByte (register : Register) : UInt8 := register.address &&& 0x7f

end Register

/-- Operating modes used here. -/
inductive Mode
  | standby
  | transmit
  | receive
  deriving DecidableEq, Repr

/-- The mode register's content for a mode. -/
def Mode.byte : Mode → UInt8
  | .standby => 0x04
  | .transmit => 0x0c
  | .receive => 0x10

/-- The two bytes of a word, high byte first. -/
def wordBytes (word : UInt16) : List UInt8 := [(word >>> 8).toUInt8, word.toUInt8]

/-- The word that two bytes make, high byte first. -/
def wordOf (high low : UInt8) : UInt16 := high.toUInt16 <<< 8 ||| low.toUInt16

/-- Packet mode with on-off keying, without shaping. -/
def modulationPacketKeyed : UInt8 := 0x08

def protectionOff : UInt8 := 0x0a

def amplifierFull : UInt8 := 0x7f

/-- No sync word; the size bits say eight bytes. -/
def syncUnset : UInt8 := 0x38

/-- The bit that turns the sync word on. -/
def syncOn : UInt8 := 0x80

/-- The bits of the sync word's size, one less than its bytes. -/
def syncSizeBits : UInt8 := 0x38

/-- Bytes in a sync word at most. -/
def syncCapacity : Nat := 8

/-- What the sync configuration becomes for a word, given what it was; bits that
are about something else stay. -/
def syncConfigFor (old : UInt8) (pattern : List UInt8) : UInt8 :=
  if pattern.isEmpty then old &&& ~~~syncOn
  else
    (old &&& ~~~(syncOn ||| syncSizeBits)) ||| syncOn |||
      (UInt8.ofNat (pattern.length - 1) <<< 3)

/-- The packet configuration.  Length zero stands for packets of any length. -/
def packetConfigBytes (manchester : Bool) (length : UInt8) : List UInt8 :=
  let coding : UInt8 := if manchester then 0x20 else 0
  if length = 0 then [0x80 ||| coding, 0xff] else [coding, length]

/-- The length of packets from power-up until a format is set. -/
def initialLength : UInt8 := 64

/-- The chip's oscillator, in hertz. -/
def oscillator : UInt32 := 32000000

/-- The largest content of a two-byte register. -/
def wordLimit : UInt32 := 0xffff

/-- The bit rate register for a rate in bits per second; too low a rate gives the
lowest there is. -/
def bitRateWord (rate : UInt32) : UInt16 :=
  (min (oscillator / max rate 1) wordLimit).toUInt16

/-- The bit rate register for a width of a symbol in microseconds; too wide a
symbol gives the widest there is. -/
def symbolWord (micros : UInt16) : UInt16 :=
  (min (32 * micros.toUInt32) wordLimit).toUInt16

/-- The rate in bits per second that a bit rate register stands for; an empty
one stands for none, and division by zero says so. -/
def rateOfWord (word : UInt16) : UInt32 := oscillator / word.toUInt32

/-- The width of a symbol in microseconds that a bit rate register stands for. -/
def symbolOfWord (word : UInt16) : UInt16 := word / 32

/-- The low three bytes of a count of synthesiser steps, high byte first. -/
def carrierBytes (steps : UInt32) : List UInt8 :=
  [(steps >>> 16).toUInt8, (steps >>> 8).toUInt8, steps.toUInt8]

/-- The count of synthesiser steps that three bytes make, high byte first. -/
def stepsOf (high mid low : UInt8) : UInt32 :=
  high.toUInt32 <<< 16 ||| mid.toUInt32 <<< 8 ||| low.toUInt32

/-- Whether the chip has settled in its mode. -/
def modeReady (flags : StatusFlags) : Bool := flags.first &&& 0x80 != 0

/-- Whether the chip has sent its packet. -/
def packetSent (flags : StatusFlags) : Bool := flags.second &&& 0x08 != 0

/-- Whether the chip has received a packet. -/
def payloadReady (flags : StatusFlags) : Bool := flags.second &&& 0x04 != 0

end ShutterRadio.Chip
