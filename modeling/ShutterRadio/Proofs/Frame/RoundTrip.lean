/-
# What a frame carries over

A frame that was encoded is decoded to the command it was made from, as far as a
frame has room for it: identities lose their high byte and buttons their upper
half.  What is left of the buttons has to be a press that is taken from the air,
or the frame is rejected for its buttons; it is never rejected for its checksum,
and the key makes no difference.

Laying out and reading back are inverse place by place, so every place has its
own lemma on bits, and chaining is undone by unchaining.  Decoding is taken apart
into what a frame says and whether its checksum fits, so that both can be spoken
of without each other.
-/

import Mathlib.Tactic.IntervalCases
import ShutterRadio.Frame.Codec

namespace ShutterRadio

/-! ## Bits -/

/-- Bytes with the same bits are the same. -/
theorem byte_ext {first second : UInt8}
    (same : ∀ i < 8, first.toBitVec.getLsbD i = second.toBitVec.getLsbD i) : first = second :=
  UInt8.toBitVec_inj.mp (BitVec.eq_of_getLsbD_eq same)

/-- Of two half bytes put together, the mask of the upper half leaves one. -/
theorem upper_half (high low : UInt8) :
    ((high &&& 0x0f) <<< 4 ||| (low &&& 0x0f)) &&& 0xf0 = (high &&& 0x0f) <<< (4 : UInt8) := by
  apply byte_ext
  intro i hi
  simp only [UInt8.toBitVec_or, UInt8.toBitVec_and, UInt8.toBitVec_shiftLeft, BitVec.getLsbD_or,
    BitVec.getLsbD_and]
  interval_cases i <;> simp

/-- The mask of the lower half leaves the other. -/
theorem lower_half (high low : UInt8) :
    ((high &&& 0x0f) <<< 4 ||| (low &&& 0x0f)) &&& 0x0f = low &&& (0x0f : UInt8) := by
  apply byte_ext
  intro i hi
  simp only [UInt8.toBitVec_or, UInt8.toBitVec_and, UInt8.toBitVec_shiftLeft, BitVec.getLsbD_or,
    BitVec.getLsbD_and]
  interval_cases i <;> simp

/-- The upper half can be moved down again. -/
theorem upper_half_down (high low : UInt8) :
    ((high &&& 0x0f) <<< 4 ||| (low &&& 0x0f)) >>> 4 = high &&& (0x0f : UInt8) := by
  apply byte_ext
  intro i hi
  simp only [UInt8.toBitVec_or, UInt8.toBitVec_and, UInt8.toBitVec_shiftLeft,
    UInt8.toBitVec_shiftRight, BitVec.getLsbD_and]
  interval_cases i <;> simp

/-- Two bytes make up the word that they were taken from. -/
theorem word_of_bytes (word : UInt16) :
    (word >>> 8).toUInt8.toUInt16 <<< 8 ||| word.toUInt8.toUInt16 = word := by
  apply UInt16.toBitVec_inj.mp
  apply BitVec.eq_of_getLsbD_eq
  intro i hi
  simp only [UInt16.toBitVec_or, UInt16.toBitVec_shiftLeft, UInt16.toBitVec_shiftRight,
    UInt8.toBitVec_toUInt16, UInt16.toBitVec_toUInt8, BitVec.getLsbD_or]
  interval_cases i <;> simp

/-- Three bytes make up what they were taken from but for its high byte. -/
theorem identity_of_bytes (identity : UInt32) :
    (identity >>> 16).toUInt8.toUInt32 <<< 16 ||| (identity >>> 8).toUInt8.toUInt32 <<< 8 |||
      identity.toUInt8.toUInt32 = identity &&& identityMask := by
  apply UInt32.toBitVec_inj.mp
  apply BitVec.eq_of_getLsbD_eq
  intro i hi
  simp only [identityMask, UInt32.toBitVec_or, UInt32.toBitVec_and, UInt32.toBitVec_shiftLeft,
    UInt32.toBitVec_shiftRight, UInt8.toBitVec_toUInt32, UInt32.toBitVec_toUInt8,
    BitVec.getLsbD_or, BitVec.getLsbD_and]
  interval_cases i <;> simp

/-- The presses that are taken from the air, by their masks. -/
theorem Button.isSinglePress_iff {button : Button} :
    button.isSinglePress = true ↔ button.mask = 1 ∨ button.mask = 2 ∨ button.mask = 4 := by
  rcases button with ⟨mask⟩
  simp [isSinglePress, my, up, down, or_assoc]

/-- As much of a command as a frame has room for. -/
def Command.fitted (command : Command) : Command :=
  ⟨command.remote &&& identityMask, command.code, command.button.truncated⟩

namespace Frame

/-! ## Reading a frame that is not chained -/

/-- The command that is laid out in a frame, whatever its checksum and its buttons. -/
def said (f : Frame) : Command := ⟨f.identity, f.code, ⟨f.control >>> 4⟩⟩

/-- The checksum that is carried is the right one. -/
def Fits (f : Frame) : Prop := f.bare.checksum = f.carried

instance (f : Frame) : Decidable f.Fits := inferInstanceAs (Decidable (_ = _))

variable {received : Frame}

/-- Of a frame with the right checksum only the buttons can be wrong. -/
theorem decode_of_fits (fits : received.unchain.Fits) :
    received.decode =
      if received.unchain.said.button.isSinglePress then .ok received.unchain.said
      else .error (.invalidButton received.unchain.said.button.mask) :=
  if_neg (not_not_intro fits)

/-- A frame with another checksum is rejected for it, whatever its buttons. -/
theorem decode_of_not_fits (wrong : ¬ received.unchain.Fits) :
    received.decode =
      .error (.checksumMismatch received.unchain.bare.checksum received.unchain.carried) :=
  if_pos wrong

/-- A frame is rejected for its checksum exactly if that is wrong. -/
theorem exists_mismatch_iff :
    (∃ computed carried, received.decode = .error (.checksumMismatch computed carried)) ↔
      ¬ received.unchain.Fits := by
  constructor
  · rintro ⟨computed, carried, rejected⟩ fits
    rw [decode_of_fits fits] at rejected
    split at rejected <;> cases rejected
  · intro wrong
    exact ⟨_, _, decode_of_not_fits wrong⟩

theorem decode_eq_ok_iff {command : Command} :
    received.decode = .ok command ↔
      received.unchain.Fits ∧ received.unchain.said = command ∧
        command.button.isSinglePress = true := by
  by_cases fits : received.unchain.Fits
  · rw [decode_of_fits fits]
    constructor
    · intro read
      split at read
      case isTrue single =>
        injection read with same
        exact ⟨fits, same, same ▸ single⟩
      case isFalse => cases read
    · rintro ⟨-, rfl, single⟩
      exact if_pos single
  · rw [decode_of_not_fits fits]
    simp [fits]

theorem decode_eq_invalidButton_iff {mask : UInt8} :
    received.decode = .error (.invalidButton mask) ↔
      received.unchain.Fits ∧ received.unchain.said.button = ⟨mask⟩ ∧
        ¬ (⟨mask⟩ : Button).isSinglePress = true := by
  by_cases fits : received.unchain.Fits
  · rw [decode_of_fits fits]
    constructor
    · intro read
      split at read
      case isTrue => cases read
      case isFalse several =>
        injection read with same
        injection same with same
        subst same
        exact ⟨fits, rfl, several⟩
    · rintro ⟨-, same, several⟩
      rw [same]
      exact if_neg several
  · rw [decode_of_not_fits fits]
    simp [fits]

/-! ## Reading what was encoded -/

theorem unchain_chain (f : Frame) : f.chain.unchain = f := by
  simp only [chain, unchain, UInt8.xor_assoc, UInt8.xor_self, UInt8.xor_zero]

theorem chain_unchain (f : Frame) : f.unchain.chain = f := by
  simp only [chain, unchain, UInt8.xor_assoc, UInt8.xor_self, UInt8.xor_zero]

variable (key : UInt8) (command : Command)

/-- Without the checksum a frame is what was laid out. -/
theorem bare_plain : (plain key command).bare = layout key command := by
  simp only [bare, plain, layout, checksum, upper_half]

/-- The checksum that is carried is that of what was laid out. -/
theorem carried_plain : (plain key command).carried = (layout key command).checksum :=
  lower_half _ _

theorem fits_plain : (plain key command).Fits := by
  rw [Fits, bare_plain, carried_plain]

/-- A frame says as much of its command as it has room for. -/
theorem said_plain : (plain key command).said = command.fitted := by
  have button : (plain key command).control >>> 4 = command.button.mask &&& 0x0f :=
    upper_half_down _ _
  have code : (plain key command).code = command.code := word_of_bytes _
  have identity : (plain key command).identity = command.remote &&& identityMask :=
    identity_of_bytes _
  rw [said, button, code, identity]
  rfl

/-- What was encoded is rejected for its buttons or not at all. -/
theorem decode_encode_eq :
    (encode key command).decode =
      if command.fitted.button.isSinglePress then .ok command.fitted
      else .error (.invalidButton command.fitted.button.mask) := by
  have plainly : (encode key command).unchain = plain key command := unchain_chain _
  rw [decode_of_fits (plainly ▸ fits_plain key command), plainly, said_plain]

/-- What is carried over is read back. -/
theorem decode_encode (single : command.button.truncated.isSinglePress = true) :
    (encode key command).decode =
      .ok ⟨command.remote &&& identityMask, command.code, command.button.truncated⟩ := by
  rw [decode_encode_eq]
  exact if_pos single

/-- Over the whole format: what was encoded is read back as far as there was room
for it if that leaves one press of stop, up or down, and is otherwise rejected for
its buttons.  Its checksum is always right. -/
theorem decode_encode_cases :
    (encode key command).decode =
        (if command.button.mask &&& 0x0f = 1 ∨ command.button.mask &&& 0x0f = 2 ∨
            command.button.mask &&& 0x0f = 4 then
          .ok ⟨command.remote &&& 0x00ffffff, command.code, ⟨command.button.mask &&& 0x0f⟩⟩
        else .error (.invalidButton (command.button.mask &&& 0x0f))) ∧
      ∀ computed carried,
        (encode key command).decode ≠ .error (.checksumMismatch computed carried) := by
  have read := decode_encode_eq key command
  simp only [Button.isSinglePress_iff] at read
  refine ⟨read, ?_⟩
  intro computed carried rejected
  rw [rejected] at read
  split at read <;> cases read

/-- A chord of two buttons does not come through, however well it is sent. -/
example : (encode standardKey ⟨0xff27962a, 2612, ⟨0x36⟩⟩).decode = .error (.invalidButton 0x06) :=
  by decide

end Frame

end ShutterRadio
