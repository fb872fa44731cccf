/-
# The frames there are

Decoding accepts what encoding can send and nothing else.  A frame of which the
checksum fits is, byte for byte, the frame of the command that is read from it
under the key that it carries; so a frame is rejected for its checksum exactly if
nobody can have sent it, whatever key and whatever command are tried.

No part of a frame is ignored: what a command has room for can be told from its
frame, hence two commands that fit never share one.
-/

import ShutterRadio.Proofs.Frame.RoundTrip

namespace ShutterRadio

/-! ## Bits -/

/-- The upper half of a byte, moved down and back, is the byte without its lower half. -/
theorem upper_half_back (byte : UInt8) :
    ((byte >>> 4) &&& 0x0f) <<< 4 = byte &&& (0xf0 : UInt8) := by
  apply byte_ext
  intro i hi
  simp only [UInt8.toBitVec_and, UInt8.toBitVec_shiftLeft, UInt8.toBitVec_shiftRight,
    BitVec.getLsbD_and]
  interval_cases i <;> simp

/-- A byte is made of its halves. -/
theorem halves_together (byte : UInt8) :
    (byte &&& 0xf0) ||| (byte &&& (0x0f : UInt8)) = byte := by
  apply byte_ext
  intro i hi
  simp only [UInt8.toBitVec_or, UInt8.toBitVec_and, BitVec.getLsbD_or, BitVec.getLsbD_and]
  interval_cases i <;> simp

/-- A word is taken apart into the bytes that make it up. -/
theorem bytes_of_word (high low : UInt8) :
    ((high.toUInt16 <<< 8 ||| low.toUInt16) >>> 8).toUInt8 = high ∧
      (high.toUInt16 <<< 8 ||| low.toUInt16).toUInt8 = low := by
  constructor <;> apply byte_ext
  all_goals
    intro i hi
    simp only [UInt16.toBitVec_toUInt8, UInt16.toBitVec_shiftRight, UInt16.toBitVec_or,
      UInt16.toBitVec_shiftLeft, UInt8.toBitVec_toUInt16]
    interval_cases i <;> simp

/-- An identity is taken apart into the bytes that make it up. -/
theorem bytes_of_identity (high mid low : UInt8) :
    let identity := high.toUInt32 <<< 16 ||| mid.toUInt32 <<< 8 ||| low.toUInt32
    (identity >>> 16).toUInt8 = high ∧ (identity >>> 8).toUInt8 = mid ∧
      identity.toUInt8 = low := by
  refine ⟨?high, ?mid, ?low⟩ <;> apply byte_ext
  all_goals
    intro i hi
    simp only [UInt32.toBitVec_toUInt8, UInt32.toBitVec_shiftRight, UInt32.toBitVec_or,
      UInt32.toBitVec_shiftLeft, UInt8.toBitVec_toUInt32]
    interval_cases i <;> simp

/-! ## Commands that a frame has room for -/

/-- An identity fits exactly if it has no more than twenty-four bits. -/
theorem identity_fits_iff {identity : UInt32} :
    identity &&& identityMask = identity ↔ identity.toNat < 2 ^ 24 := by
  have low : (identity &&& identityMask).toNat = identity.toNat % 2 ^ 24 :=
    Nat.and_two_pow_sub_one_eq_mod identity.toNat 24
  rw [← UInt32.toNat_inj, low]
  omega

/-- Buttons fit exactly if they are among the four with a name. -/
theorem Button.fits_iff {button : Button} :
    button.truncated = button ↔ button.mask.toNat < 16 := by
  rcases button with ⟨mask⟩
  have low : (mask &&& 0x0f).toNat = mask.toNat % 2 ^ 4 :=
    Nat.and_two_pow_sub_one_eq_mod mask.toNat 4
  simp only [truncated, known, Button.mk.injEq, ← UInt8.toNat_inj, low]
  omega

theorem Command.fits_iff {command : Command} :
    command.fitted = command ↔
      command.remote.toNat < 2 ^ 24 ∧ command.button.mask.toNat < 16 := by
  rw [← identity_fits_iff, ← Button.fits_iff]
  rcases command with ⟨remote, code, button⟩
  simp [fitted]

namespace Frame

/-! ## Encoding what was read -/

theorem key_unchain (f : Frame) : f.unchain.key = f.key := rfl

/-- What a frame says is laid out as the frame itself, up to the checksum. -/
theorem layout_said (f : Frame) : layout f.key f.said = f.bare := by
  obtain ⟨codeHigh, codeLow⟩ := bytes_of_word f.codeHigh f.codeLow
  obtain ⟨idHigh, idMid, idLow⟩ := bytes_of_identity f.idHigh f.idMid f.idLow
  simp only [layout, said, code, identity, bare, upper_half_back, codeHigh, codeLow, idHigh,
    idMid, idLow]

/-- A frame with the right checksum is the frame of what it says. -/
theorem plain_said {f : Frame} (fits : f.Fits) : plain f.key f.said = f := by
  simp only [plain, layout_said, show f.bare.checksum = f.carried from fits]
  simp only [bare, carried, halves_together]

/-- A frame with the right checksum has room for all that it says. -/
theorem fitted_said {f : Frame} (fits : f.Fits) : f.said.fitted = f.said := by
  rw [← said_plain f.key, plain_said fits]

variable {key : UInt8} {command : Command} {received : Frame}

/-- A frame was made of a command that fits exactly if its checksum is right and it
says just that. -/
theorem encode_eq_iff (fitted : command.fitted = command) :
    encode key command = received ↔
      received.key = key ∧ received.unchain.Fits ∧ received.unchain.said = command := by
  constructor
  · rintro rfl
    have plainly : (encode key command).unchain = plain key command := unchain_chain _
    rw [plainly]
    exact ⟨rfl, fits_plain key command, (said_plain key command).trans fitted⟩
  · rintro ⟨rfl, fits, rfl⟩
    rw [encode, ← key_unchain, plain_said fits, chain_unchain]

/-- The checksum of a frame is right exactly if somebody can have sent it. -/
theorem fits_iff_exists_encode :
    received.unchain.Fits ↔ ∃ key command, encode key command = received := by
  constructor
  · intro fits
    exact ⟨received.key, received.unchain.said,
      (encode_eq_iff (fitted_said fits)).mpr ⟨rfl, fits, rfl⟩⟩
  · rintro ⟨key, command, rfl⟩
    rw [encode, unchain_chain]
    exact fits_plain key command

/-- Decoding accepts exactly what encoding can send, under the key that a frame
carries.  A frame is accepted as a command if it is the frame of that command, which
then fits; it is rejected for its buttons if it is the frame of just one identity
and code with these buttons, which are no press that is taken from the air; and it
is rejected for its checksum if it is no frame of anything. -/
theorem decode_image (received : Frame) :
    (∀ command, received.decode = .ok command ↔
      command.remote.toNat < 2 ^ 24 ∧
        (command.button.mask = 1 ∨ command.button.mask = 2 ∨ command.button.mask = 4) ∧
        encode received.key command = received) ∧
    (∀ mask, received.decode = .error (.invalidButton mask) ↔
      mask.toNat < 16 ∧ ¬ (mask = 1 ∨ mask = 2 ∨ mask = 4) ∧
        ∃! sender : UInt32 × UInt16, sender.1.toNat < 2 ^ 24 ∧
          encode received.key ⟨sender.1, sender.2, ⟨mask⟩⟩ = received) ∧
    ((∃ computed carried, received.decode = .error (.checksumMismatch computed carried)) ↔
      ∀ key command, encode key command ≠ received) := by
  refine ⟨?accepted, ?buttons, ?checksum⟩
  case accepted =>
    intro command
    rw [decode_eq_ok_iff, Button.isSinglePress_iff]
    constructor
    · rintro ⟨fits, rfl, single⟩
      have fitted := fitted_said fits
      exact ⟨(Command.fits_iff.mp fitted).1, single,
        (encode_eq_iff fitted).mpr ⟨rfl, fits, rfl⟩⟩
    · rintro ⟨identity, single, sent⟩
      have button : command.button.mask.toNat < 16 := by
        rcases single with one | two | three <;> simp [*]
      obtain ⟨-, fits, said⟩ :=
        (encode_eq_iff (Command.fits_iff.mpr ⟨identity, button⟩)).mp sent
      exact ⟨fits, said, single⟩
  case buttons =>
    intro mask
    rw [decode_eq_invalidButton_iff, Button.isSinglePress_iff]
    constructor
    · rintro ⟨fits, same, several⟩
      have fitted := fitted_said fits
      obtain ⟨identity, button⟩ := Command.fits_iff.mp fitted
      rw [same] at button
      refine ⟨button, several, ⟨received.unchain.said.remote, received.unchain.said.code⟩,
        ⟨identity, ?_⟩, ?_⟩
      · rw [← same]
        exact (encode_eq_iff fitted).mpr ⟨rfl, fits, rfl⟩
      · rintro ⟨remote, code⟩ ⟨fits, sent⟩
        obtain ⟨-, -, said⟩ := (encode_eq_iff (Command.fits_iff.mpr ⟨fits, button⟩)).mp sent
        rw [said]
    · rintro ⟨button, several, ⟨remote, code⟩, ⟨identity, sent⟩, -⟩
      obtain ⟨-, fits, said⟩ :=
        (encode_eq_iff (Command.fits_iff.mpr ⟨identity, button⟩)).mp sent
      exact ⟨fits, by rw [said], several⟩
  case checksum =>
    rw [exists_mismatch_iff, fits_iff_exists_encode]
    simp only [not_exists, ne_eq]

end Frame

end ShutterRadio
