/-
# What a checksum can see on air

The checksum is an exclusive-or of half bytes, and chaining is a running
exclusive-or of bytes, so the two telescope: the last byte on air is the sum of all
plain bytes, and the halves of that one byte say whether the checksum fits.  It does
if they are equal, whatever the six bytes before them are.

Nothing is claimed here about plain frames, of which every half byte counts: one
wrong byte on air is a wrong byte in two places of the plain frame, and their sum
is what it was.
-/

import ShutterRadio.Proofs.Frame.RoundTrip

namespace ShutterRadio

/-- The exclusive-or of the two halves of a byte. -/
def halves (byte : UInt8) : UInt8 := (byte >>> 4) ^^^ (byte &&& 0x0f)

theorem halves_xor (first second : UInt8) :
    halves (first ^^^ second) = halves first ^^^ halves second := by
  apply byte_ext
  intro i hi
  simp only [halves, UInt8.toBitVec_xor, UInt8.toBitVec_and, UInt8.toBitVec_shiftRight,
    BitVec.getLsbD_xor, BitVec.getLsbD_and]
  interval_cases i <;> simp [Bool.xor_left_comm]

/-- A lower half has nothing else to be added to. -/
theorem halves_lower_half (byte : UInt8) : halves (byte &&& 0x0f) = byte &&& (0x0f : UInt8) := by
  apply byte_ext
  intro i hi
  simp only [halves, UInt8.toBitVec_xor, UInt8.toBitVec_and, UInt8.toBitVec_shiftRight,
    BitVec.getLsbD_xor, BitVec.getLsbD_and]
  interval_cases i <;> simp

/-- Taking the lower half out is adding it. -/
theorem upper_half_eq_xor (byte : UInt8) :
    byte &&& 0xf0 = byte ^^^ (byte &&& (0x0f : UInt8)) := by
  apply byte_ext
  intro i hi
  simp only [UInt8.toBitVec_xor, UInt8.toBitVec_and, BitVec.getLsbD_xor, BitVec.getLsbD_and]
  interval_cases i <;> simp

theorem halves_eq_zero_iff (byte : UInt8) : halves byte = 0 ↔ byte >>> 4 = byte &&& 0x0f :=
  UInt8.xor_eq_zero_iff

namespace Frame

/-- One step of the checksum, as far as it will count. -/
theorem addHalves_low (sum byte : UInt8) :
    addHalves sum byte &&& 0x0f = (sum &&& 0x0f) ^^^ halves byte := by
  apply byte_ext
  intro i hi
  simp only [addHalves, halves, UInt8.toBitVec_xor, UInt8.toBitVec_and,
    UInt8.toBitVec_shiftRight, BitVec.getLsbD_xor, BitVec.getLsbD_and]
  interval_cases i <;> simp [Bool.xor_comm]

/-- Halves may be added first or last. -/
theorem foldl_addHalves (bytes : List UInt8) (sum : UInt8) :
    bytes.foldl addHalves sum &&& 0x0f =
      (sum &&& 0x0f) ^^^ halves (bytes.foldr (· ^^^ ·) 0) := by
  induction bytes generalizing sum with
  | nil => simp [halves]
  | cons byte rest ih =>
      rw [List.foldl_cons, ih, addHalves_low, List.foldr_cons, halves_xor, UInt8.xor_assoc]

/-- The exclusive-or of all seven bytes. -/
def sum (f : Frame) : UInt8 := f.bytes.foldr (· ^^^ ·) 0

theorem checksum_eq (f : Frame) : f.checksum = halves f.sum := by
  simp [checksum, foldl_addHalves, sum]

/-- Chaining leaves the sum of all bytes in the last one. -/
theorem idLow_chain (f : Frame) : f.chain.idLow = f.sum := by
  simp only [chain, sum, bytes, List.foldr_cons, List.foldr_nil, UInt8.xor_zero]
  ac_rfl

theorem sum_unchain (f : Frame) : f.unchain.sum = f.idLow := by
  rw [← idLow_chain, chain_unchain]

/-- Taking the checksum out takes it out of the sum. -/
theorem sum_bare (f : Frame) : f.bare.sum = f.sum ^^^ f.carried := by
  simp only [sum, bytes, bare, carried, upper_half_eq_xor, List.foldr_cons, List.foldr_nil]
  ac_rfl

variable (received : Frame)

/-- The computed and the carried checksum differ by what the halves of the last
byte on air differ by. -/
theorem computed_xor_carried :
    received.unchain.bare.checksum ^^^ received.unchain.carried = halves received.idLow := by
  have lower : halves received.unchain.carried = received.unchain.carried := halves_lower_half _
  rw [checksum_eq, sum_bare, halves_xor, sum_unchain, lower, UInt8.xor_assoc, UInt8.xor_self,
    UInt8.xor_zero]

theorem fits_unchain_iff :
    received.unchain.Fits ↔ received.idLow >>> 4 = received.idLow &&& 0x0f := by
  rw [← halves_eq_zero_iff, ← computed_xor_carried, UInt8.xor_eq_zero_iff]
  rfl

/-- A frame is rejected for its checksum exactly if the halves of its last byte
differ, and the two checksums that are told then differ just as these do.  So whatever
happens on air to the six bytes before it, the checksum fits if it did before. -/
theorem last_byte_decides :
    ((∃ computed carried, received.decode = .error (.checksumMismatch computed carried)) ↔
      received.idLow >>> 4 ≠ received.idLow &&& 0x0f) ∧
    (∀ computed carried, received.decode = .error (.checksumMismatch computed carried) →
      computed ^^^ carried = (received.idLow >>> 4) ^^^ (received.idLow &&& 0x0f)) ∧
    ∀ altered : Frame, altered.idLow = received.idLow →
      ((∃ computed carried, altered.decode = .error (.checksumMismatch computed carried)) ↔
        ∃ computed carried, received.decode = .error (.checksumMismatch computed carried)) := by
  refine ⟨?halves, ?difference, ?altered⟩
  case halves => rw [exists_mismatch_iff, fits_unchain_iff]
  case difference =>
    intro computed carried rejected
    have wrong := exists_mismatch_iff.mp ⟨computed, carried, rejected⟩
    rw [decode_of_not_fits wrong] at rejected
    injection rejected with same
    injection same with same others
    rw [← same, ← others]
    exact computed_xor_carried received
  case altered =>
    intro altered same
    rw [exists_mismatch_iff, exists_mismatch_iff, fits_unchain_iff, fits_unchain_iff, same]

/-- One wrong bit in the last byte of a frame that was sent is noticed; one wrong bit in
the byte before it is not. -/
theorem last_byte_decides_wrong_bit :
    (∃ computed carried,
      (⟨0x50, 0x78, 0x72, 0x46, 0x61, 0xf7, 0xdc⟩ : Frame).decode =
        .error (.checksumMismatch computed carried) ∧ computed ^^^ carried = 0x0d ^^^ 0x0c) ∧
      ¬ ∃ computed carried,
        (⟨0x50, 0x78, 0x72, 0x46, 0x61, 0xf6, 0xdd⟩ : Frame).decode =
          .error (.checksumMismatch computed carried) := by
  constructor
  · obtain ⟨computed, carried, rejected⟩ :=
      (last_byte_decides ⟨0x50, 0x78, 0x72, 0x46, 0x61, 0xf7, 0xdc⟩).1.mpr (by decide)
    exact ⟨computed, carried, rejected, (last_byte_decides _).2.1 computed carried rejected⟩
  · have sent := last_byte_decides ⟨0x50, 0x78, 0x72, 0x46, 0x61, 0xf7, 0xdd⟩
    intro noticed
    have before := (sent.2.2 ⟨0x50, 0x78, 0x72, 0x46, 0x61, 0xf6, 0xdd⟩ rfl).mp noticed
    exact sent.1.mp before (by decide)

/-- What is not noticed makes the press that of another remote. -/
example : (⟨0x50, 0x78, 0x72, 0x46, 0x61, 0xf6, 0xdd⟩ : Frame).decode =
    .ok ⟨0x27972b, 2612, .up⟩ := by decide

end Frame

end ShutterRadio
