/-
# Which errors a plain frame shows

An error of transmission is a frame of its own, the exclusive-or of what was meant and
what is there.  Checksums are sums of half bytes, so what they make of a frame with an
error in it is the sum of what they make of both: the checksum of a plain frame always
fits, hence whether it still does is a matter of the error alone, of the exclusive-or of
its fourteen half bytes.  `Frame.error_noticed_iff` says so for every frame that can be
laid out and every error, wherever it is, the checksum itself and the buttons included.

Errors in a plain frame are meant here, not errors on air, where each byte is chained
onto the one before.
-/

import ShutterRadio.Proofs.Frame.Chaining
import ShutterRadio.Proofs.Frame.Parity

namespace ShutterRadio

theorem toNat_upper_half (byte : UInt8) : (byte >>> 4).toNat = byte.toNat / 16 :=
  Nat.shiftRight_eq_div_pow byte.toNat 4

theorem toNat_lower_half (byte : UInt8) : (byte &&& 0x0f).toNat = byte.toNat % 16 :=
  Nat.and_two_pow_sub_one_eq_mod byte.toNat 4

/-- The halves of a byte are equal exactly if its number says so. -/
theorem halves_eq_zero_iff_toNat {byte : UInt8} :
    halves byte = 0 ↔ byte.toNat / 16 = byte.toNat % 16 := by
  rw [halves_eq_zero_iff, ← UInt8.toNat_inj, toNat_upper_half, toNat_lower_half]

/-- A byte with an empty half is told from zero by its halves. -/
theorem halves_ne_zero {byte : UInt8} (wrong : byte ≠ 0)
    (half : byte &&& 0x0f = 0 ∨ byte &&& 0xf0 = 0) : halves byte ≠ 0 := by
  have lower := toNat_lower_half byte
  have positive : byte.toNat ≠ 0 := fun none => wrong (UInt8.toNat_inj.mp none)
  rw [ne_eq, halves_eq_zero_iff_toNat]
  rcases half with empty | empty
  · rw [empty] at lower
    have gone : byte.toNat % 16 = 0 := lower.symm
    omega
  · rw [upper_half_eq_xor, UInt8.xor_eq_zero_iff] at empty
    rw [← empty] at lower
    omega

/-- The upper and the lower half of a byte. -/
def bothHalves (byte : UInt8) : List UInt8 := [byte >>> 4, byte &&& 0x0f]

namespace Frame

/-- The fourteen half bytes, upper halves first. -/
def halfBytes (f : Frame) : List UInt8 := f.bytes.flatMap bothHalves

/-- Half bytes may be added up by bytes. -/
theorem foldl_bothHalves (bytes : List UInt8) (start : UInt8) :
    (bytes.flatMap bothHalves).foldl (· ^^^ ·) start =
      start ^^^ halves (bytes.foldr (· ^^^ ·) 0) := by
  induction bytes generalizing start with
  | nil =>
      show start = start ^^^ 0
      rw [UInt8.xor_zero]
  | cons byte rest ih =>
      have both : start ^^^ byte >>> 4 ^^^ (byte &&& 0x0f) = start ^^^ halves byte :=
        UInt8.xor_assoc _ _ _
      rw [List.flatMap_cons, List.foldl_append, ih, List.foldr_cons, halves_xor, ← UInt8.xor_assoc,
        ← both]
      rfl

theorem foldl_halfBytes (f : Frame) : f.halfBytes.foldl (· ^^^ ·) 0 = halves f.sum := by
  rw [halfBytes, foldl_bothHalves, UInt8.zero_xor]
  rfl

/-- The sum of all bytes stands in the last one once they are chained, and chaining
respects exclusive-or. -/
theorem sum_xor (f g : Frame) : (f ^^^ g).sum = f.sum ^^^ g.sum := by
  rw [← idLow_chain, chain_xor, ← idLow_chain, ← idLow_chain]
  rfl

/-- A checksum fits exactly if all half bytes cancel out. -/
theorem fits_iff (f : Frame) : f.Fits ↔ halves f.sum = 0 := by
  rw [halves_eq_zero_iff, ← idLow_chain, ← fits_unchain_iff, unchain_chain]

theorem byte_ofVector (bytes : Vector UInt8 frameLength) (place : Fin frameLength) :
    (ofVector bytes).byte place = bytes[place] := by
  rcases place with ⟨place, within⟩
  change place < 7 at within
  interval_cases place <;> rfl

/-- The frame with a byte at one place and nothing anywhere else. -/
def only (place : Fin frameLength) (byte : UInt8) : Frame :=
  ofVector ((Vector.replicate frameLength 0).set place byte)

/-- As an error it makes another byte of the one there, and of no other. -/
theorem byte_xor_only (f : Frame) (place other : Fin frameLength) (byte : UInt8) :
    (f ^^^ only place byte).byte other =
      if place = other then f.byte other ^^^ byte else f.byte other := by
  rw [byte_xor, only, byte_ofVector]
  by_cases here : place = other
  · subst here
    simp
  · have apart : place.val ≠ other.val := fun same => here (Fin.ext same)
    simp [here, apart]

theorem sum_only (place : Fin frameLength) (byte : UInt8) : (only place byte).sum = byte := by
  rcases place with ⟨place, within⟩
  change place < 7 at within
  interval_cases place <;> simp [sum, bytes, only, ofVector]

/-- A received frame is rejected for its checksum. -/
def IsNoticed (received : Frame) : Prop :=
  ∃ computed carried, received.decode = .error (.checksumMismatch computed carried)

variable (key : UInt8) (command : Command)

/-- Whether an error is noticed is a matter of the error alone. -/
theorem isNoticed_chain_iff (error : Frame) :
    (plain key command ^^^ error).chain.IsNoticed ↔ halves error.sum ≠ 0 := by
  have right : halves (plain key command).sum = 0 := (fits_iff _).mp (fits_plain key command)
  rw [IsNoticed, exists_mismatch_iff, unchain_chain, fits_iff, sum_xor, halves_xor, right,
    UInt8.zero_xor]

/-- An error in one half byte has nothing to be cancelled by. -/
theorem isNoticed_only {byte : UInt8} (wrong : byte ≠ 0)
    (half : byte &&& 0x0f = 0 ∨ byte &&& 0xf0 = 0) (place : Fin frameLength) :
    (plain key command ^^^ only place byte).chain.IsNoticed := by
  rw [isNoticed_chain_iff, sum_only]
  exact halves_ne_zero wrong half

/-- An error in a plain frame is rejected for its checksum, once the frame is chained and
decoded, exactly if its fourteen half bytes do not cancel out, whatever was laid out under
whatever key and whatever the buttons have become.  So each single wrong bit is noticed,
wherever it is, and so is everything else that is wrong with one half byte alone. -/
theorem error_noticed_iff :
    (∀ error : Frame, (plain key command ^^^ error).chain.IsNoticed ↔
      error.halfBytes.foldl (· ^^^ ·) 0 ≠ 0) ∧
    (∀ (place : Fin frameLength) (bit : Fin 8),
      (plain key command ^^^ only place (1 <<< UInt8.ofNat bit)).chain.IsNoticed) ∧
    ∀ (place : Fin frameLength) (byte : UInt8), byte ≠ 0 →
      byte &&& 0x0f = 0 ∨ byte &&& 0xf0 = 0 →
      (plain key command ^^^ only place byte).chain.IsNoticed := by
  refine ⟨?any, ?bits, ?halves⟩
  case any =>
    intro error
    rw [isNoticed_chain_iff, foldl_halfBytes]
  case bits =>
    intro place bit
    have single : ∀ bit : Fin 8, (1 : UInt8) <<< UInt8.ofNat bit ≠ 0 ∧
        ((1 : UInt8) <<< UInt8.ofNat bit &&& 0x0f = 0 ∨
          (1 : UInt8) <<< UInt8.ofNat bit &&& 0xf0 = 0) := by
      decide
    exact isNoticed_only key command (single bit).1 (single bit).2 place
  case halves =>
    intro place byte wrong half
    exact isNoticed_only key command wrong half place

/-- A wrong button is noticed, although stop is a press as good as up; the same error in
two bytes is not, although it makes the press that of another remote. -/
theorem error_noticed_iff_wrong_button :
    ((0x30 : UInt8) ≠ 0 ∧ (0x30 : UInt8) &&& 0x0f = 0) ∧
      (plain standardKey ⟨0x27962a, 2612, .up⟩ ^^^ only 1 0x30).chain.IsNoticed ∧
      ¬ (plain standardKey ⟨0x27962a, 2612, .up⟩ ^^^ ⟨0, 0, 0, 0, 0, 1, 1⟩).chain.IsNoticed := by
  obtain ⟨any, -, half⟩ := error_noticed_iff standardKey ⟨0x27962a, 2612, .up⟩
  refine ⟨by decide, half 1 0x30 (by decide) (by decide), fun noticed => ?_⟩
  exact (any ⟨0, 0, 0, 0, 0, 1, 1⟩).mp noticed (by decide)

end Frame

end ShutterRadio
