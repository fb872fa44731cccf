/-
# Chaining, one byte after the other

`Frame.chain` and `Frame.unchain` say what every place of a frame becomes.  Whoever has
just seven bytes of memory goes through them and adds to each byte the one before it, as
it is by then: from the front, where that byte has been added to already, or from the
back, where it has not.  The sweeps below do so on bytes of any number, and
`Frame.chain_telescopes` says that a frame is chained by a sweep from the front and
unchained by one from the back, what either leaves at each place, and that chaining
respects exclusive-or.

Only the direction makes a difference: a sweep from the front leaves running sums, one
from the back leaves differences of neighbours, and these undo each other.
-/

import ShutterRadio.Proofs.Frame.RoundTrip

namespace ShutterRadio

/-! ## Sweeps -/

/-- Add to the byte behind a place the one that stands there by now. -/
def absorb (bytes : List UInt8) (place : Nat) : List UInt8 :=
  bytes.modify (place + 1) (· ^^^ bytes.getD place 0)

/-- Add to each byte the one before it, for so many bytes behind the first, from the
front. -/
def sweepUp (bytes : List UInt8) (count : Nat) : List UInt8 :=
  (List.range count).foldl absorb bytes

/-- The same from the back. -/
def sweepDown (bytes : List UInt8) (count : Nat) : List UInt8 :=
  (List.range count).reverse.foldl absorb bytes

/-- The exclusive-or of all bytes up to a place. -/
def sumTo (bytes : List UInt8) (place : Nat) : UInt8 :=
  (bytes.take (place + 1)).foldl (· ^^^ ·) 0

section Sweeps

variable {bytes : List UInt8} {count place : Nat}

@[simp]
theorem length_absorb : (absorb bytes place).length = bytes.length :=
  List.length_modify _ _ _

theorem sweepUp_succ : sweepUp bytes (count + 1) = absorb (sweepUp bytes count) count := by
  rw [sweepUp, List.range_succ, List.foldl_append]
  rfl

theorem sweepDown_succ : sweepDown bytes (count + 1) = sweepDown (absorb bytes count) count := by
  rw [sweepDown, List.range_succ, List.reverse_append]
  rfl

@[simp]
theorem length_sweepUp : (sweepUp bytes count).length = bytes.length := by
  induction count with
  | zero => rfl
  | succ count ih => rw [sweepUp_succ, length_absorb, ih]

@[simp]
theorem length_sweepDown : (sweepDown bytes count).length = bytes.length := by
  induction count generalizing bytes with
  | zero => rfl
  | succ count ih => rw [sweepDown_succ, ih, length_absorb]

theorem getElem_absorb_succ (within : place + 1 < bytes.length)
    (still : place + 1 < (absorb bytes place).length) :
    (absorb bytes place)[place + 1] = bytes[place + 1] ^^^ bytes[place] := by
  simp [absorb, List.getElem?_eq_getElem (Nat.lt_of_succ_lt within)]

theorem getElem_absorb_of_ne {index : Nat} (apart : index ≠ place + 1)
    (within : index < bytes.length) (still : index < (absorb bytes place).length) :
    (absorb bytes place)[index] = bytes[index] := by
  simp [absorb, apart.symm]

theorem sumTo_zero (within : 0 < bytes.length) : sumTo bytes 0 = bytes[0] := by
  rw [sumTo, List.take_succ_eq_append_getElem within]
  simp

theorem sumTo_succ (within : place + 1 < bytes.length) :
    sumTo bytes (place + 1) = sumTo bytes place ^^^ bytes[place + 1] := by
  rw [sumTo, List.take_succ_eq_append_getElem within, List.foldl_append]
  rfl

/-- What was passed by a sweep from the front has become a running sum, and the rest is
still to come. -/
theorem getElem_sweepUp (count : Nat) (within : place < bytes.length)
    (still : place < (sweepUp bytes count).length) :
    (sweepUp bytes count)[place] = if place ≤ count then sumTo bytes place else bytes[place] := by
  induction count generalizing place with
  | zero =>
      by_cases first : place = 0
      · subst first
        exact (sumTo_zero within).symm
      · rw [if_neg (by omega)]
        rfl
  | succ count ih =>
      simp only [sweepUp_succ]
      by_cases here : place = count + 1
      · subst here
        have before : count < bytes.length := Nat.lt_of_succ_lt within
        rw [getElem_absorb_succ (by simpa using within), ih within, ih before,
          if_neg (by omega), if_pos (Nat.le_refl _), if_pos (Nat.le_refl _), sumTo_succ within,
          UInt8.xor_comm]
      · rw [getElem_absorb_of_ne here (by simpa using within), ih within]
        have same : place ≤ count ↔ place ≤ count + 1 := by omega
        simp only [same]

/-- What was passed by a sweep from the back has been taken off its neighbour, for which
that neighbour was there as it was; the rest is still to come. -/
theorem getElem_sweepDown (count : Nat) (within : place < bytes.length)
    (still : place < (sweepDown bytes count).length) :
    (sweepDown bytes count)[place] =
      if 0 < place ∧ place ≤ count then bytes[place] ^^^ bytes[place - 1] else bytes[place] := by
  induction count generalizing bytes with
  | zero =>
      rw [if_neg (by omega)]
      rfl
  | succ count ih =>
      simp only [sweepDown_succ]
      rw [ih (by simpa using within)]
      by_cases passed : 0 < place ∧ place ≤ count
      · rw [if_pos passed, if_pos ⟨passed.1, Nat.le_succ_of_le passed.2⟩,
          getElem_absorb_of_ne (by omega) within, getElem_absorb_of_ne (by omega) (by omega)]
      · rw [if_neg passed]
        by_cases here : place = count + 1
        · subst here
          rw [if_pos ⟨Nat.succ_pos _, Nat.le_refl _⟩, getElem_absorb_succ within]
          rfl
        · rw [if_neg (by omega), getElem_absorb_of_ne here within]

/-- As many bytes may be added up each on its own or together. -/
theorem foldl_zipWith {others : List UInt8} (same : bytes.length = others.length)
    (first second : UInt8) :
    (List.zipWith (· ^^^ ·) bytes others).foldl (· ^^^ ·) (first ^^^ second) =
      bytes.foldl (· ^^^ ·) first ^^^ others.foldl (· ^^^ ·) second := by
  induction bytes generalizing others first second with
  | nil =>
      rw [List.length_eq_zero_iff.mp same.symm]
      rfl
  | cons byte rest ih =>
      cases others with
      | nil => cases same
      | cons other others =>
          have exchange : first ^^^ second ^^^ (byte ^^^ other) =
              first ^^^ byte ^^^ (second ^^^ other) := by ac_rfl
          simp only [List.zipWith_cons_cons, List.foldl_cons]
          rw [exchange, ih (Nat.succ.inj same)]

theorem sumTo_zipWith {others : List UInt8} (same : bytes.length = others.length) (place : Nat) :
    sumTo (List.zipWith (· ^^^ ·) bytes others) place =
      sumTo bytes place ^^^ sumTo others place := by
  have taken : (bytes.take (place + 1)).length = (others.take (place + 1)).length := by
    rw [List.length_take, List.length_take, same]
  have added := foldl_zipWith taken 0 0
  rw [UInt8.xor_self] at added
  rw [sumTo, List.take_zipWith, added]
  rfl

end Sweeps

namespace Frame

/-! ## Frames by their places -/

/-- There are bytes in a frame, so one of them is the first. -/
instance : NeZero frameLength := ⟨nofun⟩

/-- The byte at a place. -/
def byte (f : Frame) (place : Fin frameLength) : UInt8 := f.bytes.get place

/-- Frames are added byte by byte. -/
instance : XorOp Frame where
  xor f g :=
    { key := f.key ^^^ g.key
      control := f.control ^^^ g.control
      codeHigh := f.codeHigh ^^^ g.codeHigh
      codeLow := f.codeLow ^^^ g.codeLow
      idHigh := f.idHigh ^^^ g.idHigh
      idMid := f.idMid ^^^ g.idMid
      idLow := f.idLow ^^^ g.idLow }

theorem bytes_xor (f g : Frame) :
    (f ^^^ g).bytes = List.zipWith (· ^^^ ·) f.bytes g.bytes := rfl

theorem byte_xor (f g : Frame) (place : Fin frameLength) :
    (f ^^^ g).byte place = f.byte place ^^^ g.byte place := by
  show (f ^^^ g).bytes[place] = f.bytes[place] ^^^ g.bytes[place]
  simp only [bytes_xor, Fin.getElem_fin, List.getElem_zipWith]

/-- Frames with the same bytes are the same. -/
theorem ext_byte {f g : Frame} (same : ∀ place, f.byte place = g.byte place) : f = g := by
  have bytes : f.bytes = g.bytes :=
    List.ext_getElem rfl fun place within _ => same ⟨place, within⟩
  apply Option.some.inj
  rw [← ofBytes?_bytes f, ← ofBytes?_bytes g, bytes]

variable (f : Frame)

theorem bytes_chain : f.chain.bytes = sweepUp f.bytes 6 := rfl

theorem bytes_unchain : f.unchain.bytes = sweepDown f.bytes 6 := rfl

theorem byte_chain (place : Fin frameLength) : f.chain.byte place = sumTo f.bytes place := by
  have within : place.val < f.bytes.length := place.isLt
  have passed : place.val ≤ 6 := Nat.le_of_lt_succ place.isLt
  have swept := getElem_sweepUp 6 within (length_sweepUp.symm ▸ within)
  rw [if_pos passed] at swept
  exact swept

theorem byte_unchain (place : Fin 6) :
    f.unchain.byte place.succ = f.byte place.succ ^^^ f.byte place.castSucc := by
  have within : place.val + 1 < f.bytes.length := Nat.succ_lt_succ place.isLt
  have passed : 0 < place.val + 1 ∧ place.val + 1 ≤ 6 := ⟨Nat.succ_pos _, place.isLt⟩
  have swept := getElem_sweepDown 6 within (length_sweepDown.symm ▸ within)
  rw [if_pos passed] at swept
  exact swept

/-- Running sums add up. -/
theorem chain_xor (g : Frame) : (f ^^^ g).chain = f.chain ^^^ g.chain := by
  apply ext_byte
  intro place
  rw [byte_chain, byte_xor, byte_chain, byte_chain, bytes_xor,
    sumTo_zipWith (show f.bytes.length = g.bytes.length from rfl)]

/-- Chaining is a sweep from the front, unchaining one from the back.  The former leaves
at each place the sum of all bytes up to it, the latter the difference of the byte there
from the one before it, and the first byte as it was; so either undoes the other.  And a
sum of frames is chained as the sum of the chained ones. -/
theorem chain_telescopes :
    f.chain.bytes = sweepUp f.bytes 6 ∧ f.unchain.bytes = sweepDown f.bytes 6 ∧
    (∀ place : Fin frameLength,
      f.chain.byte place = (f.bytes.take (place.val + 1)).foldl (· ^^^ ·) 0) ∧
    f.unchain.byte 0 = f.byte 0 ∧
    (∀ place : Fin 6, f.unchain.byte place.succ = f.byte place.succ ^^^ f.byte place.castSucc) ∧
    f.chain.unchain = f ∧ f.unchain.chain = f ∧
    ∀ g : Frame, (f ^^^ g).chain = f.chain ^^^ g.chain :=
  ⟨bytes_chain f, bytes_unchain f, byte_chain f, rfl, byte_unchain f, unchain_chain f,
    chain_unchain f, chain_xor f⟩

end Frame

end ShutterRadio
