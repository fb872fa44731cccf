/-
# The rate that was asked for and the one there is

The chip divides its oscillator by a word, so a bit rate is set by one division and read
back by another, and in between the quotient is cut to sixteen bits.  The rate there is
then, `Chip.attained`, is never below the one that was asked for and never below the
lowest there is, it rises with what was asked for, and to ask for it is to get it: what a
word stands for is attained, although the word that is stored for it may be another one.
Widths of symbols are words as well, and read back as they were set unless they are too
wide.

All this is said of the driver on the board's register file, whatever is in there
(`Chip.ReadsBack`), and of the two registers of the word alone: no other one changes.
-/

import ShutterRadio.Proofs.Chip.Exchange
import ShutterRadio.Proofs.Chip.Patience
import ShutterRadio.Proofs.Chip.Tuning
import ShutterRadio.Proofs.Frame.RoundTrip

namespace ShutterRadio

open Bench (Board chipBus Stuck)

namespace Chip

/-! ## Words and rates, as numbers -/

theorem toNat_min (first second : UInt32) :
    (min first second).toNat = min first.toNat second.toNat := by
  show (if first ≤ second then first else second).toNat = _
  by_cases le : first ≤ second
  · rw [if_pos le, Nat.min_eq_left (UInt32.le_iff_toNat_le.mp le)]
  · have lt : second < first := UInt32.not_le.mp le
    rw [if_neg le, Nat.min_eq_right (Nat.le_of_lt (UInt32.lt_iff_toNat_lt.mp lt))]

theorem toNat_max (first second : UInt32) :
    (max first second).toNat = max first.toNat second.toNat := by
  show (if first ≤ second then second else first).toNat = _
  by_cases le : first ≤ second
  · rw [if_pos le, Nat.max_eq_right (UInt32.le_iff_toNat_le.mp le)]
  · have lt : second < first := UInt32.not_le.mp le
    rw [if_neg le, Nat.max_eq_left (Nat.le_of_lt (UInt32.lt_iff_toNat_lt.mp lt))]

theorem toNat_bitRateWord (rate : UInt32) :
    (bitRateWord rate).toNat = min (32000000 / max rate.toNat 1) 65535 := by
  have quotient : (oscillator / max rate 1).toNat = 32000000 / max rate.toNat 1 := by
    rw [UInt32.toNat_div, toNat_max]
    rfl
  have short : min (32000000 / max rate.toNat 1) 65535 < 2 ^ 16 := by omega
  rw [bitRateWord, UInt32.toNat_toUInt16, toNat_min, quotient]
  exact Nat.mod_eq_of_lt short

theorem toNat_symbolWord (micros : UInt16) :
    (symbolWord micros).toNat = min (32 * micros.toNat) 65535 := by
  have bound := micros.toNat_lt
  have product : (32 * micros.toUInt32).toNat = 32 * micros.toNat := by
    rw [UInt32.toNat_mul, UInt16.toNat_toUInt32]
    exact Nat.mod_eq_of_lt (show 32 * micros.toNat < 2 ^ 32 by omega)
  have short : min (32 * micros.toNat) 65535 < 2 ^ 16 := by omega
  rw [symbolWord, UInt32.toNat_toUInt16, toNat_min, product]
  exact Nat.mod_eq_of_lt short

theorem toNat_rateOfWord (word : UInt16) : (rateOfWord word).toNat = 32000000 / word.toNat := by
  rw [rateOfWord, UInt32.toNat_div, UInt16.toNat_toUInt32]
  rfl

/-! ## The rate there is -/

/-- The rate there is when one was asked for. -/
def attained (rate : UInt32) : UInt32 := rateOfWord (bitRateWord rate)

section Attained

variable {rate more : UInt32}

theorem toNat_attained (rate : UInt32) :
    (attained rate).toNat = 32000000 / min (32000000 / max rate.toNat 1) 65535 := by
  rw [attained, toNat_rateOfWord, toNat_bitRateWord]

/-- A rate that the oscillator can give is stored as a word other than zero. -/
theorem bitRateWord_pos (able : rate.toNat ≤ 32000000) :
    0 < min (32000000 / max rate.toNat 1) 65535 := by
  have quotient : 0 < 32000000 / max rate.toNat 1 := Nat.div_pos (by omega) (by omega)
  omega

theorem le_attained (able : rate ≤ 32000000) : rate ≤ attained rate := by
  have able := UInt32.le_iff_toNat_le.mp able
  rw [UInt32.le_iff_toNat_le, toNat_attained, Nat.le_div_iff_mul_le (bitRateWord_pos able)]
  calc rate.toNat * min (32000000 / max rate.toNat 1) 65535
      ≤ max rate.toNat 1 * (32000000 / max rate.toNat 1) :=
        Nat.mul_le_mul (Nat.le_max_left _ _) (Nat.min_le_left _ _)
    _ ≤ 32000000 := Nat.mul_div_le _ _

/-- No word is larger than the largest one. -/
theorem lowest_le_attained (able : rate ≤ 32000000) : 488 ≤ attained rate := by
  have able := UInt32.le_iff_toNat_le.mp able
  rw [UInt32.le_iff_toNat_le, toNat_attained]
  calc 488
      ≤ 32000000 / 65535 := by decide
    _ ≤ 32000000 / min (32000000 / max rate.toNat 1) 65535 :=
        Nat.div_le_div_left (Nat.min_le_right _ _) (bitRateWord_pos able)

/-- Both divisions turn the order round. -/
theorem attained_mono (le : rate ≤ more) (able : more ≤ 32000000) :
    attained rate ≤ attained more := by
  have le := UInt32.le_iff_toNat_le.mp le
  have able := UInt32.le_iff_toNat_le.mp able
  have words : 32000000 / max more.toNat 1 ≤ 32000000 / max rate.toNat 1 :=
    Nat.div_le_div_left (by omega) (by omega)
  rw [UInt32.le_iff_toNat_le, toNat_attained, toNat_attained]
  exact Nat.div_le_div_left (by omega) (bitRateWord_pos able)

/-- The word for what a word stands for may be larger, but stands for no less: there is
no room between a quotient and the divisor's own share of what is divided. -/
theorem attained_rateOfWord {word : UInt16} (some : word ≠ 0) :
    attained (rateOfWord word) = rateOfWord word := by
  have positive : 0 < word.toNat := Nat.pos_of_ne_zero fun none => some (UInt16.toNat_inj.mp none)
  have bound : word.toNat ≤ 65535 := Nat.le_of_lt_succ word.toNat_lt
  have lowest : 32000000 / 65535 ≤ 32000000 / word.toNat := Nat.div_le_div_left bound positive
  have proper : max (32000000 / word.toNat) 1 = 32000000 / word.toNat := by omega
  have share : word.toNat ≤ 32000000 / (32000000 / word.toNat) := by
    rw [Nat.le_div_iff_mul_le (by omega)]
    exact Nat.mul_div_le _ _
  rw [← UInt32.toNat_inj, toNat_attained, toNat_rateOfWord, proper]
  apply Nat.le_antisymm
  · exact Nat.div_le_div_left (by omega) positive
  · rw [Nat.le_div_iff_mul_le (by omega)]
    calc 32000000 / word.toNat * min (32000000 / (32000000 / word.toNat)) 65535
        ≤ 32000000 / word.toNat * (32000000 / (32000000 / word.toNat)) :=
          Nat.mul_le_mul_left _ (Nat.min_le_left _ _)
      _ ≤ 32000000 := Nat.mul_div_le _ _

theorem attained_attained (able : rate ≤ 32000000) :
    attained (attained rate) = attained rate := by
  apply attained_rateOfWord
  intro none
  have positive := bitRateWord_pos (UInt32.le_iff_toNat_le.mp able)
  rw [← toNat_bitRateWord, none] at positive
  exact absurd positive (by decide)

/-- A width that is not too wide is read as it was set. -/
theorem symbolOfWord_symbolWord (micros : UInt16) :
    symbolOfWord (symbolWord micros) = min micros 2047 := by
  have read : (symbolOfWord (symbolWord micros)).toNat = (symbolWord micros).toNat / 32 :=
    UInt16.toNat_div _ 32
  rw [toNat_symbolWord] at read
  apply UInt16.toNat_inj.mp
  show _ = (if micros ≤ 2047 then micros else 2047).toNat
  by_cases fits : micros ≤ 2047
  · have bound : micros.toNat ≤ 2047 := UInt16.le_iff_toNat_le.mp fits
    rw [if_pos fits, read]
    omega
  · have bound : 2047 < micros.toNat := UInt16.lt_iff_toNat_lt.mp (UInt16.not_le.mp fits)
    rw [if_neg fits, read]
    show _ = 2047
    omega

/-- So many microseconds for a symbol are so many symbols in a second. -/
theorem rateOfWord_symbolWord {micros : UInt16} (fits : micros ≤ 2047) :
    rateOfWord (symbolWord micros) = 1000000 / micros.toUInt32 := by
  have bound : micros.toNat ≤ 2047 := UInt16.le_iff_toNat_le.mp fits
  have whole : min (32 * micros.toNat) 65535 = 32 * micros.toNat := by omega
  rw [← UInt32.toNat_inj, toNat_rateOfWord, toNat_symbolWord, whole, UInt32.toNat_div,
    UInt16.toNat_toUInt32]
  calc 32000000 / (32 * micros.toNat)
      = 32 * 1000000 / (32 * micros.toNat) := rfl
    _ = 1000000 / micros.toNat := Nat.mul_div_mul_left _ _ (by decide)

end Attained

/-! ## Words in the registers -/

/-- Nothing but the word of the bit rate may differ. -/
def SparesOthers (before after : Contents) : Prop :=
  ∀ place, place ≠ 0x03 → place ≠ 0x04 → after place = before place

/-- What is read after something was set, on every board of which no transaction fails:
setting it changes the word of the bit rate at most, and reading changes nothing. -/
def ReadsBack {α : Type} (set : Run Board Stuck Unit) (read : Run Board Stuck α) (value : α) :
    Prop :=
  ∀ driver : Driver Board, driver.bus.failingTransfers = [] →
    ∃ between after, set driver = .ok () between ∧ read between = .ok value after ∧
      SparesOthers driver.bus.contents between.bus.contents ∧
      after.bus.contents = between.bus.contents ∧ after.bus.failingTransfers = []

section Registers

variable {α : Type} {driver : Driver Board}

/-- A transaction that is not to fail is answered, and the next will fare no worse. -/
theorem exists_answered {access : Board → Except String α × Board} {board : Board}
    (transaction : Board.IsTransaction access) (sound : board.failingTransfers = []) :
    ∃ answer after, access board = (.ok answer, after) ∧ after.failingTransfers = [] := by
  have kept := (transaction.idles board).failing
  have blame := transaction.blame board
  generalize access board = result at kept blame ⊢
  rcases result with ⟨cause | answer, after⟩
  · have member := blame rfl
    rw [sound] at member
    cases member
  · exact ⟨answer, after, rfl, kept.trans sound⟩

theorem fits_wordBytes (word : UInt16) : Fits .bitRate (wordBytes word) :=
  .inr (by simp [Register.address, wordBytes])

/-- A word that is written is stored. -/
theorem exists_write (sound : driver.bus.failingTransfers = []) (word : UInt16) :
    ∃ after, write chipBus .bitRate (wordBytes word) driver = .ok () after ∧
      after.bus.contents = driver.bus.contents.put .bitRate (wordBytes word) ∧
      after.bus.failingTransfers = [] := by
  obtain ⟨⟨⟩, bus, answered, still⟩ := exists_answered
    (Board.isTransaction_writeTransfer [Register.bitRate.writeByte :: wordBytes word]) sound
  have written : write chipBus .bitRate (wordBytes word) driver = .ok () { driver with bus } :=
    use_of_answered answered
  exact ⟨_, written, ends_write (fits_wordBytes word) () _ written, still⟩

/-- A word is read as it is stored. -/
theorem exists_readWord (sound : driver.bus.failingTransfers = []) :
    ∃ after, readWord chipBus .bitRate driver = .ok (wordOf (driver.bus.contents.byte .bitRate 0)
        (driver.bus.contents.byte .bitRate 1)) after ∧
      after.bus.contents = driver.bus.contents ∧ after.bus.failingTransfers = [] := by
  obtain ⟨bytes, bus, answered, still⟩ := exists_answered
    (Board.isTransaction_readTransfer Register.bitRate.readByte 2) sound
  obtain ⟨untouched, told⟩ := Board.contents_readTransfer (by simp) answered
  have taken : read chipBus .bitRate 2 driver = .ok bytes { driver with bus } :=
    use_of_answered answered
  refine ⟨{ driver with bus }, ?_, untouched, still⟩
  show EStateM.bind (read chipBus .bitRate 2) _ driver = _
  rw [EStateM.bind, taken]
  show EStateM.Result.ok (wordOf bytes[0] bytes[1]) _ = _
  rw [told 0 (by decide), told 1 (by decide)]
  rfl

/-- A word is stored in the two registers of the bit rate. -/
theorem sparesOthers_put (contents : Contents) (word : UInt16) :
    SparesOthers contents (contents.put .bitRate (wordBytes word)) := by
  intro place notFirst notSecond
  have first : place.val ≠ 0x03 := fun same => notFirst (Fin.ext same)
  have second : place.val ≠ 0x04 := fun same => notSecond (Fin.ext same)
  show contents.write 0x03 (wordBytes word) place = contents place
  by_cases before : place.val < 0x03
  · exact Contents.write_of_lt before
  · apply Contents.write_of_ge
    show 0x03 + 2 ≤ place.val
    omega

/-- Whatever a word is set for, what is read of it is read of just this word. -/
theorem readsBack_word (word : UInt16) (convert : UInt16 → α) :
    ReadsBack (write chipBus .bitRate (wordBytes word))
      (do return convert (← readWord chipBus .bitRate)) (convert word) := by
  intro driver sound
  obtain ⟨between, written, stored, still⟩ := exists_write sound word
  obtain ⟨after, taken, untouched, still⟩ := exists_readWord still
  have high : between.bus.contents.byte .bitRate 0 = (word >>> 8).toUInt8 := by
    rw [stored]
    exact Contents.byte_put_self (by simp) (fits_wordBytes word) (by simp [wordBytes])
  have low : between.bus.contents.byte .bitRate 1 = word.toUInt8 := by
    rw [stored]
    exact Contents.byte_put_self (by simp) (fits_wordBytes word) (by simp [wordBytes])
  have whole : wordOf (word >>> 8).toUInt8 word.toUInt8 = word := word_of_bytes word
  rw [high, low, whole] at taken
  refine ⟨between, after, written, ?_, stored ▸ sparesOthers_put _ word, untouched, still⟩
  show EStateM.bind (readWord chipBus .bitRate) _ between = _
  rw [EStateM.bind, taken]
  rfl

end Registers

theorem readsBack_setBitRate (rate : UInt32) :
    ReadsBack (setBitRate chipBus rate) (bitRate chipBus) (attained rate) :=
  readsBack_word (bitRateWord rate) rateOfWord

/-- On a board of which no transaction fails, whatever its registers contain, a rate that the
oscillator can give is read back as one no lower, and no lower than the lowest there is; the
more is asked for, the more there is; and to set what was read is to read it again.  So it is
with whatever a word stands for.  The width of a symbol is read as it was set, or as the
widest there is, and then so many symbols are sent in a second.  No other register changes. -/
theorem rates_read_back :
    (∀ rate : UInt32, rate ≤ 32000000 →
      ReadsBack (setBitRate chipBus rate) (bitRate chipBus) (attained rate) ∧
      rate ≤ attained rate ∧ 488 ≤ attained rate ∧
      ReadsBack (setBitRate chipBus (attained rate)) (bitRate chipBus) (attained rate)) ∧
    (∀ rate more : UInt32, rate ≤ more → more ≤ 32000000 → attained rate ≤ attained more) ∧
    (∀ word : UInt16, word ≠ 0 →
      ReadsBack (setBitRate chipBus (rateOfWord word)) (bitRate chipBus) (rateOfWord word)) ∧
    (∀ micros : UInt16,
      ReadsBack (setSymbolWidth chipBus micros) (symbolWidth chipBus) (min micros 2047)) ∧
    ∀ micros : UInt16, micros ≤ 2047 →
      ReadsBack (setSymbolWidth chipBus micros) (bitRate chipBus) (1000000 / micros.toUInt32) := by
  refine ⟨?rates, ?rising, ?words, ?widths, ?symbols⟩
  case rates =>
    intro rate able
    have again := readsBack_setBitRate (attained rate)
    rw [attained_attained able] at again
    exact ⟨readsBack_setBitRate rate, le_attained able, lowest_le_attained able, again⟩
  case rising =>
    intro rate more le able
    exact attained_mono le able
  case words =>
    intro word some
    have again := readsBack_setBitRate (rateOfWord word)
    rwa [attained_rateOfWord some] at again
  case widths =>
    intro micros
    have read := readsBack_word (symbolWord micros) symbolOfWord
    rwa [symbolOfWord_symbolWord] at read
  case symbols =>
    intro micros fits
    have read := readsBack_word (symbolWord micros) rateOfWord
    rwa [rateOfWord_symbolWord fits] at read

/-- The rate that is read may be higher than the one that was set; what a word stands for
is read again although its own word has become another one; and a width may be cut. -/
theorem rates_read_back_rounding :
    ((1234567 : UInt32) ≤ 32000000 ∧ ∃ between after,
      setBitRate chipBus 1234567 (.fresh .blank) = .ok () between ∧
        bitRate chipBus between = .ok 1280000 after) ∧
    ((60000 : UInt16) ≠ 0 ∧ rateOfWord 60000 = 533 ∧ bitRateWord 533 = 60037 ∧
      ReadsBack (setBitRate chipBus 533) (bitRate chipBus) 533) ∧
    ReadsBack (setSymbolWidth chipBus 4000) (symbolWidth chipBus) 2047 ∧
    ((640 : UInt16) ≤ 2047 ∧ ReadsBack (setSymbolWidth chipBus 640) (bitRate chipBus) 1562) := by
  obtain ⟨rates, -, words, widths, symbols⟩ := rates_read_back
  obtain ⟨between, after, set, read, -⟩ := (rates 1234567 (by decide)).1 (.fresh .blank) rfl
  exact ⟨⟨by decide, between, after, set, read⟩,
    ⟨by decide, by decide, by decide, words 60000 (by decide)⟩, widths 4000,
    by decide, symbols 640 (by decide)⟩

end Chip

end ShutterRadio
