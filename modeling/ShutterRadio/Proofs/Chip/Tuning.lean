/-
# How the chip is tuned

Four things that its registers say matter to whoever listens: the mode, the sync
word, the coding and the length of packets.  `Tuning.of` reads them off the
registers as the chip does, bit by bit, whatever stands there.  What a call means
for them is said by `Tuning.after`, without a word about registers, and
`tuning_imprint` says that what a call leaves behind means just that.

Bits that the chip reads in other ways, and values that it does not know, are
not interpreted.
-/

import Mathlib.Tactic.IntervalCases
import ShutterRadio.Proofs.Chip.Imprint

namespace ShutterRadio.Chip

/-- How a chip is tuned: its mode if it is one that is used here, its sync word if that
is on, its coding, and the length of packets if that is fixed. -/
structure Tuning where
  mode : Option Mode
  sync : Option (List UInt8)
  manchester : Bool
  length : Option UInt8
  deriving DecidableEq

/-- What a call means for how the chip is tuned. -/
def Tuning.after (tuning : Tuning) : Call → Tuning
  | .configure => ⟨some .standby, none, true, some initialLength⟩
  | .setSync pattern =>
      { tuning with sync := if pattern = [] then none else some (pattern.take syncCapacity) }
  | .setFormat manchester length =>
      { tuning with manchester, length := if length = 0 then none else some length }
  | .transmit _ => { tuning with mode := some .standby }
  | .listen => { tuning with mode := some .receive }
  | .standby => { tuning with mode := some .standby }
  | _ => tuning

/-! ## The configuration of the sync word -/

section SyncConfig

variable (old size : UInt8)

/-- The size bits of a new configuration are those of the size. -/
theorem size_of_config : ((old &&& ~~~(syncOn ||| syncSizeBits)) ||| syncOn ||| size) &&&
    syncSizeBits = size &&& syncSizeBits := by
  apply UInt8.toBitVec_inj.mp
  apply BitVec.eq_of_getLsbD_eq
  intro i hi
  interval_cases i <;> simp [syncOn, syncSizeBits]

/-- With a size, the sync word is on. -/
theorem on_of_config : ((old &&& ~~~(syncOn ||| syncSizeBits)) ||| syncOn ||| size) &&&
    syncOn = syncOn := by
  apply UInt8.toBitVec_inj.mp
  apply BitVec.eq_of_getLsbD_eq
  intro i hi
  interval_cases i <;> simp [syncOn, syncSizeBits]

/-- Bits that are about something else stay. -/
theorem rest_of_config : ((old &&& ~~~(syncOn ||| syncSizeBits)) ||| syncOn |||
    (size &&& syncSizeBits)) &&& ~~~(syncOn ||| syncSizeBits) =
      old &&& ~~~(syncOn ||| syncSizeBits) := by
  apply UInt8.toBitVec_inj.mp
  apply BitVec.eq_of_getLsbD_eq
  intro i hi
  interval_cases i <;> simp [syncOn, syncSizeBits]

/-- Sizes up to eight bytes fit into the size bits. -/
theorem size_fits {length : Nat} (short : length < 8) :
    (UInt8.ofNat length <<< 3) &&& syncSizeBits = UInt8.ofNat length <<< 3 ∧
      ((UInt8.ofNat length <<< 3) >>> 3).toNat = length := by
  interval_cases length <;> decide

/-- The bytes of a sync word, by its configuration. -/
def syncSize (config : UInt8) : Nat := ((config &&& syncSizeBits) >>> 3).toNat + 1

theorem syncSize_le (config : UInt8) : syncSize config ≤ 8 := by
  have masked : (config &&& syncSizeBits).toNat ≤ 0x38 := by
    rw [UInt8.toNat_and]
    exact Nat.and_le_right
  have shifted : ((config &&& syncSizeBits) >>> 3).toNat = (config &&& syncSizeBits).toNat / 8 :=
    Nat.shiftRight_eq_div_pow _ 3
  rw [syncSize, shifted]
  omega

variable {word : List UInt8}

theorem syncConfigFor_nil : syncConfigFor old [] &&& syncOn = 0 ∧
    syncConfigFor old [] &&& ~~~syncOn = old &&& ~~~syncOn := by
  show (old &&& ~~~syncOn) &&& syncOn = 0 ∧ (old &&& ~~~syncOn) &&& ~~~syncOn = old &&& ~~~syncOn
  constructor <;> rw [UInt8.and_assoc]
  · simp
  · rw [UInt8.and_self]

theorem syncConfigFor_word (some : word ≠ []) (short : word.length ≤ syncCapacity) :
    syncConfigFor old word &&& syncOn = syncOn ∧
      syncSize (syncConfigFor old word) = word.length ∧
      syncConfigFor old word &&& ~~~(syncOn ||| syncSizeBits) =
        old &&& ~~~(syncOn ||| syncSizeBits) := by
  have length : 0 < word.length := List.length_pos_iff.mpr some
  obtain ⟨within, back⟩ : (UInt8.ofNat (word.length - 1) <<< 3) &&& syncSizeBits =
      UInt8.ofNat (word.length - 1) <<< 3 ∧
        ((UInt8.ofNat (word.length - 1) <<< 3) >>> 3).toNat = word.length - 1 :=
    size_fits (by unfold syncCapacity at short; omega)
  have config : syncConfigFor old word = (old &&& ~~~(syncOn ||| syncSizeBits)) ||| syncOn |||
      (UInt8.ofNat (word.length - 1) <<< 3) := if_neg (by simpa using some)
  refine ⟨?_, ?_, ?_⟩
  · rw [config, on_of_config]
  · rw [config, syncSize, size_of_config, within, back]
    omega
  · rw [config, ← within, rest_of_config]

/-- Whatever the word is, bits that are about something else stay. -/
theorem syncConfigFor_rest (short : word.length ≤ syncCapacity) :
    syncConfigFor old word &&& ~~~(syncOn ||| syncSizeBits) =
      old &&& ~~~(syncOn ||| syncSizeBits) := by
  by_cases none : word = []
  · have masks : ~~~(syncOn ||| syncSizeBits) = ~~~syncOn &&& ~~~(syncOn ||| syncSizeBits) := by
      decide
    rw [none, masks, ← UInt8.and_assoc, (syncConfigFor_nil old).2, UInt8.and_assoc]
  · exact (syncConfigFor_word old none short).2.2

end SyncConfig

/-! ## Reading registers -/

/-- The bits of the mode register that are the mode. -/
def modeBits : UInt8 := 0x1c

/-- The mode that a mode register stands for. -/
def Mode.of? (byte : UInt8) : Option Mode :=
  [standby, transmit, receive].find? fun mode => mode.byte &&& modeBits == byte &&& modeBits

theorem Mode.of?_byte (mode : Mode) : Mode.of? mode.byte = some mode := by
  cases mode <;> decide

namespace Contents

/-- A byte of a register. -/
def byte (contents : Contents) (register : Register) (offset : Nat) : UInt8 :=
  contents (Fin.ofNat 128 (register.address.toNat + offset))

/-- The sync word, if it is on. -/
def sync? (contents : Contents) : Option (List UInt8) :=
  if contents.byte .syncConfig 0 &&& syncOn = 0 then none
  else some ((List.range (syncSize (contents.byte .syncConfig 0))).map (contents.byte .syncValue))

end Contents

/-- How the chip is tuned, by what its registers contain. -/
def Tuning.of (contents : Contents) : Tuning where
  mode := Mode.of? (contents.byte .mode 0)
  sync := contents.sync?
  manchester := contents.byte .packetConfig 0 &&& 0x20 != 0
  length :=
    if contents.byte .packetConfig 0 &&& 0x80 = 0 then some (contents.byte .packetConfig 1)
    else none

namespace Contents

variable {contents : Contents} {written asked : Register} {bytes : List UInt8} {offset : Nat}

theorem byte_put_self (stored : written ≠ .packet) (fits : Fits written bytes)
    (within : offset < bytes.length) :
    (contents.put written bytes).byte written offset = bytes[offset] := by
  have below := fits.resolve_left stored
  unfold byte put
  rw [if_neg stored]
  exact write_of_within within (Nat.mod_eq_of_lt (by omega))

theorem byte_put_apart (inFile : asked.address.toNat + offset < 128)
    (apart : written = .packet ∨ asked.address.toNat + offset < written.address.toNat ∨
      written.address.toNat + bytes.length ≤ asked.address.toNat + offset) :
    (contents.put written bytes).byte asked offset = contents.byte asked offset := by
  have place : (Fin.ofNat 128 (asked.address.toNat + offset)).val =
      asked.address.toNat + offset := Nat.mod_eq_of_lt inFile
  unfold byte put
  by_cases gone : written = .packet
  · rw [if_pos gone]
  · rw [if_neg gone]
    rcases apart.resolve_left gone with before | behind
    · exact write_of_lt (by rwa [place])
    · exact write_of_ge (by rwa [place])

/-- A sync word is made of the registers that are read for it. -/
theorem sync?_congr {first second : Contents}
    (config : first.byte .syncConfig 0 = second.byte .syncConfig 0)
    (value : ∀ offset < 8, first.byte .syncValue offset = second.byte .syncValue offset) :
    first.sync? = second.sync? := by
  have words : (List.range (syncSize (second.byte .syncConfig 0))).map (first.byte .syncValue) =
      (List.range (syncSize (second.byte .syncConfig 0))).map (second.byte .syncValue) := by
    apply List.map_congr_left
    intro offset within
    exact value offset (Nat.lt_of_lt_of_le (List.mem_range.mp within) (syncSize_le _))
  unfold sync?
  rw [config, words]

end Contents

namespace Tuning

variable {contents : Contents}

theorem of_congr {first second : Contents} (mode : first.byte .mode 0 = second.byte .mode 0)
    (config : first.byte .syncConfig 0 = second.byte .syncConfig 0)
    (value : ∀ offset < 8, first.byte .syncValue offset = second.byte .syncValue offset)
    (format : first.byte .packetConfig 0 = second.byte .packetConfig 0)
    (length : first.byte .packetConfig 1 = second.byte .packetConfig 1) :
    Tuning.of first = Tuning.of second := by
  unfold Tuning.of
  rw [mode, format, length, Contents.sync?_congr config value]

/-- The status flags do not matter. -/
theorem of_agree {first second : Contents} (agree : Contents.Agree first second) :
    Tuning.of first = Tuning.of second := by
  have same {register : Register} {offset : Nat} (inFile : register.address.toNat + offset < 128)
      (apart : register.address.toNat + offset ≠ 0x27 ∧ register.address.toNat + offset ≠ 0x28) :
      first.byte register offset = second.byte register offset := by
    have place : (Fin.ofNat 128 (register.address.toNat + offset)).val =
        register.address.toNat + offset := Nat.mod_eq_of_lt inFile
    apply agree
    · intro flags
      exact apart.1 (place.symm.trans (congrArg Fin.val flags))
    · intro flags
      exact apart.2 (place.symm.trans (congrArg Fin.val flags))
  apply of_congr
  · exact same (by decide) (by decide)
  · exact same (by decide) (by decide)
  · intro offset within
    exact same (by simp [Register.address]; omega) (by simp [Register.address]; omega)
  · exact same (by decide) (by decide)
  · exact same (by decide) (by decide)

/-- A write that touches no register of how the chip is tuned. -/
def Aside (register : Register) (bytes : List UInt8) : Prop :=
  register = .packet ∨
    0x01 < register.address.toNat ∧ register.address.toNat + bytes.length ≤ 0x2e

theorem of_put_aside {register : Register} {bytes : List UInt8} (aside : Aside register bytes) :
    Tuning.of (contents.put register bytes) = Tuning.of contents := by
  apply of_congr
  · exact Contents.byte_put_apart (by decide) (aside.imp_right fun range => .inl range.1)
  · exact Contents.byte_put_apart (by decide) (aside.imp_right fun range => .inr range.2)
  · intro offset within
    apply Contents.byte_put_apart (by simp [Register.address]; omega)
    exact aside.imp_right fun range => .inr (by simp [Register.address] at range ⊢; omega)
  · exact Contents.byte_put_apart (by decide)
      (aside.imp_right fun range => .inr (Nat.le_trans range.2 (by decide)))
  · exact Contents.byte_put_apart (by decide)
      (aside.imp_right fun range => .inr (Nat.le_trans range.2 (by decide)))

/-- Asking for a mode sets the mode and nothing else. -/
theorem of_put_mode (mode : Mode) :
    Tuning.of (contents.put .mode [mode.byte]) = { Tuning.of contents with mode := some mode } := by
  have behind {asked : Register} {offset : Nat} (inFile : asked.address.toNat + offset < 128)
      (later : 0x02 ≤ asked.address.toNat + offset) :
      (contents.put .mode [mode.byte]).byte asked offset = contents.byte asked offset :=
    Contents.byte_put_apart inFile (.inr (.inr later))
  have set : (contents.put .mode [mode.byte]).byte .mode 0 = mode.byte :=
    Contents.byte_put_self (by decide) (.inr (by simp [Register.address])) (Nat.succ_pos 0)
  have sync : (contents.put .mode [mode.byte]).sync? = contents.sync? := by
    apply Contents.sync?_congr
    · exact behind (by decide) (by decide)
    · intro offset within
      exact behind (by simp [Register.address]; omega) (by simp [Register.address]; omega)
  unfold Tuning.of
  rw [set, Mode.of?_byte, sync, behind (by decide) (by decide), behind (by decide) (by decide)]

/-- Setting a format sets the coding and the length and nothing else. -/
theorem of_put_format (manchester : Bool) (length : UInt8) :
    Tuning.of (contents.put .packetConfig (packetConfigBytes manchester length)) =
      { Tuning.of contents with
        manchester, length := if length = 0 then none else some length } := by
  have before {asked : Register} {offset : Nat} (earlier : asked.address.toNat + offset < 0x37) :
      (contents.put .packetConfig (packetConfigBytes manchester length)).byte asked offset =
        contents.byte asked offset :=
    Contents.byte_put_apart (Nat.lt_trans earlier (by decide)) (.inr (.inl earlier))
  have sync : (contents.put .packetConfig (packetConfigBytes manchester length)).sync? =
      contents.sync? := by
    apply Contents.sync?_congr
    · exact before (by decide)
    · intro offset within
      exact before (by simp [Register.address]; omega)
  have two : (packetConfigBytes manchester length).length = 2 := length_packetConfigBytes _ _
  have stored (offset : Nat) (within : offset < 2) :
      (contents.put .packetConfig (packetConfigBytes manchester length)).byte .packetConfig offset =
        (packetConfigBytes manchester length)[offset] :=
    Contents.byte_put_self (by decide) (fits_packetConfig _ _) (two ▸ within)
  unfold Tuning.of
  rw [before (by decide), sync, stored 0 (by decide), stored 1 (by decide)]
  by_cases any : length = 0 <;> cases manchester <;> simp [packetConfigBytes, any] <;> decide

/-- Setting a sync word touches its configuration and its eight bytes only. -/
theorem puts_sync_apart (pattern : List UInt8) {place : Fin 128}
    (apart : place.val < 0x2e ∨ 0x37 ≤ place.val) :
    contents.puts (syncWrites contents pattern) place = contents place := by
  have short : (pattern.take syncCapacity).length ≤ 8 := List.length_take_le _ _
  have config (bytes : List UInt8) (one : bytes.length = 1) (before : Contents) :
      before.write 0x2e bytes place = before place := by
    rcases apart with lower | upper
    · exact Contents.write_of_lt lower
    · exact Contents.write_of_ge (by omega)
  have value (before : Contents) :
      before.write 0x2f (pattern.take syncCapacity) place = before place := by
    rcases apart with lower | upper
    · exact Contents.write_of_lt (Nat.lt_succ_of_lt lower)
    · exact Contents.write_of_ge (by omega)
  unfold syncWrites
  by_cases none : (pattern.take syncCapacity).isEmpty = true
  · simp only [none, if_true]
    exact config _ rfl contents
  · simp only [none, Bool.false_eq_true, if_false]
    exact (value _).trans (config _ rfl contents)

/-- The configuration is the one that the word asks for. -/
theorem byte_config_of_puts_sync (pattern : List UInt8) :
    (contents.puts (syncWrites contents pattern)).byte .syncConfig 0 =
      syncConfigFor (contents.byte .syncConfig 0) (pattern.take syncCapacity) := by
  have stored (byte : UInt8) : (contents.put .syncConfig [byte]).byte .syncConfig 0 = byte :=
    Contents.byte_put_self (by decide) (.inr (by simp [Register.address])) (Nat.succ_pos 0)
  unfold syncWrites
  by_cases none : (pattern.take syncCapacity).isEmpty = true
  · simp only [none, if_true]
    exact stored _
  · simp only [none, Bool.false_eq_true, if_false]
    have behind : Register.syncConfig.address.toNat + 0 < Register.syncValue.address.toNat := by
      decide
    exact (Contents.byte_put_apart (by decide) (.inr (.inl behind))).trans (stored _)

/-- The bytes of the word stand where they are read. -/
theorem byte_value_of_puts_sync (pattern : List UInt8) {offset : Nat}
    (within : offset < (pattern.take syncCapacity).length) :
    (contents.puts (syncWrites contents pattern)).byte .syncValue offset =
      (pattern.take syncCapacity)[offset] := by
  have short : (pattern.take syncCapacity).length ≤ 8 := List.length_take_le _ _
  have some : ¬ (pattern.take syncCapacity).isEmpty = true := by
    intro none
    rw [List.isEmpty_iff.mp none] at within
    cases within
  unfold syncWrites
  have fits : Fits .syncValue (pattern.take syncCapacity) :=
    .inr (Nat.le_trans (Nat.add_le_add_left short 0x2f) (by decide))
  have stored : Register.syncValue ≠ .packet := by decide
  simp only [some, Bool.false_eq_true, if_false]
  exact Contents.byte_put_self stored fits within

/-- Setting a sync word sets it and nothing else, whatever was there before. -/
theorem of_puts_sync (pattern : List UInt8) :
    Tuning.of (contents.puts (syncWrites contents pattern)) =
      { Tuning.of contents with
        sync := if pattern = [] then none else some (pattern.take syncCapacity) } := by
  have mode : (contents.puts (syncWrites contents pattern)).byte .mode 0 =
      contents.byte .mode 0 := puts_sync_apart pattern (.inl (by decide))
  have format : (contents.puts (syncWrites contents pattern)).byte .packetConfig 0 =
      contents.byte .packetConfig 0 := puts_sync_apart pattern (.inr (by decide))
  have length : (contents.puts (syncWrites contents pattern)).byte .packetConfig 1 =
      contents.byte .packetConfig 1 := puts_sync_apart pattern (.inr (by decide))
  have sync : (contents.puts (syncWrites contents pattern)).sync? =
      if pattern = [] then none else some (pattern.take syncCapacity) := by
    unfold Contents.sync?
    rw [byte_config_of_puts_sync]
    by_cases none : pattern = []
    · rw [if_pos none, none]
      exact if_pos (syncConfigFor_nil _).1
    · have word : pattern.take syncCapacity ≠ [] := by
        simpa [List.take_eq_nil_iff, syncCapacity] using none
      obtain ⟨on, size, -⟩ := syncConfigFor_word (contents.byte .syncConfig 0) word
        (List.length_take_le _ _)
      rw [if_neg none, if_neg (by rw [on]; decide), size]
      apply congrArg some
      apply List.ext_getElem
      · simp
      · intro index _ within
        rw [List.getElem_map, List.getElem_range]
        exact byte_value_of_puts_sync pattern within
  unfold Tuning.of
  rw [mode, format, length, sync]

/-- The configuration that is set up first turns the sync word off. -/
theorem of_put_unset :
    Tuning.of (contents.put .syncConfig [syncUnset]) = { Tuning.of contents with sync := none } := by
  have apart {asked : Register} {offset : Nat} (inFile : asked.address.toNat + offset < 128)
      (elsewhere : asked.address.toNat + offset < 0x2e ∨ 0x2f ≤ asked.address.toNat + offset) :
      (contents.put .syncConfig [syncUnset]).byte asked offset = contents.byte asked offset :=
    Contents.byte_put_apart inFile (.inr elsewhere)
  have config : (contents.put .syncConfig [syncUnset]).byte .syncConfig 0 = syncUnset :=
    Contents.byte_put_self (by decide) (.inr (by simp [Register.address])) (Nat.succ_pos 0)
  have sync : (contents.put .syncConfig [syncUnset]).sync? = none := by
    unfold Contents.sync?
    rw [config]
    exact if_pos (by decide)
  unfold Tuning.of
  rw [sync, apart (by decide) (by decide), apart (by decide) (by decide),
    apart (by decide) (by decide)]

/-- What a call leaves behind means what the call means. -/
theorem of_imprint (contents : Contents) (asked : Call) :
    Tuning.of (imprint contents asked) = (Tuning.of contents).after asked := by
  cases asked with
  | configure =>
      show Tuning.of (((((((contents.put .mode [Mode.standby.byte]).put .modulation
        [modulationPacketKeyed]).put .protection [protectionOff]).put .amplifier
        [amplifierFull]).put .syncConfig [syncUnset]).put .packetConfig
        (packetConfigBytes true initialLength)).put .preamble (wordBytes 0)) = _
      rw [of_put_aside (.inr (by simp [Register.address, wordBytes])), of_put_format,
        of_put_unset, of_put_aside (.inr (by simp [Register.address])),
        of_put_aside (.inr (by simp [Register.address])),
        of_put_aside (.inr (by simp [Register.address])), of_put_mode]
      rfl
  | setFrequency frequency =>
      show Tuning.of (contents.put .carrier (carrierBytes frequency.steps)) = Tuning.of contents
      exact of_put_aside (.inr (by simp [Register.address, carrierBytes]))
  | setSymbolWidth micros =>
      show Tuning.of (contents.put .bitRate (wordBytes (symbolWord micros))) = Tuning.of contents
      exact of_put_aside (.inr (by simp [Register.address, wordBytes]))
  | setSync pattern => exact of_puts_sync pattern
  | setFormat manchester length => exact of_put_format manchester length
  | transmit packet =>
      show Tuning.of (((contents.put .packet packet).put .mode [Mode.transmit.byte]).put .mode
        [Mode.standby.byte]) = _
      rw [of_put_mode, of_put_mode, of_put_aside (.inl rfl)]
      rfl
  | listen => exact of_put_mode .receive
  | standby => exact of_put_mode .standby
  | _ => rfl

end Tuning

end ShutterRadio.Chip
