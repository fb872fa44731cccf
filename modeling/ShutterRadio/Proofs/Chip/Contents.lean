/-
# What the chip's registers contain

A register file as a function from addresses to bytes, and what the transactions
of the board's bus do to it.  A write that succeeds puts its bytes at consecutive
addresses; what is written to the queue of packet bytes leaves no trace.  A read
tells what is there, and changes nothing but, possibly, the status flags, which
the chip writes itself.

Everything else that a transaction does to the board is of no interest here.
-/

import Mathlib.Algebra.GroupWithZero.Nat
import Mathlib.Data.List.GetD
import ShutterRadio.Bench.RegisterFile

namespace ShutterRadio

namespace Chip

/-- What the registers of a chip contain, by address. -/
abbrev Contents := Fin 128 → UInt8

/-- There are registers, so that counting on from the last one leads to the first. -/
instance Contents.wraps : NeZero 128 := inferInstance

namespace Contents

/-- Bytes put at consecutive addresses. -/
def write (contents : Contents) (address : Nat) (bytes : List UInt8) : Contents := fun place =>
  if place.val < address then contents place
  else bytes.getD (place.val - address) (contents place)

variable {contents : Contents} {address : Nat} {bytes : List UInt8} {place : Fin 128}

theorem write_of_lt (before : place.val < address) :
    contents.write address bytes place = contents place := if_pos before

theorem write_of_ge (behind : address + bytes.length ≤ place.val) :
    contents.write address bytes place = contents place := by
  have reached : ¬ place.val < address := by omega
  rw [write, if_neg reached, List.getD_eq_default]
  omega

theorem write_of_within {index : Nat} (within : index < bytes.length)
    (there : place.val = address + index) :
    contents.write address bytes place = bytes[index] := by
  have reached : ¬ place.val < address := by omega
  have same : place.val - address = index := by omega
  rw [write, if_neg reached, same, List.getD_eq_getElem _ _ within]

/-- What a write of a register leaves behind.  Packet bytes are gone. -/
def put (contents : Contents) (register : Register) (bytes : List UInt8) : Contents :=
  if register = .packet then contents else contents.write register.address.toNat bytes

/-- Nothing but the status flags may differ. -/
def Agree (first second : Contents) : Prop :=
  ∀ place, place ≠ 0x27 → place ≠ 0x28 → first place = second place

theorem Agree.refl (contents : Contents) : Agree contents contents := fun _ _ _ => rfl

theorem Agree.trans {first second third : Contents} (agree : Agree first second)
    (onwards : Agree second third) : Agree first third :=
  fun place notFirst notSecond =>
    (agree place notFirst notSecond).trans (onwards place notFirst notSecond)

/-- A write makes no difference between register files. -/
theorem Agree.write {first second : Contents} (agree : Agree first second) (address : Nat)
    (bytes : List UInt8) : Agree (first.write address bytes) (second.write address bytes) := by
  intro place notFirst notSecond
  simp only [Contents.write, agree place notFirst notSecond]

theorem Agree.put {first second : Contents} (agree : Agree first second) (register : Register)
    (bytes : List UInt8) : Agree (first.put register bytes) (second.put register bytes) := by
  unfold Contents.put
  split
  · exact agree
  · exact agree.write _ _

end Contents

end Chip

namespace Bench.Board

open Chip (Contents Register)

def contents (board : Board) : Contents := fun place => board.registers.get place

/-- One byte is put at one address. -/
theorem contents_set (board : Board) (address : Nat) (byte : UInt8) (fits : address < 128) :
    contents { board with
      registers := board.registers.set (address % registerCount) byte
        (Nat.mod_lt _ (by decide)) } = board.contents.write address [byte] := by
  funext place
  have stored : contents { board with
      registers := board.registers.set (address % registerCount) byte
        (Nat.mod_lt _ (by decide)) } place =
      if address % registerCount = place.val then byte else board.contents place :=
    Vector.getElem_set (Nat.mod_lt _ (by decide)) place.isLt
  have same : address % registerCount = address := Nat.mod_eq_of_lt fits
  rw [stored, same]
  by_cases here : address = place.val
  · rw [if_pos here, Contents.write_of_within (Nat.lt_succ_self 0) here.symm]
    rfl
  · rw [if_neg here]
    by_cases before : place.val < address
    · rw [Contents.write_of_lt before]
    · rw [Contents.write_of_ge (by simp only [List.length_singleton]; omega)]

/-- Bytes are put one after the other. -/
theorem write_cons (contents : Contents) (address : Nat) (first : UInt8) (rest : List UInt8) :
    (contents.write address [first]).write (address + 1) rest =
      contents.write address (first :: rest) := by
  funext place
  by_cases before : place.val < address
  · rw [Contents.write_of_lt (by omega), Contents.write_of_lt before, Contents.write_of_lt before]
  · by_cases here : place.val = address
    · rw [Contents.write_of_lt (by omega), Contents.write_of_within (Nat.lt_succ_self 0) here,
        Contents.write_of_within (Nat.succ_pos _) here]
      rfl
    · have behind : place.val - address = (place.val - (address + 1)) + 1 := by omega
      simp only [Contents.write, before, if_false, behind, List.getD_cons_succ,
        show ¬ place.val < address + 1 by omega, List.getD_nil]

theorem contents_poke (board : Board) (address : Nat) (bytes : List UInt8)
    (fits : address + bytes.length ≤ 128) :
    (board.poke address bytes).contents = board.contents.write address bytes := by
  induction bytes generalizing board address with
  | nil =>
      funext place
      unfold poke Contents.write
      split <;> rfl
  | cons byte rest ih =>
      simp only [List.length_cons] at fits
      rw [poke, ih _ _ (by omega), contents_set _ _ _ (by omega), write_cons]

/-- A transaction that writes leaves behind what was written, if it succeeds. -/
theorem contents_writeTransfer {board after : Board} {parts : List (List UInt8)}
    {register : Register} {bytes : List UInt8} (sent : parts.flatten = register.writeByte :: bytes)
    (fits : register = .packet ∨ register.address.toNat + bytes.length ≤ 128)
    (written : writeTransfer parts board = (.ok (), after)) :
    after.contents = board.contents.put register bytes := by
  have meant : addressOf register.writeByte = register.address.toNat := by
    cases register <;> rfl
  simp only [writeTransfer] at written
  split at written
  · cases written
  · injection written with _ changed
    subst changed
    rw [sent, store, meant]
    unfold Contents.put
    by_cases packet : register = .packet
    · subst packet
      rfl
    · have elsewhere : register.address.toNat ≠ 0 := by
        cases register <;> first | exact absurd rfl packet | decide
      rw [if_neg elsewhere, if_neg packet, contents_poke _ _ _ (fits.resolve_left packet)]
      rfl

/-- A transaction that reads a register, and neither packet bytes nor status flags,
tells what is there and changes nothing. -/
theorem contents_readTransfer {board after : Board} {register : Register} {count : Nat}
    {bytes : Vector UInt8 count} (ordinary : register ≠ .packet ∧ register ≠ .flags)
    (taken : readTransfer register.readByte count board = (.ok bytes, after)) :
    after.contents = board.contents ∧
      ∀ index (within : index < count), bytes[index] =
        board.contents (Fin.ofNat 128 (register.address.toNat + index)) := by
  have meant : addressOf register.readByte = register.address.toNat := by
    cases register <;> rfl
  have elsewhere : register.address.toNat ≠ 0 ∧ register.address.toNat ≠ flagsAddress := by
    cases register <;> simp_all <;> decide
  simp only [readTransfer, load, meant, elsewhere.1, elsewhere.2, if_false] at taken
  split at taken
  · cases taken
  · injection taken with same changed
    injection same with same
    subst same changed
    refine ⟨rfl, fun index within => ?_⟩
    simp only [Vector.getElem_ofFn]
    rfl

/-- Refreshed flags are all that a look at them changes. -/
theorem agree_refreshFlags (board : Board) :
    Contents.Agree board.contents board.refreshFlags.contents := by
  have untouched : board.takeStatus.contents = board.contents := by
    unfold takeStatus
    split <;> rfl
  intro place notFirst notSecond
  rw [refreshFlags, contents_poke _ _ _ (by simp [flagsAddress]), untouched]
  by_cases before : place.val < flagsAddress
  · rw [Contents.write_of_lt before]
  · rw [Contents.write_of_ge]
    have first : place.val ≠ 0x27 := fun same => notFirst (Fin.ext same)
    have second : place.val ≠ 0x28 := fun same => notSecond (Fin.ext same)
    simp only [flagsAddress, List.length_cons, List.length_nil] at before ⊢
    omega

/-- Reading changes nothing but the status flags. -/
theorem agree_readTransfer {board after : Board} {address : UInt8} {count : Nat}
    {result : Except String (Vector UInt8 count)}
    (taken : readTransfer address count board = (result, after)) :
    Contents.Agree board.contents after.contents := by
  simp only [readTransfer, load] at taken
  split at taken
  · injection taken with _ changed
    subst changed
    exact .refl _
  · split at taken
    · injection taken with _ changed
      subst changed
      exact .refl _
    · split at taken
      · injection taken with _ changed
        subst changed
        exact agree_refreshFlags board.beginTransfer.2
      · injection taken with _ changed
        subst changed
        exact .refl _

/-- Time passes without a trace in the registers. -/
theorem registers_pause {board after : Board} {limit : Option Nat} {micros : Nat}
    (paused : pause limit micros board = .ok () after) :
    after.registers = board.registers ∧ after.failingTransfers = board.failingTransfers := by
  unfold pause at paused
  split at paused
  · injection paused with _ changed
    subst changed
    exact ⟨rfl, rfl⟩
  · cases paused

theorem pause_refused {board after : Board} {limit : Option Nat} {micros : Nat} {reason : Stuck}
    (refused : pause limit micros board = .error reason after) : after = board := by
  unfold pause at refused
  split at refused
  · cases refused
  · injection refused with _ same
    exact same.symm

theorem contents_of_registers {board after : Board} (same : after.registers = board.registers) :
    after.contents = board.contents := by
  funext place
  show after.registers.get place = board.registers.get place
  rw [same]

end Bench.Board

end ShutterRadio
