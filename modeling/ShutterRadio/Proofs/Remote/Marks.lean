/-
# What moves a rolling code

A press that is accepted moves the rolling code of a remote on by one, and hearing the
remote takes over the code that was heard.  Both leave a mark, and a press carries the
code after the mark that came last (`Mark.Continued`).

What is heard may be older than what was pressed meanwhile, and then the code falls
back.  `Mark.Continued.ascends_iff` says that this is the only way for a code to be used
again: as long as nothing wraps round, the codes that were pressed ascend exactly if no
press comes directly after hearing a code that lies behind one pressed earlier.  Codes
that begin low and are heard low cannot wrap round in half as many presses as there are
codes.

Nothing is said here about where marks come from.
-/

import ShutterRadio.Proofs.Remote.History

namespace ShutterRadio

/-- Something that moves the rolling code of a remote. -/
inductive Mark
  | pressed (code : UInt16)
  | heard (code : UInt16)
  deriving DecidableEq

namespace Mark

def code : Mark → UInt16
  | pressed code => code
  | heard code => code

/-- The code that was asked to be sent. -/
def pressed? : Mark → Option UInt16
  | pressed code => some code
  | heard _ => none

/-- The code of the next press of a remote that began with `first`. -/
def due (first : UInt16) (marks : List Mark) : UInt16 :=
  (marks.getLast?.map fun last => last.code + 1).getD first

/-- Every press carries the code after the one that was pressed or heard last. -/
def Continued (first : UInt16) (marks : List Mark) : Prop :=
  ∀ before code after, marks = before ++ pressed code :: after → code = due first before

/-- No press comes directly after hearing a code that lies behind one pressed earlier. -/
def NeverBehind (marks : List Mark) : Prop :=
  ∀ before old code after, marks = before ++ heard old :: pressed code :: after →
    ∀ earlier, pressed earlier ∈ before → earlier ≤ old

/-- A code that was heard last does not lie behind one pressed earlier. -/
def Fresh (marks : List Mark) : Prop :=
  ∀ before old, marks = before ++ [heard old] → ∀ earlier, pressed earlier ∈ before → earlier ≤ old

variable {first : UInt16} {marks : List Mark}

@[simp]
theorem due_snoc (first : UInt16) (marks : List Mark) (last : Mark) :
    due first (marks ++ [last]) = last.code + 1 := by
  simp [due]

theorem Continued.snoc {last : Mark} (continued : Continued first marks)
    (next : ∀ code, last = pressed code → code = due first marks) :
    Continued first (marks ++ [last]) := by
  intro before code after split
  rcases split_snoc split with ⟨rfl, same⟩ | ⟨rest, earlier⟩
  · exact next code same.symm
  · exact continued before code rest earlier

theorem Continued.prior {last : Mark} (continued : Continued first (marks ++ [last])) :
    Continued first marks := by
  intro before code after split
  apply continued before code (after ++ [last])
  rw [split, List.append_assoc, List.cons_append]

/-- A press that comes last carries what was due. -/
theorem Continued.last {code : UInt16} (continued : Continued first (marks ++ [pressed code])) :
    code = due first marks :=
  continued marks code [] rfl

theorem NeverBehind.prior {last : Mark} (never : NeverBehind (marks ++ [last])) :
    NeverBehind marks := by
  intro before old code after split
  apply never before old code (after ++ [last])
  simp [split]

/-- Hearing a code does no harm by itself. -/
theorem neverBehind_snoc_heard {old : UInt16} :
    NeverBehind (marks ++ [heard old]) ↔ NeverBehind marks := by
  refine ⟨NeverBehind.prior, fun never before other code after split => ?_⟩
  rw [List.append_cons before] at split
  rcases split_snoc split with ⟨-, same⟩ | ⟨rest, earlier⟩
  · cases same
  · exact never before other code rest (by simpa using earlier)

/-- A press does no harm unless a code that lies behind was heard just before. -/
theorem neverBehind_snoc_pressed {code : UInt16} :
    NeverBehind (marks ++ [pressed code]) ↔ NeverBehind marks ∧ Fresh marks := by
  constructor
  · refine fun never => ⟨never.prior, fun before old same => ?_⟩
    apply never before old code []
    rw [same, List.append_assoc]
    rfl
  · rintro ⟨never, fresh⟩ before old other after split
    rw [List.append_cons before] at split
    rcases split_snoc split with ⟨here, -⟩ | ⟨rest, earlier⟩
    · exact fresh before old here.symm
    · exact never before old other rest (by simpa using earlier)

theorem mem_pressed_iff {earlier : UInt16} :
    earlier ∈ marks.filterMap pressed? ↔ pressed earlier ∈ marks := by
  rw [List.mem_filterMap]
  constructor
  · rintro ⟨mark, member, same⟩
    cases mark with
    | pressed code =>
        obtain rfl := Option.some.inj same
        exact member
    | heard code => cases same
  · exact fun member => ⟨_, member, rfl⟩

theorem lt_succ_iff {earlier code : UInt16} (room : code.toNat + 1 < 0x10000) :
    earlier < code + 1 ↔ earlier ≤ code := by
  have next : (code + 1).toNat = code.toNat + 1 := by
    rw [UInt16.toNat_add]
    exact Nat.mod_eq_of_lt room
  rw [UInt16.lt_iff_toNat_lt, UInt16.le_iff_toNat_le, next, Nat.lt_succ_iff]

/-- After codes that ascend, the one that is due goes on ascending unless a code that
lies behind was heard last. -/
theorem fresh_iff (first : UInt16) (ascends : (marks.filterMap pressed?).Pairwise (· < ·))
    (room : ∀ mark ∈ marks, mark.code.toNat + 1 < 0x10000) :
    Fresh marks ↔ ∀ earlier ∈ marks.filterMap pressed?, earlier < due first marks := by
  rcases List.eq_nil_or_concat marks with rfl | ⟨before, last, rfl⟩
  · simp [Fresh]
  rw [List.concat_eq_append] at ascends room ⊢
  simp only [mem_pressed_iff, due_snoc, lt_succ_iff (room last (by simp))]
  -- Being fresh restricts only what may have been heard last: a code that was pressed
  -- last lies ahead of the others already.
  cases last with
  | heard old =>
      constructor
      · intro fresh earlier member
        exact fresh before old rfl earlier (by simpa using member)
      · intro ahead front other same earlier member
        obtain ⟨rfl, same⟩ := List.append_inj' same rfl
        obtain rfl : old = other := by simpa using same
        exact ahead earlier (List.mem_append_left _ member)
  | pressed code =>
      constructor
      · intro _ earlier member
        rcases List.mem_append.mp member with there | here
        · rw [List.filterMap_append, List.pairwise_append] at ascends
          exact UInt16.le_of_lt
            (ascends.2.2 earlier (mem_pressed_iff.mpr there) code List.mem_cons_self)
        · obtain rfl : earlier = code := by simpa using here
          exact UInt16.le_refl _
      · intro _ front other same
        obtain ⟨-, same⟩ := List.append_inj' same rfl
        cases List.cons.inj same |>.1

/-- As long as nothing wraps round, codes ascend unless a press follows a code that lies
behind. -/
theorem Continued.ascends_iff (continued : Continued first marks)
    (room : ∀ mark ∈ marks, mark.code.toNat + 1 < 0x10000) :
    (marks.filterMap pressed?).Pairwise (· < ·) ↔ NeverBehind marks := by
  induction marks using List.reverseRecOn with
  | nil => simp [NeverBehind]
  | append_singleton marks last ih =>
      obtain ⟨within, -⟩ := List.forall_mem_append.mp room
      have so_far := ih continued.prior within
      cases last with
      | heard old =>
          have none : [heard old].filterMap pressed? = [] := rfl
          rw [neverBehind_snoc_heard, ← so_far, List.filterMap_append, none, List.append_nil]
      | pressed code =>
          obtain rfl := continued.last
          have one : [pressed (due first marks)].filterMap pressed? = [due first marks] := rfl
          rw [neverBehind_snoc_pressed, ← so_far, List.filterMap_append, one,
            List.pairwise_append]
          apply and_congr_right
          intro ascends
          simp [fresh_iff first ascends within]

/-- Codes that begin low and are heard low grow no further than there are presses. -/
theorem Continued.code_le (continued : Continued first marks) (low : first < 0x8000)
    (heard_low : ∀ old, heard old ∈ marks → old < 0x8000)
    (few : (marks.filterMap pressed?).length < 0x8000) {before after : List Mark} {code : UInt16}
    (split : marks = before ++ pressed code :: after) :
    code.toNat ≤ 0x8000 + (before.filterMap pressed?).length := by
  have next := continued before code after split
  have count : (before.filterMap pressed?).length + 1 ≤ (marks.filterMap pressed?).length := by
    rw [split, List.filterMap_append, List.length_append,
      List.filterMap_cons_some (show pressed? (pressed code) = some code from rfl)]
    simp
  induction before using List.reverseRecOn generalizing code after with
  | nil =>
      rw [next]
      have := UInt16.lt_iff_toNat_lt.mp low
      exact Nat.le_of_lt (Nat.lt_add_right _ this)
  | append_singleton earlier last ih =>
      rw [due_snoc] at next
      cases last with
      | heard old =>
          have := UInt16.lt_iff_toNat_lt.mp (heard_low old (by simp [split]))
          simp only [Mark.code] at next
          rw [next, UInt16.toNat_add]
          simp at this ⊢
          omega
      | pressed prior =>
          have whole : marks = earlier ++ pressed prior :: pressed code :: after := by
            simp [split]
          rw [List.filterMap_append, List.length_append] at count ⊢
          have bound := ih whole (continued earlier prior _ whole) (by omega)
          simp only [Mark.code] at next
          rw [next, UInt16.toNat_add]
          simp [pressed?] at count ⊢
          omega

/-- So nothing wraps round. -/
theorem Continued.room (continued : Continued first marks) (low : first < 0x8000)
    (heard_low : ∀ old, heard old ∈ marks → old < 0x8000)
    (few : (marks.filterMap pressed?).length < 0x8000) (mark : Mark) (member : mark ∈ marks) :
    mark.code.toNat + 1 < 0x10000 := by
  cases mark with
  | heard old =>
      have := UInt16.lt_iff_toNat_lt.mp (heard_low old member)
      simp [Mark.code] at this ⊢
      omega
  | pressed code =>
      obtain ⟨before, after, split⟩ := List.append_of_mem member
      have bound := continued.code_le low heard_low few split
      rw [split, List.filterMap_append, List.length_append,
        List.filterMap_cons_some (show pressed? (pressed code) = some code from rfl),
        List.length_cons] at few
      simp only [Mark.code]
      omega

end Mark

end ShutterRadio
