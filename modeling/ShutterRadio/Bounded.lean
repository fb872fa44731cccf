/-
# Bounded lists

A list that never holds more than a fixed number of items.  Adding to a full
one is refused and leaves it as it was; everything else can only shorten the
list or change items where they stand, so the bound is kept by construction.
Queues are bounded lists that are added to at the end and taken from at the
front.
-/

namespace ShutterRadio

/-- A list of at most `capacity` items. -/
@[ext]
structure Bounded (α : Type) (capacity : Nat) where
  toList : List α
  length_le : toList.length ≤ capacity

namespace Bounded

variable {α : Type} {capacity : Nat}

def empty : Bounded α capacity := ⟨[], Nat.zero_le _⟩

instance : EmptyCollection (Bounded α capacity) := ⟨empty⟩

instance : Inhabited (Bounded α capacity) := ⟨empty⟩

instance [DecidableEq α] : DecidableEq (Bounded α capacity) := fun a b =>
  decidable_of_iff (a.toList = b.toList) Bounded.ext_iff.symm

instance [Repr α] : Repr (Bounded α capacity) :=
  ⟨fun items width => reprPrec items.toList width⟩

def size (items : Bounded α capacity) : Nat := items.toList.length

def isEmpty (items : Bounded α capacity) : Bool := items.toList.isEmpty

def isFull (items : Bounded α capacity) : Bool := items.size == capacity

/-- The list itself, if it is short enough. -/
def ofList? (items : List α) : Option (Bounded α capacity) :=
  if h : items.length ≤ capacity then some ⟨items, h⟩ else none

/-- Add an item at the end, if there is room. -/
def push? (items : Bounded α capacity) (item : α) : Option (Bounded α capacity) :=
  ofList? (items.toList ++ [item])

/-- Take the oldest item out, if there is one. -/
def pop? : Bounded α capacity → Option (α × Bounded α capacity)
  | ⟨[], _⟩ => none
  | ⟨oldest :: rest, h⟩ => some (oldest, ⟨rest, Nat.le_of_succ_le h⟩)

/-- Keep only the items that satisfy a test. -/
def filter (items : Bounded α capacity) (keep : α → Bool) : Bounded α capacity :=
  ⟨items.toList.filter keep, Nat.le_trans (List.length_filter_le _ _) items.length_le⟩

/-- Take the first item out that satisfies a test; the others keep their order. -/
def eraseFirst (items : Bounded α capacity) (drop : α → Bool) : Bounded α capacity :=
  ⟨items.toList.eraseP drop, Nat.le_trans List.length_eraseP_le items.length_le⟩

/-- Change the first item that satisfies a test, where it stands. -/
def modifyFirst (items : Bounded α capacity) (choose : α → Bool) (change : α → α) :
    Bounded α capacity :=
  ⟨items.toList.modify (items.toList.findIdx choose) change, by
    simpa using items.length_le⟩

/-- Change the newest item, where it stands. -/
def modifyLast (items : Bounded α capacity) (change : α → α) : Bounded α capacity :=
  ⟨items.toList.modify (items.toList.length - 1) change, by
    simpa using items.length_le⟩

@[simp]
theorem toList_empty : (empty : Bounded α capacity).toList = [] := rfl

/-- An addition succeeds exactly when there is room, and then goes to the end. -/
theorem push?_eq_some_iff {items added : Bounded α capacity} {item : α} :
    items.push? item = some added ↔
      items.size < capacity ∧ added.toList = items.toList ++ [item] := by
  simp only [push?, ofList?, Option.dite_none_right_eq_some, Option.some.injEq,
    Bounded.ext_iff, size, List.length_append, List.length_singleton, Nat.lt_iff_add_one_le]
  exact ⟨fun ⟨room, same⟩ => ⟨room, same.symm⟩, fun ⟨room, same⟩ => ⟨room, same.symm⟩⟩

/-- An addition is refused exactly when there is no room. -/
theorem push?_eq_none_iff {items : Bounded α capacity} {item : α} :
    items.push? item = none ↔ items.size = capacity := by
  have := items.length_le
  simp only [push?, ofList?, dite_eq_right_iff, reduceCtorEq, imp_false, size,
    List.length_append, List.length_singleton]
  omega

/-- Taking out finds the item that stands first. -/
theorem pop?_eq_some_iff {items rest : Bounded α capacity} {oldest : α} :
    items.pop? = some (oldest, rest) ↔ items.toList = oldest :: rest.toList := by
  rcases items with ⟨_ | ⟨first, others⟩, bound⟩ <;>
    simp [pop?, Bounded.ext_iff, eq_comm]

/-- A change of the newest item leaves the older ones alone. -/
theorem toList_modifyLast {items : Bounded α capacity} {older : List α} {newest : α}
    (same : items.toList = older ++ [newest]) (change : α → α) :
    (items.modifyLast change).toList = older ++ [change newest] := by
  simp [modifyLast, same, List.modify_eq_take_cons_drop]

/-- Nothing can be taken out of an empty list, and of no other. -/
theorem pop?_eq_none_iff {items : Bounded α capacity} :
    items.pop? = none ↔ items.toList = [] := by
  rcases items with ⟨_ | ⟨first, others⟩, bound⟩ <;> simp [pop?]

end Bounded

end ShutterRadio
