/-
# Histories

A history is a list of events in the order in which they happened.  What remains of it is
what began at some event and was not ended by a later one, as the later events left it,
in the order of the beginnings.

Histories grow at the end, and inductions over them go by `split_snoc` and
`remaining_snoc`: an event of a longer history is the last one or was there before, and
one more event ends some of what remains, changes the others and adds its own.
-/

import Mathlib.Data.List.Induction

namespace ShutterRadio

variable {α ι : Type}

/-- An item of a list that has grown by one is the last, or was there before. -/
theorem split_snoc {items before after : List ι} {item last : ι}
    (split : items ++ [last] = before ++ item :: after) :
    (before = items ∧ item = last) ∨ ∃ rest, items = before ++ item :: rest := by
  rcases List.eq_nil_or_concat after with rfl | ⟨rest, final, rfl⟩
  · obtain ⟨rfl, same⟩ := List.append_inj' split rfl
    exact .inl ⟨rfl, (List.cons.inj same).1.symm⟩
  · rw [List.concat_eq_append, ← List.cons_append, ← List.append_assoc] at split
    exact .inr ⟨rest, (List.append_inj' split rfl).1⟩

variable (begins : ι → Option α) (ends : α → ι → Bool) (goes : α → ι → α)

/-- What begins at an event, if nothing later ends it, as the later events leave it. -/
def outcome? (event : ι) (later : List ι) : Option α :=
  (begins event).bind fun item =>
    if later.any (ends item) then none else some (later.foldl goes item)

/-- What began in a history and was not ended since, in the order in which it began. -/
def remaining : List ι → List α
  | [] => []
  | event :: later => (outcome? begins ends goes event later).toList ++ remaining later

variable {begins ends goes}

theorem outcome?_eq_some_iff {event : ι} {later : List ι} {item : α} :
    outcome? begins ends goes event later = some item ↔
      ∃ first, begins event = some first ∧ (∀ other ∈ later, ends first other = false) ∧
        later.foldl goes first = item := by
  simp [outcome?, Option.bind_eq_some_iff]

theorem mem_remaining_iff {history : List ι} {item : α} :
    item ∈ remaining begins ends goes history ↔
      ∃ before event later first, history = before ++ event :: later ∧
        begins event = some first ∧ (∀ other ∈ later, ends first other = false) ∧
          later.foldl goes first = item := by
  induction history with
  | nil => simp [remaining]
  | cons event later ih =>
      rw [remaining, List.mem_append, Option.mem_toList, outcome?_eq_some_iff, ih]
      constructor
      · rintro (⟨first, begun⟩ | ⟨before, other, rest, first, split, begun⟩)
        · exact ⟨[], event, later, first, rfl, begun⟩
        · exact ⟨event :: before, other, rest, first, by rw [split]; rfl, begun⟩
      · rintro ⟨before, other, rest, first, split, begun⟩
        cases before with
        | nil =>
            obtain ⟨rfl, rfl⟩ := List.cons.inj split
            exact .inl ⟨first, begun⟩
        | cons earlier before =>
            obtain ⟨rfl, behind⟩ := List.cons.inj split
            exact .inr ⟨before, other, rest, first, behind, begun⟩

/-- What ends an item ends it whatever has become of it. -/
def Steady (ends : α → ι → Bool) (goes : α → ι → α) : Prop :=
  ∀ item event, ends (goes item event) = ends item

theorem Steady.foldl (steady : Steady ends goes) (item : α) (later : List ι) :
    ends (later.foldl goes item) = ends item := by
  induction later generalizing item with
  | nil => rfl
  | cons event later ih => exact (ih (goes item event)).trans (steady item event)

/-- One more event ends an item or changes it. -/
theorem outcome?_snoc (steady : Steady ends goes) (first : ι) (later : List ι) (event : ι) :
    outcome? begins ends goes first (later ++ [event]) =
      (outcome? begins ends goes first later).bind fun item =>
        if ends item event then none else some (goes item event) := by
  unfold outcome?
  cases begins first with
  | none => rfl
  | some item =>
      have last : (later ++ [event]).any (ends item) =
          (later.any (ends item) || ends item event) := by
        rw [List.any_append, List.any_cons, List.any_nil, Bool.or_false]
      simp only [Option.bind_some, last, List.foldl_append, List.foldl_cons, List.foldl_nil]
      cases later.any (ends item) with
      | true => rfl
      | false => simp [steady.foldl]

/-- One more event ends some of what remains, changes the others and adds its own. -/
theorem remaining_snoc (steady : Steady ends goes) (history : List ι) (event : ι) :
    remaining begins ends goes (history ++ [event]) =
      (((remaining begins ends goes history).filter fun item => !ends item event).map
        fun item => goes item event) ++ (begins event).toList := by
  induction history with
  | nil =>
      cases begun : begins event <;> simp [remaining, outcome?, begun]
  | cons first rest ih =>
      rw [List.cons_append, remaining, ih, remaining, outcome?_snoc steady, List.filter_append,
        List.map_append, List.append_assoc]
      congr 1
      cases outcome? begins ends goes first rest with
      | none => rfl
      | some item => cases ended : ends item event <;> simp [ended]

end ShutterRadio
