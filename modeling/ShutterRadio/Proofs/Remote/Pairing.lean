/-
# The blinds of a remote

The blinds that obey a remote are kept in a list, in which a blind is looked for from the
front and taken out where it is found first.  Whoever pairs and parts blinds should see a
set of at most sixteen, and `Roster` is that set: who is in it is said by what was done and
by how many there were, and beside it stand all pairings that took effect, oldest first.
Pairing a blind again is none, and one that is refused is none either.

`Remote.handleAll_pairs` says that the list is the set, without repetition and in the order
of the latest pairings, after anything that was done with the remote, and that the next
pairing or parting is granted, refused or passed over as it is for the set.
-/

import Mathlib.Data.Finset.Card
import Mathlib.Data.List.Dedup
import ShutterRadio.Proofs.Remote.Refusals
import ShutterRadio.Proofs.Remote.Storing

namespace ShutterRadio

/-- The blinds of a remote, by what was done. -/
structure Roster where
  members : Finset UInt16
  pairings : List UInt16

namespace Roster

/-- The roster of blinds that were paired in this order. -/
def of (blinds : List UInt16) : Roster := ⟨blinds.toFinset, blinds⟩

/-- The members in the order in which they were paired.  Of several pairings of one blind
the latest counts. -/
def order (roster : Roster) : List UInt16 :=
  roster.pairings.dedup.filter (· ∈ roster.members)

/-- The roster after something was done with the remote. -/
def after (roster : Roster) : Remote.Handling → Roster
  | .pair blind =>
      if blind ∈ roster.members ∨ roster.members.card = blindCapacity then roster
      else ⟨insert blind roster.members, roster.pairings ++ [blind]⟩
  | .part blind => { roster with members := roster.members.erase blind }
  | _ => roster

def afterAll (roster : Roster) (handlings : List Remote.Handling) : Roster :=
  handlings.foldl after roster

/-- A list holds just the members, in their order. -/
structure Lists (roster : Roster) (blinds : List UInt16) : Prop where
  members : ∀ blind, blind ∈ blinds ↔ blind ∈ roster.members
  order : blinds = roster.order

variable {roster : Roster} {blinds : List UInt16} {blind : UInt16}

theorem Lists.nodup (lists : roster.Lists blinds) : blinds.Nodup := by
  rw [lists.order]
  exact (List.nodup_dedup _).filter _

theorem Lists.card (lists : roster.Lists blinds) : roster.members.card = blinds.length := by
  have same : roster.members = blinds.toFinset := by
    ext blind
    rw [List.mem_toFinset, lists.members]
  rw [same, List.toFinset_card_of_nodup lists.nodup]

theorem lists_of (distinct : blinds.Nodup) : (of blinds).Lists blinds where
  members blind := List.mem_toFinset.symm
  order := by
    have all : ∀ blind ∈ blinds, decide (blind ∈ blinds.toFinset) = true := by simp
    show blinds = blinds.dedup.filter (· ∈ blinds.toFinset)
    rw [distinct.dedup, List.filter_eq_self.mpr all]

/-- Whoever is paired last is last. -/
theorem dedup_concat (pairings : List UInt16) (blind : UInt16) :
    (pairings ++ [blind]).dedup = pairings.dedup.filter (· ≠ blind) ++ [blind] := by
  induction pairings with
  | nil => rfl
  | cons first rest ih =>
      rw [List.cons_append]
      by_cases again : first ∈ rest
      · have later : first ∈ rest ++ [blind] := List.mem_append_left _ again
        rw [List.dedup_cons_of_mem later, ih, List.dedup_cons_of_mem again]
      · rw [List.dedup_cons_of_notMem again]
        by_cases last : first = blind
        · have later : first ∈ rest ++ [blind] := by simp [last]
          rw [List.dedup_cons_of_mem later, ih, List.filter_cons_of_neg (by simp [last])]
        · have once : first ∉ rest ++ [blind] := by simp [again, last]
          rw [List.dedup_cons_of_notMem once, ih, List.filter_cons_of_pos (by simp [last]),
            List.cons_append]

theorem Lists.pair (lists : roster.Lists blinds) (unknown : blind ∉ roster.members) :
    Lists ⟨insert blind roster.members, roster.pairings ++ [blind]⟩ (blinds ++ [blind]) where
  members other := by simp [lists.members, or_comm]
  order := by
    have others : ∀ other ∈ roster.pairings.dedup,
        (decide (other ∈ insert blind roster.members) && decide (other ≠ blind)) =
          decide (other ∈ roster.members) := by
      intro other _
      by_cases here : other = blind <;> simp [here, unknown]
    rw [Roster.order, dedup_concat, List.filter_append, List.filter_filter,
      List.filter_congr others, ← Roster.order, ← lists.order]
    simp

theorem Lists.part (lists : roster.Lists blinds) (blind : UInt16) :
    Lists { roster with members := roster.members.erase blind } (blinds.filter (· ≠ blind)) where
  members other := by simp [lists.members, and_comm]
  order := by
    have others : ∀ other ∈ roster.pairings.dedup,
        (decide (other ≠ blind) && decide (other ∈ roster.members)) =
          decide (other ∈ roster.members.erase blind) := by
      intro other _
      simp [Finset.mem_erase]
    rw [lists.order, Roster.order, List.filter_filter, List.filter_congr others]
    rfl

end Roster

/-! ## One pairing, one parting -/

namespace Remote

variable {remote : Remote} {blind : UInt16}

theorem pair_of_known (known : blind ∈ remote.profile.blinds.toList) :
    pair blind remote = (.ok (), remote) := by
  rw [pair_eq, if_pos (List.contains_iff_mem.mpr known)]

theorem exists_pair (unknown : blind ∉ remote.profile.blinds.toList)
    (room : remote.profile.blinds.size < blindCapacity) :
    ∃ blinds, pair blind remote = (.ok (), changed { remote.profile with blinds }) ∧
      blinds.toList = remote.profile.blinds.toList ++ [blind] := by
  cases pushed : remote.profile.blinds.push? blind with
  | none => exact absurd (Bounded.push?_eq_none_iff.mp pushed) (Nat.ne_of_lt room)
  | some blinds =>
      refine ⟨blinds, ?_, (Bounded.push?_eq_some_iff.mp pushed).2⟩
      simp [pair_eq, unknown, pushed]

/-- Without repetition, to take out the first is to take out all. -/
theorem exists_part (distinct : remote.profile.blinds.toList.Nodup)
    (known : blind ∈ remote.profile.blinds.toList) :
    ∃ blinds, part blind remote = (true, changed { remote.profile with blinds }) ∧
      blinds.toList = remote.profile.blinds.toList.filter (· ≠ blind) := by
  refine ⟨_, by rw [part_eq, if_pos (List.contains_iff_mem.mpr known)], ?_⟩
  show remote.profile.blinds.toList.eraseP (· == blind) = _
  rw [← List.erase_eq_eraseP', distinct.erase_eq_filter]
  apply List.filter_congr
  intro other _
  by_cases here : other = blind <;> simp [here]

theorem blinds_pressed (remote : Remote) (queue : Queue) (button : Button) (repeats : UInt16) :
    (remote.pressed queue button repeats).profile.blinds = remote.profile.blinds := by
  unfold pressed
  rcases remote.pressOn_cases queue button repeats with ⟨-, refused⟩ | ⟨-, -, _, accepted, -⟩
  · rw [refused]
  · rw [accepted]
    rfl

/-- Only pairing and parting are about blinds. -/
theorem blinds_handle {handling : Handling} (pairs : ∀ blind, handling ≠ .pair blind)
    (parts : ∀ blind, handling ≠ .part blind) :
    (remote.handle handling).profile.blinds = remote.profile.blinds := by
  cases handling with
  | rename name =>
      rw [handle, rename_eq]
      split <;> rfl
  | press queue button repeats => exact remote.blinds_pressed queue button repeats
  | order queue action => exact remote.blinds_pressed queue _ _
  | adopt code =>
      show (remote.adopt code).profile.blinds = _
      rw [profile_adopt]
  | pair blind => exact absurd rfl (pairs blind)
  | part blind => exact absurd rfl (parts blind)
  | clean => rfl

section Lists

variable {roster : Roster} (lists : roster.Lists remote.profile.blinds.toList)

include lists

/-- A blind is paired already, or there is no room for it, or it comes behind the others. -/
theorem lists_pair (blind : UInt16) :
    (roster.after (.pair blind)).Lists
      (remote.handle (.pair blind)).profile.blinds.toList := by
  rw [handle]
  by_cases known : blind ∈ roster.members
  · rw [pair_of_known ((lists.members blind).mpr known), Roster.after, if_pos (.inl known)]
    exact lists
  have unknown : blind ∉ remote.profile.blinds.toList := fun among =>
    known ((lists.members blind).mp among)
  by_cases full : roster.members.card = blindCapacity
  · rw [pair_of_full unknown (lists.card.symm.trans full), Roster.after, if_pos (.inr full)]
    exact lists
  · have room : remote.profile.blinds.size < blindCapacity :=
      Nat.lt_of_le_of_ne remote.profile.blinds.length_le fun all => full (lists.card.trans all)
    obtain ⟨blinds, paired, longer⟩ := exists_pair unknown room
    rw [paired, Roster.after, if_neg (not_or.mpr ⟨known, full⟩)]
    show Roster.Lists _ blinds.toList
    rw [longer]
    exact lists.pair known

/-- A blind is taken out, or is not there and is not missed in the set either. -/
theorem lists_part (blind : UInt16) :
    (roster.after (.part blind)).Lists
      (remote.handle (.part blind)).profile.blinds.toList := by
  rw [handle]
  by_cases known : blind ∈ remote.profile.blinds.toList
  · obtain ⟨blinds, parted, shorter⟩ := exists_part lists.nodup known
    rw [parted]
    show Roster.Lists _ blinds.toList
    rw [shorter]
    exact lists.part blind
  · have unknown : blind ∉ roster.members := fun among =>
      known ((lists.members blind).mpr among)
    rw [part_of_unknown known, Roster.after, Finset.erase_eq_of_notMem unknown]
    exact lists

/-- What is done with a remote next, and with its roster. -/
theorem lists_handle (handling : Handling) :
    (roster.after handling).Lists (remote.handle handling).profile.blinds.toList := by
  cases handling with
  | pair blind => exact lists_pair lists blind
  | part blind => exact lists_part lists blind
  | _ =>
      rw [blinds_handle (by simp) (by simp)]
      exact lists

theorem lists_handleAll (handlings : List Handling) :
    (roster.afterAll handlings).Lists (remote.handleAll handlings).profile.blinds.toList := by
  induction handlings generalizing remote roster with
  | nil => exact lists
  | cons first rest ih => exact ih (lists_handle lists first)

end Lists

/-! ## The set that the list is -/

/-- To pair or to part this blind next is for a remote what it is for a roster. -/
structure Obeys (remote : Remote) (roster : Roster) (blind : UInt16) : Prop where
  refuses : ∀ error, (pair blind remote).1 = .error error ↔
    (blind ∉ roster.members ∧ roster.members.card = blindCapacity) ∧ error = .tooManyBlinds
  passes : blind ∈ roster.members → pair blind remote = (.ok (), remote)
  pairs : blind ∉ roster.members → roster.members.card < blindCapacity →
    ∃ paired, pair blind remote = (.ok (), paired) ∧
      paired.profile.blinds.toList = remote.profile.blinds.toList ++ [blind]
  parts : (part blind remote).1 = true ↔ blind ∈ roster.members
  leaves : ∀ parted, part blind remote = (true, parted) →
    blind ∉ parted.profile.blinds.toList ∧
      parted.profile.blinds.toList = remote.profile.blinds.toList.filter (· ≠ blind)

theorem obeys_of_lists {roster : Roster} (lists : roster.Lists remote.profile.blinds.toList)
    (blind : UInt16) : remote.Obeys roster blind where
  refuses error := by
    rw [pair_eq_error_iff, lists.members, lists.card]
    rfl
  passes known := pair_of_known ((lists.members blind).mpr known)
  pairs unknown room := by
    rw [← lists.members] at unknown
    rw [lists.card] at room
    obtain ⟨blinds, paired, longer⟩ := exists_pair unknown room
    exact ⟨_, paired, longer⟩
  parts := by
    rw [← lists.members, ← not_iff_not, ← part_eq_false_iff, Bool.not_eq_true]
  leaves parted done := by
    have known : blind ∈ remote.profile.blinds.toList := by
      by_contra unknown
      rw [part_of_unknown unknown] at done
      cases done
    obtain ⟨blinds, here, shorter⟩ := exists_part lists.nodup known
    obtain rfl := congrArg Prod.snd (here.symm.trans done)
    have gone : blind ∉ blinds.toList := by simp [shorter]
    exact ⟨gone, shorter⟩

/-- Whatever is done with a remote of which the blinds were different, they stay so, and no
more than sixteen; they are the members of the set that the same handlings come to, if those
that are refused are passed over, and stand in the order in which they were paired last.
What comes of the next pairing or parting can be told from that set. -/
theorem handleAll_pairs (remote : Remote) (distinct : remote.profile.blinds.toList.Nodup)
    (handlings : List Handling) :
    (remote.handleAll handlings).profile.blinds.toList.Nodup ∧
    (remote.handleAll handlings).profile.blinds.toList.length ≤ 16 ∧
    (∀ blind, blind ∈ (remote.handleAll handlings).profile.blinds.toList ↔
      blind ∈ ((Roster.of remote.profile.blinds.toList).afterAll handlings).members) ∧
    (remote.handleAll handlings).profile.blinds.toList =
      ((Roster.of remote.profile.blinds.toList).afterAll handlings).order ∧
    ∀ blind, (remote.handleAll handlings).Obeys
      ((Roster.of remote.profile.blinds.toList).afterAll handlings) blind := by
  have lists := lists_handleAll (Roster.lists_of distinct) handlings
  exact ⟨lists.nodup, (remote.handleAll handlings).profile.blinds.length_le, lists.members,
    lists.order, obeys_of_lists lists⟩

/-- A new remote has no blinds. -/
theorem blinds_make {name : String} {identity : UInt32} {code : UInt16}
    (made : make name identity code = .ok remote) : remote.profile.blinds.toList = [] := by
  unfold make at made
  cases named : Name.ofString name with
  | error reason =>
      rw [named] at made
      cases made
  | ok name =>
      rw [named] at made
      cases made
      rfl

/-- A blind that was parted comes back at the end, one that is paired again stays where it
is, and for one more than there is room for there is none. -/
theorem handleAll_pairs_crowded :
    ∃ remote, make "attic" 5 10 = .ok remote ∧ remote.profile.blinds.toList.Nodup ∧
      (remote.handleAll
        [.pair 1, .pair 2, .pair 1, .pair 3, .part 1, .pair 1]).profile.blinds.toList =
          [2, 3, 1] ∧
      (pair 16 (remote.handleAll ((List.range 16).map fun n => .pair n.toUInt16))).1 =
        .error .tooManyBlinds := by
  obtain ⟨remote, made⟩ : ∃ remote, make "attic" 5 10 = .ok remote := ⟨_, rfl⟩
  have none := blinds_make made
  have distinct : remote.profile.blinds.toList.Nodup := by simp [none]
  refine ⟨remote, made, distinct, ?_, ?_⟩
  · obtain ⟨-, -, -, order, -⟩ := handleAll_pairs remote distinct
      [.pair 1, .pair 2, .pair 1, .pair 3, .part 1, .pair 1]
    rw [order, none]
    decide
  · obtain ⟨-, -, -, -, next⟩ := handleAll_pairs remote distinct
      ((List.range 16).map fun n => .pair n.toUInt16)
    rw [none] at next
    exact ((next 16).refuses .tooManyBlinds).mpr ⟨by decide, rfl⟩

end Remote

end ShutterRadio
