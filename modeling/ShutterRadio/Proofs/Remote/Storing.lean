/-
# What is stored of a remote

Whoever stores remotes takes the mark of a change away and stores the profile if there
was a mark.  `Archive.run_stores` says that this is enough: whatever is done with a
remote in between, and on whatever queues it is pressed, the stored copy is the live
profile whenever the mark has just been taken away.

The mark is exact as well.  A remote is marked if and only if, since the mark was taken
away last, something changed its profile or it was given a name; a name that it has
already counts too.  All of this rests on `Remote.handle_cases`: one handling either
takes the mark away, or does nothing at all, or leaves a mark.
-/

import Mathlib.Data.List.Induction
import ShutterRadio.Proofs.Remote.Handling
import ShutterRadio.Proofs.Remote.History

namespace ShutterRadio

namespace Remote

/-- What becomes of a remote that is handled several times. -/
def handleAll (remote : Remote) (handlings : List Handling) : Remote :=
  handlings.foldl handle remote

/-- To handle a remote so is to change its profile, or to give it a name that fits,
which may be its own. -/
def IsTouchedBy (remote : Remote) (handling : Handling) : Prop :=
  (remote.handle handling).profile ≠ remote.profile ∨
    ∃ name, handling = .rename name ∧ name.utf8ByteSize ≤ nameCapacity

theorem handleAll_snoc (remote : Remote) (handlings : List Handling) (last : Handling) :
    remote.handleAll (handlings ++ [last]) = (remote.handleAll handlings).handle last :=
  List.foldl_append

variable (remote : Remote)

/-- Nothing at all was done, or the remote was touched and is marked. -/
def Reports (handling : Handling) : Prop :=
  ¬ remote.IsTouchedBy handling ∧ remote.handle handling = remote ∨
    remote.IsTouchedBy handling ∧ (remote.handle handling).dirty = true

/-- A handling other than a renaming does nothing, or changes the profile and says so. -/
theorem reports_of_change {handling : Handling} (named : ∀ name, handling ≠ .rename name)
    (outcome : remote.handle handling = remote ∨
      ∃ profile, profile ≠ remote.profile ∧ remote.handle handling = changed profile) :
    remote.Reports handling := by
  rcases outcome with same | ⟨profile, other, became⟩
  · refine .inl ⟨?_, same⟩
    rintro (differs | ⟨name, renames, -⟩)
    · exact differs (congrArg Remote.profile same)
    · exact named name renames
  · refine .inr ⟨.inl ?_, ?_⟩
    · rw [became]
      exact other
    · rw [became]
      rfl

theorem reports_rename (name : String) : remote.Reports (.rename name) := by
  by_cases fits : name.utf8ByteSize ≤ nameCapacity
  · refine .inr ⟨.inr ⟨name, rfl, fits⟩, ?_⟩
    simp only [handle, rename_eq, Name.ofString, dif_pos fits]
    rfl
  · have same : remote.handle (.rename name) = remote := by
      simp only [handle, rename_eq, Name.ofString, dif_neg fits]
    refine .inl ⟨?_, same⟩
    rintro (differs | ⟨other, renames, short⟩)
    · exact differs (congrArg Remote.profile same)
    · obtain rfl := Handling.rename.inj renames
      exact fits short

/-- A press is refused, or moves the code on. -/
theorem pressed_cases (queue : Queue) (button : Button) (repeats : UInt16) :
    remote.pressed queue button repeats = remote ∨
      ∃ profile, profile ≠ remote.profile ∧
        remote.pressed queue button repeats = changed profile := by
  unfold pressed
  rcases remote.pressOn_cases queue button repeats with ⟨-, refused⟩ | ⟨-, -, _, accepted, -⟩
  · rw [refused]
    exact .inl rfl
  · rw [accepted]
    refine .inr ⟨{ remote.profile with code := remote.profile.code + 1 }, ?_, rfl⟩
    intro same
    have code : remote.profile.code + 1 = remote.profile.code := congrArg Profile.code same
    simp at code

theorem adopt_cases (code : UInt16) :
    remote.adopt code = remote ∨
      ∃ profile, profile ≠ remote.profile ∧ remote.adopt code = changed profile := by
  unfold adopt
  split
  · exact .inl rfl
  · rename_i other
    exact .inr ⟨_, fun same => other (congrArg Profile.code same).symm, rfl⟩

/-- Pairing is refused, or known already, or makes the blinds one more. -/
theorem pair_cases (blind : UInt16) :
    remote.handle (.pair blind) = remote ∨
      ∃ profile, profile ≠ remote.profile ∧ remote.handle (.pair blind) = changed profile := by
  simp only [handle, pair_eq]
  split
  · exact .inl rfl
  · cases pushed : remote.profile.blinds.push? blind with
    | none => exact .inl rfl
    | some blinds =>
        refine .inr ⟨{ remote.profile with blinds }, ?_, rfl⟩
        intro same
        have longer := (Bounded.push?_eq_some_iff.mp pushed).2
        have itself : blinds = remote.profile.blinds := congrArg Profile.blinds same
        rw [itself] at longer
        simpa using congrArg List.length longer

/-- Parting finds nothing, or makes the blinds one less. -/
theorem part_cases (blind : UInt16) :
    remote.handle (.part blind) = remote ∨
      ∃ profile, profile ≠ remote.profile ∧ remote.handle (.part blind) = changed profile := by
  simp only [handle, part_eq]
  split
  · rename_i known
    refine .inr ⟨_, ?_, rfl⟩
    intro same
    have itself : remote.profile.blinds.toList.eraseP (· == blind) =
        remote.profile.blinds.toList :=
      congrArg (fun profile => profile.blinds.toList) same
    have among : blind ∈ remote.profile.blinds.toList := List.contains_iff_mem.mp known
    have shorter : (remote.profile.blinds.toList.eraseP (· == blind)).length =
        remote.profile.blinds.toList.length - 1 :=
      List.length_eraseP_of_mem among (beq_self_eq_true blind)
    have some_blind := List.length_pos_of_mem among
    rw [itself] at shorter
    omega
  · exact .inl rfl

/-- One handling takes the mark away, or does nothing at all, or leaves a mark. -/
theorem handle_cases (handling : Handling) : handling = .clean ∨ remote.Reports handling := by
  cases handling with
  | rename name => exact .inr (remote.reports_rename name)
  | press queue button repeats =>
      exact .inr (remote.reports_of_change nofun (remote.pressed_cases queue button repeats))
  | order queue action =>
      exact .inr (remote.reports_of_change nofun (remote.pressed_cases queue _ _))
  | adopt code => exact .inr (remote.reports_of_change nofun (remote.adopt_cases code))
  | pair blind => exact .inr (remote.reports_of_change nofun (remote.pair_cases blind))
  | part blind => exact .inr (remote.reports_of_change nofun (remote.part_cases blind))
  | clean => exact .inl rfl

/-- As long as the mark is not taken away, a remote is marked if it was marked before or
has been touched since, and is just what it was if not. -/
theorem handleAll_cases {handlings : List Handling} (untaken : .clean ∉ handlings) :
    (remote.handleAll handlings = remote ∨ (remote.handleAll handlings).dirty = true) ∧
    ((remote.handleAll handlings).dirty = true ↔ remote.dirty = true ∨
      ∃ earlier handling later, handlings = earlier ++ handling :: later ∧
        (remote.handleAll earlier).IsTouchedBy handling) := by
  induction handlings using List.reverseRecOn with
  | nil => exact ⟨.inl rfl, by simp [handleAll]⟩
  | append_singleton handlings last ih =>
      obtain ⟨others, here⟩ := not_or.mp fun among => untaken (List.mem_append.mpr among)
      obtain ⟨kept, marked⟩ := ih others
      rw [handleAll_snoc]
      rcases (remote.handleAll handlings).handle_cases last with
        rfl | ⟨untouched, same⟩ | ⟨touched, tells⟩
      · exact absurd List.mem_cons_self here
      · rw [same]
        refine ⟨kept, marked.trans (or_congr_right ?_)⟩
        constructor
        · rintro ⟨earlier, handling, later, rfl, touched⟩
          exact ⟨earlier, handling, later ++ [last], by simp, touched⟩
        · rintro ⟨earlier, handling, later, split, touched⟩
          rcases split_snoc split with ⟨rfl, rfl⟩ | ⟨rest, before⟩
          · exact absurd touched untouched
          · exact ⟨earlier, handling, rest, before, touched⟩
      · exact ⟨.inr tells, iff_of_true tells (.inr ⟨handlings, last, [], rfl, touched⟩)⟩

end Remote

/-! ## Archives -/

/-- A remote, and the profile that is stored of it. -/
structure Archive where
  remote : Remote
  stored : Profile
  deriving DecidableEq

namespace Archive

/-- A remote that has just come into being, stored as it is. -/
def ofRemote (remote : Remote) : Archive := ⟨remote, remote.profile⟩

/-- Take the mark away, and store the profile if there was one. -/
def save (archive : Archive) : Archive where
  remote := archive.remote.cleaned
  stored := if archive.remote.dirty then archive.remote.profile else archive.stored

/-- Handle the remote of an archive.  Only who takes the mark away stores anything. -/
def handle (archive : Archive) : Remote.Handling → Archive
  | .clean => archive.save
  | handling => { archive with remote := archive.remote.handle handling }

def run (archive : Archive) (handlings : List Remote.Handling) : Archive :=
  handlings.foldl handle archive

/-- The stored profile is the live one, or there is a mark. -/
def IsSafe (archive : Archive) : Prop :=
  archive.remote.dirty = true ∨ archive.stored = archive.remote.profile

theorem remote_handle (archive : Archive) (handling : Remote.Handling) :
    (archive.handle handling).remote = archive.remote.handle handling := by
  cases handling <;> rfl

theorem remote_run (archive : Archive) (handlings : List Remote.Handling) :
    (archive.run handlings).remote = archive.remote.handleAll handlings := by
  induction handlings generalizing archive with
  | nil => rfl
  | cons first rest ih =>
      show ((archive.handle first).run rest).remote = (archive.remote.handle first).handleAll rest
      rw [ih, remote_handle]

theorem IsSafe.stored_save {archive : Archive} (safe : archive.IsSafe) :
    archive.save.stored = archive.remote.profile := by
  rcases safe with marked | same
  · exact if_pos marked
  · simp [save, same]

theorem IsSafe.handle {archive : Archive} (safe : archive.IsSafe) (handling : Remote.Handling) :
    (archive.handle handling).IsSafe := by
  have rest (other : handling ≠ .clean) : archive.handle handling =
      { archive with remote := archive.remote.handle handling } := by
    cases handling <;> first | rfl | exact absurd rfl other
  by_cases takes : handling = .clean
  · subst takes
    exact .inr safe.stored_save
  · rw [rest takes]
    rcases (archive.remote.handle_cases handling).resolve_left takes with ⟨-, same⟩ | ⟨-, tells⟩
    · simp only [same]
      exact safe
    · exact .inl tells

theorem IsSafe.run {archive : Archive} (safe : archive.IsSafe)
    (handlings : List Remote.Handling) : (archive.run handlings).IsSafe := by
  induction handlings generalizing archive with
  | nil => exact safe
  | cons first rest ih => exact ih (safe.handle first)

/-- Whatever is done with a remote:

* from any moment on, as long as the mark is not taken away, the profile is what it was
  then, unless the remote is marked;
* it is marked if it was then, or was touched since, and not otherwise;
* and if the profile is stored whenever there was a mark to take away, then the stored
  profile is the live one each time the mark has been taken away. -/
theorem run_stores (remote : Remote) (handlings : List Remote.Handling) :
    let live := remote.handleAll handlings
    (∀ before after, handlings = before ++ after → .clean ∉ after →
      let past := remote.handleAll before
      (live.dirty = false → live.profile = past.profile) ∧
      (live.dirty = true ↔ past.dirty = true ∨
        ∃ earlier handling later, after = earlier ++ handling :: later ∧
          (past.handleAll earlier).IsTouchedBy handling)) ∧
    ((ofRemote remote).run handlings).remote = live ∧
    ((ofRemote remote).run (handlings ++ [.clean])).stored = live.profile := by
  intro live
  refine ⟨?_, remote_run _ _, ?_⟩
  · rintro before after split untaken
    obtain ⟨kept, marked⟩ := (remote.handleAll before).handleAll_cases untaken
    have since : live = (remote.handleAll before).handleAll after := by
      simp only [live, split, Remote.handleAll, List.foldl_append]
    rw [← since] at kept marked
    refine ⟨fun unmarked => ?_, marked⟩
    rcases kept with same | tells
    · rw [same]
    · rw [unmarked] at tells
      cases tells
  · have safe : ((ofRemote remote).run handlings).IsSafe := IsSafe.run (.inr rfl) handlings
    have saved : (ofRemote remote).run (handlings ++ [.clean]) =
        ((ofRemote remote).run handlings).save := List.foldl_append
    rw [saved, safe.stored_save, remote_run]
    rfl

/-- Giving a remote its own name leaves a mark though nothing is new.  Following the code
that it has already, and pairing the blind that obeys it already, leave none. -/
example :
    let seven := Remote.restore ⟨⟨"seven", by decide⟩, 7, 3, ⟨[4], by decide⟩⟩
    (seven.handleAll [.adopt 2, .pair 4]).dirty = false ∧
      (seven.handleAll [.adopt 2, .rename "seven"]).dirty = true ∧
      ((ofRemote seven).run [.adopt 8, .clean, .part 4]).stored.code = 9 := by
  decide

end Archive

end ShutterRadio
