/-
# What a registry holds, by its history

Annals are a registry with the events that made it what it is.  From the events alone one
can tell what the registry holds: the remotes that were added and not removed since, each
with all that happened to it since, in the order in which they were added, and the
identities that were noticed and not forgotten since, in the order in which they were.
`Annals.run_holds` says that a registry that began empty holds just that, whatever was
done with it, and that each event was what the registry called for when it happened.

The induction is on the history from its end: what one more event does to what remains of
a history (`remaining_snoc`) is what it does to the registry
(`Registry.explains_perform`).
-/

import ShutterRadio.Proofs.Remote.History
import ShutterRadio.Proofs.Remote.Upkeep

namespace ShutterRadio

/-! ## Annals -/

namespace Registry

/-- The remotes that were added and not removed since, in the order in which they were,
each with all that happened to it since. -/
def standing (history : List Event) : List Remote :=
  remaining Event.added? (fun remote event => event.removes remote.profile.identity)
    Remote.follow history

/-- The identities that were noticed and not forgotten since, in the order in which they
were. -/
def remembered (history : List Event) : List UInt32 :=
  remaining Event.noticed? (fun identity event => event.forgets identity)
    (fun identity _ => identity) history

/-- Whatever becomes of a remote, what removes it goes by its identity. -/
theorem steady_follow : Steady (fun (remote : Remote) (event : Event) =>
    event.removes remote.profile.identity) Remote.follow := by
  intro remote event
  funext other
  show other.removes (remote.follow event).profile.identity = _
  rw [remote.identity_follow event]

/-- Whatever happens to a remote, it stays the remote of its identity. -/
theorem identity_foldl_follow (remote : Remote) (later : List Event) :
    (later.foldl Remote.follow remote).profile.identity = remote.profile.identity := by
  induction later generalizing remote with
  | nil => rfl
  | cons event later ih => exact (ih (remote.follow event)).trans (remote.identity_follow event)

/-- A remote stands if it was added, was not removed since and became that. -/
theorem mem_standing_iff {history : List Event} {remote : Remote} :
    remote ∈ standing history ↔
      ∃ before added later, history = before ++ .added added :: later ∧
        .removed added.profile.identity ∉ later ∧ later.foldl Remote.follow added = remote := by
  have lasting (identity : UInt32) (later : List Event) :
      (∀ other ∈ later, other.removes identity = false) ↔ .removed identity ∉ later := by
    simp only [← Bool.not_eq_true, Event.removes_iff]
    exact ⟨fun others member => others _ member rfl, fun none other member same =>
      none (same ▸ member)⟩
  rw [standing, mem_remaining_iff]
  constructor
  · rintro ⟨before, event, later, added, split, begun, others, became⟩
    cases event with
    | added remote =>
        obtain rfl := Option.some.inj begun
        exact ⟨before, remote, later, split, (lasting _ _).mp others, became⟩
    | _ => cases begun
  · rintro ⟨before, added, later, split, none, became⟩
    exact ⟨before, .added added, later, added, split, rfl, (lasting _ _).mpr none, became⟩

/-- One more event does to what stands what it does to a registry. -/
theorem standing_snoc (history : List Event) (event : Event) :
    standing (history ++ [event]) =
      (((standing history).filter fun remote => !event.removes remote.profile.identity).map
        fun remote => remote.follow event) ++ event.added?.toList :=
  remaining_snoc steady_follow history event

theorem remembered_snoc (history : List Event) (event : Event) :
    remembered (history ++ [event]) =
      ((remembered history).filter fun identity => !event.forgets identity) ++
        event.noticed?.toList := by
  have steady : Steady (fun (identity : UInt32) (event : Event) => event.forgets identity)
      fun identity _ => identity := fun _ _ => rfl
  have grown : remembered (history ++ [event]) =
      (((remembered history).filter fun identity => !event.forgets identity).map
        fun identity => identity) ++ event.noticed?.toList :=
    remaining_snoc steady history event
  rw [grown, List.map_id']

end Registry

/-- A registry, and what has happened to it so far, in order. -/
structure Annals where
  registry : Registry
  history : List Registry.Event

namespace Annals

/-- The annals of a registry that nothing has happened to. -/
def blank : Annals := ⟨.empty, []⟩

/-- Do something with the registry, and write down what came of it. -/
def record (annals : Annals) (operation : Registry.Operation) : Annals where
  registry := (annals.registry.perform operation).2
  history := annals.history ++ [(annals.registry.perform operation).1]

def run (annals : Annals) (operations : List Registry.Operation) : Annals :=
  operations.foldl record annals

open Registry (standing remembered)

/-- The registry holds what remains of its history, and each event was what it called
for. -/
structure Holds (annals : Annals) : Prop where
  sound : annals.registry.Sound
  remotes : annals.registry.remotes.toList = standing annals.history
  detected : annals.registry.detected.toList = remembered annals.history
  fits : ∀ before event later, annals.history = before ++ event :: later →
    event.Fits (standing before) (remembered before)

theorem holds_blank : blank.Holds where
  sound := ⟨List.nodup_nil, List.nodup_nil, nofun⟩
  remotes := rfl
  detected := rfl
  fits := by simp [blank]

theorem holds_record {annals : Annals} (holds : annals.Holds) (operation : Registry.Operation) :
    (annals.record operation).Holds := by
  have explains := Registry.explains_perform holds.sound operation
  constructor
  · exact explains.sound holds.sound
  · rw [record, Registry.standing_snoc, ← holds.remotes]
    exact explains.remotes
  · rw [record, Registry.remembered_snoc, ← holds.detected]
    exact explains.detected
  · intro before event later split
    -- The event is the one that was just made, or one that fitted already.
    rcases split_snoc split with ⟨rfl, rfl⟩ | ⟨rest, earlier⟩
    · rw [← holds.remotes, ← holds.detected]
      exact explains.fits
    · exact holds.fits before event rest earlier

theorem holds_run {annals : Annals} (holds : annals.Holds)
    (operations : List Registry.Operation) : (annals.run operations).Holds := by
  induction operations generalizing annals with
  | nil => exact holds
  | cons first rest ih => exact ih (holds_record holds first)

/-- Each operation is written down, in order. -/
theorem map_operation_run (annals : Annals) (operations : List Registry.Operation) :
    (annals.run operations).history.map Registry.Event.operation =
      annals.history.map Registry.Event.operation ++ operations := by
  induction operations generalizing annals with
  | nil => simp [run]
  | cons first rest ih =>
      have written : (annals.record first).history.map Registry.Event.operation =
          annals.history.map Registry.Event.operation ++ [first] := by
        rw [record, List.map_append, List.map_singleton, Registry.operation_perform]
      rw [run, List.foldl_cons, ← run, ih, written, List.append_assoc]
      rfl

/-- Whatever is done with a registry that began empty:

* its remotes are of different identities, and there are never more than sixteen;
* the identities that it remembers are different, no more than four, and not registered;
* a remote is found exactly if one of its identity was added and not removed since, and
  it is that one with all that happened to it since;
* the remotes stand in the order in which they were added, and the remembered identities
  in the order in which they were noticed;
* and each operation made the event that what was there at the time called for. -/
theorem run_holds (operations : List Registry.Operation) :
    let annals := blank.run operations
    let remotes := annals.registry.remotes.toList
    let detected := annals.registry.detected.toList
    annals.history.map Registry.Event.operation = operations ∧
    ((Registry.identities remotes).Nodup ∧ remotes.length ≤ 16) ∧
    (detected.Nodup ∧ detected.length ≤ 4 ∧
      ∀ identity ∈ detected, identity ∉ Registry.identities remotes) ∧
    (∀ identity remote, annals.registry.find? identity = some remote ↔
      ∃ before added later, annals.history = before ++ .added added :: later ∧
        added.profile.identity = identity ∧ .removed identity ∉ later ∧
          later.foldl Remote.follow added = remote) ∧
    remotes = standing annals.history ∧
    detected = remembered annals.history ∧
    (∀ before event later, annals.history = before ++ event :: later →
      event.Fits (standing before) (remembered before)) := by
  intro annals remotes detected
  have holds : annals.Holds := holds_run holds_blank operations
  refine ⟨?_, ⟨holds.sound.distinct, annals.registry.remotes.length_le⟩,
    ⟨holds.sound.detected, annals.registry.detected.length_le, holds.sound.apart⟩, ?_,
    holds.remotes, holds.detected, holds.fits⟩
  · exact blank.map_operation_run operations
  · intro identity remote
    rw [Registry.find?, Registry.find?_isOf_eq_some_iff holds.sound.distinct, holds.remotes,
      Registry.mem_standing_iff]
    constructor
    · rintro ⟨⟨before, added, later, split, lasting, rfl⟩, same⟩
      rw [Registry.identity_foldl_follow] at same
      subst same
      exact ⟨before, added, later, split, rfl, lasting, rfl⟩
    · rintro ⟨before, added, later, split, rfl, lasting, rfl⟩
      exact ⟨⟨before, added, later, split, lasting, rfl⟩,
        Registry.identity_foldl_follow added later⟩

/-- An unknown remote is heard, added, heard again and removed, and then it is unknown. -/
example :
    let seven := Remote.restore ⟨⟨"seven", by decide⟩, 7, 3, .empty⟩
    let press (code : UInt16) : Registry.Operation := .hear ⟨⟨7, code, .up⟩, 0⟩
    let known := blank.run [press 1, .add seven, press 8]
    let unknown := known.run [.remove 7, press 9]
    known.registry.remotes.toList.map (·.profile.code) = [9] ∧
      known.registry.detected.toList = [] ∧
      unknown.registry.remotes.toList = [] ∧ unknown.registry.detected.toList = [7] := by
  decide

end Annals

end ShutterRadio
