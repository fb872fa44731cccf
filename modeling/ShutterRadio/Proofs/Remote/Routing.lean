/-
# Who answers to what is on air

A frame carries the significant bits of an identity, a registry compares identities as
they are.  The two agree as long as no identity has more than those bits.  Making a
remote drops the others; a profile that was stored keeps them.

`Annals.run_routes` says what that means for a registry that began empty.  A press that
a registered remote sends finds its way back to it exactly if its identity is narrow.  If
all profiles that remotes were restored from are narrow, then so are all identities, the
remotes differ on air, and every press finds its way back.
-/

import ShutterRadio.Proofs.Frame.Image
import ShutterRadio.Proofs.Remote.Annals
import ShutterRadio.Proofs.Remote.Storing

namespace ShutterRadio

/-- An identity with no bits but the significant ones. -/
def IsNarrow (identity : UInt32) : Prop := identity.toNat < 2 ^ 24

instance (identity : UInt32) : Decidable (IsNarrow identity) :=
  inferInstanceAs (Decidable (_ < _))

theorem isNarrow_iff {identity : UInt32} :
    IsNarrow identity ↔ identity &&& identityMask = identity :=
  identity_fits_iff.symm

theorem isNarrow_masked (identity : UInt32) : IsNarrow (identity &&& identityMask) := by
  rw [isNarrow_iff, UInt32.and_assoc, UInt32.and_self]

namespace Remote

/-- What the frames of a remote carry of its identity. -/
def onAir (remote : Remote) : UInt32 := remote.profile.identity &&& identityMask

theorem onAir_of_narrow {remote : Remote} (narrow : IsNarrow remote.profile.identity) :
    remote.onAir = remote.profile.identity :=
  isNarrow_iff.mp narrow

/-! ## Where remotes come from -/

/-- How a remote comes into being. -/
inductive Origin
  | made (name : String) (identity : UInt32) (code : UInt16)
  | restored (profile : Profile)

namespace Origin

/-- The remote that comes into being, unless its name does not fit. -/
def remote? : Origin → Option Remote
  | made name identity code => (make name identity code).toOption
  | restored profile => some (restore profile)

/-- No profile was stored with more than the significant bits of an identity. -/
def Trusted : Origin → Prop
  | made .. => True
  | restored profile => IsNarrow profile.identity

theorem Trusted.narrow {origin : Origin} (trusted : origin.Trusted) {remote : Remote}
    (begun : origin.remote? = some remote) : IsNarrow remote.profile.identity := by
  cases origin with
  | made name identity code =>
      simp only [remote?, make] at begun
      cases named : Name.ofString name with
      | error reason =>
          rw [named] at begun
          cases begun
      | ok fitting =>
          rw [named] at begun
          obtain rfl := Option.some.inj begun
          exact isNarrow_masked identity
  | restored profile =>
      obtain rfl := Option.some.inj begun
      exact trusted

end Origin

/-- A remote came into being so, and was handled somehow since. -/
def ComesFrom (remote : Remote) (origin : Origin) : Prop :=
  ∃ first handlings, origin.remote? = some first ∧ first.handleAll handlings = remote

theorem identity_handleAll (remote : Remote) (handlings : List Handling) :
    (remote.handleAll handlings).profile.identity = remote.profile.identity := by
  induction handlings generalizing remote with
  | nil => rfl
  | cons first rest ih => exact (ih (remote.handle first)).trans (remote.identity_handle first)

theorem ComesFrom.narrow {remote : Remote} {origin : Origin} (comes : remote.ComesFrom origin)
    (trusted : origin.Trusted) : IsNarrow remote.profile.identity := by
  obtain ⟨first, handlings, begun, rfl⟩ := comes
  rw [identity_handleAll]
  exact trusted.narrow begun

end Remote

/-! ## The way back -/

namespace Registry

/-- Whatever a remote of this identity sends, with any key and under any code: once a
command is read from its frame, the registry takes it for a press of this remote, names
its blinds and makes it follow. -/
def RoutesBack (registry : Registry) (remote : Remote) : Prop :=
  ∀ key code button command copies,
    (Frame.encode key ⟨remote.profile.identity, code, button⟩).decode = .ok command →
      registry.find? command.remote = some remote ∧
      registry.hear ⟨command, copies⟩ = (.known remote.profile.blinds.toList,
        registry.replace remote.profile.identity (remote.adopt code))

/-- What is read from a frame carries the identity as it is on air, and the code. -/
theorem read_back {key : UInt8} {sent command : Command}
    (read : (Frame.encode key sent).decode = .ok command) :
    command.remote = sent.remote &&& identityMask ∧ command.code = sent.code := by
  rw [Frame.decode_encode_eq] at read
  split at read
  · obtain rfl := Except.ok.inj read
    exact ⟨rfl, rfl⟩
  · cases read

/-- A press finds its way back to a registered remote exactly if its identity comes back
as it was sent. -/
theorem routesBack_iff {registry : Registry} {remote : Remote}
    (distinct : (identities registry.remotes.toList).Nodup)
    (member : remote ∈ registry.remotes.toList) :
    registry.RoutesBack remote ↔ IsNarrow remote.profile.identity := by
  constructor
  · intro routes
    have single : Button.up.truncated.isSinglePress = true := by decide
    have read := Frame.decode_encode Frame.standardKey ⟨remote.profile.identity, 0, .up⟩ single
    obtain ⟨found, -⟩ := routes _ _ _ _ 0 read
    exact isNarrow_iff.mpr (identity_of_find? found).symm
  · intro narrow key code button command copies read
    obtain ⟨masked, codes⟩ := read_back read
    have same : command.remote = remote.profile.identity := masked.trans (isNarrow_iff.mp narrow)
    have found : registry.find? command.remote = some remote :=
      (find?_isOf_eq_some_iff distinct).mpr ⟨member, same.symm⟩
    refine ⟨found, ?_⟩
    rw [hear_of_find? found]
    simp only [same, codes]

/-- Remotes that are registered differ on air, if their identities are narrow. -/
theorem nodup_onAir {remotes : List Remote} (distinct : (identities remotes).Nodup)
    (narrow : ∀ remote ∈ remotes, IsNarrow remote.profile.identity) :
    (remotes.map Remote.onAir).Nodup := by
  have same : remotes.map Remote.onAir = identities remotes :=
    List.map_congr_left fun remote member => Remote.onAir_of_narrow (narrow remote member)
  rw [same]
  exact distinct

end Registry

namespace Annals

/-- A registered remote has the identity of one that was to be added. -/
theorem exists_add_of_mem (operations : List Registry.Operation) {remote : Remote}
    (member : remote ∈ (blank.run operations).registry.remotes.toList) :
    ∃ added, .add added ∈ operations ∧ added.profile.identity = remote.profile.identity := by
  have holds : (blank.run operations).Holds := holds_run holds_blank operations
  rw [holds.remotes, Registry.mem_standing_iff] at member
  obtain ⟨before, added, later, split, -, rfl⟩ := member
  refine ⟨added, ?_, (Registry.identity_foldl_follow added later).symm⟩
  have written : (blank.run operations).history.map Registry.Event.operation = operations :=
    blank.map_operation_run operations
  rw [← written, split]
  simp [Registry.Event.operation]

/-- Whatever is done with a registry that began empty:

* what a registered remote sends finds its way back to it exactly if its identity has no
  more than twenty-four bits;
* two registered remotes are the same on air only if one of them has more;
* and if no remote was ever added that was restored from a profile with more, then all
  registered remotes have narrow identities, differ on air and get back what they send. -/
theorem run_routes (operations : List Registry.Operation) :
    let registry := (blank.run operations).registry
    let remotes := registry.remotes.toList
    (∀ remote ∈ remotes, registry.RoutesBack remote ↔ remote.profile.identity.toNat < 2 ^ 24) ∧
    (∀ first ∈ remotes, ∀ second ∈ remotes, first.onAir = second.onAir → first ≠ second →
      2 ^ 24 ≤ first.profile.identity.toNat ∨ 2 ^ 24 ≤ second.profile.identity.toNat) ∧
    ((∀ added, .add added ∈ operations →
        ∃ origin : Remote.Origin, added.ComesFrom origin ∧ origin.Trusted) →
      (remotes.map Remote.onAir).Nodup ∧
      ∀ remote ∈ remotes,
        remote.profile.identity.toNat < 2 ^ 24 ∧ registry.RoutesBack remote) := by
  intro registry remotes
  have holds : (blank.run operations).Holds := holds_run holds_blank operations
  have distinct : (Registry.identities remotes).Nodup := holds.sound.distinct
  have back (remote : Remote) (member : remote ∈ remotes) :
      registry.RoutesBack remote ↔ IsNarrow remote.profile.identity :=
    Registry.routesBack_iff distinct member
  refine ⟨back, ?_, ?_⟩
  · intro first here second there same other
    by_contra! narrow
    rw [Remote.onAir_of_narrow narrow.1, Remote.onAir_of_narrow narrow.2] at same
    exact other (List.inj_on_of_nodup_map distinct here there same)
  · intro trusted
    have narrow : ∀ remote ∈ remotes, IsNarrow remote.profile.identity := by
      intro remote member
      obtain ⟨added, asked, same⟩ := exists_add_of_mem operations member
      obtain ⟨origin, comes, trust⟩ := trusted added asked
      rw [← same]
      exact comes.narrow trust
    exact ⟨Registry.nodup_onAir distinct narrow, fun remote member =>
      ⟨narrow remote member, (back remote member).mpr (narrow remote member)⟩⟩

/-- A remote that is made of a wide identity, and one that was stored. -/
theorem run_routes_made :
    ∃ made, Remote.make "made" 0xff27962a 7 = .ok made ∧
      let stored := Remote.restore ⟨⟨"stored", by decide⟩, 0x27962b, 10, .empty⟩
      let registry := (blank.run
        [.add made, .add (stored.handle (.pair 3)), .manage 0x27962a (.adopt 9)]).registry
      (registry.remotes.toList.map Remote.onAir).Nodup ∧
      ∀ remote ∈ registry.remotes.toList,
        remote.profile.identity.toNat < 2 ^ 24 ∧ registry.RoutesBack remote := by
  refine ⟨Remote.restore ⟨⟨"made", by decide⟩, 0x27962a, 7, .empty⟩, by decide, ?_⟩
  refine (run_routes _).2.2 ?_
  intro added asked
  simp only [List.mem_cons, Registry.Operation.add.injEq, reduceCtorEq, List.not_mem_nil,
    or_false] at asked
  rcases asked with rfl | rfl
  · exact ⟨.made "made" 0xff27962a 7, ⟨_, [], by decide, rfl⟩, trivial⟩
  · exact ⟨.restored ⟨⟨"stored", by decide⟩, 0x27962b, 10, .empty⟩, ⟨_, [.pair 3], rfl, rfl⟩,
      show IsNarrow 0x27962b by decide⟩

/-- A remote that was stored with a wide identity does not get back what it sends: its own
press is one of an unknown remote. -/
example :
    let wide := Remote.restore ⟨⟨"wide", by decide⟩, 0x0127962a, 10, ⟨[3], by decide⟩⟩
    let registry := (blank.run [.add wide]).registry
    (Frame.encode Frame.standardKey ⟨0x0127962a, 10, .up⟩).decode = .ok ⟨0x27962a, 10, .up⟩ ∧
      (registry.hear ⟨⟨0x27962a, 10, .up⟩, 0⟩).1 = .discovered := by
  decide

end Annals

end ShutterRadio
