/-
# What becomes of a registry

A registry changes the first remote of an identity and the first only.  As long as its
remotes are of different identities that is every remote of the identity, and then each
operation does to the whole registry what its event says (`Registry.explains_perform`).
That the identities stay different, and that none of them is remembered as an unknown
one, is a matter of the events alone (`Registry.Event.Explains.sound`).
-/

import Mathlib.Data.List.Nodup
import ShutterRadio.Proofs.Remote.Handling

namespace ShutterRadio.Registry

/-- The identities of remotes, in order. -/
def identities (remotes : List Remote) : List UInt32 := remotes.map (·.profile.identity)

/-- The remotes are of different identities, and so are those that are remembered, none
of which is registered. -/
structure Sound (registry : Registry) : Prop where
  distinct : (identities registry.remotes.toList).Nodup
  detected : registry.detected.toList.Nodup
  apart : ∀ identity ∈ registry.detected.toList, identity ∉ identities registry.remotes.toList

/-- What was done is what the remotes and the remembered identities that there were call
for. -/
def Event.Fits (remotes : List Remote) (detected : List UInt32) : Event → Prop
  | added remote =>
      remote.profile.identity ∉ identities remotes ∧ remotes.length < registryCapacity
  | refused remote reason =>
      if remote.profile.identity ∈ identities remotes then
        reason = .duplicate remote.profile.identity
      else reason = .registryFull ∧ remotes.length = registryCapacity
  | heard reception hearing =>
      match remotes.find? (isOf reception.command.remote) with
      | some remote => hearing = .known remote.profile.blinds.toList
      | none =>
          if reception.command.remote ∈ detected then hearing = .detectedBefore
          else if detected.length < discoveryCapacity then hearing = .discovered
          else hearing = .overlooked
  | _ => True

/-- An event was what the registry called for, and says all that became of it. -/
structure Event.Explains (event : Event) (before after : Registry) : Prop where
  fits : event.Fits before.remotes.toList before.detected.toList
  /-- Removed remotes are gone, the others have followed, and an added one is the last. -/
  remotes : after.remotes.toList =
    ((before.remotes.toList.filter fun remote => !event.removes remote.profile.identity).map
      fun remote => remote.follow event) ++ event.added?.toList
  detected : after.detected.toList =
    (before.detected.toList.filter fun identity => !event.forgets identity) ++
      event.noticed?.toList

/-! ## Remotes of different identities -/

variable {remotes : List Remote} {identity : UInt32} {registry : Registry}

theorem mem_identities {remote : Remote} (member : remote ∈ remotes) :
    remote.profile.identity ∈ identities remotes :=
  List.mem_map.mpr ⟨remote, member, rfl⟩

theorem find?_isOf_eq_none_iff :
    remotes.find? (isOf identity) = none ↔ identity ∉ identities remotes := by
  simp only [List.find?_eq_none, identities, List.mem_map, not_exists, not_and, isOf_iff]

theorem find?_isOf_eq_some_iff (distinct : (identities remotes).Nodup) {remote : Remote} :
    remotes.find? (isOf identity) = some remote ↔
      remote ∈ remotes ∧ remote.profile.identity = identity := by
  constructor
  · intro found
    exact ⟨List.mem_of_find?_eq_some found, isOf_iff.mp (List.find?_some found)⟩
  · rintro ⟨member, rfl⟩
    cases found : remotes.find? (isOf remote.profile.identity) with
    | none => exact absurd (mem_identities member) (find?_isOf_eq_none_iff.mp found)
    | some other =>
        have same := isOf_iff.mp (List.find?_some found)
        have among := List.mem_of_find?_eq_some found
        rw [List.inj_on_of_nodup_map distinct among member same]

theorem ne_of_mem_rest {first other : Remote} {rest : List Remote}
    (fresh : first.profile.identity ∉ identities rest) (here : isOf identity first = true)
    (member : other ∈ rest) : identity ≠ other.profile.identity := by
  rintro rfl
  rw [isOf_iff.mp here] at fresh
  exact fresh (mem_identities member)

/-- To take the first remote of an identity out is to take all of them out. -/
theorem eraseP_isOf (distinct : (identities remotes).Nodup) :
    remotes.eraseP (isOf identity) =
      remotes.filter fun remote => !(Event.removed identity).removes remote.profile.identity := by
  induction remotes with
  | nil => rfl
  | cons first rest ih =>
      obtain ⟨fresh, others⟩ := List.nodup_cons.mp distinct
      cases here : isOf identity first with
      | true =>
          have gone : first.profile.identity = identity := isOf_iff.mp here
          have kept : ∀ other ∈ rest,
              (!(Event.removed identity).removes other.profile.identity) = true := by
            intro other member
            simpa [Event.removes] using ne_of_mem_rest fresh here member
          rw [List.eraseP_cons_of_pos here, List.filter_cons_of_neg (by simp [Event.removes, gone]),
            List.filter_eq_self.mpr kept]
      | false =>
          have stays : first.profile.identity ≠ identity := isOf_eq_false_iff.mp here
          rw [List.eraseP_cons_of_neg (by simp [here]), ih others,
            List.filter_cons_of_pos (by simp [Event.removes, stays.symm])]

/-- A change of the remotes of an identity does not show where there is none. -/
theorem map_of_unknown {change : Remote → Remote} (unknown : identity ∉ identities remotes) :
    (remotes.map fun other =>
      if identity = other.profile.identity then change other else other) = remotes := by
  calc remotes.map (fun other => if identity = other.profile.identity then change other else other)
      = remotes.map id := List.map_congr_left fun other member =>
          if_neg fun same => unknown (by rw [same]; exact mem_identities member)
    _ = remotes := List.map_id remotes

/-- To change the first remote of an identity is to change all of them. -/
theorem modify_isOf (distinct : (identities remotes).Nodup) (change : Remote → Remote)
    {remote : Remote} (found : remotes.find? (isOf identity) = some remote) :
    remotes.modify (remotes.findIdx (isOf identity)) (fun _ => change remote) =
      remotes.map fun other =>
        if identity = other.profile.identity then change other else other := by
  induction remotes with
  | nil => rfl
  | cons first rest ih =>
      obtain ⟨fresh, others⟩ := List.nodup_cons.mp distinct
      cases here : isOf identity first with
      | true =>
          have same : first.profile.identity = identity := isOf_iff.mp here
          rw [List.find?_cons_of_pos here] at found
          obtain rfl := Option.some.inj found
          have unknown : identity ∉ identities rest := by
            rw [← same]
            exact fresh
          simp [List.findIdx_cons, here, same, map_of_unknown unknown]
      | false =>
          have apart : first.profile.identity ≠ identity := isOf_eq_false_iff.mp here
          rw [List.find?_cons_of_neg (by simp [here])] at found
          simp [List.findIdx_cons, here, apart.symm, ih others found]

/-! ## Operations -/

/-- A refused remote leaves the registry as it was. -/
theorem explains_refused {remote : Remote} {reason : RemoteError}
    (fits : (Event.refused remote reason).Fits registry.remotes.toList registry.detected.toList) :
    (Event.refused remote reason).Explains registry registry where
  fits := fits
  remotes := by simp [Event.removes, Remote.follow, Event.added?]
  detected := by simp [Event.forgets, Event.noticed?]

theorem explains_add (registry : Registry) (remote : Remote) :
    (registry.perform (.add remote)).1.Explains registry (registry.perform (.add remote)).2 := by
  rcases registry.add_cases remote with
    ⟨other, taken, refused⟩ | ⟨unknown, full, refused⟩ | ⟨unknown, room, remotes, longer, added⟩
  · have known : remote.profile.identity ∈ identities registry.remotes.toList := by
      rw [← identity_of_find? taken]
      exact mem_identities (List.mem_of_find?_eq_some taken)
    simp only [perform, refused]
    exact explains_refused ((if_pos known).mpr rfl)
  · simp only [perform, refused]
    exact explains_refused ((if_neg (find?_isOf_eq_none_iff.mp unknown)).mpr ⟨rfl, full⟩)
  · simp only [perform, added]
    constructor
    · exact ⟨find?_isOf_eq_none_iff.mp unknown, room⟩
    · simp [Event.removes, Remote.follow, Event.added?, longer]
    · show registry.detected.toList.filter _ = _
      simp [Event.forgets, Event.noticed?, bne, Bool.beq_comm]

theorem explains_remove (sound : registry.Sound) (identity : UInt32) :
    (registry.perform (.remove identity)).1.Explains registry
      (registry.perform (.remove identity)).2 := by
  have same : (registry.perform (.remove identity)).2.remotes.toList =
      registry.remotes.toList.eraseP (isOf identity) := by
    simp only [perform, remove_eq]
    cases found : registry.find? identity with
    | some remote => rfl
    | none =>
        symm
        apply List.eraseP_of_forall_not
        exact List.find?_eq_none.mp found
  constructor
  · trivial
  · rw [same, eraseP_isOf sound.distinct]
    simp [perform, Remote.follow, Event.added?]
  · simp only [perform, remove_eq]
    cases registry.find? identity <;> simp [Event.forgets, Event.noticed?]

/-- A change of the remote of an identity that is put in its place. -/
theorem toList_replace (sound : registry.Sound) (change : Remote → Remote) {remote : Remote}
    (found : registry.find? identity = some remote) :
    (registry.replace identity (change remote)).remotes.toList =
      registry.remotes.toList.map fun other =>
        if identity = other.profile.identity then change other else other :=
  modify_isOf sound.distinct change found

theorem explains_manage (sound : registry.Sound) (identity : UInt32)
    (handling : Remote.Handling) :
    (Event.managed identity handling).Explains registry (registry.manage identity handling) := by
  have remotes : (registry.manage identity handling).remotes.toList =
      registry.remotes.toList.map fun other =>
        if identity = other.profile.identity then other.handle handling else other := by
    unfold manage
    cases found : registry.find? identity with
    | some remote => exact toList_replace sound (·.handle handling) found
    | none => exact (map_of_unknown (find?_isOf_eq_none_iff.mp found)).symm
  have detected : (registry.manage identity handling).detected = registry.detected := by
    unfold manage
    split <;> rfl
  constructor
  · trivial
  · simp [remotes, Event.removes, Event.added?, Remote.follow]
  · simp [detected, Event.forgets, Event.noticed?]

/-- What becomes of an identity that is not registered. -/
theorem detect_cases (registry : Registry) (identity : UInt32) :
    (identity ∈ registry.detected.toList ∧
      registry.detect identity = (.detectedBefore, registry)) ∨
    (identity ∉ registry.detected.toList ∧ registry.detected.toList.length < discoveryCapacity ∧
      ∃ detected, detected.toList = registry.detected.toList ++ [identity] ∧
        registry.detect identity = (.discovered, { registry with detected })) ∨
    (identity ∉ registry.detected.toList ∧
      ¬registry.detected.toList.length < discoveryCapacity ∧
        registry.detect identity = (.overlooked, registry)) := by
  by_cases known : identity ∈ registry.detected.toList
  · exact .inl ⟨known, by simp [detect, known]⟩
  cases pushed : registry.detected.push? identity with
  | some detected =>
      obtain ⟨room, longer⟩ := Bounded.push?_eq_some_iff.mp pushed
      exact .inr (.inl ⟨known, room, detected, longer, by simp [detect, known, pushed]⟩)
  | none =>
      have full := Bounded.push?_eq_none_iff.mp pushed
      exact .inr (.inr ⟨known, Nat.not_lt.mpr (Nat.le_of_eq full.symm),
        by simp [detect, known, pushed]⟩)

theorem explains_hear (sound : registry.Sound) (reception : Reception) :
    (Event.heard reception (registry.hear reception).1).Explains registry
      (registry.hear reception).2 := by
  cases found : registry.find? reception.command.remote with
  | some remote =>
      have searched : registry.remotes.toList.find? (isOf reception.command.remote) =
        some remote := found
      rw [hear_of_find? found]
      constructor
      · simp only [Event.Fits, searched]
      · simp [toList_replace sound (·.adopt reception.command.code) found, Event.removes,
          Event.added?, Remote.follow]
      · simp [replace, Event.forgets, Event.noticed?]
  | none =>
      have searched : registry.remotes.toList.find? (isOf reception.command.remote) = none := found
      -- The event makes every remote of its identity adopt the code, and there is none.
      have same : ((registry.remotes.toList.filter fun remote => !false).map fun remote =>
          if reception.command.remote = remote.profile.identity then
            remote.adopt reception.command.code
          else remote) ++ [] = registry.remotes.toList := by
        simp [map_of_unknown (find?_isOf_eq_none_iff.mp searched)]
      rw [hear_of_unknown found]
      rcases registry.detect_cases reception.command.remote with
        ⟨known, detect⟩ | ⟨unknown, room, detected, longer, detect⟩ | ⟨unknown, full, detect⟩
      · rw [detect]
        refine ⟨?_, same.symm, by simp [Event.forgets, Event.noticed?]⟩
        simp only [Event.Fits, searched, if_pos known]
      · rw [detect]
        refine ⟨?_, same.symm, by simp [Event.forgets, Event.noticed?, longer]⟩
        simp only [Event.Fits, searched, if_neg unknown, if_pos room]
      · rw [detect]
        refine ⟨?_, same.symm, by simp [Event.forgets, Event.noticed?]⟩
        simp only [Event.Fits, searched, if_neg unknown, if_neg full]

/-- As long as identities are different, every operation does what its event says. -/
theorem explains_perform (sound : registry.Sound) (operation : Operation) :
    (registry.perform operation).1.Explains registry (registry.perform operation).2 := by
  cases operation with
  | add remote => exact registry.explains_add remote
  | remove identity => exact explains_remove sound identity
  | manage identity handling => exact explains_manage sound identity handling
  | hear reception => exact explains_hear sound reception
  | forget =>
      constructor
      · trivial
      · simp [perform, forget, Event.removes, Remote.follow, Event.added?]
      · simp [perform, forget, Event.forgets, Event.noticed?]

/-! ## Identities -/

/-- Only a remote of a new identity is added. -/
theorem Event.Fits.fresh {event : Event} {detected : List UInt32}
    (fits : event.Fits remotes detected) {remote : Remote} (added : event.added? = some remote) :
    remote.profile.identity ∉ identities remotes ∧
      event.forgets remote.profile.identity = true := by
  cases event with
  | added other =>
      obtain rfl := Option.some.inj added
      exact ⟨fits.1, by simp [forgets]⟩
  | _ => cases added

/-- Only an identity that is neither registered nor remembered is remembered from now
on. -/
theorem Event.Fits.strange {event : Event} {detected : List UInt32}
    (fits : event.Fits remotes detected) (noticed : event.noticed? = some identity) :
    identity ∉ identities remotes ∧ identity ∉ detected ∧ event.added? = none := by
  cases event with
  | heard reception hearing =>
      cases hearing with
      | discovered =>
          obtain rfl := Option.some.inj noticed
          simp only [Fits] at fits
          split at fits
          · cases fits
          · rename_i unknown
            refine ⟨find?_isOf_eq_none_iff.mp unknown, fun known => ?_, rfl⟩
            rw [if_pos known] at fits
            cases fits
      | _ => cases noticed
  | _ => cases noticed

/-- There are no identities but those that there were, and that of an added remote. -/
theorem Event.Explains.identities_sublist {event : Event} {before after : Registry}
    (explains : event.Explains before after) :
    (identities after.remotes.toList).Sublist
      (identities before.remotes.toList ++ identities event.added?.toList) := by
  rw [explains.remotes, identities, List.map_append]
  apply List.Sublist.append _ (List.Sublist.refl _)
  rw [List.map_map]
  have same : ((·.profile.identity) ∘ fun remote : Remote => remote.follow event) =
      fun remote => remote.profile.identity := funext fun remote => remote.identity_follow event
  rw [same]
  exact List.filter_sublist.map _

/-- Whatever happened, identities stay different, and only those that are not registered
are remembered. -/
theorem Event.Explains.sound {event : Event} {before after : Registry}
    (explains : event.Explains before after) (sound : before.Sound) : after.Sound := by
  have fresh {remote : Remote} (added : event.added? = some remote) :=
    explains.fits.fresh added
  have strange {identity : UInt32} (noticed : event.noticed? = some identity) :=
    explains.fits.strange noticed
  constructor
  · apply explains.identities_sublist.nodup
    cases added : event.added? with
    | none => simpa [identities] using sound.distinct
    | some remote =>
        apply sound.distinct.append (List.nodup_singleton _)
        exact List.disjoint_singleton.mpr (fresh added).1
  · rw [explains.detected]
    apply (sound.detected.filter _).append
    · cases event.noticed? <;> simp
    · intro identity remembered noticed
      have among := List.mem_of_mem_filter remembered
      exact (strange (Option.mem_toList.mp noticed)).2.1 among
  · intro identity member registered
    rw [explains.detected] at member
    have known := explains.identities_sublist.subset registered
    rcases List.mem_append.mp member with remembered | noticed
    · obtain ⟨among, lasting⟩ := List.mem_filter.mp remembered
      rcases List.mem_append.mp known with earlier | added
      · exact sound.apart identity among earlier
      · obtain ⟨remote, here, rfl⟩ := List.mem_map.mp added
        rw [(fresh (Option.mem_toList.mp here)).2] at lasting
        cases lasting
    · obtain ⟨unknown, -, none⟩ := strange (Option.mem_toList.mp noticed)
      rw [none] at known
      exact unknown (by simpa [identities] using known)

end ShutterRadio.Registry
