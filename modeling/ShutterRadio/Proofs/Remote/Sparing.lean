/-
# What spares a remote

Most of what can be done with a registry leaves a remote in it and its rolling code alone:
other remotes may come and go, be pressed and be heard, and this one may be renamed, paired
or pressed in vain.  `Registry.Operation.Spares` says which operations do, and a registered
remote goes on to await its press with the same code (`Registry.Awaits.perform`).
-/

import ShutterRadio.Proofs.Remote.Handling

namespace ShutterRadio

/-- A remote that is handled so keeps its code: it is neither pressed, unless in vain, nor
made to follow. -/
def Remote.Handling.KeepsCode : Remote.Handling → Prop
  | press queue _ _ => queue.closing = true ∨ queue.pending = queueCapacity
  | order queue _ => queue.closing = true ∨ queue.pending = queueCapacity
  | adopt _ => False
  | _ => True

theorem Remote.pressed_of_refusing (remote : Remote) {queue : Queue}
    (refusing : queue.closing = true ∨ queue.pending = queueCapacity) (button : Button)
    (repeats : UInt16) : remote.pressed queue button repeats = remote := by
  unfold pressed
  rcases remote.pressOn_cases queue button repeats with ⟨-, refused⟩ | ⟨running, room, -⟩
  · rw [refused]
  · rcases refusing with closing | full
    · rw [running] at closing
      cases closing
    · exact absurd full (Nat.ne_of_lt room)

theorem Remote.code_handle (remote : Remote) {handling : Remote.Handling}
    (keeps : handling.KeepsCode) :
    (remote.handle handling).profile.code = remote.profile.code := by
  cases handling with
  | rename name =>
      rw [handle, rename_eq]
      split <;> rfl
  | press queue button repeats =>
      exact congrArg (·.profile.code) (remote.pressed_of_refusing keeps button repeats)
  | order queue action => exact congrArg (·.profile.code) (remote.pressed_of_refusing keeps _ _)
  | adopt code => exact keeps.elim
  | pair blind =>
      rw [handle, pair_eq]
      split
      · rfl
      · split <;> rfl
  | part blind =>
      rw [handle, part_eq]
      split <;> rfl
  | clean => rfl

namespace Registry

/-- An operation that leaves a remote in the registry and its code alone. -/
def Operation.Spares (identity : UInt32) : Operation → Prop
  | remove removed => removed ≠ identity
  | manage managed handling => managed = identity → handling.KeepsCode
  | hear reception => reception.command.remote ≠ identity
  | _ => True

/-- A registered remote will send this code next. -/
def Awaits (registry : Registry) (identity : UInt32) (code : UInt16) : Prop :=
  ∃ remote, registry.find? identity = some remote ∧ remote.profile.code = code

variable {registry : Registry} {identity : UInt32} {code : UInt16} {remote : Remote}
  {reception : Reception}

theorem identity_adopt_of_find? (found : registry.find? identity = some remote)
    (heard : UInt16) : (remote.adopt heard).profile.identity = identity := by
  rw [remote.identity_adopt, identity_of_find? found]

/-- After a reception its remote is found as it follows. -/
theorem find?_hear_self (found : registry.find? reception.command.remote = some remote) :
    (registry.hear reception).2.find? reception.command.remote =
      some (remote.adopt reception.command.code) := by
  rw [hear_of_find? found]
  exact find?_replace_self found (identity_adopt_of_find? found _)

/-- Nobody but its remote notices a reception. -/
theorem find?_hear_of_ne (apart : reception.command.remote ≠ identity) :
    (registry.hear reception).2.find? identity = registry.find? identity := by
  cases found : registry.find? reception.command.remote with
  | none => rw [hear_of_unknown found, find?, remotes_detect, find?]
  | some remote =>
      rw [hear_of_find? found]
      exact find?_replace_of_ne (identity_adopt_of_find? found _) apart.symm

/-- A remote that is added finds its place behind those that are found already. -/
theorem find?_add (found : registry.find? identity = some remote) (added : Remote) :
    (registry.perform (.add added)).2.find? identity = some remote := by
  simp only [perform]
  rcases registry.add_cases added with
    ⟨_, -, refused⟩ | ⟨-, -, refused⟩ | ⟨-, -, remotes, longer, added⟩
  · rw [refused]
    exact found
  · rw [refused]
    exact found
  · rw [added]
    show remotes.toList.find? (isOf identity) = some remote
    rw [longer, List.find?_append, ← find?, found, Option.some_or]

theorem find?_remove_of_ne {removed : UInt32} (apart : removed ≠ identity) :
    (registry.perform (.remove removed)).2.find? identity = registry.find? identity := by
  simp only [perform, remove_eq]
  cases registry.find? removed with
  | none => rfl
  | some remote =>
      apply registry.remotes.find?_eraseFirst_apart
      intro item here
      rw [isOf_eq_false_iff, isOf_iff.mp here]
      exact apart

theorem find?_manage_of_ne {managed : UInt32} {handling : Remote.Handling}
    (apart : managed ≠ identity) :
    (registry.manage managed handling).find? identity = registry.find? identity := by
  unfold manage
  cases found : registry.find? managed with
  | none => rfl
  | some remote =>
      exact find?_replace_of_ne (by rw [remote.identity_handle, identity_of_find? found]) apart.symm

theorem find?_manage_self {handling : Remote.Handling}
    (found : registry.find? identity = some remote) :
    (registry.manage identity handling).find? identity = some (remote.handle handling) := by
  simp only [manage, found]
  exact find?_replace_self found (by rw [remote.identity_handle, identity_of_find? found])

/-- What spares a remote leaves it waiting with its code. -/
theorem Awaits.perform (awaits : registry.Awaits identity code) {operation : Operation}
    (spares : operation.Spares identity) :
    (registry.perform operation).2.Awaits identity code := by
  obtain ⟨remote, found, same⟩ := awaits
  cases operation with
  | add added => exact ⟨remote, find?_add found added, same⟩
  | remove removed => exact ⟨remote, (find?_remove_of_ne spares).trans found, same⟩
  | manage managed handling =>
      by_cases here : managed = identity
      · subst here
        exact ⟨_, find?_manage_self found, (remote.code_handle (spares rfl)).trans same⟩
      · exact ⟨remote, (find?_manage_of_ne here).trans found, same⟩
  | hear reception => exact ⟨remote, (find?_hear_of_ne spares).trans found, same⟩
  | forget => exact ⟨remote, found, same⟩

end Registry

end ShutterRadio
