/-
# Following what is heard

A reception from a registered remote makes this remote continue after the code that was
heard, and does nothing else; one from an unknown remote changes no remote and may be
remembered.  `Registry.hear_follows` says so, and two laws of repetition with it: to hear
the same press twice in a row is to hear it once, and presses of two registered remotes
may be heard in either order.

That the next press continues after the code that was heard is a matter of all that may
be done with the registry in between; it does if that spares the remote.
-/

import ShutterRadio.Proofs.Remote.Annals
import ShutterRadio.Proofs.Remote.Sparing

namespace ShutterRadio

/-! ## One reception -/

namespace Remote

/-- Following a code changes the code alone, and marks the remote if it did change. -/
theorem adopt_eq (remote : Remote) (heard : UInt16) :
    remote.adopt heard = ⟨{ remote.profile with code := heard + 1 },
      remote.dirty || remote.profile.code != heard + 1⟩ := by
  unfold adopt
  split
  · rename_i same
    rw [← same, bne_self_eq_false, Bool.or_false]
  · rename_i other
    rw [bne_iff_ne.mpr other, Bool.or_true]
    rfl

theorem adopt_adopt (remote : Remote) (heard : UInt16) :
    (remote.adopt heard).adopt heard = remote.adopt heard := by
  have followed : (remote.adopt heard).profile.code = heard + 1 := by rw [profile_adopt]
  exact if_pos followed

end Remote

namespace Registry

variable {registry : Registry} {identity : UInt32} {remote : Remote} {reception : Reception}

/-- Whoever was heard before is not heard of for the first time. -/
theorem detect_detect (registry : Registry) (identity : UInt32) :
    ((registry.detect identity).2.detect identity).2 = (registry.detect identity).2 := by
  rcases registry.detect_cases identity with
    ⟨-, detect⟩ | ⟨-, -, detected, longer, detect⟩ | ⟨-, -, detect⟩
  · rw [detect, detect]
  · have among : identity ∈ detected.toList := by simp [longer]
    simp only [detect]
    simp [Registry.detect, among]
  · rw [detect, detect]

theorem blinds?_detect (registry : Registry) (identity : UInt32) :
    (registry.detect identity).1.blinds? = none := by
  rcases registry.detect_cases identity with
    ⟨-, detect⟩ | ⟨-, -, _, -, detect⟩ | ⟨-, -, detect⟩ <;> rw [detect] <;> rfl

/-- To hear the same press twice in a row is to hear it once. -/
theorem hear_hear (registry : Registry) (reception : Reception) :
    ((registry.hear reception).2.hear reception).1.blinds? =
        (registry.hear reception).1.blinds? ∧
      ((registry.hear reception).2.hear reception).2 = (registry.hear reception).2 := by
  cases found : registry.find? reception.command.remote with
  | some remote =>
      rw [hear_of_find? (find?_hear_self found), hear_of_find? found]
      constructor
      · simp only [Remote.profile_adopt]
      · have same := identity_adopt_of_find? found reception.command.code
        simp only [remote.adopt_adopt, replace_replace same]
  | none =>
      have still : (registry.detect reception.command.remote).2.find?
          reception.command.remote = none := by
        rw [find?, remotes_detect]
        exact found
      rw [hear_of_unknown found, hear_of_unknown still]
      exact ⟨by rw [blinds?_detect, blinds?_detect], registry.detect_detect _⟩

/-- Presses of two registered remotes may be heard in either order. -/
theorem hear_comm {other : Reception} (apart : reception.command.remote ≠ other.command.remote)
    {followed : Remote} (found : registry.find? reception.command.remote = some remote)
    (found' : registry.find? other.command.remote = some followed) :
    ((registry.hear reception).2.hear other).2 = ((registry.hear other).2.hear reception).2 := by
  have there : (registry.hear reception).2.find? other.command.remote = some followed :=
    (find?_hear_of_ne apart).trans found'
  have here : (registry.hear other).2.find? reception.command.remote = some remote :=
    (find?_hear_of_ne apart.symm).trans found
  rw [hear_of_find? there, hear_of_find? here, hear_of_find? found, hear_of_find? found']
  exact replace_comm apart (identity_adopt_of_find? found _) (identity_adopt_of_find? found' _)

/-! ## What comes next -/

variable {code : UInt16}

theorem Awaits.run {annals : Annals} (awaits : annals.registry.Awaits identity code)
    {operations : List Operation}
    (spare : ∀ operation ∈ operations, operation.Spares identity) :
    (annals.run operations).registry.Awaits identity code := by
  induction operations generalizing annals with
  | nil => exact awaits
  | cons first rest ih =>
      obtain ⟨here, later⟩ := List.forall_mem_cons.mp spare
      have after : (annals.record first).registry.Awaits identity code := awaits.perform here
      exact ih after later

/-! ## What a reception comes to -/

/-- What hearing a registered remote comes to. -/
structure Follows (registry : Registry) (reception : Reception) (remote : Remote) : Prop where
  blinds : (registry.hear reception).1.blinds? = some remote.profile.blinds.toList
  /-- The code of this remote continues what was heard, which marks it if the code is
  another one.  The other remotes are as they were. -/
  remotes : (registry.hear reception).2.remotes.toList = registry.remotes.toList.map fun other =>
    if reception.command.remote = other.profile.identity then
      ⟨{ other.profile with code := reception.command.code + 1 },
        other.dirty || other.profile.code != reception.command.code + 1⟩
    else other
  detected : (registry.hear reception).2.detected = registry.detected
  /-- Whatever is done until then that spares it, its next press carries the code after
  the one that was heard. -/
  next : ∀ history operations,
    (∀ operation ∈ operations, operation.Spares reception.command.remote) →
    ∃ later, ((Annals.mk (registry.hear reception).2 history).run operations).registry.find?
        reception.command.remote = some later ∧
      ∀ queue button repeats pressed added,
        Remote.pressOn button repeats (later, queue) = (true, pressed, added) →
        added.requests.toList = queue.requests.toList ++ [.transmit
          ⟨⟨reception.command.remote, reception.command.code + 1, button⟩, repeats⟩]

/-- What hearing an unknown remote comes to. -/
structure Overhears (registry : Registry) (reception : Reception) : Prop where
  blinds : (registry.hear reception).1.blinds? = none
  remotes : (registry.hear reception).2.remotes = registry.remotes
  detected : (registry.hear reception).2.detected.toList =
    if reception.command.remote ∉ registry.detected.toList ∧
        registry.detected.toList.length < discoveryCapacity then
      registry.detected.toList ++ [reception.command.remote]
    else registry.detected.toList

variable {reception : Reception}

theorem Awaits.pressOn (awaits : registry.Awaits identity code) :
    ∃ remote, registry.find? identity = some remote ∧
      ∀ queue button repeats pressed added,
        Remote.pressOn button repeats (remote, queue) = (true, pressed, added) →
        added.requests.toList =
          queue.requests.toList ++ [.transmit ⟨⟨identity, code, button⟩, repeats⟩] := by
  obtain ⟨remote, found, rfl⟩ := awaits
  refine ⟨remote, found, fun queue button repeats pressed added accepted => ?_⟩
  rw [← identity_of_find? found]
  rcases remote.pressOn_cases queue button repeats with
    ⟨-, refused⟩ | ⟨-, -, other, done, longer⟩
  · rw [refused] at accepted
    cases accepted
  · rw [done] at accepted
    cases accepted
    exact longer

theorem follows_of_find? (distinct : (identities registry.remotes.toList).Nodup)
    (found : registry.find? reception.command.remote = some remote) :
    registry.Follows reception remote := by
  have heard := hear_of_find? found
  constructor
  · rw [heard]
    rfl
  · rw [heard]
    simp only [← Remote.adopt_eq]
    exact modify_isOf distinct (·.adopt reception.command.code) found
  · rw [heard]
    rfl
  · intro history operations spare
    let annals : Annals := ⟨(registry.hear reception).2, history⟩
    have awaits : annals.registry.Awaits reception.command.remote (reception.command.code + 1) :=
      ⟨_, find?_hear_self found, by rw [Remote.profile_adopt]⟩
    exact (awaits.run spare).pressOn

theorem overhears_of_unknown (unknown : registry.find? reception.command.remote = none) :
    registry.Overhears reception := by
  have heard := hear_of_unknown unknown
  constructor
  · rw [heard]
    exact registry.blinds?_detect _
  · rw [heard]
    exact registry.remotes_detect _
  · rw [heard]
    rcases registry.detect_cases reception.command.remote with
      ⟨known, detect⟩ | ⟨strange, room, detected, longer, detect⟩ | ⟨strange, full, detect⟩
    · rw [detect, if_neg fun fresh => fresh.1 known]
    · rw [detect, if_pos ⟨strange, room⟩]
      exact longer
    · rw [detect, if_neg fun fresh => full fresh.2]

/-- A reception answers the blinds of its remote exactly if that is registered.  It makes
this remote follow the code that was heard and does nothing else; if the remote is unknown,
it is at most remembered.  Hearing the same press again changes neither the answer nor the
registry, and presses of two registered remotes may be heard in either order. -/
theorem hear_follows (distinct : (identities registry.remotes.toList).Nodup)
    (reception : Reception) :
    ((registry.hear reception).1.blinds?.isSome = true ↔
      reception.command.remote ∈ identities registry.remotes.toList) ∧
    (∀ remote ∈ registry.remotes.toList, remote.profile.identity = reception.command.remote →
      registry.Follows reception remote) ∧
    (reception.command.remote ∉ identities registry.remotes.toList →
      registry.Overhears reception) ∧
    (((registry.hear reception).2.hear reception).1.blinds? =
        (registry.hear reception).1.blinds? ∧
      ((registry.hear reception).2.hear reception).2 = (registry.hear reception).2) ∧
    ∀ other : Reception, reception.command.remote ≠ other.command.remote →
      reception.command.remote ∈ identities registry.remotes.toList →
      other.command.remote ∈ identities registry.remotes.toList →
      ((registry.hear reception).2.hear other).2 =
        ((registry.hear other).2.hear reception).2 := by
  have found {identity : UInt32} (known : identity ∈ identities registry.remotes.toList) :
      ∃ remote, registry.find? identity = some remote := by
    rw [← Option.ne_none_iff_exists']
    exact fun unknown => find?_isOf_eq_none_iff.mp unknown known
  have follows : ∀ remote ∈ registry.remotes.toList,
      remote.profile.identity = reception.command.remote → registry.Follows reception remote :=
    fun remote member same =>
      follows_of_find? distinct ((find?_isOf_eq_some_iff distinct).mpr ⟨member, same⟩)
  have overhears (unknown : reception.command.remote ∉ identities registry.remotes.toList) :
      registry.Overhears reception :=
    overhears_of_unknown (find?_isOf_eq_none_iff.mpr unknown)
  refine ⟨?_, follows, overhears, registry.hear_hear reception, ?_⟩
  · constructor
    · intro answered
      by_contra unknown
      rw [(overhears unknown).blinds] at answered
      cases answered
    · intro known
      obtain ⟨remote, here⟩ := found known
      rw [(follows_of_find? distinct here).blinds]
      rfl
  · intro other apart known known'
    obtain ⟨remote, here⟩ := found known
    obtain ⟨followed, there⟩ := found known'
    exact hear_comm apart here there

/-- A remote with two blinds. -/
def attic : Remote := .restore ⟨⟨"attic", by decide⟩, 5, 10, ⟨[1, 2], by decide⟩⟩

/-- A remote that has just been pressed. -/
def cellar : Remote := .changed ⟨⟨"cellar", by decide⟩, 6, 20, .empty⟩

/-- The remotes of a small house. -/
def house : Registry := ⟨⟨[attic, cellar], by decide⟩, .empty⟩

/-- The remote of the attic was pressed with the last code there is. -/
def lastCode : Reception := ⟨⟨5, 0xffff, .up⟩, 2⟩

/-- The other remote goes, this one gets another name, and it is pressed in vain. -/
def bustle : List Operation :=
  [.remove 6, .manage 5 (.rename "loft"),
    .manage 5 (.press { Queue.empty with closing := true } .down 3)]

/-- The code wraps round, for this remote alone, and the next press begins anew. -/
theorem hear_follows_wrapping :
    (identities house.remotes.toList).Nodup ∧
    (house.hear lastCode).1.blinds? = some [1, 2] ∧
    (house.hear lastCode).2.remotes.toList =
      [.changed { attic.profile with code := 0 }, cellar] ∧
    ((house.hear lastCode).2.hear lastCode).2 = (house.hear lastCode).2 ∧
    ((house.hear lastCode).2.hear ⟨⟨6, 7, .my⟩, 0⟩).2 =
      ((house.hear ⟨⟨6, 7, .my⟩, 0⟩).2.hear lastCode).2 ∧
    ∃ later, ((Annals.mk (house.hear lastCode).2 []).run bustle).registry.find? 5 = some later ∧
      ∀ button pressed added, Remote.pressOn button 1 (later, .empty) = (true, pressed, added) →
        added.requests.toList = [.transmit ⟨⟨5, 0, button⟩, 1⟩] := by
  have distinct : (identities house.remotes.toList).Nodup := by decide
  have spare : ∀ operation ∈ bustle, operation.Spares 5 := by
    simp [bustle, Operation.Spares, Remote.Handling.KeepsCode]
  obtain ⟨-, follows, -, again, either⟩ := hear_follows distinct lastCode
  have follows := follows attic (by decide) (by decide)
  obtain ⟨later, found, next⟩ := follows.next [] bustle spare
  refine ⟨distinct, follows.blinds, ?_, again.2, either _ (by decide) (by decide) (by decide),
    later, found, fun button => next .empty button 1⟩
  rw [follows.remotes]
  decide

end Registry

end ShutterRadio
