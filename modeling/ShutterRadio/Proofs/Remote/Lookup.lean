/-
# Looking remotes up

What an operation on a registry does to look-ups: the remote of an identity is the
one that was put in its place last, and whoever asks for another identity notices
nothing.  Changes of remotes of different identities may be made in either order.
Nothing is assumed about a registry here; where two remotes share an identity, the first
of them is meant throughout.
-/

import ShutterRadio.Remote.Registry

namespace ShutterRadio

namespace Bounded

variable {α : Type} {capacity : Nat} {choose look : α → Bool} {change next : α → α}

theorem modify_findIdx_cons (first : α) (rest : List α) :
    (first :: rest).modify ((first :: rest).findIdx choose) change =
      if choose first then change first :: rest
      else first :: rest.modify (rest.findIdx choose) change := by
  cases here : choose first <;> simp [List.findIdx_cons, here]

/-- The first item that satisfies a test is the one that was changed, if it still
satisfies the test. -/
theorem find?_modifyFirst_self (items : Bounded α capacity)
    (kept : ∀ item, choose item = true → choose (change item) = true) :
    (items.modifyFirst choose change).toList.find? choose =
      (items.toList.find? choose).map change := by
  show (items.toList.modify (items.toList.findIdx choose) change).find? choose = _
  induction items.toList with
  | nil => rfl
  | cons first rest ih =>
      cases here : choose first with
      | true => simp [modify_findIdx_cons, here, kept first here]
      | false => simpa [modify_findIdx_cons, here] using ih

/-- A search for something else does not notice a change. -/
theorem find?_modifyFirst_apart (items : Bounded α capacity)
    (apart : ∀ item, choose item = true → look item = false ∧ look (change item) = false) :
    (items.modifyFirst choose change).toList.find? look = items.toList.find? look := by
  show (items.toList.modify (items.toList.findIdx choose) change).find? look = _
  induction items.toList with
  | nil => rfl
  | cons first rest ih =>
      cases here : choose first with
      | true => simp [modify_findIdx_cons, here, apart first here]
      | false =>
          cases found : look first with
          | true => simp [modify_findIdx_cons, here, found]
          | false => simpa [modify_findIdx_cons, here, found] using ih

/-- An item that is found is there already. -/
theorem modifyFirst_of_find? (items : Bounded α capacity) {item : α}
    (found : items.toList.find? choose = some item) :
    items.modifyFirst choose (fun _ => item) = items := by
  apply Bounded.ext
  simp only [modifyFirst]
  generalize items.toList = list at found
  induction list with
  | nil => cases found
  | cons first rest ih =>
      cases here : choose first with
      | true =>
          rw [List.find?_cons_of_pos here] at found
          obtain rfl := Option.some.inj found
          simp [modify_findIdx_cons, here]
      | false =>
          rw [List.find?_cons_of_neg (by simp [here])] at found
          simp [modify_findIdx_cons, here, ih found]

/-- The item that was changed is the one that a second change finds. -/
theorem modifyFirst_modifyFirst (items : Bounded α capacity)
    (kept : ∀ item, choose item = true → choose (change item) = true) :
    (items.modifyFirst choose change).modifyFirst choose next =
      items.modifyFirst choose (next ∘ change) := by
  apply Bounded.ext
  simp only [modifyFirst]
  induction items.toList with
  | nil => rfl
  | cons first rest ih =>
      cases here : choose first with
      | true => simp [modify_findIdx_cons, here, kept first here]
      | false => simp [modify_findIdx_cons, here, ih]

/-- Changes of different items do not see each other. -/
theorem modifyFirst_comm (items : Bounded α capacity)
    (apart : ∀ item, choose item = true → look item = false ∧ look (change item) = false)
    (blind : ∀ item, look item = true → choose item = false ∧ choose (next item) = false) :
    (items.modifyFirst choose change).modifyFirst look next =
      (items.modifyFirst look next).modifyFirst choose change := by
  apply Bounded.ext
  simp only [modifyFirst]
  induction items.toList with
  | nil => rfl
  | cons first rest ih =>
      cases here : choose first with
      | true => simp [modify_findIdx_cons, here, apart first here]
      | false =>
          cases there : look first with
          | true => simp [modify_findIdx_cons, here, there, blind first there]
          | false => simp [modify_findIdx_cons, here, there, ih]

/-- A search for something else does not miss what was taken out. -/
theorem find?_eraseFirst_apart (items : Bounded α capacity)
    (apart : ∀ item, choose item = true → look item = false) :
    (items.eraseFirst choose).toList.find? look = items.toList.find? look := by
  simp only [eraseFirst]
  induction items.toList with
  | nil => rfl
  | cons first rest ih =>
      cases here : choose first with
      | true => simp [here, apart first here]
      | false => simp [here, List.find?_cons, ih]

end Bounded

namespace Registry

variable {registry : Registry} {identity other : UInt32} {remote changed : Remote}

theorem isOf_iff : isOf identity remote = true ↔ remote.profile.identity = identity := beq_iff_eq

theorem isOf_eq_false_iff : isOf identity remote = false ↔ remote.profile.identity ≠ identity :=
  beq_eq_false_iff_ne

/-- The remote that is found is of the identity that was looked for. -/
theorem identity_of_find? (found : registry.find? identity = some remote) :
    remote.profile.identity = identity :=
  isOf_iff.mp (List.find?_some found)

/-- What was put in the place of a remote is found there. -/
theorem find?_replace_self (found : registry.find? identity = some remote)
    (same : changed.profile.identity = identity) :
    (registry.replace identity changed).find? identity = some changed := by
  have stays : ∀ item, isOf identity item = true → isOf identity changed = true :=
    fun _ _ => isOf_iff.mpr same
  have searched := registry.remotes.find?_modifyFirst_self stays
  rw [find?] at found
  rw [find?, replace, searched, found, Option.map_some]

/-- Other remotes are where they were. -/
theorem find?_replace_of_ne (same : changed.profile.identity = identity)
    (apart : other ≠ identity) :
    (registry.replace identity changed).find? other = registry.find? other := by
  apply registry.remotes.find?_modifyFirst_apart
  intro item here
  constructor
  · rw [isOf_eq_false_iff, isOf_iff.mp here]
    exact apart.symm
  · rw [isOf_eq_false_iff, same]
    exact apart.symm

/-- To put a remote back as it was changes nothing. -/
theorem replace_of_find? (found : registry.find? identity = some remote) :
    registry.replace identity remote = registry := by
  rw [replace, registry.remotes.modifyFirst_of_find? found]

theorem replace_replace {first second : Remote} (same : first.profile.identity = identity) :
    (registry.replace identity first).replace identity second =
      registry.replace identity second := by
  have kept : ∀ item, isOf identity item = true → isOf identity first = true :=
    fun _ _ => isOf_iff.mpr same
  simp only [replace, registry.remotes.modifyFirst_modifyFirst kept, Function.comp_def]

theorem replace_comm {first second : Remote} (apart : identity ≠ other)
    (same : first.profile.identity = identity) (same' : second.profile.identity = other) :
    (registry.replace identity first).replace other second =
      (registry.replace other second).replace identity first := by
  simp only [replace]
  rw [registry.remotes.modifyFirst_comm]
  · intro item here
    rw [isOf_eq_false_iff, isOf_eq_false_iff, isOf_iff.mp here, same]
    exact ⟨apart, apart⟩
  · intro item there
    rw [isOf_eq_false_iff, isOf_eq_false_iff, isOf_iff.mp there, same']
    exact ⟨apart.symm, apart.symm⟩

/-- Hearing of an unknown remote changes no remote. -/
theorem remotes_detect (registry : Registry) (identity : UInt32) :
    (registry.detect identity).2.remotes = registry.remotes := by
  unfold detect
  split
  · rfl
  · split <;> rfl

/-- A remote that is heard follows the code that was heard. -/
theorem hear_of_find? {reception : Reception}
    (found : registry.find? reception.command.remote = some remote) :
    registry.hear reception = (.known remote.profile.blinds.toList,
      registry.replace reception.command.remote (remote.adopt reception.command.code)) := by
  simp only [hear, found]

theorem hear_of_unknown {reception : Reception}
    (unknown : registry.find? reception.command.remote = none) :
    registry.hear reception = registry.detect reception.command.remote := by
  simp only [hear, unknown]

end Registry

namespace Remote

/-- Following a code changes nothing of the profile but the code, which continues what
was heard. -/
theorem profile_adopt (remote : Remote) (heard : UInt16) :
    (remote.adopt heard).profile = { remote.profile with code := heard + 1 } := by
  unfold adopt
  split
  · rename_i same
    rw [← same]
  · rfl

end Remote

end ShutterRadio
