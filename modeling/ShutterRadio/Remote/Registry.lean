/-
# The registry of remotes

The registry holds the remotes there are and remembers a few identities of
others that were heard, so that they can be added.  A reception is routed to
the remote of its identity, whose rolling code then follows it; an identity
that is not registered is remembered if there is room.
-/

import ShutterRadio.Note
import ShutterRadio.Remote.Basic

namespace ShutterRadio

/-- How many remotes are registered at most. -/
def registryCapacity : Nat := 16

/-- How many unknown identities are remembered at most. -/
def discoveryCapacity : Nat := 4

/-- The remotes there are. -/
structure Registry where
  remotes : Bounded Remote registryCapacity
  /-- Unknown identities that were heard, in the order in which they were. -/
  detected : Bounded UInt32 discoveryCapacity
  deriving DecidableEq

/-- What a reception meant to the registry. -/
inductive Hearing
  | known (blinds : List UInt16)
  | discovered
  | detectedBefore
  | overlooked
  deriving DecidableEq, Repr

namespace Hearing

/-- The blinds concerned, if the remote is known. -/
def blinds? : Hearing → Option (List UInt16)
  | known blinds => some blinds
  | _ => none

/-- What there is to tell of it. -/
def note? (reception : Reception) : Hearing → Option Note
  | known _ => some (.pressed reception)
  | discovered => some (.discovered reception.command.remote)
  | detectedBefore => none
  | overlooked => some (.overlooked reception.command.remote)

end Hearing

namespace Registry

def empty : Registry := ⟨.empty, .empty⟩

/-- Whether a remote is the one of an identity. -/
def isOf (identity : UInt32) (remote : Remote) : Bool := remote.profile.identity == identity

def find? (registry : Registry) (identity : UInt32) : Option Remote :=
  registry.remotes.toList.find? (isOf identity)

/-- Add a remote.  That its identity is taken is said even if there is no room
either.  From now on the identity is no longer unknown. -/
def add (remote : Remote) : ExceptT RemoteError (StateM Registry) Unit := do
  let identity := remote.profile.identity
  if ((← get).find? identity).isSome then
    throw (.duplicate identity)
  else
    match (← get).remotes.push? remote with
    | none => throw .registryFull
    | some remotes => do
        modify fun registry => { registry with remotes }
        modify fun registry =>
          { registry with detected := registry.detected.filter (· != identity) }

/-- Take the remote of an identity out, if there is one. -/
def remove (identity : UInt32) : StateM Registry (Option Remote) := do
  match (← get).find? identity with
  | none => return none
  | some remote => do
      modify fun registry =>
        { registry with remotes := registry.remotes.eraseFirst (isOf identity) }
      return some remote

/-- Put another state in the place of the remote of an identity. -/
def replace (registry : Registry) (identity : UInt32) (remote : Remote) : Registry :=
  { registry with remotes := registry.remotes.modifyFirst (isOf identity) fun _ => remote }

def detect (registry : Registry) (identity : UInt32) : Hearing × Registry :=
  if registry.detected.toList.contains identity then (.detectedBefore, registry)
  else
    match registry.detected.push? identity with
    | some detected => (.discovered, { registry with detected })
    | none => (.overlooked, registry)

/-- Take note of a press heard from a remote. -/
def hear (registry : Registry) (reception : Reception) : Hearing × Registry :=
  let identity := reception.command.remote
  match registry.find? identity with
  | some remote =>
      (.known remote.profile.blinds.toList,
        registry.replace identity (remote.adopt reception.command.code))
  | none => registry.detect identity

def forget (registry : Registry) : Registry := { registry with detected := .empty }

/-! ## What becomes of a registry -/

/-- An identity that is taken and a registry that is full are refused and nothing is
changed; otherwise the remote stands behind the others and is no longer unknown. -/
theorem add_cases (registry : Registry) (remote : Remote) :
    (∃ other, registry.find? remote.profile.identity = some other ∧
      add remote registry = (.error (.duplicate remote.profile.identity), registry)) ∨
    (registry.find? remote.profile.identity = none ∧ registry.remotes.size = registryCapacity ∧
      add remote registry = (.error .registryFull, registry)) ∨
    (registry.find? remote.profile.identity = none ∧ registry.remotes.size < registryCapacity ∧
      ∃ remotes, remotes.toList = registry.remotes.toList ++ [remote] ∧
        add remote registry =
          (.ok (), ⟨remotes, registry.detected.filter (· != remote.profile.identity)⟩)) := by
  have asked : add remote registry =
      if (registry.find? remote.profile.identity).isSome then
        (.error (.duplicate remote.profile.identity), registry)
      else match registry.remotes.push? remote with
        | none => (.error .registryFull, registry)
        | some remotes =>
            (.ok (), ⟨remotes, registry.detected.filter (· != remote.profile.identity)⟩) := by
    show (if (registry.find? remote.profile.identity).isSome then _ else _ :
      ExceptT RemoteError (StateM Registry) Unit) registry = _
    split
    · rfl
    · show (match registry.remotes.push? remote with
        | none => _
        | some remotes => _ : ExceptT RemoteError (StateM Registry) Unit) registry = _
      cases registry.remotes.push? remote <;> rfl
  rw [asked]
  cases registry.find? remote.profile.identity with
  | some other => exact .inl ⟨other, rfl, rfl⟩
  | none =>
      cases pushed : registry.remotes.push? remote with
      | none => exact .inr (.inl ⟨rfl, Bounded.push?_eq_none_iff.mp pushed, rfl⟩)
      | some remotes =>
          obtain ⟨room, longer⟩ := Bounded.push?_eq_some_iff.mp pushed
          exact .inr (.inr ⟨rfl, room, remotes, longer, rfl⟩)

theorem remove_eq (registry : Registry) (identity : UInt32) :
    remove identity registry = match registry.find? identity with
      | none => (none, registry)
      | some remote =>
          (some remote,
            { registry with remotes := registry.remotes.eraseFirst (isOf identity) }) := by
  show (match registry.find? identity with
    | none => _
    | some remote => _ : StateM Registry (Option Remote)) registry = _
  cases registry.find? identity <;> rfl

end Registry

end ShutterRadio
