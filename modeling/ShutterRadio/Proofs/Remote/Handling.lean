/-
# What can be done with a remote, and with a registry

Every operation on a remote leaves a remote, whatever it answers, and none of them
changes whose remote it is.  So a registry can be handed out for its remotes to be
handled, and still holds one remote for each identity.

An operation on a registry makes an event, which says what was done and what came of it.
What an event means for the remotes that are registered and for the identities that are
remembered is said here by the event alone, without a registry: which of them there are
from now on, which are no more, and what has become of the others.
-/

import ShutterRadio.Proofs.Remote.Lookup
import ShutterRadio.Station.Burst

namespace ShutterRadio

/-- What may be done with a remote. -/
inductive Remote.Handling
  | rename (name : String)
  | press (queue : Queue) (button : Button) (repeats : UInt16)
  | order (queue : Queue) (action : Action)
  | adopt (code : UInt16)
  | pair (blind : UInt16)
  | part (blind : UInt16)
  -- To take the mark of a change away.
  | clean

namespace Remote

/-- The remote after a press that may be refused. -/
def pressed (remote : Remote) (queue : Queue) (button : Button) (repeats : UInt16) : Remote :=
  (pressOn button repeats (remote, queue)).2.1

/-- What becomes of a remote, whatever is answered. -/
def handle (remote : Remote) : Handling → Remote
  | .rename name => (rename name remote).2
  | .press queue button repeats => remote.pressed queue button repeats
  | .order queue action => remote.pressed queue action.button Burst.shortPress
  | .adopt code => remote.adopt code
  | .pair blind => (pair blind remote).2
  | .part blind => (part blind remote).2
  | .clean => remote.cleaned

theorem identity_adopt (remote : Remote) (code : UInt16) :
    (remote.adopt code).profile.identity = remote.profile.identity := by
  rw [profile_adopt]

theorem identity_pressed (remote : Remote) (queue : Queue) (button : Button) (repeats : UInt16) :
    (remote.pressed queue button repeats).profile.identity = remote.profile.identity := by
  unfold pressed
  rcases remote.pressOn_cases queue button repeats with ⟨-, refused⟩ | ⟨-, -, _, accepted, -⟩
  · rw [refused]
  · rw [accepted]
    rfl

/-- Whatever is done with a remote, it stays the remote of its identity. -/
theorem identity_handle (remote : Remote) (handling : Handling) :
    (remote.handle handling).profile.identity = remote.profile.identity := by
  cases handling with
  | rename name =>
      rw [handle, rename_eq]
      split <;> rfl
  | press queue button repeats => exact remote.identity_pressed queue button repeats
  | order queue action => exact remote.identity_pressed queue _ _
  | adopt code => exact remote.identity_adopt code
  | pair blind =>
      rw [handle, pair_eq]
      split
      · rfl
      · split <;> rfl
  | part blind =>
      rw [handle, part_eq]
      split <;> rfl
  | clean => rfl

end Remote

namespace Registry

/-- What may be done with a registry. -/
inductive Operation
  | add (remote : Remote)
  | remove (identity : UInt32)
  | manage (identity : UInt32) (handling : Remote.Handling)
  | hear (reception : Reception)
  | forget

/-- What was done with a registry, and what came of it. -/
inductive Event
  | added (remote : Remote)
  | refused (remote : Remote) (reason : RemoteError)
  | removed (identity : UInt32)
  | managed (identity : UInt32) (handling : Remote.Handling)
  | heard (reception : Reception) (hearing : Hearing)
  | forgotten

/-- What was asked for. -/
def Event.operation : Event → Operation
  | added remote => .add remote
  | refused remote _ => .add remote
  | removed identity => .remove identity
  | managed identity handling => .manage identity handling
  | heard reception _ => .hear reception
  | forgotten => .forget

/-- Handle the remote of an identity, if there is one. -/
def manage (registry : Registry) (identity : UInt32) (handling : Remote.Handling) : Registry :=
  match registry.find? identity with
  | some remote => registry.replace identity (remote.handle handling)
  | none => registry

/-- Do something with a registry. -/
def perform (registry : Registry) : Operation → Event × Registry
  | .add remote =>
      match add remote registry with
      | (.ok (), after) => (.added remote, after)
      | (.error reason, after) => (.refused remote reason, after)
  | .remove identity => (.removed identity, (remove identity registry).2)
  | .manage identity handling => (.managed identity handling, registry.manage identity handling)
  | .hear reception =>
      let (hearing, after) := registry.hear reception
      (.heard reception hearing, after)
  | .forget => (.forgotten, registry.forget)

theorem operation_perform (registry : Registry) (operation : Operation) :
    (registry.perform operation).1.operation = operation := by
  cases operation with
  | add remote =>
      unfold perform
      dsimp only
      split <;> rfl
  | _ => rfl

end Registry

/-! ## What events mean -/

/-- The remote after something happened, as long as it is registered. -/
def Remote.follow (remote : Remote) : Registry.Event → Remote
  | .managed identity handling =>
      if identity = remote.profile.identity then remote.handle handling else remote
  | .heard reception _ =>
      if reception.command.remote = remote.profile.identity then
        remote.adopt reception.command.code
      else remote
  | _ => remote

theorem Remote.identity_follow (remote : Remote) (event : Registry.Event) :
    (remote.follow event).profile.identity = remote.profile.identity := by
  unfold follow
  split
  · split
    · exact remote.identity_handle _
    · rfl
  · split
    · exact remote.identity_adopt _
    · rfl
  · rfl

namespace Registry.Event

/-- The remote that is registered from now on. -/
def added? : Event → Option Remote
  | added remote => some remote
  | _ => none

/-- Whether the remote of an identity is not registered any more. -/
def removes (identity : UInt32) : Event → Bool
  | removed other => other == identity
  | _ => false

/-- The identity that is remembered from now on. -/
def noticed? : Event → Option UInt32
  | heard reception .discovered => some reception.command.remote
  | _ => none

/-- Whether an identity is not remembered any more: its remote was added, or all
identities were forgotten. -/
def forgets (identity : UInt32) : Event → Bool
  | added remote => remote.profile.identity == identity
  | forgotten => true
  | _ => false

theorem removes_iff {identity : UInt32} {event : Event} :
    event.removes identity = true ↔ event = .removed identity := by
  cases event with
  | removed other => simp [removes]
  | _ => simp [removes]

end Registry.Event

end ShutterRadio
