/-
# Remotes

A remote is an identity to send as, or a physical remote that is followed: a
name, a rolling code that is one further with every press, and the blinds that
obey it.  Motors refuse a code that falls behind the last one they took, so the
state has to survive a restart.  Every operation that changes it marks the
remote as changed, and whoever stores remotes looks at that mark.

The mark says that something may have to be stored, not that it differs:
renaming a remote to its own name sets it too.
-/

import ShutterRadio.Queue

namespace ShutterRadio

/-- Bytes in the name of a remote at most, in UTF-8. -/
def nameCapacity : Nat := 32

/-- How many blinds obey one remote at most. -/
def blindCapacity : Nat := 16

/-- Why remotes could not be managed as asked. -/
inductive RemoteError
  | nameTooLong
  | tooManyBlinds
  | registryFull
  | duplicate (identity : UInt32)
  deriving DecidableEq, Repr

def RemoteError.message : RemoteError → String
  | .nameTooLong => "remote name longer than " ++ toString nameCapacity ++ " bytes"
  | .tooManyBlinds => "too many blinds associated with one remote"
  | .registryFull => "remote registry is full"
  | .duplicate identity =>
      "remote " ++ Hex.ofNat identity.toNat ++ " already registered"

/-- A name that fits. -/
structure Name where
  text : String
  size_le : text.utf8ByteSize ≤ nameCapacity
  deriving DecidableEq

def Name.ofString (text : String) : Except RemoteError Name :=
  if h : text.utf8ByteSize ≤ nameCapacity then .ok ⟨text, h⟩ else .error .nameTooLong

/-- What has to survive a restart. -/
structure Profile where
  name : Name
  identity : UInt32
  code : UInt16
  blinds : Bounded UInt16 blindCapacity
  deriving DecidableEq

/-- A remote. -/
structure Remote where
  /-- What has to survive a restart. -/
  profile : Profile
  /-- Whether the profile may have changed since it was stored. -/
  dirty : Bool
  deriving DecidableEq

namespace Remote

/-- The remote that a stored profile describes, just as it was stored. -/
def restore (profile : Profile) : Remote := ⟨profile, false⟩

/-- A new remote without blinds.  Only the significant bits of the identity are
kept. -/
def make (name : String) (identity : UInt32) (code : UInt16) : Except RemoteError Remote := do
  let name ← Name.ofString name
  return restore ⟨name, identity &&& identityMask, code, .empty⟩

/-- The remote with another profile, marked as changed. -/
def changed (profile : Profile) : Remote := ⟨profile, true⟩

/-! ## Methods

What changes a remote says what came of it, and leaves a remote in any case. -/

variable {m : Type → Type} [Monad m]

/-- Change the profile, and only then mark that. -/
def update [MonadStateOf Remote m] (change : Profile → Profile) : m Unit := do
  modifyThe Remote fun remote => { remote with profile := change remote.profile }
  modifyThe Remote fun remote => { remote with dirty := true }

def rename (name : String) : ExceptT RemoteError (StateM Remote) Unit := do
  let name ← Name.ofString name
  update fun profile => { profile with name }

/-- What pressing buttons asks of a station. -/
def request (remote : Remote) (button : Button) (repeats : UInt16) : Request :=
  .transmit ⟨⟨remote.profile.identity, remote.profile.code, button⟩, repeats⟩

/-- Press buttons, which is to offer a request to a queue.  If that refuses, nothing
happens at all: a code that was not sent must not be skipped. -/
def press (offer : Request → m Bool) (button : Button) (repeats : UInt16) :
    StateT Remote m Bool := do
  let accepted ← offer ((← get).request button repeats)
  if accepted then update fun profile => { profile with code := profile.code + 1 }
  return accepted

/-- Press buttons on a queue that nobody else uses. -/
def pressOn (button : Button) (repeats : UInt16) : StateM (Remote × Queue) Bool :=
  fun (remote, queue) =>
    let ((accepted, remote), queue) := press Queue.offer button repeats remote queue
    (accepted, remote, queue)

/-- Follow a rolling code that was heard: the next press continues after it. -/
def adopt (remote : Remote) (heard : UInt16) : Remote :=
  if remote.profile.code = heard + 1 then remote
  else changed { remote.profile with code := heard + 1 }

/-- Pair a blind.  Pairing it again changes nothing. -/
def pair (blind : UInt16) : ExceptT RemoteError (StateM Remote) Unit := do
  let blinds := (← get).profile.blinds
  if blinds.toList.contains blind then
    return ()
  else
    match blinds.push? blind with
    | some blinds => update fun profile => { profile with blinds }
    | none => throw .tooManyBlinds

/-- Part a blind.  Answers whether it was paired. -/
def part (blind : UInt16) : StateM Remote Bool := do
  if (← get).profile.blinds.toList.contains blind then
    update fun profile => { profile with blinds := profile.blinds.eraseFirst (· == blind) }
    return true
  else
    return false

/-- Take the mark of a change away. -/
def cleaned (remote : Remote) : Remote := { remote with dirty := false }

/-! ## What becomes of a remote -/

theorem rename_eq (remote : Remote) (name : String) :
    rename name remote = match Name.ofString name with
      | .ok name => (.ok (), changed { remote.profile with name })
      | .error error => (.error error, remote) := by
  unfold rename
  cases Name.ofString name <;> rfl

theorem pair_eq (remote : Remote) (blind : UInt16) :
    pair blind remote =
      if remote.profile.blinds.toList.contains blind then (.ok (), remote)
      else match remote.profile.blinds.push? blind with
        | some blinds => (.ok (), changed { remote.profile with blinds })
        | none => (.error .tooManyBlinds, remote) := by
  show (if remote.profile.blinds.toList.contains blind then _ else _ :
    ExceptT RemoteError (StateM Remote) Unit) remote = _
  split
  · rfl
  · cases remote.profile.blinds.push? blind <;> rfl

theorem part_eq (remote : Remote) (blind : UInt16) :
    part blind remote =
      if remote.profile.blinds.toList.contains blind then
        (true, changed { remote.profile with
          blinds := remote.profile.blinds.eraseFirst (· == blind) })
      else (false, remote) := by
  show (if remote.profile.blinds.toList.contains blind then _ else _ : StateM Remote Bool)
    remote = _
  split <;> rfl

theorem run_update [LawfulMonad m] (change : Profile → Profile) (remote : Remote) :
    (update change : StateT Remote m Unit).run remote =
      pure ((), changed (change remote.profile)) := by
  show (pure ((), { remote with profile := change remote.profile }) >>= fun (_, remote) =>
    pure ((), { remote with dirty := true }) : m (Unit × Remote)) = _
  rw [pure_bind]
  rfl

/-- A press that is accepted moves the code on; one that is refused does nothing. -/
theorem press_eq [LawfulMonad m] (offer : Request → m Bool) (remote : Remote) (button : Button)
    (repeats : UInt16) :
    press offer button repeats remote = do
      let accepted ← offer (remote.request button repeats)
      return (accepted,
        if accepted then changed { remote.profile with code := remote.profile.code + 1 }
        else remote) := by
  show (press offer button repeats).run remote = _
  simp only [press, StateT.run_bind, StateT.run_get, pure_bind, StateT.run_monadLift, bind_assoc]
  apply bind_congr
  intro accepted
  cases accepted with
  | false => simp
  | true => simp [run_update]

/-- A press is refused and nothing at all is changed, or it asks for its own code and the
next press will carry the one after it. -/
theorem pressOn_cases (remote : Remote) (queue : Queue) (button : Button) (repeats : UInt16) :
    ((queue.closing = true ∨ queue.pending = queueCapacity) ∧
      pressOn button repeats (remote, queue) = (false, remote, queue)) ∨
    (queue.closing = false ∧ queue.pending < queueCapacity ∧
      ∃ added, pressOn button repeats (remote, queue) =
          (true, changed { remote.profile with code := remote.profile.code + 1 }, added) ∧
        added.requests.toList = queue.requests.toList ++ [remote.request button repeats]) := by
  have pressed : pressOn button repeats (remote, queue) =
      ((Queue.offer (remote.request button repeats) queue).1,
        if (Queue.offer (remote.request button repeats) queue).1 then
          changed { remote.profile with code := remote.profile.code + 1 }
        else remote,
        (Queue.offer (remote.request button repeats) queue).2) := by
    simp only [pressOn, press_eq]
    rfl
  rw [pressed]
  rcases queue.offer_cases (remote.request button repeats) with
    ⟨refusing, refused⟩ | ⟨running, room, added, accepted, longer, -⟩
  · rw [refused]
    exact .inl ⟨refusing, rfl⟩
  · rw [accepted]
    exact .inr ⟨running, room, added, rfl, longer⟩

end Remote

/-- An action asked for in words, by something that knows no buttons. -/
inductive Action
  | up
  | down
  | stop
  deriving DecidableEq, Repr

namespace Action

def word : Action → String
  | up => "up"
  | down => "down"
  | stop => "stop"

def all : List Action := [up, down, stop]

/-- The action that a payload asks for: the bytes of its word, and no others. -/
def ofPayload? (payload : List UInt8) : Option Action :=
  all.find? fun action => action.word.toUTF8.toList == payload

/-- How an action is shown in diagnostics. -/
def text : Action → String
  | up => "Up"
  | down => "Down"
  | stop => "Stop"

def button : Action → Button
  | up => .up
  | down => .down
  | stop => .my

end Action

end ShutterRadio
