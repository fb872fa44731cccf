/-
# Complaints

A fault never stops a station, so all that is left of a call that failed is what the
station says of it: that a call failed, that a burst was abandoned, or that a packet
could not be fetched.  Deeds that are `Deed.Told` tell of each failure once and in
order, by words for that very failure, and complain of nothing that did not fail.
Others may see the station between a failure and what it says of it, so complaints may
lag behind by one failure while there is more to come.

The calls that read the radio's own figures back are left out here: what is said of
those is nothing at all.  Which programs tell of all others is said elsewhere.
-/

import Mathlib.Data.List.Forall2
import ShutterRadio.Proofs.Program.Intake

namespace ShutterRadio

/-- A call to read one of the radio's own figures back. -/
def Call.isReadBack : Call → Bool
  | .version | .bitRate | .frequency => true
  | _ => false

/-- A note that a call failed, or what a call was made for. -/
def Note.isComplaint : Note → Bool
  | .callFailed _ _ | .burstAbandoned _ _ | .fetchFailed _ => true
  | _ => false

theorem Note.level_of_isComplaint {note : Note} (complaint : note.isComplaint) :
    note.level = .warn := by
  cases note with
  | callFailed call fault => rfl
  | burstAbandoned remote fault => rfl
  | fetchFailed fault => rfl
  | _ => cases complaint

/-- A device that leaves it to the station to complain. -/
def Device.Discreet {σ ε τ : Type} (d : Device σ ε τ) : Prop :=
  ∀ activity asked s, ∀ note ∈ (d.perform activity asked s).notes, note.isComplaint = false

/-- The calls that a station makes for its own sake, but for those to read a figure
back. -/
def Station.ownCalls (setup : Setup) : List Call :=
  [.reset, .configure, .setSymbolWidth setup.symbolWidth, .setFrequency setup.frequency,
    .setSync listenSync, .setFormat true 7, .listen, .standby]

/-- What a station says of a call that failed, when these are the requests that it may
have made it for. -/
inductive Station.Words {ε : Type} (describe : ε → String) (setup : Setup)
    (requests : List Request) : Call × ε → Note → Prop
  | own (asked : Call) (fault : ε) :
      asked ∈ ownCalls setup →
        Words describe setup requests (asked, fault) (.callFailed asked (describe fault))
  | burst (transmission : Transmission) (asked : Call) (fault : ε) :
      .transmit transmission ∈ requests →
      asked ∈ Burst.calls (.encode setup.key transmission.command) transmission.repeats.toNat →
        Words describe setup requests (asked, fault)
          (.burstAbandoned transmission.command.remote (describe fault))
  | fetch (fault : ε) :
      Words describe setup requests (.receive frameLength, fault) (.fetchFailed (describe fault))

theorem Station.Words.mono {ε : Type} {describe : ε → String} {setup : Setup}
    {requests more : List Request} {failure : Call × ε} {note : Note}
    (words : Words describe setup requests failure note) (subset : requests ⊆ more) :
    Words describe setup more failure note := by
  cases words with
  | own asked fault own => exact .own asked fault own
  | burst transmission asked fault request planned =>
      exact .burst transmission asked fault (subset request) planned
  | fetch fault => exact .fetch fault

/-! ## Failures and complaints -/

namespace Deed

variable {ε : Type}

/-- The call that failed, and how. -/
def failure? : Deed ε → Option (Call × ε)
  | ⟨.call asked, .error fault, _, _⟩ => some (asked, fault)
  | _ => none

def complaint? : Deed ε → Option Note
  | ⟨.tell note, _, _, _⟩ => if note.isComplaint then some note else none
  | _ => none

def failures (deeds : List (Deed ε)) : List (Call × ε) := deeds.filterMap failure?

def complaints (deeds : List (Deed ε)) : List Note := deeds.filterMap complaint?

/-- The failures that there is something to say of. -/
def grievances (deeds : List (Deed ε)) : List (Call × ε) :=
  (failures deeds).filter fun failure => !failure.1.isReadBack

@[simp]
theorem complaints_append (first second : List (Deed ε)) :
    complaints (first ++ second) = complaints first ++ complaints second :=
  List.filterMap_append

@[simp]
theorem grievances_append (first second : List (Deed ε)) :
    grievances (first ++ second) = grievances first ++ grievances second := by
  simp [grievances, failures]

/-- There is something to say of every failure, but for those to read a figure back. -/
theorem length_failures (deeds : List (Deed ε)) :
    (failures deeds).length =
      (grievances deeds).length + (failures deeds).countP (·.1.isReadBack) := by
  rw [List.length_eq_countP_add_countP (p := (·.1.isReadBack)), grievances,
    ← List.countP_eq_length_filter, Nat.add_comm]
  simp

/-- Every failure was told of, in order, and nothing else was complained of, but for
the last failure while there is more to come. -/
def Told (words : Call × ε → Note → Prop) (deeds : List (Deed ε)) (finished : Bool) : Prop :=
  ∃ told untold, grievances deeds = told ++ untold ∧
    List.Forall₂ words told (complaints deeds) ∧ untold.length ≤ if finished then 0 else 1

variable {words : Call × ε → Note → Prop} {deeds : List (Deed ε)} {finished : Bool}

theorem told_nil : Told words ([] : List (Deed ε)) true := ⟨[], [], rfl, .nil, Nat.le_refl 0⟩

theorem told_of_quiet (fine : grievances deeds = []) (quiet : complaints deeds = []) :
    Told words deeds true :=
  ⟨[], [], fine, by rw [quiet]; exact .nil, Nat.le_refl 0⟩

theorem Told.weaken (told : Told words deeds true) (finished : Bool) :
    Told words deeds finished := by
  obtain ⟨named, untold, split, tells, few⟩ := told
  exact ⟨named, untold, split, tells, Nat.le_trans few (Nat.zero_le _)⟩

theorem Told.unfinished (told : Told words deeds finished) : Told words deeds false := by
  obtain ⟨named, untold, split, tells, few⟩ := told
  refine ⟨named, untold, split, tells, Nat.le_trans few ?_⟩
  cases finished <;> simp

theorem Told.mono {also : Call × ε → Note → Prop} (told : Told words deeds finished)
    (weaken : ∀ failure note, words failure note → also failure note) :
    Told also deeds finished := by
  obtain ⟨named, untold, split, tells, few⟩ := told
  exact ⟨named, untold, split, tells.imp weaken, few⟩

/-- Behind what was told of, only what comes later can be untold. -/
theorem Told.append {more : List (Deed ε)} (before : Told words deeds true)
    (after : Told words more finished) : Told words (deeds ++ more) finished := by
  obtain ⟨first, none, same, firstTells, nothing⟩ := before
  obtain ⟨second, untold, split, secondTells, few⟩ := after
  obtain rfl := List.eq_nil_of_length_eq_zero (Nat.le_zero.mp nothing)
  rw [List.append_nil] at same
  refine ⟨first ++ second, untold, ?_, ?_, few⟩
  · rw [grievances_append, same, split, List.append_assoc]
  · rw [complaints_append]
    exact List.rel_append firstTells secondTells

/-- The complaints lag behind the failures. -/
theorem Told.lags (told : Told words deeds finished) :
    Lags (complaints deeds).length (grievances deeds).length finished := by
  obtain ⟨named, untold, split, tells, few⟩ := told
  rw [split, List.length_append, tells.length_eq]
  cases finished with
  | true => exact .inl (by simpa using few)
  | false =>
      rcases Nat.le_one_iff_eq_zero_or_eq_one.mp few with none | one
      · exact .inl (by rw [none]; rfl)
      · exact .inr ⟨rfl, by rw [one]⟩

end Deed

/-! ## Acts that there is nothing to say of -/

/-- An act that neither complains nor can fail in a way to complain of. -/
def Act.IsMild : Act → Prop
  | .tell note => note.isComplaint = false
  | .call asked => asked.isReadBack = true
  | _ => True

namespace Deed

variable {ε : Type} {deeds : List (Deed ε)}

theorem complaints_of_mild (mild : ∀ deed ∈ deeds, deed.act.IsMild) : complaints deeds = [] := by
  apply List.filterMap_eq_nil_iff.mpr
  intro deed member
  have harmless := mild deed member
  unfold complaint?
  split
  · exact if_neg (by simpa [Act.IsMild] using harmless)
  · rfl

theorem grievances_of_mild (mild : ∀ deed ∈ deeds, deed.act.IsMild) : grievances deeds = [] := by
  apply List.filter_eq_nil_iff.mpr
  intro failure member
  obtain ⟨deed, among, here⟩ := List.mem_filterMap.mp member
  have harmless := mild deed among
  unfold failure? at here
  split at here
  · obtain rfl := Option.some.inj here
    simpa [Act.IsMild] using harmless
  · cases here

/-- A mild act in front changes nothing. -/
theorem Told.cons {words : Call × ε → Note → Prop} {deed : Deed ε} {finished : Bool}
    (told : Told words deeds finished) (mild : deed.act.IsMild) :
    Told words (deed :: deeds) finished := by
  have harmless : ∀ other ∈ [deed], other.act.IsMild := by
    simpa using mild
  exact (told_of_quiet (grievances_of_mild harmless) (complaints_of_mild harmless)).append told

end Deed

namespace Program

variable {ε α β : Type} {words : Call × ε → Note → Prop} {front : List (Deed ε)}
  {failure : Call × ε}

/-- Every path of a program tells of its failures. -/
def Tells (words : Call × ε → Note → Prop) (program : Program ε α) : Prop :=
  program.Follows fun deeds result => Deed.Told words deeds result.isSome

theorem Tells.bind {program : Program ε α} {rest : α → Program ε β} (first : program.Tells words)
    (second : ∀ result, (rest result).Tells words) : (program >>= rest).Tells words := by
  apply follows_bind.mpr
  apply Follows.mono first
  intro deeds result told
  cases result with
  | none => exact told
  | some result => exact Follows.mono (second result) fun more final later => told.append later

theorem Uses.tells {program : Program ε α} (mild : program.Uses Act.IsMild) :
    program.Tells words :=
  mild.follows fun _ result harmless =>
    (Deed.told_of_quiet (Deed.grievances_of_mild harmless)
      (Deed.complaints_of_mild harmless)).weaken result.isSome

theorem tells_done (result : α) : (Program.done result : Program ε α).Tells words := Deed.told_nil

theorem tells_once {act : Act} (mild : act.IsMild) : (once act : Program ε _).Tells words :=
  Uses.tells ((uses_once act).mpr mild)

/-- A failure that was not told of yet, and of which the next thing is to tell. -/
theorem follows_tell {note : Note} (rest : Program ε α)
    (failed : Deed.grievances front = [failure]) (quiet : Deed.complaints front = [])
    (complaint : note.isComplaint = true) (said : words failure note)
    (later : rest.Tells words) :
    (once (.tell note) >>= fun _ => rest).Follows fun more result =>
      Deed.Told words (front ++ more) result.isSome := by
  have untold : Deed.Told words front false :=
    ⟨[], [failure], failed, by rw [quiet]; exact .nil, Nat.le_refl 1⟩
  refine follows_behind (fun deeds result => Deed.Told words deeds result.isSome) untold ?_
  intro answer begun ended
  have told : Deed.Told words (front ++ [⟨.tell note, answer, begun, ended⟩]) true := by
    refine ⟨[failure], [], ?_, ?_, Nat.le_refl 0⟩
    · rw [Deed.grievances_append, failed]
      rfl
    · have named : Deed.complaints [(⟨.tell note, answer, begun, ended⟩ : Deed ε)] = [note] := by
        simp [Deed.complaints, Deed.complaint?, complaint]
      rw [Deed.complaints_append, quiet, named]
      exact .cons said .nil
  exact Follows.mono later fun more result rest => told.append rest

/-- A call whose failure is told of at once. -/
theorem tells_call {asked : Call} {next : Except ε asked.Reply → Program ε α}
    (note : ε → Note) (after : ε → Program ε α) (loud : asked.isReadBack = false)
    (complaint : ∀ fault, (note fault).isComplaint = true)
    (said : ∀ fault, words (asked, fault) (note fault))
    (replied : ∀ reply, (next (.ok reply)).Tells words)
    (blamed : ∀ fault, next (.error fault) = once (.tell (note fault)) >>= fun _ => after fault)
    (later : ∀ fault, (after fault).Tells words) :
    (once (.call asked) >>= next).Tells words := by
  refine ⟨Deed.told_nil.weaken false, fun answer begun ended => ?_⟩
  cases answer with
  | ok reply =>
      have fine : Deed.Told words [⟨.call asked, .ok reply, begun, ended⟩] true :=
        Deed.told_of_quiet rfl rfl
      exact Follows.mono (replied reply) fun more result told => fine.append told
  | error fault =>
      have grievance : Deed.grievances [(⟨.call asked, .error fault, begun, ended⟩ : Deed ε)] =
          [(asked, fault)] := by
        simp [Deed.grievances, Deed.failures, Deed.failure?, loud]
      show (next (.error fault)).Follows _
      rw [blamed]
      exact follows_tell _ grievance rfl (complaint fault) (said fault) (later fault)

end Program

end ShutterRadio
