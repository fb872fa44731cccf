/-
# A station returns to listening

Whatever a piece of work was and however much of it failed, the last that a
station asks of its radio is to listen: the sync word of remotes, the format of
frames, and then the mode.  Each of the three is asked for even if one before it
was refused, and neither the sync word nor the mode had been asked for earlier in
the same piece of work.

This is about the calls alone, on every path that comes to its end.  What a radio
makes of them is not said here.
-/

import ShutterRadio.Proofs.Program.BurstPath

namespace ShutterRadio

/-- The calls that put a radio to listening, and whether each was answered. -/
def Station.listenCalls (synced formatted listening : Bool) : List (Call × Bool) :=
  [(.setSync listenSync, synced), (.setFormat true 7, formatted), (.listen, listening)]

/-- A call that does not belong to listening alone. -/
def Call.IsElsewhere (asked : Call) : Prop :=
  asked ≠ .setSync Station.listenSync ∧ asked ≠ .listen

/-- An act that does not belong to listening alone. -/
def Act.IsElsewhere : Act → Prop
  | .call asked => asked.IsElsewhere
  | _ => True

namespace Deed

variable {ε : Type}

def calls (deeds : List (Deed ε)) : List (Call × Bool) := deeds.filterMap call?

@[simp]
theorem calls_append (first second : List (Deed ε)) :
    calls (first ++ second) = calls first ++ calls second :=
  List.filterMap_append

/-- The last calls put the radio to listening, once and for all. -/
def Return (deeds : List (Deed ε)) : Prop :=
  ∃ earlier synced formatted listening,
    calls deeds = earlier ++ Station.listenCalls synced formatted listening ∧
      ∀ call ∈ earlier, call.1.IsElsewhere

/-- What is done elsewhere before does not matter. -/
theorem Return.behind {front more : List (Deed ε)} (returned : Return more)
    (elsewhere : ∀ deed ∈ front, deed.act.IsElsewhere) : Return (front ++ more) := by
  obtain ⟨earlier, synced, formatted, listening, last, apart⟩ := returned
  refine ⟨calls front ++ earlier, synced, formatted, listening, ?_, ?_⟩
  · rw [calls_append, last, List.append_assoc]
  · intro call member
    rcases List.mem_append.mp member with before | after
    · obtain ⟨⟨act, answer, begun, ended⟩, among, here⟩ := List.mem_filterMap.mp before
      have apart := elsewhere _ among
      cases act with
      | call asked =>
          obtain rfl := Option.some.inj here
          exact apart
      | _ => cases here
    · exact apart call after

theorem Return.cons {deed : Deed ε} {more : List (Deed ε)} (returned : Return more)
    (elsewhere : deed.act.IsElsewhere) : Return (deed :: more) :=
  returned.behind (List.forall_mem_singleton.mpr elsewhere)

/-- Nor does it matter what is done afterwards without the radio. -/
theorem Return.ahead {deeds more : List (Deed ε)} (returned : Return deeds)
    (silent : calls more = []) : Return (deeds ++ more) := by
  obtain ⟨earlier, synced, formatted, listening, last, apart⟩ := returned
  exact ⟨earlier, synced, formatted, listening, by rw [calls_append, silent, List.append_nil, last],
    apart⟩

end Deed

namespace Program

variable {ε α β : Type} (describe : ε → String) (setup : Setup)

/-- Every path that comes to its end ends with the radio listening. -/
def Returns (program : Program ε α) : Prop :=
  program.Follows fun deeds result => result.isSome → Deed.Return deeds

/-- What comes first may be anything elsewhere. -/
theorem Returns.after {first : Program ε α} {rest : α → Program ε β}
    (elsewhere : first.Uses Act.IsElsewhere) (returns : ∀ result, (rest result).Returns) :
    (first >>= rest).Returns := by
  apply follows_bind.mpr
  apply elsewhere.follows
  intro deeds result apart
  cases result with
  | none => exact nofun
  | some result =>
      apply (returns result).mono
      intro more final returned ended
      exact (returned ended).behind apart

/-- What comes last may be anything without the radio. -/
theorem Returns.before {first : Program ε α} {rest : α → Program ε β} (returns : first.Returns)
    (silent : ∀ result, (rest result).Uses fun act => ∀ asked, act ≠ .call asked) :
    (first >>= rest).Returns := by
  apply follows_bind.mpr
  apply Follows.mono returns
  intro deeds result returned
  cases result with
  | none => exact nofun
  | some result =>
      apply (silent result).follows
      intro more final quiet _
      apply (returned rfl).ahead
      apply List.filterMap_eq_nil_iff.mpr
      rintro ⟨act, answer, begun, ended⟩ member
      cases act with
      | call asked => exact absurd rfl (quiet _ member asked)
      | _ => rfl

/-- A call that is made for the station's own sake is made once, come what may. -/
theorem follows_report (asked : Call) :
    (report describe asked).Follows fun deeds result =>
      result.isSome → ∃ answered, Deed.calls deeds = [(asked, answered)] := by
  refine ⟨nofun, fun answer begun ended => ?_⟩
  cases answer with
  | ok _ => exact fun _ => ⟨true, rfl⟩
  | error fault => exact ⟨nofun, fun _ _ _ _ => ⟨false, rfl⟩⟩

theorem returns_listen : (listen describe).Returns := by
  apply follows_bind.mpr
  apply (follows_report describe _).mono
  intro first result synced
  cases result with
  | none => exact nofun
  | some _ =>
      obtain ⟨synced, calls⟩ := synced rfl
      apply follows_bind.mpr
      apply (follows_report describe _).mono
      intro second result formatted
      cases result with
      | none => exact nofun
      | some _ =>
          obtain ⟨formatted, more⟩ := formatted rfl
          apply (follows_report describe _).mono
          intro third result listening ended
          obtain ⟨listening, last⟩ := listening ended
          refine ⟨[], synced, formatted, listening, ?_, nofun⟩
          rw [Deed.calls_append, Deed.calls_append, calls, more, last]
          rfl

theorem elsewhere_burst (frame : Frame) (repeats : UInt16) :
    (burst frame repeats : Program ε _).Uses Act.IsElsewhere := by
  apply Uses.burst _ trivial fun _ => trivial
  intro asked planned
  cases asked with
  | setSync pattern =>
      refine ⟨fun same => ?_, by simp⟩
      rw [same] at planned
      simp [Burst.calls, Burst.approach, Station.listenSync, Burst.firstSync,
        Burst.repeatSync] at planned
  | listen => simp [Burst.calls, Burst.approach] at planned
  | _ => constructor <;> simp

/-- A call of another kind is elsewhere. -/
theorem returns_after_report {asked : Call} {rest : Unit → Program ε α}
    (elsewhere : asked.IsElsewhere) (returns : ∀ result, (rest result).Returns) :
    (report describe asked >>= rest).Returns :=
  Returns.after (Uses.report describe elsewhere fun _ => trivial) returns

theorem returns_after_once {act : Act} {rest : act.Answer ε → Program ε α}
    (elsewhere : act.IsElsewhere) (returns : ∀ answer, (rest answer).Returns) :
    (once act >>= rest).Returns :=
  Returns.after ((uses_once act).mpr elsewhere) returns

/-- A start ends with the radio listening. -/
theorem returns_start : (start describe setup).Returns := by
  refine returns_after_once trivial fun _ => ?_
  refine returns_after_report describe (by simp [Call.IsElsewhere]) fun _ => ?_
  refine returns_after_report describe (by simp [Call.IsElsewhere]) fun _ => ?_
  refine returns_after_report describe (by simp [Call.IsElsewhere]) fun _ => ?_
  refine returns_after_report describe (by simp [Call.IsElsewhere]) fun _ => ?_
  refine returns_after_once (by simp [Act.IsElsewhere, Call.IsElsewhere]) fun version => ?_
  refine returns_after_once (by simp [Act.IsElsewhere, Call.IsElsewhere]) fun bitRate => ?_
  refine returns_after_once (by simp [Act.IsElsewhere, Call.IsElsewhere]) fun frequency => ?_
  split
  · exact returns_after_once trivial fun _ => returns_listen describe
  · exact returns_listen describe

/-- Sending ends with the radio listening, wherever the burst was abandoned. -/
theorem returns_transmit (transmission : Transmission) :
    (transmit describe setup transmission).Returns := by
  refine returns_after_once trivial fun _ => ?_
  refine returns_after_once trivial fun _ => ?_
  refine returns_after_report describe (by simp [Call.IsElsewhere]) fun _ => ?_
  refine returns_after_once trivial fun _ => ?_
  refine Returns.after (elsewhere_burst _ _) fun ending => ?_
  refine Returns.after (Uses.settle describe _ ending trivial trivial fun _ => trivial) fun _ => ?_
  refine returns_after_once trivial fun _ => ?_
  refine returns_after_report describe (by simp [Call.IsElsewhere]) fun _ => ?_
  refine returns_after_once trivial fun _ => ?_
  exact (returns_listen describe).before fun _ => (uses_once _).mpr (by simp)

/-- Fetching a packet ends with the radio listening, whether or not there was one. -/
theorem returns_fetch : (fetch describe).Returns := by
  refine returns_after_once (by simp [Act.IsElsewhere, Call.IsElsewhere]) fun answer => ?_
  cases answer with
  | error fault => exact returns_after_once trivial fun _ => returns_listen describe
  | ok bytes =>
      have absorbs : (absorb (Frame.ofVector bytes) : Program ε Unit).Uses Act.IsElsewhere :=
        Uses.absorb trivial (fun _ _ => trivial) trivial trivial trivial fun _ => trivial
      exact Returns.after absorbs fun _ => returns_listen describe

end Program

/-! ## Steps that do a piece of work -/

/-- A deed that begins a piece of work: a packet is fetched, or a request other than
to shut down is taken out of the queue. -/
def Deed.begins {ε : Type} : Deed ε → Bool
  | ⟨.call (.receive _), _, _, _⟩ => true
  | ⟨.next, some (.transmit _), _, _⟩ => true
  | ⟨.next, some .listen, _, _⟩ => true
  | _ => false

/-- An act that cannot begin a piece of work. -/
def Act.IsIdle : Act → Prop
  | .next => False
  | .call (.receive _) => False
  | _ => True

theorem Deed.begins_of_idle {ε : Type} {deed : Deed ε} (idle : deed.act.IsIdle) :
    deed.begins = false := by
  unfold begins
  split
  · exact False.elim idle
  · exact False.elim idle
  · exact False.elim idle
  · rfl

namespace Program

variable {ε α β : Type} (describe : ε → String) (setup : Setup)

/-- If a piece of work was done, the radio was put to listening in the end. -/
def FromWork (deeds : List (Deed ε)) (result : Option α) : Prop :=
  result.isSome → (∃ deed ∈ deeds, deed.begins = true) → Deed.Return deeds

theorem Returns.fromWork {program : Program ε α} (returns : program.Returns) :
    program.Follows FromWork :=
  Follows.mono returns fun _ _ returned ended _ => returned ended

/-- Behind a deed that is elsewhere, whatever it begins. -/
theorem Returns.fromWork_behind {program : Program ε α} (returns : program.Returns)
    {deed : Deed ε} (elsewhere : deed.act.IsElsewhere) :
    program.Follows fun deeds result => FromWork (deed :: deeds) result := by
  apply Follows.mono returns
  intro deeds result returned finished _
  exact (returned finished).cons elsewhere

/-- Where nothing is begun, nothing is asked for. -/
theorem fromWork_of_idle {program : Program ε α} (idle : program.Uses Act.IsIdle)
    (front : List (Deed ε)) (still : ∀ deed ∈ front, deed.begins = false) :
    program.Follows fun deeds result => FromWork (front ++ deeds) result := by
  apply idle.follows
  intro deeds result harmless _ works
  obtain ⟨deed, member, begins⟩ := works
  rcases List.mem_append.mp member with before | after
  · rw [still deed before] at begins
    cases begins
  · rw [Deed.begins_of_idle (harmless deed after)] at begins
    cases begins

/-- An act that is elsewhere and begins nothing, in front of the rest. -/
theorem fromWork_after {act : Act} {rest : act.Answer ε → Program ε α}
    (elsewhere : act.IsElsewhere) (idle : act.IsIdle)
    (returns : ∀ answer, (rest answer).Follows FromWork) :
    (once act >>= rest).Follows FromWork := by
  refine ⟨nofun, fun answer begun ended => ?_⟩
  apply (returns answer).mono
  intro deeds result returned finished works
  have later : ∃ deed ∈ deeds, deed.begins = true := by
    obtain ⟨deed, member, begins⟩ := works
    rcases List.mem_cons.mp member with rfl | member
    · rw [Deed.begins_of_idle idle] at begins
      cases begins
    · exact ⟨deed, member, begins⟩
  exact (returned finished later).cons elsewhere

/-- A request that was taken out is served so that the radio listens in the end,
unless it was one to shut down. -/
theorem fromWork_serve (request : Request) (begun ended : Instant) :
    (serve describe setup request).Follows fun deeds result =>
      FromWork (⟨.next, some request, begun, ended⟩ :: deeds) result := by
  cases request with
  | transmit transmission =>
      have returns : (transmit describe setup transmission >>= fun _ =>
          (pure .goesOn : Program ε Station.Flow)).Returns :=
        (returns_transmit describe setup transmission).before fun _ => uses_done _
      exact returns.fromWork_behind trivial
  | listen =>
      have returns : (listen describe >>= fun _ =>
          (pure .goesOn : Program ε Station.Flow)).Returns :=
        (returns_listen describe).before fun _ => uses_done _
      exact returns.fromWork_behind trivial
  | shutdown =>
      have idle : (shutDown describe >>= fun _ =>
          (pure .stopped : Program ε Station.Flow)).Uses Act.IsIdle :=
        Uses.bind (Uses.shutDown describe trivial trivial fun _ => trivial) fun _ => uses_done _
      exact fromWork_of_idle idle [⟨.next, some .shutdown, begun, ended⟩] (by simp [Deed.begins])

/-- A step that does a piece of work ends with the radio listening. -/
theorem fromWork_step : (step describe setup).Follows FromWork := by
  refine fromWork_after trivial trivial fun activity => ?_
  split
  · exact fun _ => nofun
  refine fromWork_after trivial trivial fun ready => ?_
  split
  · exact ((returns_fetch describe).before fun _ => uses_done _).fromWork
  · refine ⟨nofun, fun request begun ended => ?_⟩
    cases request with
    | none =>
        have idle : (once (.pause Station.idlePoll) >>= fun _ =>
            (pure .goesOn : Program ε Station.Flow)).Uses Act.IsIdle :=
          Uses.bind ((uses_once _).mpr trivial) fun _ => uses_done _
        exact fromWork_of_idle idle [⟨.next, none, begun, ended⟩] (by simp [Deed.begins])
    | some request => exact fromWork_serve describe setup request begun ended

end Program

end ShutterRadio
