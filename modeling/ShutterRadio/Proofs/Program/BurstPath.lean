/-
# The calls of a burst

A burst asks the radio for one thing after the other and gives up at the first
refusal.  So the calls it makes are the planned ones, up to some point, and all
of them but the last were answered.

From this follows what went on air and whether it was the whole block.  Nothing
is on air after the last packet, but it is not always the last call: without
repeats, the sync word of the repeats is still set behind it.
-/

import ShutterRadio.Proofs.Program.Account

namespace ShutterRadio

/-- The packet that a call is to send. -/
def Call.packet? : Call → Option (List UInt8)
  | .transmit packet => some packet
  | _ => none

namespace Burst

/-- The call that a step of a plan asks for. -/
def Step.asked? : Step → Option Call
  | .ask asked => some asked
  | _ => none

/-- The calls that lead up to the first frame, which is the last of them. -/
def approach (frame : Frame) : List Call :=
  [.setSync [], .setFormat false 2, .transmit wakePattern, .setSync firstSync,
    .setFormat true 7, .transmit frame.bytes]

/-- The calls that the burst of a frame makes if none is refused. -/
def calls (frame : Frame) (repeats : Nat) : List Call :=
  approach frame ++ .setSync repeatSync :: List.replicate repeats (.transmit frame.bytes)

theorem filterMap_asked?_plan (frame : Frame) (repeats : Nat) :
    (plan frame repeats).filterMap Step.asked? = calls frame repeats := by
  have again : ∀ numbers : List Nat,
      (numbers.flatMap fun number =>
        [Step.await (repeatDue number), .ask (.transmit frame.bytes)]).filterMap Step.asked? =
          List.replicate numbers.length (.transmit frame.bytes) := by
    intro numbers
    induction numbers with
    | nil => rfl
    | cons number numbers ih =>
        simp only [List.flatMap_cons, List.filterMap_append, ih]
        rfl
  simp only [plan, opening, List.filterMap_append, again, List.length_range]
  rfl

/-- The packets of the planned calls are those of the burst. -/
theorem filterMap_packet?_calls (frame : Frame) (repeats : Nat) :
    (calls frame repeats).filterMap Call.packet? = packets frame repeats := by
  have sends : (List.replicate repeats (Call.transmit frame.bytes)).filterMap Call.packet? =
      List.replicate repeats frame.bytes := List.filterMap_replicate_of_some rfl
  simp [calls, approach, packets, sends, Call.packet?, List.filterMap_cons,
    List.replicate_succ]

/-- What was made of a burst before a call was refused is all of its packets
only if there are no repeats and the call was to set their sync word. -/
theorem complete_iff {frame : Frame} {repeats : Nat} {made rest : List Call} {asked : Call}
    (split : calls frame repeats = made ++ asked :: rest) :
    made.filterMap Call.packet? = packets frame repeats ↔
      repeats = 0 ∧ asked = .setSync repeatSync := by
  have missing : made.filterMap Call.packet? = packets frame repeats ↔
      (asked :: rest).filterMap Call.packet? = [] := by
    rw [← filterMap_packet?_calls, split, List.filterMap_append]
    exact List.self_eq_append_right
  rw [missing]
  -- The refused call lies behind, at, or before the setting of the sync word.
  rcases List.append_eq_append_iff.mp split with ⟨more, ends, starts⟩ | ⟨more, ends, starts⟩
  · cases more with
    | nil =>
        obtain ⟨rfl, rfl⟩ := List.cons.inj starts
        simp [Call.packet?]
    | cons other more =>
        have again : asked ∈ List.replicate repeats (Call.transmit frame.bytes) := by
          rw [(List.cons.inj starts).2]
          simp
        obtain ⟨some, rfl⟩ := List.mem_replicate.mp again
        simp [Call.packet?]
  · cases more with
    | nil =>
        obtain ⟨rfl, rfl⟩ := List.cons.inj starts
        simp [Call.packet?]
    | cons first others =>
        rw [List.cons_append] at starts
        obtain ⟨rfl, rfl⟩ := List.cons.inj starts
        have early : asked ∈ approach frame := by simp [ends]
        have different : asked ≠ .setSync repeatSync := by
          rintro rfl
          simp [approach, firstSync, repeatSync] at early
        have last : (asked :: others).getLast? = some (.transmit frame.bytes) := by
          have whole : (approach frame).getLast? = some (.transmit frame.bytes) := rfl
          simpa only [ends, List.getLast?_append_cons] using whole
        have sent : frame.bytes ∈
            (asked :: (others ++ .setSync repeatSync ::
              List.replicate repeats (.transmit frame.bytes))).filterMap Call.packet? := by
          rw [← List.cons_append, List.filterMap_append]
          exact List.mem_append_left _
            (List.mem_filterMap.mpr ⟨_, List.mem_of_getLast? last, rfl⟩)
        constructor
        · intro nothing
          rw [nothing] at sent
          exact absurd sent List.not_mem_nil
        · intro late
          exact absurd late.2 different

/-- What has become of planned calls: how each call that was made ended, and how
the plan did, if it has. -/
inductive Progress {ε : Type} (planned : List Call) :
    List (Call × Bool) → Option (Except ε Unit) → Prop
  | underWay (made : List Call) : made <+: planned → Progress planned (made.map (·, true)) none
  | complete : Progress planned (planned.map (·, true)) (some (.ok ()))
  | refused (made rest : List Call) (asked : Call) (fault : ε) :
      planned = made ++ asked :: rest →
        Progress planned (made.map (·, true) ++ [(asked, false)]) (some (.error fault))

/-- An answered call in front of the others. -/
theorem Progress.cons {ε : Type} {planned : List Call} {outcomes : List (Call × Bool)}
    {result : Option (Except ε Unit)} (progress : Progress planned outcomes result)
    (asked : Call) : Progress (asked :: planned) ((asked, true) :: outcomes) result := by
  cases progress with
  | underWay made start =>
      exact .underWay (asked :: made) ((List.prefix_cons_inj asked).mpr start)
  | complete => exact .complete
  | refused made rest last fault split =>
      exact .refused (asked :: made) rest last fault (by rw [split]; rfl)

end Burst

namespace Program

variable {ε : Type}

/-- Playing a plan makes its calls in order, up to the first that is refused. -/
theorem follows_play (mark : Instant) (steps : List Burst.Step) :
    (play mark steps : Program ε _).Follows fun deeds result =>
      Burst.Progress (steps.filterMap Burst.Step.asked?) (deeds.filterMap Deed.call?) result := by
  induction steps generalizing mark with
  | nil => exact .complete
  | cons step steps ih =>
      cases step with
      | mark => exact ⟨.underWay [] List.nil_prefix, fun now _ _ => ih now⟩
      | await offset => exact ⟨.underWay [] List.nil_prefix, fun _ _ _ => ih mark⟩
      | ask asked =>
          refine ⟨.underWay [] List.nil_prefix, fun answer begun ended => ?_⟩
          cases answer with
          | ok answer => exact (ih mark).mono fun _ _ progress => progress.cons asked
          | error fault => exact .refused [] _ asked fault rfl

/-- Playing a plan makes calls, reads the clock and waits. -/
theorem uses_play (mark : Instant) (steps : List Burst.Step) :
    (play mark steps : Program ε _).Uses fun act =>
      (∃ asked, act = .call asked) ∨ act = .clock ∨ ∃ deadline, act = .wait deadline := by
  apply Uses.play
  · exact fun asked _ => .inl ⟨asked, rfl⟩
  · exact .inr (.inl rfl)
  · exact fun deadline => .inr (.inr ⟨deadline, rfl⟩)

theorem Uses.burst {allowed : Act → Prop} {frame : Frame} {repeats : UInt16}
    (calls : ∀ asked ∈ Burst.calls frame repeats.toNat, allowed (.call asked))
    (clock : allowed .clock) (wait : ∀ deadline, allowed (.wait deadline)) :
    (burst frame repeats : Program ε _).Uses allowed := by
  apply Uses.play _ clock wait
  intro asked member
  apply calls
  rw [← Burst.filterMap_asked?_plan]
  exact List.mem_filterMap.mpr ⟨_, member, rfl⟩

end Program

end ShutterRadio
