/-
# A burst that meets a refusal

A burst goes by its plan until something is refused, and that is the end of it: no
call is made after the refused one, and no time passes either.  Which call it is
does not matter, whether it belongs to the wake pulse, to the first frame or to one
of the repeats.

Where the plan ends nothing is waited for any more.  A burst without repeats is
over with its only frame, but for the sync word of the repeats.
-/

import Mathlib
import ShutterRadio.Proofs.Burst.Precise
import ShutterRadio.Proofs.Program.Return

namespace ShutterRadio

namespace Burst

/-! ## Calls that were made -/

section Progress

variable {ε : Type} {planned : List Call} {outcomes : List (Call × Bool)}

/-- Only planned calls are made, in their order. -/
theorem Progress.map_fst_prefix {result : Option (Except ε Unit)}
    (progress : Progress planned outcomes result) : outcomes.map Prod.fst <+: planned := by
  cases progress with
  | underWay made start => simpa [Function.comp_def] using start
  | complete => simp [Function.comp_def]
  | refused made rest asked fault split => simp [Function.comp_def, split]

/-- A burst is fine if the whole plan was carried out and nothing was refused. -/
theorem Progress.eq_ok_iff {result : Except ε Unit}
    (progress : Progress planned outcomes (some result)) :
    result = .ok () ↔
      outcomes.map Prod.fst = planned ∧ ∀ outcome ∈ outcomes, outcome.2 = true := by
  cases progress with
  | complete => simp [Function.comp_def]
  | refused made rest asked fault split => simp

end Progress

/-! ## Acts that were done -/

/-- An act that a step of a plan can come to. -/
inductive Step.Yields : Step → Act → Prop
  | ask (asked : Call) : Yields (.ask asked) (.call asked)
  | mark : Yields .mark .clock
  | await (offset : Nat) (mark : Instant) : Yields (.await offset) (.wait (mark.later offset))

theorem Step.yields_ask_iff {asked : Call} {act : Act} :
    (Step.ask asked).Yields act ↔ act = .call asked := by
  constructor
  · intro yields
    cases yields
    rfl
  · rintro rfl
    exact .ask asked

theorem Step.yields_call_iff {step : Step} {asked : Call} :
    step.Yields (.call asked) ↔ step = .ask asked := by
  constructor
  · intro yields
    cases yields
    rfl
  · rintro rfl
    exact .ask asked

/-- The deeds are those of the first steps of a plan. -/
inductive Keeps {ε : Type} : List Step → List (Deed ε) → Prop
  | nothing (steps : List Step) : Keeps steps []
  | cons {step : Step} {steps : List Step} {deed : Deed ε} {deeds : List (Deed ε)} :
      step.Yields deed.act → Keeps steps deeds → Keeps (step :: steps) (deed :: deeds)

variable {ε : Type} {steps : List Step} {deeds : List (Deed ε)}

theorem Keeps.exists_step (keeps : Keeps steps deeds) :
    ∀ deed ∈ deeds, ∃ step ∈ steps, step.Yields deed.act := by
  induction keeps with
  | nothing steps => exact fun _ none => (List.not_mem_nil none).elim
  | @cons step steps deed deeds yields _ ih =>
      refine List.forall_mem_cons.mpr ⟨⟨step, List.mem_cons_self, yields⟩, fun other among => ?_⟩
      obtain ⟨step, member, yields⟩ := ih other among
      exact ⟨step, List.mem_cons_of_mem _ member, yields⟩

/-- Behind a call that was planned once there is nothing but what was planned behind it. -/
theorem Keeps.behind {lead rest : List Step} {front behind : List (Deed ε)} {deed : Deed ε}
    {asked : Call} (notBefore : .ask asked ∉ lead) (notAfter : .ask asked ∉ rest)
    (keeps : Keeps (lead ++ .ask asked :: rest) (front ++ deed :: behind))
    (act : deed.act = .call asked) : Keeps rest behind := by
  have here {step : Step} (yields : step.Yields deed.act) : step = .ask asked :=
    Step.yields_call_iff.mp (act ▸ yields)
  induction lead generalizing front with
  | nil =>
      cases front with
      | nil =>
          cases keeps with
          | cons _ keeps => exact keeps
      | cons first front =>
          cases keeps with
          | cons _ keeps =>
              obtain ⟨step, among, yields⟩ := keeps.exists_step deed (by simp)
              exact absurd (here yields ▸ among) notAfter
  | cons step lead ih =>
      cases front with
      | nil =>
          cases keeps with
          | cons yields _ => exact absurd (here yields ▸ List.mem_cons_self) notBefore
      | cons first front =>
          cases keeps with
          | cons _ keeps => exact ih (List.not_mem_of_not_mem_cons notBefore) keeps

/-- What leads up to the first frame. -/
def lead : List Step :=
  [.ask (.setSync []), .ask (.setFormat false 2), .mark, .ask (.transmit wakePattern),
    .ask (.setSync firstSync), .ask (.setFormat true 7), .await firstFrameDelay]

/-- A plan fails by its last deed alone, which is a call that was refused. -/
def FaultIsLast (deeds : List (Deed ε)) (result : Option (Except ε Unit)) : Prop :=
  ∀ fault, result = some (.error fault) → ∃ front asked begun ended, Deed.Unfailing front ∧
    deeds = front ++ [⟨.call asked, .error fault, begun, ended⟩]

theorem FaultIsLast.cons {result : Option (Except ε Unit)} (last : FaultIsLast deeds result)
    {deed : Deed ε} (fine : ∀ outcome ∈ deed.call?, outcome.2 = true) :
    FaultIsLast (deed :: deeds) result := by
  intro fault failed
  obtain ⟨front, asked, begun, ended, unfailing, rfl⟩ := last fault failed
  refine ⟨deed :: front, asked, begun, ended, ?_, rfl⟩
  intro outcome among
  obtain ⟨other, member, here⟩ := List.mem_filterMap.mp among
  rcases List.mem_cons.mp member with rfl | member
  · exact fine outcome here
  · exact unfailing outcome (List.mem_filterMap.mpr ⟨other, member, here⟩)

end Burst

namespace Program

variable {σ ε τ α : Type}

/-- Playing a plan does what its first steps say. -/
theorem follows_play_keeps (mark : Instant) (steps : List Burst.Step) :
    (play mark steps : Program ε _).Follows fun deeds _ => Burst.Keeps steps deeds := by
  induction steps generalizing mark with
  | nil => exact .nothing []
  | cons step steps ih =>
      cases step with
      | mark =>
          exact ⟨.nothing _, fun now _ _ => (ih now).mono fun _ _ => .cons .mark⟩
      | await offset =>
          exact ⟨.nothing _, fun _ _ _ => (ih mark).mono fun _ _ =>
            .cons (.await offset mark)⟩
      | ask asked =>
          refine ⟨.nothing _, fun answer _ _ => ?_⟩
          cases answer with
          | ok reply => exact (ih mark).mono fun _ _ => .cons (.ask asked)
          | error fault => exact .cons (.ask asked) (.nothing steps)

/-- A fault is that of the last call. -/
theorem follows_play_fault (mark : Instant) (steps : List Burst.Step) :
    (play mark steps : Program ε _).Follows Burst.FaultIsLast := by
  induction steps generalizing mark with
  | nil => exact fun _ failed => nomatch failed
  | cons step steps ih =>
      cases step with
      | mark => exact ⟨nofun, fun now _ _ => (ih now).mono fun _ _ last => last.cons nofun⟩
      | await offset => exact ⟨nofun, fun _ _ _ => (ih mark).mono fun _ _ last => last.cons nofun⟩
      | ask asked =>
          refine ⟨nofun, fun answer begun ended => ?_⟩
          cases answer with
          | ok reply =>
              refine (ih mark).mono fun _ _ last => last.cons fun outcome here => ?_
              obtain rfl := Option.some.inj here
              rfl
          | error fault =>
              intro same failed
              obtain rfl := Except.error.inj (Option.some.inj failed)
              exact ⟨[], asked, begun, ended, nofun, rfl⟩

/-- Nothing happens after the last deed, so no time passes either. -/
theorem Runs.ended_last {d : Device σ ε τ} {program : Program ε α} {before after : Station σ}
    {front : List (Deed ε)} {last : Deed ε} {result : α}
    (runs : Runs d program before (front ++ [last]) result after) :
    last.ended = d.time after.device := by
  generalize made : front ++ [last] = deeds at runs
  induction runs generalizing front with
  | done result station => simp at made
  | @act first next before between after answer deeds result performed runs ih =>
      cases front with
      | nil =>
          obtain ⟨rfl, rfl⟩ := List.cons.inj made
          generalize next answer = rest at runs
          cases runs
          rfl
      | cons first front => exact ih (List.cons.inj made).2

end Program

/-- A burst stops at its first refusal, and does nothing else.  Its calls are the first of
those that were planned.  All was well just if all of them were made and none was refused;
otherwise the last that the burst did was the call whose fault it passes on, none was refused
before, and the burst was over when that call was.  Without repeats all that can come
behind the frame is the sync word of the repeats. -/
theorem burst_stops {σ ε τ : Type} (d : Device σ ε τ) (patient : d.Patient) (frame : Frame)
    (repeats : UInt16) (station : Station σ) :
    ∃ result after,
      Station.burst d frame repeats station = .ok result after ∧
      let deeds := (Program.burst frame repeats).chronicle d station
      Burst.Keeps (Burst.plan frame repeats.toNat) deeds ∧
      (Deed.calls deeds).map Prod.fst <+: Burst.calls frame repeats.toNat ∧
      (result = .ok () ↔
        (Deed.calls deeds).map Prod.fst = Burst.calls frame repeats.toNat ∧
          Deed.Unfailing deeds) ∧
      (∀ fault, result = .error fault → ∃ front asked begun, Deed.Unfailing front ∧
        deeds = front ++ [⟨.call asked, .error fault, begun, d.time after.device⟩]) ∧
      (repeats = 0 → ∀ front sent behind, deeds = front ++ sent :: behind →
        sent.act = .call (.transmit frame.bytes) →
          ∀ deed ∈ behind, deed.act = .call (.setSync Burst.repeatSync)) := by
  obtain ⟨result, after, runs⟩ := Program.exists_runs patient (Program.burst frame repeats) station
  have progress := runs.leads.satisfies (Program.follows_play .origin _)
  rw [Burst.filterMap_asked?_plan] at progress
  have keeps := runs.leads.satisfies (Program.follows_play_keeps .origin _)
  have fails := runs.leads.satisfies (Program.follows_play_fault .origin _)
  refine ⟨result, after, (Program.runs_iff.mp runs).1, keeps, progress.map_fst_prefix,
    progress.eq_ok_iff, ?fault, ?alone⟩
  case fault =>
    intro fault failed
    obtain ⟨front, asked, begun, ended, fine, deeds⟩ := fails fault (congrArg some failed)
    rw [deeds] at runs
    obtain rfl : ended = d.time after.device := runs.ended_last
    exact ⟨front, asked, begun, fine, deeds⟩
  case alone =>
    rintro rfl front sent behind deeds frameSent
    rw [deeds] at keeps
    have notBefore : .ask (.transmit frame.bytes) ∉ Burst.lead := by
      simp [Burst.lead, Burst.wakePattern, Frame.bytes]
    have notAfter : .ask (.transmit frame.bytes) ∉
        [Burst.Step.ask (.setSync Burst.repeatSync)] := by
      simp
    have rest : Burst.Keeps [.ask (.setSync Burst.repeatSync)] behind :=
      keeps.behind notBefore notAfter frameSent
    intro deed among
    obtain ⟨step, only, yields⟩ := rest.exists_step deed among
    obtain rfl := List.mem_singleton.mp only
    exact Burst.Step.yields_ask_iff.mp yields

namespace Bench

/-- A device like the ideal one, but it sends no more packets than it has airtimes for. -/
def tiring : Device Ideal Unit Empty where
  toTimebase := Device.ideal.toTimebase
  perform _ asked s :=
    ⟨(s.comply asked).2,
      if asked.packet?.isSome ∧ s.airtimes = [] then .failed () else .answered (s.comply asked).1,
      [], false⟩
  indicate _ s := s
  describe _ := "no more packets"

theorem patient_tiring : tiring.Patient where
  pause _ _ := ⟨_, rfl⟩
  perform _ _ _ reason := reason.elim

/-- A station whose radio sends two packets, both of which are on air for so long that what
is next has been due for a while. -/
def tired : Station Ideal := .fresh .standard none ⟨.origin, [30000, 120000], []⟩

end Bench

/-- It is the first of three repeats that is refused, and the burst is over at once. -/
theorem burst_stops_tiring :
    Bench.tiring.Patient ∧
    ∃ after, Station.burst Bench.tiring default 3 Bench.tired = .ok (.error ()) after ∧
      Deed.calls ((Program.burst default 3).chronicle Bench.tiring Bench.tired) =
        (Burst.calls default 0).map (·, true) ++
          [(.transmit (default : Frame).bytes, false)] ∧
      after.device.now.micros = 150000 := by
  obtain ⟨result, after, ran, -, -, fine, failed, -⟩ :=
    burst_stops Bench.tiring Bench.patient_tiring default 3 Bench.tired
  have calls : Deed.calls ((Program.burst default 3).chronicle Bench.tiring Bench.tired) =
      (Burst.calls default 0).map (·, true) ++
        [(.transmit (default : Frame).bytes, false)] := by cbv
  have ended : (((Program.burst default 3).chronicle Bench.tiring Bench.tired).getLast?.map
      fun deed => deed.ended.micros) = some 150000 := by cbv
  cases result with
  | ok =>
      have answered := (fine.mp rfl).2 (.transmit (default : Frame).bytes, false)
        (by rw [← Deed.calls, calls]; simp)
      cases answered
  | error fault =>
      obtain ⟨front, asked, begun, -, deeds⟩ := failed fault rfl
      rw [deeds, List.getLast?_concat] at ended
      exact ⟨Bench.patient_tiring, after, ran, calls, Option.some.inj ended⟩

end ShutterRadio
