/-
# The account of one turn

A station's turn is one step, or its start.  This module says what a turn can
amount to, whatever the radio answers and others do meanwhile: nothing, or one
request, which is served to its end once the turn is over.

The main statement is `accounts_step`.
-/

import ShutterRadio.Proofs.Program.BurstPath

namespace ShutterRadio

namespace Burst

/-- The whole block went on air and the burst counts as sent in full.  The sync
word of the repeats is set even if there are none; if the radio refuses it then,
the block is complete all the same, and the burst counts as abandoned. -/
def IsFulfilled (frame : Frame) (repeats : Nat) (block : List (List UInt8))
    (primings : List Bool) : Prop :=
  block = packets frame repeats ∧ ¬(repeats = 0 ∧ false ∈ primings)

instance (frame : Frame) (repeats : Nat) (block : List (List UInt8)) (primings : List Bool) :
    Decidable (IsFulfilled frame repeats block primings) :=
  inferInstanceAs (Decidable (_ ∧ _))

theorem filterMap_onAir?_answered (made : List Call) :
    (made.map fun asked => (asked, true)).filterMap onAir? = made.filterMap Call.packet? := by
  rw [List.filterMap_map]
  congr 1
  funext asked
  cases asked <;> rfl

theorem false_notMem_primed?_answered (made : List Call) :
    false ∉ (made.map fun asked => (asked, true)).filterMap primed? := by
  intro member
  obtain ⟨_, ⟨asked, -, rfl⟩, taken⟩ := by
    simpa only [List.mem_filterMap, List.mem_map] using member
  cases asked with
  | setSync pattern => simp [primed?] at taken
  | _ => cases taken

/-- What is on air of a burst is the beginning of its block, and the burst has
ended well exactly if it is fulfilled. -/
theorem Progress.block {ε : Type} {frame : Frame} {repeats : Nat}
    {outcomes : List (Call × Bool)} {result : Option (Except ε Unit)}
    (progress : Progress (calls frame repeats) outcomes result) :
    outcomes.filterMap onAir? <+: packets frame repeats ∧
      ∀ ending, result = some ending →
        (ending.isOk ↔
          IsFulfilled frame repeats (outcomes.filterMap onAir?) (outcomes.filterMap primed?)) := by
  cases progress with
  | underWay made start =>
      rw [filterMap_onAir?_answered, ← filterMap_packet?_calls]
      exact ⟨start.filterMap _, by simp⟩
  | complete =>
      rw [filterMap_onAir?_answered, filterMap_packet?_calls]
      refine ⟨List.prefix_rfl, fun ending same => ?_⟩
      obtain rfl := Option.some.inj same
      exact iff_of_true rfl ⟨rfl, fun unprimed => false_notMem_primed?_answered _ unprimed.2⟩
  | refused made rest asked fault split =>
      have block : (made.map (·, true) ++ [(asked, false)]).filterMap onAir? =
          made.filterMap Call.packet? := by
        rw [List.filterMap_append, filterMap_onAir?_answered]
        cases asked <;> simp [onAir?]
      rw [block]
      constructor
      · rw [← filterMap_packet?_calls, split, List.filterMap_append]
        exact List.prefix_append _ _
      · intro ending same
        obtain rfl := Option.some.inj same
        refine iff_of_false (by simp [Except.isOk, Except.toBool]) ?_
        rintro ⟨whole, primed⟩
        obtain ⟨single, rfl⟩ := (complete_iff split).mp whole
        exact primed ⟨single, by simp [primed?]⟩

end Burst

namespace Account

/-- A request was taken out of the queue. -/
def taking (request : Request) : Account := ⟨[request], [], [], [], false⟩

def counting (counter : Counter) : Account := ⟨[], [], [], [counter], false⟩

/-- What one turn of a station with a key can amount to, and whether it is over. -/
inductive IsTurn (key : UInt8) : Account → (finished : Bool) → Prop
  | idle {finished : Bool} : IsTurn key .empty finished
  | listening {finished : Bool} : IsTurn key (.taking .listen) finished
  | stopping {stops finished : Bool} :
      (finished = true → stops = true) →
        IsTurn key ⟨[.shutdown], [], [], [], stops⟩ finished
  -- A request to send was served.  Some of its block went on air, and the burst
  -- is counted once, at the latest when the turn is over.
  | sending {transmission : Transmission} {block : List (List UInt8)} {primings : List Bool}
      {verdicts : List Counter} {finished : Bool} :
      block <+: Burst.packets (.encode key transmission.command) transmission.repeats.toNat →
      (finished = false ∧ verdicts = [] ∨
        verdicts = [if Burst.IsFulfilled (.encode key transmission.command)
          transmission.repeats.toNat block primings then .sent else .abandoned]) →
      IsTurn key ⟨[.transmit transmission], block, primings, verdicts, false⟩ finished

end Account

namespace Program

variable {ε : Type}

/-- A burst takes no request and counts nothing.  It puts the beginning of its
block on air, and ends well exactly if it is fulfilled. -/
theorem accounts_burst (frame : Frame) (repeats : UInt16) :
    (burst frame repeats : Program ε _).Accounts fun account result =>
      (account = ⟨[], account.packets, account.primings, [], false⟩ ∧
        account.packets <+: Burst.packets frame repeats.toNat) ∧
      ∀ ending, result = some ending →
        (ending.isOk ↔
          Burst.IsFulfilled frame repeats.toNat account.packets account.primings) := by
  have aside : (burst frame repeats : Program ε _).Follows fun deeds _ =>
      deeds.filterMap Deed.request? = [] ∧ deeds.filterMap Deed.verdict? = [] ∧
        deeds.any Deed.stops = false := by
    apply (uses_play _ _).follows
    intro deeds _ harmless
    simp only [List.filterMap_eq_nil_iff, List.any_eq_false]
    refine ⟨fun deed member => ?_, fun deed member => ?_, fun deed member => ?_⟩ <;>
      rcases deed with ⟨act, answer, begun, ended⟩ <;>
      obtain ⟨asked, rfl⟩ | rfl | ⟨deadline, rfl⟩ := harmless _ member <;>
      simp [Deed.request?, Deed.verdict?, Deed.stops]
  refine Follows.mono ((follows_play _ _).and aside) ?_
  rintro deeds result ⟨progress, quiet⟩
  rw [Burst.filterMap_asked?_plan] at progress
  obtain ⟨onAir, ended⟩ := progress.block
  exact ⟨⟨by simp only [Account.ofDeeds, quiet], onAir⟩, ended⟩

variable (describe : ε → String) (setup : Setup)

/-- The end of a burst is counted first of all; what follows is quiet. -/
theorem accounts_settle (remote : UInt32) (ending : Except ε Unit) {rest : Program ε Unit}
    (quiet : rest.Uses Act.IsQuiet) :
    (settle describe remote ending >>= fun _ => rest).Accounts fun account result =>
      (result.isSome = false ∧ account = .empty) ∨
        account = .counting (if ending.isOk then .sent else .abandoned) := by
  cases ending with
  | ok _ =>
      refine ⟨.inl ⟨rfl, rfl⟩, fun _ _ _ => ?_⟩
      exact quiet.follows fun deeds result silent => .inr (by
        rw [Account.ofDeeds_cons, Account.ofDeeds_of_quiet silent]
        rfl)
  | error fault =>
      have loud : (once (.tell (.burstAbandoned remote (describe fault))) >>=
          fun _ => rest).Uses Act.IsQuiet :=
        Uses.bind ((uses_once _).mpr trivial) fun _ => quiet
      refine ⟨.inl ⟨rfl, rfl⟩, fun _ _ _ => ?_⟩
      exact loud.follows fun deeds result silent => .inr (by
        rw [Account.ofDeeds_cons, Account.ofDeeds_of_quiet silent]
        rfl)

/-- What comes after the end of a burst is quiet. -/
theorem isQuiet_retreat : (do
    once (.light false)
    report describe .standby
    let _ ← once .calm
    listen describe
    once (.become .idle) : Program ε Unit).Uses Act.IsQuiet := by
  refine Uses.bind ((uses_once _).mpr trivial) fun _ => ?_
  refine Uses.bind (isQuiet_report describe trivial) fun _ => ?_
  refine Uses.bind ((uses_once _).mpr trivial) fun _ => ?_
  exact Uses.bind (isQuiet_listen describe) fun _ => (uses_once _).mpr (by simp [Act.IsQuiet])

/-- A request to send, once it has been taken out, makes a turn. -/
theorem accounts_transmit (transmission : Transmission) :
    (transmit describe setup transmission).Accounts fun account result =>
      (Account.taking (.transmit transmission) ++ account).IsTurn setup.key result.isSome := by
  have nothing : (Account.taking (.transmit transmission) ++ .empty).IsTurn setup.key false :=
    .sending List.nil_prefix (.inl ⟨rfl, rfl⟩)
  refine accounts_quiet_bind ((uses_once _).mpr (by simp [Act.IsQuiet])) nothing fun _ => ?_
  refine accounts_quiet_bind ((uses_once _).mpr trivial) nothing fun _ => ?_
  refine accounts_quiet_bind (isQuiet_report describe trivial) nothing fun _ => ?_
  refine accounts_quiet_bind ((uses_once _).mpr trivial) nothing fun _ => ?_
  refine accounts_bind.mpr ((accounts_burst _ _).mono ?_)
  rintro account ending ⟨⟨shape, onAir⟩, judged⟩
  rw [shape]
  cases ending with
  | none => exact .sending onAir (.inl ⟨rfl, rfl⟩)
  | some ending =>
      apply (accounts_settle describe _ ending (isQuiet_retreat describe)).mono
      intro more result counted
      rcases counted with ⟨unfinished, rfl⟩ | rfl
      · rw [unfinished, Account.append_empty]
        exact .sending onAir (.inl ⟨rfl, rfl⟩)
      · have whole (counter : Counter) : Account.taking (.transmit transmission) ++
            (⟨[], account.packets, account.primings, [], false⟩ ++ .counting counter) =
              ⟨[.transmit transmission], account.packets, account.primings, [counter], false⟩ := by
          simp [Account.append_def, Account.taking, Account.counting]
        simp only [whole, judged ending rfl]
        exact .sending onAir (.inr rfl)

/-- Whatever request was taken out, serving it makes a turn. -/
theorem accounts_serve (request : Request) :
    (serve describe setup request).Accounts fun account result =>
      (Account.taking request ++ account).IsTurn setup.key result.isSome := by
  cases request with
  | transmit transmission =>
      refine accounts_bind.mpr ((accounts_transmit describe setup transmission).mono ?_)
      rintro account (_ | result) turn
      · exact turn
      · simp only [Accounts, pure_eq, Follows, Account.ofDeeds_nil, Account.append_empty]
        exact turn
  | listen =>
      refine accounts_of_quiet (Uses.bind (isQuiet_listen describe) fun _ => uses_done _) ?_
      intro result
      exact .listening
  | shutdown =>
      have nothing : (Account.taking .shutdown ++ .empty).IsTurn setup.key false :=
        .stopping (by simp)
      refine accounts_bind.mpr (accounts_quiet_bind (isQuiet_report describe trivial) nothing ?_)
      intro _
      -- Only the two acts that are left, and saying so is the first.
      exact ⟨nothing, fun _ _ _ => ⟨.stopping (by simp), fun _ _ _ => .stopping fun _ => rfl⟩⟩

/-- Whatever the station finds to do, one step makes a turn. -/
theorem accounts_step :
    (step describe setup).Accounts fun account result =>
      account.IsTurn setup.key result.isSome := by
  refine accounts_quiet_bind ((uses_once _).mpr trivial) .idle fun activity => ?_
  split
  · exact Account.IsTurn.idle
  refine accounts_quiet_bind ((uses_once _).mpr trivial) .idle fun ready => ?_
  split
  · exact accounts_of_quiet (Uses.bind (isQuiet_fetch describe) fun _ => uses_done _)
      fun _ => .idle
  · refine ⟨.idle, fun request begun ended => ?_⟩
    cases request with
    | none => exact ⟨.idle, fun _ _ _ => .idle⟩
    | some request =>
        apply Follows.mono (accounts_serve describe setup request)
        intro deeds result turn
        simp only [Account.ofDeeds_cons _ deeds]
        exact turn

end Program

end ShutterRadio
