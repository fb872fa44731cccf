/-
# The radio is always put back to listening

Two halves make one statement.  On every device, whichever calls fail, each start
and each step that did a piece of work ends with the three calls that put the radio
to listening, `Deed.Return`.  On the board's register file, calls that were answered
leave their imprint, so if those three were, the registers say so, whatever state
the radio was left in before: half-way through a packet, or in any mode at all.

A call of the driver fails only if one of its own transactions does, so the three
calls are answered whenever their transactions succeed.  What happens to the radio
while one of them fails is not claimed.

All of it holds with a limit to the board's pauses and without.  Without one, nothing
that the driver gives up waiting for can keep a turn from its end, so each turn that
was begun comes to the three calls in fact.
-/

import ShutterRadio.Proofs.Chip.Patience
import ShutterRadio.Proofs.Chip.Tuning
import ShutterRadio.Proofs.Program.Return
import ShutterRadio.Proofs.Service.Turns

namespace ShutterRadio

open Bench (Board registerBus registerDevice Stuck)

/-- What holds of a device and is kept by reading its clock and by pauses is kept by
waiting. -/
theorem Timebase.wait_keeps {σ τ : Type} (base : Timebase σ τ) (holds : σ → Prop)
    (read : ∀ s, holds s → holds (base.read s).2)
    (pause : ∀ micros s s', holds s → base.pause micros s = .ok () s' → holds s')
    (deadline : Instant) {s s' : σ} (waited : base.wait deadline s = .ok () s')
    (initially : holds s) : holds s' := by
  by_cases remains : deadline.since (base.read s).1 = 0
  · rw [base.wait_of_reached deadline s remains] at waited
    injection waited with _ same
    subst same
    exact read s initially
  · cases slept : base.pause (min (deadline.since (base.read s).1) longestSlice)
        (base.read s).2 with
    | ok _ between =>
        rw [base.wait_of_paused deadline remains slept] at waited
        have shorter := base.remaining_decreases deadline _ remains slept
        have later := pause _ _ between (read s initially) slept
        exact base.wait_keeps holds read pause deadline waited later
    | error reason between =>
        rw [base.wait_of_refused deadline remains slept] at waited
        cases waited
termination_by deadline.since (base.time s)

/-! ## What acts leave in the registers -/

namespace Chip

/-- Register files that agree are left alike by every call. -/
theorem Contents.Agree.imprint {first second : Contents} (agree : Agree first second)
    (asked : Call) : Agree (Chip.imprint first asked) (Chip.imprint second asked) := by
  have config : first (Fin.ofNat 128 Register.syncConfig.address.toNat) =
      second (Fin.ofNat 128 Register.syncConfig.address.toNat) := agree _ (by decide) (by decide)
  have same : writes first asked = writes second asked := by
    cases asked with
    | setSync pattern =>
        show syncWrites first pattern = syncWrites second pattern
        unfold syncWrites
        rw [config]
    | _ => rfl
  unfold Chip.imprint
  rw [same]
  exact agree.puts _

end Chip

/-- What became of a call is what the device made of it. -/
theorem Station.perform_of_call {σ ε τ : Type} {d : Device σ ε τ} {asked : Call}
    {before after : Station σ} {answer : Except ε asked.Reply}
    (made : Station.call d asked before = .ok answer after) :
    (d.perform before.queue.activity asked before.device).ending =
        (match answer with
          | .ok reply => .answered reply
          | .error fault => .failed fault) ∧
      after.device = (d.perform before.queue.activity asked before.device).device := by
  simp only [Station.call] at made
  split at made
  · rename_i reply answered
    injection made with same changed
    subst same changed
    exact ⟨answered, rfl⟩
  · rename_i fault failed
    injection made with same changed
    subst same changed
    exact ⟨failed, rfl⟩
  · cases made

/-- What neither the clock nor a pause nor the light breaks is kept by all acts but
calls. -/
theorem Act.keeps_device {σ ε τ : Type} (d : Device σ ε τ) (holds : σ → Prop)
    (read : ∀ s, holds s → holds (d.read s).2)
    (pause : ∀ micros s s', holds s → d.pause micros s = .ok () s' → holds s')
    (indicate : ∀ level s, holds s → holds (d.indicate level s)) {act : Act}
    {answer : act.Answer ε} {before after : Station σ}
    (performed : act.perform d before = .ok answer after) (other : ∀ asked, act ≠ .call asked)
    (held : holds before.device) : holds after.device := by
  cases act with
  | call asked => exact absurd rfl (other asked)
  | clock =>
      have reading : Station.clock d before = .ok answer after := performed
      rw [(Station.clock_eq_ok reading).2]
      exact read _ held
  | pause micros => exact pause _ _ _ held (Station.passing_eq_ok performed).1
  | wait deadline =>
      have waited := (Station.passing_eq_ok performed).1
      exact d.toTimebase.wait_keeps holds read pause deadline waited held
  | light on =>
      injection performed with _ changed
      subst changed
      rcases before with ⟨setup, indicator, tally, queue, device, journal⟩
      cases indicator with
      | none => exact held
      | some polarity => exact indicate _ _ held
  | _ =>
      injection performed with _ changed
      subst changed
      exact held

namespace Bench

/-- The registers of the chip that a station works with. -/
def registers (station : Station (Chip.Driver Board)) : Chip.Contents :=
  station.device.bus.contents

variable {limit : Option Nat} {before after : Station (Chip.Driver Board)}

/-- A call that was answered leaves its imprint. -/
theorem imprint_of_call {asked : Call} {reply : asked.Reply}
    (made : Station.call (registerDevice limit) asked before = .ok (.ok reply) after) :
    Chip.Contents.Agree (Chip.imprint (registers before) asked) (registers after) := by
  obtain ⟨answered, device⟩ := Station.perform_of_call made
  unfold registers
  rw [device]
  obtain ⟨driver, ran, same⟩ := Chip.perform_answered answered
  have left := Chip.ends_answer asked { before.device with journal := [] } reply driver ran
  have unchanged :
      ((registerDevice limit).perform before.queue.activity asked before.device).device =
        { driver with journal := [] } := same
  rw [unchanged]
  exact left

/-- What the board does without its bus leaves the registers and the bus alone. -/
theorem keeps_aside (holds : Chip.Driver Board → Prop) {act : Act}
    (aside : ∀ driver bus, bus.registers = driver.bus.registers →
      bus.failingTransfers = driver.bus.failingTransfers → holds driver → holds { driver with bus })
    {answer : act.Answer Chip.Fault}
    (performed : act.perform (registerDevice limit) before = .ok answer after)
    (other : ∀ asked, act ≠ .call asked) (held : holds before.device) : holds after.device := by
  refine act.keeps_device (registerDevice limit) holds (fun driver => aside driver _ rfl rfl) ?_
    (fun level driver => aside driver _ rfl rfl) performed other held
  intro micros driver driver' held lapsed
  simp only [registerDevice, Chip.device, Timebase.focus, Board.timebase] at lapsed
  split at lapsed
  · rename_i bus slept
    injection lapsed with _ same
    subst same
    obtain ⟨registers, failing⟩ := Board.registers_pause slept
    exact aside driver bus registers failing held
  · cases lapsed

/-- All that is no call leaves the registers alone. -/
theorem registers_of_perform {act : Act} {answer : act.Answer Chip.Fault}
    (performed : act.perform (registerDevice limit) before = .ok answer after)
    (other : ∀ asked, act ≠ .call asked) : registers after = registers before := by
  apply keeps_aside (fun driver => driver.bus.contents = registers before) _ performed other rfl
  intro driver bus same _ held
  rw [← held]
  exact Board.contents_of_registers same

end Bench

namespace Service

/-! ## What a service leaves in the registers -/

section Board

variable {limit : Option Nat} {service : Service (Chip.Driver Board) Chip.Fault}

def registers (service : Service (Chip.Driver Board) Chip.Fault) : Chip.Contents :=
  Bench.registers service.station

/-- All that was answered since some moment has left its imprint, unless the station
got stuck in the middle of a call. -/
def Imprinted (service : Service (Chip.Driver Board) Chip.Fault) : Prop :=
  service.stuck = false → ∀ (earlier : List (Call × Bool)) (later : List Call),
    Deed.calls service.deeds = earlier ++ later.map (·, true) →
      ∃ start, Chip.Contents.Agree (later.foldl Chip.imprint start) service.registers

theorem Imprinted.unchanged {before after : Service (Chip.Driver Board) Chip.Fault}
    (imprinted : before.Imprinted) (registers : after.registers = before.registers)
    (calls : Deed.calls after.deeds = Deed.calls before.deeds)
    (able : after.stuck = false → before.stuck = false) : after.Imprinted := by
  intro going earlier later split
  rw [registers]
  exact imprinted (able going) earlier later (calls ▸ split)

/-- A call adds its imprint if it was answered; if not, one has to start anew. -/
theorem Imprinted.called {before after : Service (Chip.Driver Board) Chip.Fault} {asked : Call}
    {answer : Except Chip.Fault asked.Reply} (imprinted : before.Imprinted)
    (able : before.stuck = false)
    (made : Station.call (registerDevice limit) asked before.station = .ok answer after.station)
    (calls : Deed.calls after.deeds = Deed.calls before.deeds ++ [(asked, answer.isOk)]) :
    after.Imprinted := by
  intro _ earlier later split
  rcases List.eq_nil_or_concat later with rfl | ⟨more, last, rfl⟩
  · exact ⟨after.registers, .refl _⟩
  · rw [List.concat_eq_append, List.map_append, ← List.append_assoc] at split
    obtain ⟨before', same⟩ := List.append_inj' (calls.symm.trans split) rfl
    obtain ⟨start, left⟩ := imprinted able earlier more before'
    cases answer with
    | error fault => cases (List.cons.inj same).1
    | ok reply =>
        obtain rfl : asked = last := congrArg Prod.fst (List.cons.inj same).1
        refine ⟨start, ?_⟩
        rw [List.concat_eq_append, List.foldl_append]
        exact (left.imprint asked).trans (Bench.imprint_of_call made)

theorem imprinted_move (service : Service (Chip.Driver Board) Chip.Fault) (move : Move)
    (imprinted : service.Imprinted) : (service.move (registerDevice limit) move).Imprinted := by
  cases shows_move (registerDevice limit) service move with
  | nothing station deeds _ stuck =>
      apply imprinted.unchanged
      · rw [registers, station]
        rfl
      · rw [deeds]
      · rw [stuck]
        exact id
  | jam _ _ _ _ _ stuck =>
      intro going
      rw [stuck] at going
      cases going
  | dealing dealing granted deeds _ stuck =>
      apply imprinted.unchanged
      · rw [registers, (dealing.wish.explains_grant granted).station]
        rfl
      · rw [deeds]
      · rw [stuck]
        exact id
  | deed deed performed _ _ deeds _ able _ =>
      rcases deed with ⟨act, answer, begun, ended⟩
      cases act with
      | call asked => exact imprinted.called able performed (by rw [deeds, Deed.calls_append]; rfl)
      | _ =>
          apply imprinted.unchanged (Bench.registers_of_perform performed nofun)
          · rw [deeds, Deed.calls_append]
            exact List.append_nil _
          · exact fun _ => able

/-- No transaction is to fail, and all calls were answered; resetting the chip is left
out, as its line can fail apart from the bus. -/
def Sound (service : Service (Chip.Driver Board) Chip.Fault) : Prop :=
  service.station.device.bus.failingTransfers = [] ∧
    ∀ call ∈ Deed.calls service.deeds, call.1 ≠ .reset → call.2 = true

theorem Sound.called {before after : Service (Chip.Driver Board) Chip.Fault} {asked : Call}
    {answer : Except Chip.Fault asked.Reply} (sound : before.Sound)
    (made : Station.call (registerDevice limit) asked before.station = .ok answer after.station)
    (calls : Deed.calls after.deeds = Deed.calls before.deeds ++ [(asked, answer.isOk)]) :
    after.Sound := by
  obtain ⟨ending, device⟩ := Station.perform_of_call made
  constructor
  · rw [device, Chip.failing_perform]
    exact sound.1
  · intro call member proper
    rw [calls, List.mem_append, List.mem_singleton] at member
    rcases member with earlier | rfl
    · exact sound.2 call earlier proper
    · cases answer with
      | ok reply => rfl
      | error fault =>
          obtain ⟨number, failing, _⟩ :=
            (Chip.transacts_answer proper).exists_failing before.station.device ending
          rw [sound.1] at failing
          cases failing

/-- So were the calls that put the radio to listening. -/
theorem Sound.answered {turn : Turn Chip.Fault} {earlier : List (Call × Bool)}
    {synced formatted listening : Bool} (sound : service.Sound)
    (last : turn ∈ service.past.getLast?)
    (calls : Deed.calls turn.deeds =
      earlier ++ Station.listenCalls synced formatted listening) :
    synced ∧ formatted ∧ listening := by
  have answered (call : Call × Bool) (proper : call.1 ≠ .reset)
      (member : call ∈ Station.listenCalls synced formatted listening) : call.2 = true := by
    have among : turn ∈ service.turns :=
      List.mem_append_left _ (List.mem_of_getLast? last)
    have made : call ∈ Deed.calls turn.deeds := by
      rw [calls]
      exact List.mem_append_right _ member
    obtain ⟨deed, done, here⟩ := List.mem_filterMap.mp made
    exact sound.2 call
      (List.mem_filterMap.mpr ⟨deed, List.mem_flatMap.mpr ⟨turn, among, done⟩, here⟩) proper
  exact ⟨answered _ (by simp) (.head _), answered _ (by simp) (.tail _ (.head _)),
    answered _ (by simp) (.tail _ (.tail _ (.head _)))⟩

theorem sound_move (service : Service (Chip.Driver Board) Chip.Fault) (move : Move)
    (sound : service.Sound) : (service.move (registerDevice none) move).Sound := by
  cases shows_move (registerDevice none) service move with
  | nothing station deeds _ _ =>
      unfold Sound
      rw [station, deeds]
      exact sound
  | jam act reason stuck _ _ _ =>
      obtain ⟨_, _, performed⟩ :=
        Program.exists_perform Chip.patient_registerDevice act service.station
      rw [performed] at stuck
      cases stuck
  | dealing dealing granted deeds _ _ =>
      unfold Sound
      rw [(dealing.wish.explains_grant granted).station, deeds]
      exact sound
  | deed deed performed _ _ deeds _ _ _ =>
      rcases deed with ⟨act, answer, begun, ended⟩
      cases act with
      | call asked => exact sound.called performed (by rw [deeds, Deed.calls_append]; rfl)
      | _ =>
          constructor
          · exact Bench.keeps_aside (fun driver => driver.bus.failingTransfers = [])
              (fun _ _ _ same held => same.trans held) performed nofun sound.1
          · intro call member
            rw [deeds, Deed.calls_append] at member
            rcases List.mem_append.mp member with earlier | here
            · exact sound.2 call earlier
            · cases here

end Board

/-! ## Around any station -/

variable {σ ε τ : Type}

/-- A service around a station in whatever state. -/
def around (station : Station σ) : Service σ ε := ⟨station, none, false, [], []⟩

theorem faithful_around (d : Device σ ε τ) (station : Station σ) (moves : List Move) :
    ((around station : Service σ ε).run d moves).Faithful d station.setup :=
  run_induction d (faithful_move d station.setup)
    ⟨rfl, fun _ none => (List.not_mem_nil none).elim,
      fun _ none => (Option.not_mem_none _ none).elim⟩ moves

theorem imprinted_around {limit : Option Nat} (station : Station (Chip.Driver Board))
    (moves : List Move) :
    ((around station : Service (Chip.Driver Board) Chip.Fault).run (registerDevice limit)
      moves).Imprinted := by
  apply run_induction (registerDevice limit) imprinted_move
  intro _ earlier later split
  obtain rfl : later = [] := by
    have none := (List.append_eq_nil_iff.mp split.symm).2
    exact List.map_eq_nil_iff.mp none
  exact ⟨_, .refl _⟩

theorem sound_around (station : Station (Chip.Driver Board))
    (sound : station.device.bus.failingTransfers = []) (moves : List Move) :
    ((around station).run (registerDevice none) moves).Sound :=
  run_induction _ sound_move ⟨sound, fun _ none => (List.not_mem_nil none).elim⟩ moves

theorem able_around (d : Device σ ε τ) (station : Station σ) (moves : List Move) :
    ((around station : Service σ ε).run d moves).Able :=
  run_induction d (able_move d) (fun _ => rfl) moves

end Service

/-! ## The return to listening -/

/-- The registers of a chip that listens for frames. -/
structure Chip.IsListening (contents : Contents) : Prop where
  mode : contents 0x01 = 0x10
  /-- There is a sync word, of three bytes. -/
  sync : contents 0x2e &&& syncOn = syncOn ∧ syncSize (contents 0x2e) = 3
  value : contents 0x2f = 0xe1 ∧ contents 0x30 = 0xe1 ∧ contents 0x31 = 0xfe
  format : contents 0x37 = 0x20 ∧ contents 0x38 = 0x07

theorem Chip.IsListening.agree {first second : Contents} (listening : IsListening first)
    (agree : Contents.Agree first second) : IsListening second := by
  have same (place : Fin 128) (apart : place ≠ 0x27 ∧ place ≠ 0x28) :
      second place = first place := (agree place apart.1 apart.2).symm
  constructor
  · rw [same _ (by decide)]
    exact listening.mode
  · rw [same _ (by decide)]
    exact listening.sync
  · rw [same _ (by decide), same _ (by decide), same _ (by decide)]
    exact listening.value
  · rw [same _ (by decide), same _ (by decide)]
    exact listening.format

/-- The three calls put any chip to listening, whatever it was doing. -/
theorem Chip.isListening_imprint (start : Contents) :
    IsListening ([Call.setSync Station.listenSync, .setFormat true 7, .listen].foldl imprint
      start) := by
  let synced := start.puts (syncWrites start Station.listenSync)
  let formatted := synced.put .packetConfig [0x20, 0x07]
  let listening := formatted.put .mode [0x10]
  have mode : listening.byte .mode 0 = 0x10 :=
    Contents.byte_put_self (by decide) (.inr (by decide)) (Nat.succ_pos 0)
  have behind {asked : Register} {offset : Nat} (inFile : asked.address.toNat + offset < 128)
      (later : 0x02 ≤ asked.address.toNat + offset) :
      listening.byte asked offset = formatted.byte asked offset :=
    Contents.byte_put_apart inFile (.inr (.inr later))
  have format (offset : Nat) (within : offset < 2) :
      formatted.byte .packetConfig offset = [0x20, (0x07 : UInt8)][offset] :=
    Contents.byte_put_self (by decide) (.inr (by decide)) within
  have before {asked : Register} {offset : Nat} (earlier : asked.address.toNat + offset < 0x37)
      (later : 0x02 ≤ asked.address.toNat + offset) :
      listening.byte asked offset = synced.byte asked offset :=
    (behind (Nat.lt_trans earlier (by decide)) later).trans
      (Contents.byte_put_apart (Nat.lt_trans earlier (by decide)) (.inr (.inl earlier)))
  have config : listening.byte .syncConfig 0 =
      syncConfigFor (start.byte .syncConfig 0) Station.listenSync :=
    (before (by decide) (by decide)).trans (Tuning.byte_config_of_puts_sync _)
  have value (offset : Nat) (within : offset < 3) :
      listening.byte .syncValue offset = Station.listenSync[offset] :=
    (before (by simp [Register.address]; omega) (by simp [Register.address]; omega)).trans
      (Tuning.byte_value_of_puts_sync Station.listenSync within)
  have word : Station.listenSync ≠ [] := by decide
  obtain ⟨on, size, -⟩ := syncConfigFor_word (start.byte .syncConfig 0) word (by decide)
  constructor
  · exact mode
  · show listening.byte .syncConfig 0 &&& syncOn = syncOn ∧
      syncSize (listening.byte .syncConfig 0) = 3
    rw [config]
    exact ⟨on, size⟩
  · exact ⟨value 0 (by decide), value 1 (by decide), value 2 (by decide)⟩
  · exact ⟨(behind (by decide) (by decide)).trans (format 0 (by decide)),
      (behind (by decide) (by decide)).trans (format 1 (by decide))⟩

namespace Turn

variable {σ ε τ : Type}

/-- A turn that has work in it: a start, or a step that began a piece of work. -/
def HasWork (turn : Turn ε) : Prop :=
  turn.task = .start ∨ ∃ deed ∈ turn.deeds, deed.begins = true

theorem IsPath.returns {d : Device σ ε τ} {setup : Setup} {turn : Turn ε}
    (path : turn.IsPath d setup) (ended : turn.flow.isSome) (work : turn.HasWork) :
    Deed.Return turn.deeds := by
  obtain ⟨rest, leads, flow⟩ := path
  rw [flow] at ended
  cases kind : turn.task with
  | start =>
      rw [kind] at leads
      have returns : (Task.start.program d.describe setup).Returns :=
        (Program.returns_start d.describe setup).before fun _ => Program.uses_done _
      exact leads.satisfies returns ended
  | step =>
      rw [kind] at leads
      have works : ∃ deed ∈ turn.deeds, deed.begins = true :=
        work.resolve_left (by rw [kind]; nofun)
      exact leads.satisfies (Program.fromWork_step d.describe setup) ended works

end Turn

namespace Service

/-- Whatever state a station is in and whichever calls fail, each start and each step
that did a piece of work ends with the calls that put the radio to listening.  With
the chip's driver the registers then say so, until there is more to do, if those calls
were answered; and a call is answered unless a transaction of its own fails.  Where the
board refuses no pause, a turn comes to that end whatever the driver waits for in vain. -/
theorem run_returns :
    (∀ {σ ε τ : Type} (d : Device σ ε τ) (station : Station σ) (moves : List Move),
      ∀ turn ∈ ((around station : Service σ ε).run d moves).turns,
        turn.flow.isSome → turn.HasWork → Deed.Return turn.deeds) ∧
    (∀ (limit : Option Nat) (station : Station (Chip.Driver Board)) (moves : List Move),
      let service := (around station : Service (Chip.Driver Board) Chip.Fault).run
        (registerDevice limit) moves
      service.job = none → ∀ turn ∈ service.past.getLast?, turn.HasWork →
        ∃ earlier synced formatted listening, Deed.calls turn.deeds =
            earlier ++ Station.listenCalls synced formatted listening ∧
          (synced ∧ formatted ∧ listening → Chip.IsListening service.registers)) ∧
    (∀ (station : Station (Chip.Driver Board)) (moves : List Move),
      let service := (around station : Service (Chip.Driver Board) Chip.Fault).run
        (registerDevice none) moves
      service.stuck = false ∧
        ∀ job ∈ service.job, ∃ acts more flow,
          let rested := service.run (registerDevice none) (List.replicate acts .proceed)
          rested.job = none ∧
            rested.past = service.past ++ [⟨job.task, job.deeds ++ more, some flow⟩]) ∧
    ∀ (limit : Option Nat) (activity : Activity) (asked : Call) (driver : Chip.Driver Board)
        (fault : Chip.Fault),
      let performed := (registerDevice limit).perform activity asked driver
      asked ≠ .reset → performed.ending = .failed fault →
        ∃ number ∈ driver.bus.failingTransfers, driver.bus.transfers ≤ number ∧
          number < performed.device.bus.transfers := by
  refine ⟨?_, ?_, ?_, ?_⟩
  · intro _ _ _ d station moves turn member ended work
    exact ((faithful_around d station moves).isPath member).returns ended work
  · intro limit station moves service resting turn last work
    have faithful : service.Faithful (registerDevice limit) station.setup :=
      faithful_around (registerDevice limit) station moves
    obtain ⟨path, ended⟩ := faithful.past turn (List.mem_of_getLast? last)
    obtain ⟨earlier, synced, formatted, listening, calls, -⟩ := path.returns ended work
    refine ⟨earlier, synced, formatted, listening, calls, ?_⟩
    rintro ⟨rfl, rfl, rfl⟩
    obtain ⟨others, past⟩ := List.getLast?_eq_some_iff.mp last
    have all : Deed.calls service.deeds =
        (Deed.calls (others.flatMap Turn.deeds) ++ earlier) ++
          [Call.setSync Station.listenSync, .setFormat true 7, .listen].map (·, true) := by
      rw [deeds_eq, resting, past, List.flatMap_append]
      simp [calls, Station.listenCalls]
    obtain ⟨start, left⟩ := imprinted_around station moves
      (able_around (registerDevice limit) station moves resting) _ _ all
    exact (Chip.isListening_imprint start).agree left
  · intro station moves service
    have able : service.stuck = false :=
      run_induction _ (unstuck_move Chip.patient_registerDevice) rfl moves
    exact ⟨able, fun job begun => exists_run_rests Chip.patient_registerDevice service able begun⟩
  · intro limit activity asked driver fault performed proper failed
    exact (Chip.transacts_answer proper).exists_failing driver failed

end Service

/-- A board whose chip never shows that it is ready or that a packet has left. -/
def Bench.mute : Board := { Board.blank with flags := ⟨0, 0⟩ }

/-- A station on it that was asked to send a frame four times and has begun to, after so
many more acts. -/
def Bench.unheeded (acts : Nat) : Service (Chip.Driver Board) Chip.Fault :=
  (Service.around (.fresh .standard none (.fresh mute))).run (registerDevice none)
    ([.ask (.send ⟨⟨5, 7, .up⟩, 3⟩), .set .step, .proceed, .proceed, .proceed] ++
      List.replicate acts .proceed)

/-- Each wait for the chip is given up, and in the end the radio listens. -/
theorem Service.run_returns_unheeded :
    ∃ acts, (Bench.unheeded acts).job = none ∧ (Bench.unheeded acts).stuck = false ∧
      Chip.IsListening (Bench.unheeded acts).registers := by
  let station : Station (Chip.Driver Board) := .fresh .standard none (.fresh Bench.mute)
  have sound (acts : Nat) : (Bench.unheeded acts).Sound := sound_around station rfl _
  obtain ⟨-, returns, comes, -⟩ := run_returns
  have works : ((Bench.unheeded 0).job.map fun job => job.deeds.any Deed.begins) = some true := by
    decide +kernel
  obtain ⟨job, at_, began⟩ := Option.map_eq_some_iff.mp works
  obtain ⟨acts, more, flow, rests, past⟩ := (comes station _).2 job at_
  have onwards : (Bench.unheeded 0).run (registerDevice none) (List.replicate acts .proceed) =
      Bench.unheeded acts := by
    unfold Bench.unheeded
    rw [← run_append, List.append_assoc, List.replicate_append_replicate, Nat.zero_add]
  change ((Bench.unheeded 0).run (registerDevice none) _).job = none at rests
  change ((Bench.unheeded 0).run (registerDevice none) _).past = [] ++ _ at past
  rw [onwards] at rests past
  have last : ⟨job.task, job.deeds ++ more, some flow⟩ ∈ (Bench.unheeded acts).past.getLast? := by
    rw [past]
    rfl
  have work : Turn.HasWork ⟨job.task, job.deeds ++ more, some flow⟩ := by
    obtain ⟨deed, member, begins⟩ := List.any_eq_true.mp began
    exact .inr ⟨deed, List.mem_append_left _ member, begins⟩
  obtain ⟨earlier, synced, formatted, listening, calls, listens⟩ :=
    returns none station _ rests _ last work
  exact ⟨acts, rests, (comes station _).1, listens ((sound acts).answered last calls)⟩

end ShutterRadio
