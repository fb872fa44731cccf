/-
# What a whole run puts on air

A request to send that the station has taken out becomes a sending: the packets
that went on air for it, and how its burst was counted.  `run_onAir` says of
every run that these sendings are all there is on air.  They stand in the order
in which the requests were accepted, each is the beginning of its own block, and
none begins before the one before it has ended.

A burst counts as sent in full if its whole block went on air, with one
exception, which `Burst.IsFulfilled` spells out: without repeats, the block ends
before the sync word of the repeats is set, and a radio that refuses it makes
the burst count as abandoned although nothing of the block is missing.
-/

import Mathlib
import ShutterRadio.Bench.Recorder
import ShutterRadio.Proofs.Service.Clock
import ShutterRadio.Proofs.Service.Turns

namespace ShutterRadio

/-- What has become of a request to send. -/
structure Sending where
  transmission : Transmission
  airings : List Airing
  primings : List Bool
  verdicts : List Counter
  finished : Bool

def Sending.isCounted (sending : Sending) : Bool := !sending.verdicts.isEmpty

/-- What a sending of a station with a key is like.  Its packets are the beginning
of its block, and at the latest in the end its burst is counted, once. -/
structure Sending.IsSound (key : UInt8) (sending : Sending) : Prop where
  block : sending.airings.map Airing.packet <+:
    Burst.packets (.encode key sending.transmission.command) sending.transmission.repeats.toNat
  verdicts : sending.finished = false ∧ sending.verdicts = [] ∨
    sending.verdicts = [if Burst.IsFulfilled (.encode key sending.transmission.command)
      sending.transmission.repeats.toNat (sending.airings.map Airing.packet) sending.primings
      then .sent else .abandoned]

namespace Turn

variable {σ ε τ : Type}

/-- The sending of a turn, if it took a request to send. -/
def sending? (turn : Turn ε) : Option Sending :=
  (turn.account.requests.filterMap Request.transmission?).head?.map fun transmission =>
    { transmission
      airings := turn.deeds.filterMap Deed.airing?
      primings := turn.account.primings
      verdicts := turn.account.verdicts
      finished := turn.flow.isSome }

/-- What a turn did shows in its sending, if it has one, and otherwise nothing of
it is on air or counted. -/
theorem IsPath.sending {d : Device σ ε τ} {setup : Setup} {turn : Turn ε}
    (path : turn.IsPath d setup) :
    turn.deeds.filterMap Deed.airing? = turn.sending?.toList.flatMap Sending.airings ∧
    turn.account.requests.filterMap Request.transmission? =
      turn.sending?.toList.map Sending.transmission ∧
    turn.account.verdicts = turn.sending?.toList.flatMap Sending.verdicts ∧
    ∀ sending ∈ turn.sending?, sending.IsSound setup.key ∧ sending.finished = turn.flow.isSome := by
  have isTurn := path.isTurn
  have packets : (turn.deeds.filterMap Deed.airing?).map Airing.packet = turn.account.packets :=
    map_packet_airing? turn.deeds
  unfold sending?
  generalize turn.deeds.filterMap Deed.airing? = airings at packets
  generalize turn.account = account at isTurn packets
  generalize turn.flow.isSome = finished at isTurn
  cases isTurn with
  | sending block counted =>
      refine ⟨by simp [Request.transmission?], rfl, by simp [Request.transmission?],
        fun sending here => ?_⟩
      obtain rfl := Option.mem_some.mp here
      exact ⟨⟨packets ▸ block, packets ▸ counted⟩, rfl⟩
  | _ =>
      obtain rfl := List.map_eq_nil_iff.mp packets
      exact ⟨rfl, rfl, rfl, nofun⟩

end Turn

namespace Service

variable {σ ε τ : Type}

/-- What has become of the requests to send that the station took out, in order. -/
def sendings (service : Service σ ε) : List Sending := service.turns.filterMap Turn.sending?

/-- The packets that went on air, in order. -/
def airings (service : Service σ ε) : List Airing := service.deeds.filterMap Deed.airing?

/-- What every turn shows in its sending, a service shows in its sendings. -/
theorem flatMap_sendings {β : Type} {service : Service σ ε} {ofTurn : Turn ε → List β}
    {ofSending : Sending → List β}
    (shows : ∀ turn ∈ service.turns, ofTurn turn = turn.sending?.toList.flatMap ofSending) :
    service.turns.flatMap ofTurn = service.sendings.flatMap ofSending := by
  rw [sendings, List.filterMap_eq_flatMap_toList, List.flatMap_assoc]
  exact List.flatMap_congr shows

variable {d : Device σ ε τ} {setup : Setup} {service : Service σ ε}

/-- There is nothing on air but sendings. -/
theorem Faithful.airings (faithful : service.Faithful d setup) :
    service.airings = service.sendings.flatMap Sending.airings := by
  rw [Service.airings, deeds, List.filterMap_flatMap]
  exact flatMap_sendings fun turn member => (faithful.isPath member).sending.1

/-- The sendings stand in the order in which their requests were taken out. -/
theorem Faithful.transmissions (faithful : service.Faithful d setup) :
    service.account.requests.filterMap Request.transmission? =
      service.sendings.map Sending.transmission := by
  rw [requests_account, List.filterMap_flatMap, List.map_eq_flatMap]
  apply flatMap_sendings
  intro turn member
  rw [(faithful.isPath member).sending.2.1, List.map_eq_flatMap]

theorem Faithful.verdicts (faithful : service.Faithful d setup) :
    service.account.verdicts = service.sendings.flatMap Sending.verdicts := by
  rw [verdicts_account]
  exact flatMap_sendings fun turn member => (faithful.isPath member).sending.2.2.1

theorem Faithful.isSound (faithful : service.Faithful d setup) {sending : Sending}
    (member : sending ∈ service.sendings) : sending.IsSound setup.key := by
  obtain ⟨turn, among, here⟩ := List.mem_filterMap.mp member
  exact ((faithful.isPath among).sending.2.2.2 sending here).1

theorem Faithful.finished_of_isPath (faithful : service.Faithful d setup) {turn : Turn ε}
    (among : turn ∈ service.turns) (said : turn.flow.isSome) {sending : Sending}
    (here : turn.sending? = some sending) : sending.finished = true :=
  ((faithful.isPath among).sending.2.2.2 sending here).2.trans said

theorem Faithful.sending_finished (faithful : service.Faithful d setup) {sending : Sending}
    (member : sending ∈ service.sendings.dropLast) : sending.finished = true := by
  have earlier : sending ∈ service.turns.dropLast.filterMap Turn.sending? := by
    rcases List.eq_nil_or_concat service.turns with none | ⟨turns, last, split⟩
    · simp [sendings, none] at member
    · rw [List.concat_eq_append] at split
      rw [split, List.dropLast_concat]
      rw [sendings, split, List.filterMap_append] at member
      cases present : last.sending? with
      | none =>
          rw [List.filterMap_cons_none present, List.filterMap_nil, List.append_nil] at member
          exact List.dropLast_subset _ member
      | some other =>
          rwa [List.filterMap_cons_some present, List.filterMap_nil, List.dropLast_concat]
            at member
  obtain ⟨turn, among, here⟩ := List.mem_filterMap.mp earlier
  exact faithful.finished_of_isPath (List.dropLast_subset _ among) (faithful.finished among) here

/-- While the station is at nothing, all sendings are over. -/
theorem Faithful.sending_finished_of_resting (faithful : service.Faithful d setup)
    (resting : service.job = none) {sending : Sending} (member : sending ∈ service.sendings) :
    sending.finished = true := by
  obtain ⟨turn, among, here⟩ := List.mem_filterMap.mp member
  have past : turn ∈ service.past := by simpa [turns, resting] using among
  exact faithful.finished_of_isPath among (faithful.past turn past).2 here

end Service

/-! ## Counting sendings -/

/-- A sending is not counted, or once, as sent in full or as abandoned. -/
theorem Sending.IsSound.verdicts_cases {key : UInt8} {sending : Sending}
    (sound : sending.IsSound key) :
    sending.verdicts = [] ∨ sending.verdicts = [.sent] ∨ sending.verdicts = [.abandoned] := by
  rcases sound.verdicts with ⟨-, none⟩ | once
  · exact .inl none
  · rw [once]
    split
    · exact .inr (.inl rfl)
    · exact .inr (.inr rfl)

/-- How often sendings were counted in some way is how many of them were. -/
theorem count_verdicts {key : UInt8} {sendings : List Sending}
    (sound : ∀ sending ∈ sendings, sending.IsSound key) (counter : Counter) :
    (sendings.flatMap Sending.verdicts).count counter =
      sendings.countP fun sending => sending.verdicts = [counter] := by
  induction sendings with
  | nil => rfl
  | cons sending sendings ih =>
      have there := ih fun other member => sound other (by simp [member])
      rw [List.flatMap_cons, List.count_append, there, List.countP_cons, Nat.add_comm]
      rcases (sound sending (by simp)).verdicts_cases with none | once | once
      · simp [none]
      · simp [once, List.count_singleton]
      · simp [once, List.count_singleton]

/-- A sending that was counted was counted as sent in full or as abandoned. -/
theorem countP_isCounted {key : UInt8} {sendings : List Sending}
    (sound : ∀ sending ∈ sendings, sending.IsSound key) :
    (sendings.countP fun sending => sending.verdicts = [.sent]) +
        (sendings.countP fun sending => sending.verdicts = [.abandoned]) =
      sendings.countP Sending.isCounted := by
  induction sendings with
  | nil => rfl
  | cons sending sendings ih =>
      have there := ih fun other member => sound other (by simp [member])
      rw [List.countP_cons, List.countP_cons, List.countP_cons, ← there]
      rcases (sound sending (by simp)).verdicts_cases with none | once | once
      · simp [Sending.isCounted, none]
      · simp [Sending.isCounted, once]
        omega
      · simp [Sending.isCounted, once]
        omega

namespace Service

variable {σ ε τ : Type}

/-- What a whole run puts on air, whatever the radio refuses and producers do
meanwhile.  The packets on air are those of the sendings, one after the other.
The sendings are of the requests to send in the order in which these were
accepted, and those that still wait come behind them.  Each puts the beginning
of its own block on air; all but the last are over, and so is that one while the
station is at nothing.  One that is over was counted once: as sent in full if
its block is complete, unless it has no repeats and the radio refused the sync
word of the repeats, and as abandoned otherwise.  The tally agrees with that.
No packet begins before all earlier ones have ended. -/
theorem run_onAir {d : Device σ ε τ} (keeps : d.KeepsTime) (setup : Setup)
    (indicator : Option Polarity) (device : σ) (moves : List Move) :
    let service := (fresh setup indicator device : Service σ ε).run d moves
    service.airings = service.sendings.flatMap Sending.airings ∧
    service.accepted.filterMap Request.transmission? =
      service.sendings.map Sending.transmission ++
        service.waiting.filterMap Request.transmission? ∧
    (∀ sending ∈ service.sendings, sending.IsSound setup.key) ∧
    (∀ sending ∈ service.sendings.dropLast, sending.finished = true) ∧
    (service.job = none → ∀ sending ∈ service.sendings, sending.finished = true) ∧
    service.station.tally.sent =
      UInt32.ofNat (service.sendings.countP fun sending => sending.verdicts = [.sent]) ∧
    service.station.tally.abandoned =
      UInt32.ofNat (service.sendings.countP fun sending => sending.verdicts = [.abandoned]) ∧
    service.station.tally.sent + service.station.tally.abandoned =
      UInt32.ofNat (service.sendings.countP Sending.isCounted) ∧
    service.airings.Pairwise fun earlier later => earlier.ended ≤ later.begun := by
  intro service
  have balanced : service.Balanced := balanced_run d setup indicator device moves
  have faithful : service.Faithful d setup := faithful_run d setup indicator device moves
  have timed : service.Timed d := timed_run keeps setup indicator device moves
  have sound (sending : Sending) (member : sending ∈ service.sendings) :
      sending.IsSound setup.key := faithful.isSound member
  have counts (counter : Counter) (watched : counter = .sent ∨ counter = .abandoned) :
      service.station.tally.count counter =
        UInt32.ofNat (service.sendings.countP fun sending => sending.verdicts = [counter]) := by
    rw [balanced.tally counter watched, faithful.verdicts, count_verdicts sound]
  have sent := counts .sent (.inl rfl)
  have abandoned := counts .abandoned (.inr rfl)
  refine ⟨faithful.airings, ?_, sound, fun _ => faithful.sending_finished,
    fun resting _ => faithful.sending_finished_of_resting resting, sent, abandoned, ?_, ?_⟩
  · rw [balanced.requests, List.filterMap_append, faithful.transmissions]
  · rw [← countP_isCounted sound, UInt32.ofNat_add, ← sent, ← abandoned]
    rfl
  · apply timed.order.filterMap _
    intro earlier later apart first here second there
    rw [(Deed.times_of_airing? here).2, (Deed.times_of_airing? there).1]
    exact apart

end Service

/-! ## The exception -/

theorem Bench.keepsTime_recorder : recorder.KeepsTime where
  perform activity asked board := by
    show board.now ≤ (board.perform activity asked).device.now
    unfold Board.perform
    dsimp only
    split
    · exact Nat.le_refl _
    · cases asked with
      | transmit packet =>
          simp only [Board.comply, Board.takeAirtime]
          split <;> exact board.now.le_later _
      | receive length =>
          simp only [Board.comply]
          split <;> exact Nat.le_refl _
      | _ => exact Nat.le_refl _
  indicate level board := Nat.le_refl _

/-- A press without repeats on a radio that refuses its eighth call, which is to
set the sync word of the repeats. -/
def Bench.unprimed : Service Board RadioFault :=
  (Service.fresh .standard none { Board.blank with failingCalls := [7] }).run recorder
    (.ask (.send ⟨⟨5, 7, .up⟩, 0⟩) :: .set .step :: List.replicate 40 .proceed)

/-- The whole block is on air, and the burst counts as abandoned. -/
theorem Service.run_onAir_unprimed :
    Bench.recorder.KeepsTime ∧
    (∀ sending ∈ Bench.unprimed.sendings, sending.IsSound Frame.standardKey) ∧
    (Bench.unprimed.sendings.map fun sending =>
      (sending.airings.map Airing.packet, sending.verdicts, sending.finished)) =
        [(Burst.packets (.encode Frame.standardKey ⟨5, 7, .up⟩) 0, [.abandoned], true)] :=
  ⟨Bench.keepsTime_recorder,
    (run_onAir Bench.keepsTime_recorder .standard none _ _).2.2.1, by cbv⟩

end ShutterRadio
