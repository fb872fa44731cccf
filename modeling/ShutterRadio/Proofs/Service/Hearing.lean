/-
# What a service has heard is accounted for

Frames come in and readers take receptions away at any moment, in any order.
Still the receive buffer and the readers together have every press that found a
place, once and in order, the copies that readers are told of are those that
were recorded, and the tally counts every packet that was fetched.

Two things carry this.  `Service.Truthful` relates the state to the books after
every move, and says nothing of how far the station has come with a packet.
`Deed.Intake` says how far that can be, turn by turn.  While the station is at a
turn, one packet may be in its hands that is not counted yet; `Service.run_hears`
therefore speaks of at most one such packet, and of none while the station rests.
-/

import ShutterRadio.Proofs.Program.Intake
import ShutterRadio.Proofs.Service.Turns

namespace ShutterRadio

/-! ## What changes the receive buffer and the tally -/

/-- How a station changes while it does a deed, as far as what it heard goes. -/
structure Deed.Hears {σ ε : Type} (deed : Deed ε) (before after : Station σ) : Prop where
  received : match deed.recording? with
    | none => after.queue.received = before.queue.received
    | some ⟨command, placement⟩ =>
        ∃ now, before.queue.received.record command now = (placement, after.queue.received)
  tally : ∀ counter, after.tally.count counter =
    before.tally.count counter + UInt32.ofNat (counted counter [deed])

theorem Deed.hears_of_same {σ ε : Type} {deed : Deed ε} {before after : Station σ}
    (silent : deed.recording? = none) (uncounted : deed.counter? = none)
    (same : after.queue.received = before.queue.received ∧ after.tally = before.tally) :
    deed.Hears before after := by
  constructor
  · simpa only [silent] using same.1
  · intro counter
    simp [uncounted, same.2]

theorem Deed.hears {σ ε τ : Type} (d : Device σ ε τ) (deed : Deed ε)
    {before after : Station σ} (performed : deed.act.perform d before = .ok deed.answer after) :
    deed.Hears before after := by
  rcases deed with ⟨act, answer, begun, ended⟩
  replace performed : act.perform d before = .ok answer after := performed
  cases act with
  | record command stamp =>
      obtain ⟨placed, rfl⟩ := Station.consult_eq_ok (·.record command stamp) performed
      refine ⟨⟨stamp, Prod.ext placed rfl⟩, fun counter => ?_⟩
      simp [Deed.counter?]
  | count counter =>
      injection performed with same changed
      subst changed
      refine ⟨rfl, fun other => ?_⟩
      rw [Tally.count_bump]
      by_cases here : counter = other <;> simp [Deed.counter?, here]
  | next =>
      obtain ⟨-, rfl⟩ := Station.consult_eq_ok Queue.take performed
      obtain ⟨-, others⟩ := before.queue.take_eq
      exact hears_of_same rfl rfl ⟨by rw [others], rfl⟩
  | become activity =>
      injection performed with same changed
      subst changed
      exact hears_of_same rfl rfl ⟨rfl, rfl⟩
  | _ =>
      obtain ⟨device, journal, ready, rfl⟩ := Act.neutral_eq performed trivial
      exact hears_of_same rfl rfl ⟨rfl, rfl⟩

/-- An act that got stuck records nothing and counts nothing. -/
theorem Act.hears_stuck {σ ε τ : Type} (d : Device σ ε τ) (act : Act)
    {before after : Station σ} {reason : τ} (stuck : act.perform d before = .error reason after) :
    after.queue.received = before.queue.received ∧ after.tally = before.tally := by
  obtain ⟨device, journal, ready, rfl⟩ := Act.stuck_eq stuck
  exact ⟨rfl, rfl⟩

/-- The reception that a reader was handed. -/
def Dealing.delivered? : Dealing → Option Reception
  | ⟨.read _, reception⟩ => reception
  | _ => none

/-- What a producer is handed was the oldest, and no other wish changes what was
received. -/
theorem Wish.received_grant {σ : Type} (wish : Wish) {before after : Station σ}
    {answer : wish.Answer} (granted : wish.grant before = .ok answer after) :
    match (⟨wish, answer⟩ : Dealing).delivered? with
    | none => after.queue.received = before.queue.received
    | some reception => ∃ now,
        before.queue.received.takeSettled? now = some (reception, after.queue.received) := by
  have offered {request : Request} {accepted : Bool}
      (tried : (Station.offer request : Station.Work σ Empty Bool) before = .ok accepted after) :
      after.queue.received = before.queue.received := by
    rw [Station.offer_eq] at tried
    injection tried with _ changed
    subst changed
    rw [before.queue.offer_aside request]
  cases wish with
  | send transmission => exact offered granted
  | listen => exact offered granted
  | close =>
      rw [grant, Station.tryClose_eq] at granted
      injection granted with _ changed
      subst changed
      show (Queue.close before.queue).2.received = _
      rw [before.queue.close_aside]
  | announce =>
      injection granted with _ changed
      subst changed
      rfl
  | read now =>
      obtain ⟨same, rfl⟩ := Station.consult_eq_ok (Queue.collect · now) granted
      subst same
      simp only [Dealing.delivered?, Queue.collect, Queue.read?]
      cases taken : before.queue.received.takeSettled? now with
      | none => rfl
      | some settled => exact ⟨now, taken⟩

namespace Service

variable {σ ε τ : Type}

/-! ## The books about receptions -/

/-- What was handed to the receive buffer, in order. -/
def recordings (service : Service σ ε) : List Recording :=
  service.deeds.filterMap Deed.recording?

/-- The presses that the station has heard, in order. -/
def presses (service : Service σ ε) : List Press :=
  Press.ofRecordings service.recordings

/-- What readers were handed, in order. -/
def delivered (service : Service σ ε) : List Reception :=
  service.dealings.filterMap Dealing.delivered?

/-- What waits for readers, oldest first. -/
def buffered (service : Service σ ε) : List Reception :=
  service.station.queue.received.receptions

/-- The books agree with what readers can see. -/
structure Truthful (service : Service σ ε) : Prop where
  keeps : service.station.queue.received.Keeps service.delivered service.presses
  copies : (service.presses.map Press.copies).sum = Deed.placed .repeated service.deeds
  tally : ∀ counter, service.station.tally.count counter =
    UInt32.ofNat (Deed.counted counter service.deeds)

theorem truthful_fresh (setup : Setup) (indicator : Option Polarity) (device : σ) :
    (fresh setup indicator device : Service σ ε).Truthful where
  keeps := ReceiveBuffer.keeps_empty
  copies := rfl
  tally counter := by cases counter <;> rfl

/-- Where nothing shows, the books stay right. -/
theorem Truthful.unchanged {before after : Service σ ε} (truthful : before.Truthful)
    (received : after.station.queue.received = before.station.queue.received)
    (tally : after.station.tally = before.station.tally) (deeds : after.deeds = before.deeds)
    (delivered : after.delivered = before.delivered) : after.Truthful where
  keeps := by
    rw [received, delivered, presses, recordings, deeds]
    exact truthful.keeps
  copies := by
    rw [presses, recordings, deeds]
    exact truthful.copies
  tally counter := by
    rw [tally, deeds]
    exact truthful.tally counter

/-- A deed keeps the books right. -/
theorem Truthful.heard {before after : Service σ ε} {deed : Deed ε} (truthful : before.Truthful)
    (hears : deed.Hears before.station after.station)
    (deeds : after.deeds = before.deeds ++ [deed])
    (dealings : after.dealings = before.dealings) : after.Truthful := by
  have handed : after.delivered = before.delivered := by rw [Service.delivered, dealings]; rfl
  have added : after.recordings = before.recordings ++ deed.recording?.toList := by
    rw [Service.recordings, deeds, List.filterMap_append]
    cases here : deed.recording? <;> simp [Service.recordings, here]
  have tally (counter : Counter) : after.station.tally.count counter =
      UInt32.ofNat (Deed.counted counter after.deeds) := by
    rw [hears.tally, truthful.tally, deeds, Deed.counted_append, UInt32.ofNat_add]
  have received := hears.received
  cases here : deed.recording? with
  | none =>
      rw [here] at added received
      have presses : after.presses = before.presses := by
        simp [Service.presses, added]
      refine ⟨?_, ?_, tally⟩
      · rw [received, handed, presses]
        exact truthful.keeps
      · rw [presses, deeds, truthful.copies]
        simp [here]
  | some recording =>
      rw [here] at added received
      have presses : after.presses = Press.record before.presses recording := by
        simp [Service.presses, added]
      obtain ⟨now, recorded⟩ := received
      have kept := truthful.keeps.record recording.command now
      rw [recorded] at kept
      refine ⟨?_, ?_, tally⟩
      · rw [handed, presses]
        exact kept
      · have latest (copy : recording.placement = .repeated) : before.presses ≠ [] :=
          truthful.keeps.ne_nil ((congrArg Prod.fst recorded).trans copy)
        rw [presses, Press.sum_copies_record latest, truthful.copies, deeds]
        simp [here]

/-- A dealing keeps the books right. -/
theorem Truthful.dealt {before after : Service σ ε} {dealing : Dealing}
    (truthful : before.Truthful)
    (granted : dealing.wish.grant before.station = .ok dealing.answer after.station)
    (deeds : after.deeds = before.deeds)
    (dealings : after.dealings = before.dealings ++ [dealing]) : after.Truthful := by
  have tally : after.station.tally = before.station.tally := by
    rw [(dealing.wish.explains_grant granted).station]
  have handed : after.delivered = before.delivered ++ dealing.delivered?.toList := by
    rw [Service.delivered, dealings, List.filterMap_append]
    cases here : dealing.delivered? <;> simp [Service.delivered, here]
  have received := dealing.wish.received_grant granted
  cases here : dealing.delivered? with
  | none =>
      rw [here] at received handed
      exact truthful.unchanged received tally deeds (by simpa using handed)
  | some reception =>
      rw [here] at received handed
      obtain ⟨now, taken⟩ := received
      refine ⟨?_, ?_, fun counter => ?_⟩
      · rw [handed, presses, recordings, deeds]
        exact truthful.keeps.taken taken
      · rw [presses, recordings, deeds]
        exact truthful.copies
      · rw [tally, deeds]
        exact truthful.tally counter

theorem truthful_move (d : Device σ ε τ) (service : Service σ ε) (move : Move)
    (truthful : service.Truthful) : (service.move d move).Truthful := by
  cases shows_move d service move with
  | nothing station deeds dealings _ =>
      exact truthful.unchanged (by rw [station]) (by rw [station]) deeds
        (by rw [delivered, dealings]; rfl)
  | deed deed performed _ _ deeds dealings _ _ =>
      exact truthful.heard (deed.hears d performed) deeds dealings
  | jam act _ stuck deeds dealings _ =>
      obtain ⟨received, tally⟩ := act.hears_stuck d stuck
      exact truthful.unchanged received tally deeds (by rw [delivered, dealings]; rfl)
  | dealing dealing granted deeds dealings _ =>
      exact truthful.dealt granted deeds dealings

/-- The books about receptions are right after every run. -/
theorem truthful_run (d : Device σ ε τ) (setup : Setup) (indicator : Option Polarity)
    (device : σ) (moves : List Move) :
    ((fresh setup indicator device : Service σ ε).run d moves).Truthful :=
  run_induction d (truthful_move d) (truthful_fresh setup indicator device) moves

/-! ## Turn by turn -/

/-- While the station rests, all that it took in is accounted for. -/
theorem Faithful.intake {d : Device σ ε τ} {setup : Setup} {service : Service σ ε}
    (faithful : service.Faithful d setup) : Deed.Intake service.deeds service.job.isNone := by
  apply faithful.accrues Deed.Intake Deed.intake_nil
  · exact fun first second finished before after => before.append after
  · exact fun deeds finished intake => intake.unfinished
  · exact Program.intake_task d.describe setup

/-- Whatever comes in, whatever the radio answers and whenever readers come:

* every packet that was fetched was counted as heard, rejected or lost, or was one
  more copy, but for the one that the station may have in its hands;
* readers have, or can have, the presses that found a place, each once and in order;
* as many presses were counted as heard, but for the one that may be in hand;
* there are never more than eight of them waiting;
* and unless a press was repeated more often than a word can count, readers are told
  of all copies.

While the station rests nothing is in its hands. -/
theorem run_hears (d : Device σ ε τ) (setup : Setup) (indicator : Option Polarity)
    (device : σ) (moves : List Move) :
    let service := (fresh setup indicator device : Service σ ε).run d moves
    let tally := service.station.tally
    (∃ inHand ≤ (if service.job.isNone then 0 else 1),
      UInt32.ofNat (Deed.fetched service.deeds) = tally.heard + tally.rejected + tally.lost +
        UInt32.ofNat (Deed.placed .repeated service.deeds) + UInt32.ofNat inHand) ∧
    (service.delivered ++ service.buffered).map Reception.command =
      service.recordings.filterMap Recording.started? ∧
    (∃ inHand ≤ (if service.job.isNone then 0 else 1),
      UInt32.ofNat (service.delivered.length + service.station.queue.receivedSize) =
        tally.heard + UInt32.ofNat inHand) ∧
    service.station.queue.receivedSize ≤ 8 ∧
    ((∀ press ∈ service.presses, press.copies ≤ 0xffff) →
      ((service.delivered ++ service.buffered).map (·.repeats.toNat)).sum =
        Deed.placed .repeated service.deeds) := by
  intro service tally
  have truthful : service.Truthful := truthful_run d setup indicator device moves
  have intake : Deed.Intake service.deeds service.job.isNone :=
    (faithful_run d setup indicator device moves).intake
  have kept : service.delivered ++ service.buffered = service.presses.map Press.reception :=
    truthful.keeps
  have commands : (service.delivered ++ service.buffered).map Reception.command =
      service.recordings.filterMap Recording.started? := by
    rw [kept, List.map_map, ← Press.map_command_ofRecordings]
    rfl
  have heard : tally.heard = UInt32.ofNat (Deed.counted .heard service.deeds) :=
    truthful.tally .heard
  have rejected : tally.rejected = UInt32.ofNat (Deed.counted .rejected service.deeds) :=
    truthful.tally .rejected
  have lost : tally.lost = UInt32.ofNat (Deed.counted .lost service.deeds) :=
    truthful.tally .lost
  have held : service.delivered.length + service.station.queue.receivedSize =
      Deed.placed .appended service.deeds := by
    have lengths := congrArg List.length commands
    rw [Recording.length_filterMap_started?, List.length_map, List.length_append] at lengths
    rw [Deed.placed, ← Service.recordings, ← lengths]
    simp [buffered, ReceiveBuffer.receptions, Queue.receivedSize, ReceiveBuffer.size, Bounded.size]
  refine ⟨?_, commands, ?_, service.station.queue.received.sightings.length_le, ?_⟩
  · obtain ⟨inHand, few, fetched⟩ := intake.packets.exists_le
    refine ⟨inHand, few, ?_⟩
    rw [fetched, Deed.accounted, heard, rejected, lost]
    simp only [UInt32.ofNat_add]
  · obtain ⟨inHand, few, placed⟩ := intake.presses.exists_le
    refine ⟨inHand, few, ?_⟩
    rw [held, placed, heard, UInt32.ofNat_add]
  · intro few
    rw [kept, List.map_map, ← truthful.copies]
    congr 1
    apply List.map_congr_left
    intro press member
    exact Press.repeats_reception (few press member)

end Service

end ShutterRadio
