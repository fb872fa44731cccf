/-
# From one station to another

One station sends a press and another hears the frames of it.  A reader of the
second station then gets the press back, with the number of repeats that were
asked for: frames carry their command, they begin close to each other, and so the
receive buffer folds all of them into one reception.

`loopback` says so for every press that is taken from the air, however long the
packets are on air, provided that none of them is for as long as the debounce
window, and however readers come in between.  The two stations share no clock;
the second is told when each frame began.
-/

import Mathlib
import ShutterRadio.Proofs.Burst.Sending
import ShutterRadio.Proofs.Frame.RoundTrip
import ShutterRadio.Proofs.Reception.Schedule

namespace ShutterRadio

/-- A press comes back from the air.  The sending station runs on a patient and
precise device, none of whose calls fails; it finds a request to send, and none of
its frames is on air for as long as the debounce window.  The hearing station has an
empty receive buffer.  To it the frames arrive when they began, and apart from that
there are only readers, in the order of their moments.  Then the frames are all
there, and readers get one reception of what frames carry of the command, with as
many repeats as were asked for: the first who comes when the window has passed since
the last frame gets it, and nobody else gets anything.  The hearing station counts
one frame as heard, and nothing else. -/
theorem loopback {σ ε τ σ' ε' τ' : Type} {d : Device σ ε τ} {d' : Device σ' ε' τ'}
    {present : List UInt8 → Instant → σ' → σ'} (patient : d.Patient) (precise : d.IsPrecise)
    (patient' : d'.Patient) (receives : d'.Receives present)
    {sender : Station σ} {transmission : Transmission} {others : List Request}
    (running : sender.queue.activity ≠ .shutDown) (calm : sender.queue.ready = false)
    (waiting : sender.queue.requests.toList = .transmit transmission :: others)
    (single : transmission.command.button.truncated.isSinglePress = true)
    (unfailing : Deed.Unfailing (sender.deeds d))
    (short : ∀ airing ∈ (sender.airings d).tail,
      airing.ended.since airing.begun < debounceWindow)
    {receiver : Station σ'} (running' : receiver.queue.activity ≠ .shutDown)
    (empty : receiver.queue.received = .empty) {occasions : List Occasion}
    (arrivals : occasions.filterMap Occasion.arrival? =
      (sender.airings d).tail.map fun airing => (airing.packet, airing.begun))
    (order : occasions.Pairwise fun earlier later => earlier.moment ≤ later.moment) :
    ∃ sent last after,
      Station.step d sender = .ok .goesOn sent ∧
      (sender.airings d).map Airing.packet =
        Burst.packets (.encode sender.setup.key transmission.command)
          transmission.repeats.toNat ∧
      (sender.airings d).getLast? = some last ∧
      Station.attend d' present occasions receiver =
        .ok (Reception.handOut
          ⟨⟨transmission.command.remote &&& identityMask, transmission.command.code,
            transmission.command.button.truncated⟩, transmission.repeats⟩
          (last.begun.micros + debounceWindow)
          (occasions.filterMap Occasion.reading?)) after ∧
      after.tally = receiver.tally.bump .heard := by
  obtain ⟨sent, wake, framed, stepped, airings, pattern, packets, close⟩ :=
    Station.step_sends patient precise running calm waiting unfailing short
  rw [airings] at arrivals ⊢
  have carries := Frame.decode_encode sender.setup.key transmission.command single
  have length : framed.length = transmission.repeats.toNat + 1 := by
    simpa using congrArg List.length packets
  cases framed with
  | nil => cases length
  | cons first rest =>
      have same : occasions.filterMap Occasion.arrival? =
          (first.begun :: rest.map Airing.begun).map fun moment =>
            ((Frame.encode sender.setup.key transmission.command).bytes, moment) := by
        rw [arrivals, ← List.map_cons, List.map_map]
        apply List.map_congr_left
        intro airing member
        have bytes : airing.packet ∈ List.replicate _ _ := packets ▸ List.mem_map_of_mem member
        exact Prod.ext (List.eq_of_mem_replicate bytes) rfl
      have count : transmission.repeats.toNat = (rest.map Airing.begun).length := by
        simpa using length.symm
      have holds : receiver.Holds [] := ⟨running', by rw [empty]; rfl, by rw [empty]; rfl⟩
      obtain ⟨after, attended, tally⟩ := Station.attend_press patient' receives holds carries same
        close order count
      refine ⟨sent, rest.getLastD first, after, stepped, ?_, ?_, ?_, tally⟩
      · rw [List.map_cons, pattern, packets, Burst.packets]
      · rw [List.getLast?_cons_cons, List.getLast?_cons, List.getLastD_eq_getLast?]
      · rw [attended, List.getLastD_map]

namespace Ideal

/-- What is presented to an ideal device can be fetched, at its moment. -/
def present (packet : List UInt8) (moment : Instant) (s : Ideal) : Ideal :=
  { s with now := moment, inbox := packet }

theorem receives_present : Device.ideal.Receives present where
  fetch _ _ _ _ := ⟨_, rfl, rfl⟩
  clock _ _ _ _ := rfl

def press : Transmission := ⟨⟨0x27962a, 2612, .up⟩, 1⟩

/-- A station that is asked to send it, with a first frame that is on air for so long
that the repeat is late. -/
def sender : Station Ideal :=
  { overrunning with queue := { Queue.empty with requests := ⟨[.transmit press], by decide⟩ } }

def receiver : Station Ideal := .fresh .standard none ⟨.origin, [], []⟩

/-- The frames of the press, and readers before, between and after them. -/
def visits : List Occasion :=
  let frame := (Frame.encode Frame.standardKey press.command).bytes
  [.reading (.ofMicros 100), .arrival frame (.ofMicros 29000), .reading (.ofMicros 179000),
    .arrival frame (.ofMicros 179000), .reading (.ofMicros 428999), .reading (.ofMicros 429000),
    .reading (.ofMicros 900000)]

end Ideal

theorem loopback_overrunning :
    Device.ideal.Patient ∧ Device.ideal.IsPrecise ∧ Device.ideal.Receives Ideal.present ∧
    Deed.Unfailing (Ideal.sender.deeds Device.ideal) ∧
    ∃ after, Station.attend Device.ideal Ideal.present Ideal.visits Ideal.receiver =
        .ok [none, none, none, some ⟨Ideal.press.command, 1⟩, none] after ∧
      after.tally = ⟨0, 0, 1, 0, 0⟩ := by
  have unfailing : Deed.Unfailing (Ideal.sender.deeds Device.ideal) :=
    Deed.unfailing_of_isEmpty _
  have short : ∀ airing ∈ (Ideal.sender.airings Device.ideal).tail,
      airing.ended.since airing.begun < debounceWindow := by
    have all : ((Ideal.sender.airings Device.ideal).tail.all fun airing =>
        airing.ended.since airing.begun < debounceWindow) = true := by cbv
    simpa using all
  have running : Ideal.sender.queue.activity ≠ .shutDown := by decide
  have running' : Ideal.receiver.queue.activity ≠ .shutDown := by decide
  have arrivals : Ideal.visits.filterMap Occasion.arrival? =
      (Ideal.sender.airings Device.ideal).tail.map fun airing =>
        (airing.packet, airing.begun) := by cbv
  have order : Ideal.visits.Pairwise fun earlier later => earlier.moment ≤ later.moment := by
    decide
  obtain ⟨_, last, after, -, -, latest, attended, tally⟩ :=
    loopback Device.patient_ideal Device.isPrecise_ideal Device.patient_ideal
      Ideal.receives_present running rfl rfl (by decide) unfailing short running' rfl arrivals order
  have begun : (Ideal.sender.airings Device.ideal).getLast?.map Airing.begun =
      some (.ofMicros 179000) := by cbv
  rw [latest] at begun
  refine ⟨Device.patient_ideal, Device.isPrecise_ideal, Ideal.receives_present, unfailing, after,
    ?_, tally⟩
  rw [attended, Option.some.inj begun]
  exact congrArg (EStateM.Result.ok · after) (by decide)

end ShutterRadio
