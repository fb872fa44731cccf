/-
# Precise devices

How well a burst keeps its cadence depends on the device.  On a precise one
waiting takes just as long as it should, and of all calls only sending takes
time.  How long a packet is on air is left open even then.

`Device.ideal` is such a device, and a patient one, whose calls never fail.  It
shows that what is said of precise devices is said of something.
-/

import ShutterRadio.Proofs.Program.Account
import ShutterRadio.Proofs.Program.Alone

namespace ShutterRadio

/-- Pauses and readings are precise, and of all calls only sending takes time. -/
structure Device.IsPrecise {σ ε τ : Type} (d : Device σ ε τ) : Prop where
  timebase : d.toTimebase.IsPrecise
  transmit : ∀ activity packet s,
    d.time s ≤ d.time (d.perform activity (.transmit packet) s).device
  perform : ∀ activity asked s, (∀ packet, asked ≠ .transmit packet) →
    d.time (d.perform activity asked s).device = d.time s

/-! ## Calls that do not fail -/

/-- No call failed. -/
def Deed.Unfailing {ε : Type} (deeds : List (Deed ε)) : Prop :=
  ∀ outcome ∈ deeds.filterMap Deed.call?, outcome.2 = true

theorem Deed.Unfailing.of_subset {ε : Type} {deeds others : List (Deed ε)}
    (unfailing : Unfailing deeds) (among : others ⊆ deeds) : Unfailing others :=
  fun outcome member => unfailing outcome (List.filterMap_subset _ among member)

theorem Deed.Unfailing.of_cons {ε : Type} {deed : Deed ε} {deeds : List (Deed ε)}
    (unfailing : Unfailing (deed :: deeds)) :
    (∀ outcome ∈ deed.call?, outcome.2 = true) ∧ Unfailing deeds := by
  refine ⟨fun outcome here => unfailing outcome ?_, unfailing.of_subset (List.subset_cons_self _ _)⟩
  rw [List.filterMap_cons_some here]
  exact List.mem_cons_self

/-- Where there are no faults no call fails. -/
theorem Deed.unfailing_of_isEmpty {ε : Type} [IsEmpty ε] (deeds : List (Deed ε)) :
    Unfailing deeds := by
  intro outcome member
  obtain ⟨⟨act, answer, _, _⟩, -, here⟩ := List.mem_filterMap.mp member
  cases act with
  | call asked =>
      cases answer with
      | ok reply =>
          obtain rfl := Option.some.inj here
          rfl
      | error fault => exact isEmptyElim fault
  | _ => cases here

/-! ## The ideal device -/

/-- The state of the ideal device. -/
structure Ideal where
  now : Instant
  /-- How long the next packets will be on air, in microseconds; those after them
  are not on air for any time. -/
  airtimes : List Nat
  inbox : List UInt8

namespace Ideal

def comply (s : Ideal) : (asked : Call) → asked.Reply × Ideal
  | .transmit _ =>
      ((), { s with now := s.now.later (s.airtimes.headD 0), airtimes := s.airtimes.tail })
  | .receive _ => (.ofFn fun place => s.inbox.getD place 0, s)
  | .frequency => (.standard, s)
  | .bitRate | .version => (0, s)
  | .reset | .configure | .setFrequency _ | .setSymbolWidth _ | .setSync _ | .setFormat _ _
  | .listen | .standby => ((), s)

end Ideal

def Device.ideal : Device Ideal Empty Empty where
  toTimebase := Timebase.ideal.focus Ideal.now (fun s now => { s with now }) fun _ _ => rfl
  perform _ asked s := ⟨(s.comply asked).2, .answered (s.comply asked).1, [], false⟩
  indicate _ s := s
  describe := nofun

theorem Device.patient_ideal : Device.ideal.Patient where
  pause _ _ := ⟨_, rfl⟩
  perform _ _ _ reason := reason.elim

theorem Device.isPrecise_ideal : Device.ideal.IsPrecise where
  timebase :=
    { read := fun _ => rfl
      pause := fun micros s s' positive paused => by
        injection paused with _ same
        subst same
        exact congrArg s.now.later (Nat.max_eq_left positive) }
  transmit _ _ s := s.now.le_later _
  perform _ asked s other := by
    cases asked with
    | transmit packet => exact absurd rfl (other packet)
    | _ => rfl

end ShutterRadio
