/-
# Accounts of what was done

Of the many things a station does while it serves a request, an account keeps
those that others can hold against it: the requests it took out of the queue,
the packets that went on air, whether the radio took the sync word of the
repeats, how bursts were counted, and whether the station stopped for good.

The main statement is `isTurn_step`: whatever others do meanwhile, the account
of one step is that of at most one request, served in full once the step has
returned.  A burst is counted as sent in full exactly when its whole block went
on air, but for one case.  The sync word of the repeats is set even if there are
none, and if the radio refuses it then, a block that is complete counts as
abandoned.
-/

import Mathlib.Data.List.Basic
import ShutterRadio.Proofs.Program.Repertoire

namespace ShutterRadio

namespace Deed

variable {ε : Type}

/-- The call that was made, and whether it was answered. -/
def call? : Deed ε → Option (Call × Bool)
  | ⟨.call asked, answer, _, _⟩ => some (asked, answer.isOk)
  | _ => none

/-- The request that was taken out of the queue. -/
def request? : Deed ε → Option Request
  | ⟨.next, answer, _, _⟩ => answer
  | _ => none

def verdict? (deed : Deed ε) : Option Counter :=
  match deed.act with
  | .count counter => if counter = .sent ∨ counter = .abandoned then some counter else none
  | _ => none

def stops (deed : Deed ε) : Bool := deed.act = .become .shutDown

end Deed

namespace Burst

/-- The packet that a call put on air, if it was answered. -/
def onAir? : Call × Bool → Option (List UInt8)
  | (.transmit packet, true) => some packet
  | _ => none

/-- Whether the radio took the sync word of the repeats, if that is what it was
asked to do. -/
def primed? : Call × Bool → Option Bool
  | (.setSync pattern, taken) => if pattern = repeatSync then some taken else none
  | _ => none

def packets (frame : Frame) (repeats : Nat) : List (List UInt8) :=
  wakePattern :: List.replicate (repeats + 1) frame.bytes

end Burst

/-- What was done, as far as others can tell. -/
@[ext]
structure Account where
  requests : List Request
  packets : List (List UInt8)
  /-- Whether the radio took the sync word of the repeats, each time it was set. -/
  primings : List Bool
  verdicts : List Counter
  stops : Bool

namespace Account

variable {ε : Type}

def empty : Account := ⟨[], [], [], [], false⟩

def append (first second : Account) : Account where
  requests := first.requests ++ second.requests
  packets := first.packets ++ second.packets
  primings := first.primings ++ second.primings
  verdicts := first.verdicts ++ second.verdicts
  stops := first.stops || second.stops

instance : Append Account := ⟨append⟩

def ofDeeds (deeds : List (Deed ε)) : Account where
  requests := deeds.filterMap Deed.request?
  packets := (deeds.filterMap Deed.call?).filterMap Burst.onAir?
  primings := (deeds.filterMap Deed.call?).filterMap Burst.primed?
  verdicts := deeds.filterMap Deed.verdict?
  stops := deeds.any Deed.stops

theorem append_def (first second : Account) : first ++ second =
    ⟨first.requests ++ second.requests, first.packets ++ second.packets,
      first.primings ++ second.primings, first.verdicts ++ second.verdicts,
      first.stops || second.stops⟩ := rfl

@[simp]
theorem empty_append (account : Account) : empty ++ account = account := by
  simp [append_def, empty]

@[simp]
theorem append_empty (account : Account) : account ++ empty = account := by
  simp [append_def, empty]

@[simp]
theorem ofDeeds_nil : ofDeeds ([] : List (Deed ε)) = empty := rfl

@[simp]
theorem ofDeeds_append (first second : List (Deed ε)) :
    ofDeeds (first ++ second) = ofDeeds first ++ ofDeeds second := by
  simp [ofDeeds, append_def]

theorem ofDeeds_cons (deed : Deed ε) (deeds : List (Deed ε)) :
    ofDeeds (deed :: deeds) = ofDeeds [deed] ++ ofDeeds deeds :=
  ofDeeds_append [deed] deeds

end Account

/-! ## Packets on air -/

/-- A packet on air. -/
structure Airing where
  packet : List UInt8
  /-- When the radio was told to send it. -/
  begun : Instant
  /-- When it had left the antenna. -/
  ended : Instant
  deriving DecidableEq

/-- The packet that a deed put on air. -/
def Deed.airing? {ε : Type} : Deed ε → Option Airing
  | ⟨.call (.transmit packet), .ok _, begun, ended⟩ => some ⟨packet, begun, ended⟩
  | _ => none

/-- A packet was on air for as long as the call took. -/
theorem Deed.times_of_airing? {ε : Type} {deed : Deed ε} {airing : Airing}
    (here : deed.airing? = some airing) :
    airing.begun = deed.begun ∧ airing.ended = deed.ended := by
  unfold airing? at here
  split at here
  · obtain rfl := Option.some.inj here
    exact ⟨rfl, rfl⟩
  · cases here

/-- The packets of an account are those of the airings. -/
theorem map_packet_airing? {ε : Type} (deeds : List (Deed ε)) :
    (deeds.filterMap Deed.airing?).map Airing.packet = (Account.ofDeeds deeds).packets := by
  simp only [Account.ofDeeds, List.map_filterMap, List.filterMap_filterMap]
  apply List.filterMap_congr
  intro deed _
  rcases deed with ⟨act, answer, begun, ended⟩
  cases act with
  | call asked =>
      cases asked with
      | transmit packet => cases answer <;> rfl
      | _ => rfl
  | _ => rfl

theorem filterMap_airing?_eq_nil {ε : Type} {deeds : List (Deed ε)}
    (nothing : (Account.ofDeeds deeds).packets = []) : deeds.filterMap Deed.airing? = [] := by
  rwa [← List.map_eq_nil_iff, map_packet_airing?]

/-! ## What leaves no trace -/

/-- A call that leaves no trace in an account. -/
def Call.IsQuiet : Call → Prop
  | .transmit _ => False
  | .setSync pattern => pattern ≠ Burst.repeatSync
  | _ => True

/-- An act that leaves no trace in an account. -/
def Act.IsQuiet : Act → Prop
  | .next => False
  | .call asked => asked.IsQuiet
  | .count counter => counter ≠ .sent ∧ counter ≠ .abandoned
  | .become activity => activity ≠ .shutDown
  | _ => True

theorem Call.onAir?_of_quiet {asked : Call} (quiet : asked.IsQuiet) (answered : Bool) :
    Burst.onAir? (asked, answered) = none := by
  cases asked <;> first | rfl | exact quiet.elim

theorem Call.primed?_of_quiet {asked : Call} (quiet : asked.IsQuiet) (answered : Bool) :
    Burst.primed? (asked, answered) = none := by
  cases asked <;> first | rfl | exact if_neg quiet

theorem Account.ofDeeds_singleton_of_quiet {ε : Type} {deed : Deed ε}
    (quiet : deed.act.IsQuiet) : ofDeeds [deed] = empty := by
  rcases deed with ⟨act, answer, begun, ended⟩
  cases act with
  | next => exact quiet.elim
  | call asked =>
      refine Account.ext rfl ?_ ?_ rfl rfl
      · exact List.filterMap_cons_none (Call.onAir?_of_quiet quiet _)
      · exact List.filterMap_cons_none (Call.primed?_of_quiet quiet _)
  | count counter =>
      refine Account.ext rfl rfl rfl ?_ rfl
      exact List.filterMap_cons_none (if_neg (not_or.mpr quiet))
  | become activity =>
      refine Account.ext rfl rfl rfl rfl ?_
      have going : activity ≠ .shutDown := quiet
      simp [ofDeeds, empty, Deed.stops, going]
  | _ => rfl

/-- What is quiet leaves no trace. -/
theorem Account.ofDeeds_of_quiet {ε : Type} {deeds : List (Deed ε)}
    (quiet : ∀ deed ∈ deeds, deed.act.IsQuiet) : ofDeeds deeds = empty := by
  induction deeds with
  | nil => rfl
  | cons deed deeds ih =>
      obtain ⟨here, later⟩ := List.forall_mem_cons.mp quiet
      rw [ofDeeds_cons, ofDeeds_singleton_of_quiet here, ih later, empty_append]

/-! ## Programs that leave no trace -/

namespace Program

variable {ε : Type} (describe : ε → String)

theorem isQuiet_report {asked : Call} (quiet : asked.IsQuiet) :
    (report describe asked).Uses Act.IsQuiet :=
  Uses.report describe quiet fun _ => trivial

theorem isQuiet_listen : (listen describe).Uses Act.IsQuiet := by
  -- The sync word to listen for is not the one of the repeats.
  have sync : Call.IsQuiet (.setSync Station.listenSync) := by
    simp [Call.IsQuiet, Station.listenSync, Burst.repeatSync]
  exact Uses.listen describe sync trivial trivial fun _ => trivial

theorem isQuiet_start (setup : Setup) : (start describe setup).Uses Act.IsQuiet := by
  apply Uses.start describe setup (by simp [Act.IsQuiet]) _ fun _ => trivial
  simp [Station.startCalls, Act.IsQuiet, Call.IsQuiet, Station.listenSync, Burst.repeatSync]

theorem isQuiet_fetch : (fetch describe).Uses Act.IsQuiet := by
  refine Uses.fetch describe trivial (fun packet => ?_) (isQuiet_listen describe) fun _ => trivial
  apply Uses.absorb trivial (fun _ _ => trivial) _ _ _ fun _ => trivial <;> simp [Act.IsQuiet]

/-! ## Specifications of accounts -/

variable {α β : Type} {spec : Account → Option α → Prop}

/-- A specification holds of the account of every path. -/
def Accounts (program : Program ε α) (spec : Account → Option α → Prop) : Prop :=
  program.Follows fun deeds result => spec (.ofDeeds deeds) result

theorem Accounts.mono {weaker : Account → Option α → Prop} {program : Program ε α}
    (accounts : program.Accounts spec)
    (weaken : ∀ account result, spec account result → weaker account result) :
    program.Accounts weaker :=
  Follows.mono accounts fun _ result => weaken _ result

theorem accounts_bind {program : Program ε α} {rest : α → Program ε β}
    {spec : Account → Option β → Prop} :
    (program >>= rest).Accounts spec ↔
      program.Accounts fun account result =>
        match result with
        | none => spec account none
        | some result => (rest result).Accounts fun more final => spec (account ++ more) final := by
  unfold Accounts
  rw [follows_bind]
  constructor <;> refine fun follows => Follows.mono follows fun deeds result => ?_ <;>
    cases result <;> simp only [Account.ofDeeds_append, imp_self]

/-- A quiet program meets every specification that nothing can break. -/
theorem accounts_of_quiet {program : Program ε α} (quiet : program.Uses Act.IsQuiet)
    (holds : ∀ result, spec .empty result) : program.Accounts spec :=
  quiet.follows fun deeds result silent => by
    rw [Account.ofDeeds_of_quiet silent]
    exact holds result

/-- A quiet program in front of another leaves no trace. -/
theorem accounts_quiet_bind {program : Program ε β} {rest : β → Program ε α}
    (quiet : program.Uses Act.IsQuiet) (stopped : spec .empty none)
    (accounts : ∀ result, (rest result).Accounts spec) : (program >>= rest).Accounts spec := by
  refine accounts_bind.mpr (accounts_of_quiet quiet fun result => ?_)
  cases result with
  | none => exact stopped
  | some result => simpa only [Account.empty_append] using accounts result

end Program

end ShutterRadio
