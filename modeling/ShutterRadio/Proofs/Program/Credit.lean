/-
# What the announcement of a packet is good for

The flag in the queue that announces a packet is set by two: a producer that has a packet
to announce, and the radio itself when it has sent one.  A station may fetch a packet only
on the word of a producer.  So it is followed here what a flag can stand for while a
program goes on: a credit is what a station holds in hand and what it would find in the
queue.

`Program.spends_program` says that every task keeps to its credit, whatever calls fail: it
fetches only on an announcement that it took back while no packet had been sent since the
flag was clear, and it never leaves a flag behind that may stand for a packet it sent.
-/

import ShutterRadio.Proofs.Program.BurstPath
import ShutterRadio.Proofs.Service.Basic

namespace ShutterRadio

/-- A device whose ready line rises while it sends a packet, if at all. -/
def Device.RaisesWhenSending {σ ε τ : Type} (d : Device σ ε τ) : Prop :=
  ∀ activity asked s, (d.perform activity asked s).edge = true → ∃ packet, asked = .transmit packet

/-- What a set flag can stand for. -/
inductive Flag
  -- It may have been set before, on the word of a producer.
  | found
  -- It was taken back, and no packet has been sent since.
  | cleared
  -- A packet has been sent since it was taken back.
  | stale
  deriving DecidableEq

/-- What a station has in hand to fetch a packet on. -/
structure Credit where
  /-- An announcement was taken back, and its packet not fetched yet. -/
  held : Bool
  flag : Flag

namespace Credit

variable {ε : Type}

/-- Nothing in hand, and a flag that a producer may have set. -/
def initial : Credit := ⟨false, .found⟩

theorem fresh_initial : initial.flag ≠ .stale := nofun

/-- What is left of a credit after a deed. -/
def after (credit : Credit) : Deed ε → Credit
  | ⟨.calm, announced, _, _⟩ => ⟨announced && decide (credit.flag ≠ .stale), .cleared⟩
  | ⟨.call (.receive _), _, _, _⟩ => { credit with held := false }
  | ⟨.call (.transmit _), _, _, _⟩ => { credit with flag := .stale }
  | _ => credit

def afterAll (credit : Credit) (deeds : List (Deed ε)) : Credit := deeds.foldl after credit

/-- A packet is fetched on credit only, and requests are taken with the flag clear. -/
def Allows (credit : Credit) : Act → Prop
  | .call (.receive _) => credit.held = true
  | .next => credit.flag = .cleared
  | _ => True

/-- Each of the deeds was allowed when it was done. -/
def Covers (credit : Credit) : List (Deed ε) → Prop
  | [] => True
  | deed :: deeds => credit.Allows deed.act ∧ (credit.after deed).Covers deeds

@[simp]
theorem afterAll_nil (credit : Credit) : credit.afterAll ([] : List (Deed ε)) = credit := rfl

@[simp]
theorem afterAll_cons (credit : Credit) (deed : Deed ε) (deeds : List (Deed ε)) :
    credit.afterAll (deed :: deeds) = (credit.after deed).afterAll deeds := rfl

@[simp]
theorem afterAll_append (credit : Credit) (first second : List (Deed ε)) :
    credit.afterAll (first ++ second) = (credit.afterAll first).afterAll second :=
  List.foldl_append

theorem covers_append {credit : Credit} {first second : List (Deed ε)} :
    credit.Covers (first ++ second) ↔
      credit.Covers first ∧ (credit.afterAll first).Covers second := by
  induction first generalizing credit with
  | nil => simp [Covers]
  | cons deed first ih => simp only [List.cons_append, Covers, ih, afterAll_cons, and_assoc]

/-- An act that has nothing to do with announcements. -/
def IsAside : Act → Prop
  | .calm => False
  | .next => False
  | .call (.receive _) => False
  | .call (.transmit _) => False
  | _ => True

variable {credit : Credit}

theorem after_of_aside {deed : Deed ε} (aside : IsAside deed.act) : credit.after deed = credit := by
  unfold after
  split
  · exact aside.elim
  · exact aside.elim
  · exact aside.elim
  · rfl

theorem allows_of_aside {act : Act} (aside : IsAside act) : credit.Allows act := by
  unfold Allows
  split
  · exact aside.elim
  · exact aside.elim
  · trivial

/-- Deeds that have nothing to do with announcements leave a credit as it is. -/
theorem covers_of_aside (credit : Credit) {deeds : List (Deed ε)}
    (aside : ∀ deed ∈ deeds, IsAside deed.act) :
    credit.Covers deeds ∧ credit.afterAll deeds = credit := by
  induction deeds with
  | nil => exact ⟨trivial, rfl⟩
  | cons deed deeds ih =>
      obtain ⟨here, later⟩ := List.forall_mem_cons.mp aside
      obtain ⟨covered, same⟩ := ih later
      rw [Covers, afterAll_cons, after_of_aside here]
      exact ⟨⟨allows_of_aside here, covered⟩, same⟩

/-- Once the flag was taken back it is not a found one any more. -/
theorem flag_after_ne_found (deed : Deed ε) (known : credit.flag ≠ .found) :
    (credit.after deed).flag ≠ .found := by
  unfold after
  split
  · exact nofun
  · exact known
  · exact nofun
  · exact known

theorem flag_afterAll_ne_found (deeds : List (Deed ε)) (known : credit.flag ≠ .found) :
    (credit.afterAll deeds).flag ≠ .found := by
  induction deeds generalizing credit with
  | nil => exact known
  | cons deed deeds ih => exact ih (flag_after_ne_found deed known)

/-- Whoever has taken a request has taken the flag back before. -/
theorem Covers.flag_ne_found {deeds : List (Deed ε)} (covered : credit.Covers deeds)
    {deed : Deed ε} (member : deed ∈ deeds) (takes : deed.act = .next) :
    (credit.afterAll deeds).flag ≠ .found := by
  induction deeds generalizing credit with
  | nil => cases member
  | cons first deeds ih =>
      obtain ⟨allowed, later⟩ := covered
      rcases List.mem_cons.mp member with rfl | among
      · rw [takes] at allowed
        have clear : credit.flag ≠ .found := by
          rw [show credit.flag = .cleared from allowed]
          exact nofun
        exact flag_afterAll_ne_found deeds (flag_after_ne_found deed clear)
      · exact ih later among

end Credit

/-! ## Programs that keep to their credit -/

namespace Program

variable {ε α β : Type}

/-- Whatever a program has done so far was covered by its credit, and what is left of that
in the end satisfies a condition. -/
def Spends (credit : Credit) (program : Program ε α) (left : α → Credit → Prop) : Prop :=
  program.Follows fun deeds result =>
    credit.Covers deeds ∧ ∀ answer, result = some answer → left answer (credit.afterAll deeds)

variable {credit : Credit} {program : Program ε α} {left : α → Credit → Prop}

theorem Spends.mono {weaker : α → Credit → Prop} (spends : program.Spends credit left)
    (weaken : ∀ result rest, left result rest → weaker result rest) :
    program.Spends credit weaker :=
  Follows.mono spends fun _ _ ⟨covered, ended⟩ =>
    ⟨covered, fun answer finished => weaken _ _ (ended answer finished)⟩

theorem spends_done {result : α} (satisfied : left result credit) :
    (Program.done result : Program ε α).Spends credit left :=
  ⟨trivial, fun _ same => Option.some.inj same ▸ satisfied⟩

theorem Spends.bind {rest : α → Program ε β} {final : β → Credit → Prop}
    (first : program.Spends credit left)
    (second : ∀ result credit, left result credit → (rest result).Spends credit final) :
    (program >>= rest).Spends credit final := by
  apply follows_bind.mpr
  apply Follows.mono first
  rintro deeds (_ | result) ⟨covered, ended⟩
  · exact ⟨covered, nofun⟩
  · apply Follows.mono (second result _ (ended result rfl))
    rintro more answer ⟨further, satisfied⟩
    rw [Credit.covers_append, Credit.afterAll_append]
    exact ⟨⟨covered, further⟩, satisfied⟩

/-- An act in front of the rest. -/
theorem spends_act {act : Act} {rest : act.Answer ε → Program ε α}
    (allowed : credit.Allows act)
    (spends : ∀ answer begun ended,
      (rest answer).Spends (credit.after ⟨act, answer, begun, ended⟩) left) :
    (once act >>= rest).Spends credit left := by
  refine ⟨⟨trivial, nofun⟩, fun answer begun ended => ?_⟩
  apply Follows.mono (spends answer begun ended)
  rintro deeds result ⟨covered, satisfied⟩
  exact ⟨⟨allowed, covered⟩, satisfied⟩

/-- What has nothing to do with announcements leaves a credit as it is. -/
theorem Uses.spends (uses : program.Uses Credit.IsAside) :
    program.Spends credit fun _ rest => rest = credit := by
  apply uses.follows
  intro deeds result aside
  obtain ⟨covered, same⟩ := credit.covers_of_aside aside
  exact ⟨covered, fun _ _ => same⟩

/-- What has nothing to do with announcements, in front of the rest. -/
theorem spends_aside {rest : α → Program ε β} {final : β → Credit → Prop}
    (uses : program.Uses Credit.IsAside)
    (spends : ∀ result, (rest result).Spends credit final) :
    (program >>= rest).Spends credit final :=
  uses.spends.bind fun result _ same => same ▸ spends result

theorem aside_once {act : Act} (aside : Credit.IsAside act) :
    (once act : Program ε _).Uses Credit.IsAside :=
  (uses_once _).mpr aside

theorem spends_aside_once {act : Act} {rest : act.Answer ε → Program ε α}
    (aside : Credit.IsAside act) (spends : ∀ answer, (rest answer).Spends credit left) :
    (once act >>= rest).Spends credit left :=
  spends_aside (aside_once aside) spends

/-! ## What a station does -/

variable (describe : ε → String) (setup : Setup)

theorem aside_report {asked : Call} (aside : Credit.IsAside (.call asked)) :
    (report describe asked).Uses Credit.IsAside :=
  Uses.report describe aside fun _ => trivial

theorem aside_listen : (listen describe).Uses Credit.IsAside :=
  Uses.listen describe trivial trivial trivial fun _ => trivial

theorem aside_start : (start describe setup).Uses Credit.IsAside := by
  apply Uses.start describe setup trivial _ fun _ => trivial
  simp [Station.startCalls, Credit.IsAside]

theorem aside_shutDown : (shutDown describe).Uses Credit.IsAside :=
  Uses.shutDown describe trivial trivial fun _ => trivial

/-- A burst neither fetches packets nor takes requests. -/
theorem spends_burst (frame : Frame) (repeats : UInt16) :
    (burst frame repeats : Program ε _).Spends credit fun _ _ => True := by
  have uses : (burst frame repeats : Program ε _).Uses fun act =>
      ∀ credit : Credit, credit.Allows act := by
    apply Uses.burst _ (fun _ => trivial) fun _ _ => trivial
    intro asked planned credit
    cases asked with
    | receive length => simp [Burst.calls, Burst.approach] at planned
    | _ => trivial
  apply uses.follows
  intro deeds result allowed
  refine ⟨?_, fun _ _ => trivial⟩
  induction deeds generalizing credit with
  | nil => trivial
  | cons deed deeds ih =>
      obtain ⟨here, later⟩ := List.forall_mem_cons.mp allowed
      exact ⟨here credit, ih later⟩

/-- After a packet was sent the flag is taken back, however the burst ended. -/
theorem spends_transmit (transmission : Transmission) :
    (transmit describe setup transmission).Spends credit fun _ rest => rest.flag = .cleared := by
  refine spends_aside_once trivial fun _ => ?_
  refine spends_aside_once trivial fun _ => ?_
  refine spends_aside (aside_report describe trivial) fun _ => ?_
  refine spends_aside_once trivial fun _ => ?_
  refine (spends_burst _ _).bind fun ending _ _ => ?_
  refine spends_aside (Uses.settle describe _ ending trivial trivial fun _ => trivial) fun _ => ?_
  refine spends_aside_once trivial fun _ => ?_
  refine spends_aside (aside_report describe trivial) fun _ => ?_
  refine spends_act trivial fun announced begun ended => ?_
  refine spends_aside (aside_listen describe) fun _ => ?_
  exact Spends.mono (Uses.spends (aside_once trivial)) fun _ _ same => same ▸ rfl

/-- A packet that was announced is fetched on that credit, and nothing else is. -/
theorem spends_fetch (held : credit.held = true) :
    (fetch describe).Spends credit fun _ rest => rest.flag = credit.flag := by
  refine spends_act held fun answer begun ended => ?_
  have listens : (listen describe).Spends { credit with held := false } fun _ rest =>
      rest.flag = credit.flag :=
    (aside_listen describe).spends.mono fun _ _ same => same ▸ rfl
  cases answer with
  | error fault => exact spends_aside_once trivial fun _ => listens
  | ok bytes =>
      have absorbs : (absorb (Frame.ofVector bytes) : Program ε Unit).Uses Credit.IsAside :=
        Uses.absorb trivial (fun _ _ => trivial) trivial trivial trivial fun _ => trivial
      exact spends_aside absorbs fun _ => listens

theorem spends_serve (request : Request) (clear : credit.flag = .cleared) :
    (serve describe setup request).Spends credit fun _ rest => rest.flag = .cleared := by
  cases request with
  | transmit transmission =>
      exact (spends_transmit describe setup transmission).bind fun _ _ flag => spends_done flag
  | listen => exact spends_aside (aside_listen describe) fun _ => spends_done clear
  | shutdown => exact spends_aside (aside_shutDown describe) fun _ => spends_done clear

/-- Once a step has taken the flag back, it leaves it so. -/
theorem spends_work {ready : Bool} (clear : credit.flag = .cleared)
    (held : ready = true → credit.held = true) :
    (if ready then do
        fetch describe
        pure .goesOn
      else do
        match ← once .next with
        | some request => serve describe setup request
        | none => do
            once (.pause Station.idlePoll)
            pure .goesOn : Program ε Station.Flow).Spends credit fun _ rest =>
      rest.flag = .cleared := by
  cases ready with
  | true =>
      exact (spends_fetch describe (held rfl)).bind fun _ _ same => spends_done (same.trans clear)
  | false =>
      refine spends_act clear fun request begun ended => ?_
      cases request with
      | some request => exact spends_serve describe setup request clear
      | none => exact spends_aside_once trivial fun _ => spends_done clear

/-- A task that begins without a stale flag ends without one, and fetches on credit only. -/
theorem spends_program (task : Task) (fresh : credit.flag ≠ .stale) :
    (task.program describe setup).Spends credit fun _ rest => rest.flag ≠ .stale := by
  cases task with
  | start => exact spends_aside (aside_start describe setup) fun _ => spends_done fresh
  | step =>
      refine spends_aside_once trivial fun activity => ?_
      split
      · exact spends_done fresh
      refine spends_act trivial fun ready begun ended => ?_
      have held : ready = true →
          (credit.after (⟨.calm, ready, begun, ended⟩ : Deed ε)).held = true := by
        rintro rfl
        simp [Credit.after, fresh]
      apply Spends.mono (spends_work describe setup rfl held)
      rintro _ rest clear
      rw [clear]
      exact nofun

end Program

end ShutterRadio
