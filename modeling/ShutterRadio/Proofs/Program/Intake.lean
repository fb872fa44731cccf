/-
# What a station takes in

Taking in a packet is four things, one after the other: it is fetched, decoded,
recorded and counted.  Others may see the station between any two of them, so
the counts lag behind what was fetched, but never by more than the one packet
that is being taken in, and not at all once the turn is over.

`intake_step` says so of a step, whatever the radio answers, whatever the packet
says and whatever becomes of it in the receive buffer.  Sending, listening,
starting and shutting down take in nothing.
-/

import ShutterRadio.Proofs.Program.BurstPath
import ShutterRadio.Proofs.Reception.Presses
import ShutterRadio.Proofs.Service.Basic

namespace ShutterRadio

/-! ## Deeds that take in -/

namespace Deed

variable {ε : Type}

/-- Whether a packet was fetched from the radio. -/
def fetches : Deed ε → Bool
  | ⟨.call (.receive _), .ok _, _, _⟩ => true
  | _ => false

/-- What was handed to the receive buffer, and what became of it. -/
def recording? : Deed ε → Option Recording
  | ⟨.record command _, placement, _, _⟩ => some ⟨command, placement⟩
  | _ => none

/-- What was counted. -/
def counter? : Deed ε → Option Counter
  | ⟨.count counter, _, _, _⟩ => some counter
  | _ => none

/-- How many packets were fetched. -/
def fetched (deeds : List (Deed ε)) : Nat := deeds.countP fetches

/-- How many frames had something become of them in the receive buffer. -/
def placed (placement : Placement) (deeds : List (Deed ε)) : Nat :=
  ((deeds.filterMap recording?).map Recording.placement).count placement

/-- How often something was counted. -/
def counted (counter : Counter) (deeds : List (Deed ε)) : Nat :=
  (deeds.filterMap counter?).count counter

@[simp]
theorem fetched_nil : fetched ([] : List (Deed ε)) = 0 := rfl

@[simp]
theorem placed_nil (placement : Placement) : placed placement ([] : List (Deed ε)) = 0 := rfl

@[simp]
theorem counted_nil (counter : Counter) : counted counter ([] : List (Deed ε)) = 0 := rfl

@[simp]
theorem fetched_append (first second : List (Deed ε)) :
    fetched (first ++ second) = fetched first + fetched second :=
  List.countP_append

@[simp]
theorem placed_append (placement : Placement) (first second : List (Deed ε)) :
    placed placement (first ++ second) = placed placement first + placed placement second := by
  simp only [placed, List.filterMap_append, List.map_append, List.count_append]

@[simp]
theorem counted_append (counter : Counter) (first second : List (Deed ε)) :
    counted counter (first ++ second) = counted counter first + counted counter second := by
  simp only [counted, List.filterMap_append, List.count_append]

@[simp]
theorem fetched_cons (deed : Deed ε) (deeds : List (Deed ε)) :
    fetched (deed :: deeds) = fetched deeds + if deed.fetches then 1 else 0 :=
  List.countP_cons

@[simp]
theorem placed_cons (placement : Placement) (deed : Deed ε) (deeds : List (Deed ε)) :
    placed placement (deed :: deeds) = placed placement deeds +
      if deed.recording?.map Recording.placement = some placement then 1 else 0 := by
  cases here : deed.recording? <;> simp [placed, here, List.count_cons]

@[simp]
theorem counted_cons (counter : Counter) (deed : Deed ε) (deeds : List (Deed ε)) :
    counted counter (deed :: deeds) = counted counter deeds +
      if deed.counter? = some counter then 1 else 0 := by
  cases here : deed.counter? <;> simp [counted, here, List.count_cons]

/-- How many frames the counts of what was heard account for: those that started a
press, those that carried nothing, those that found no room, and copies, which
nobody counts. -/
def accounted (deeds : List (Deed ε)) : Nat :=
  counted .heard deeds + counted .rejected deeds + counted .lost deeds + placed .repeated deeds

theorem accounted_append (first second : List (Deed ε)) :
    accounted (first ++ second) = accounted first + accounted second := by
  simp only [accounted, placed_append, counted_append]
  omega

end Deed

/-! ## Acts that take in nothing -/

/-- An act that is no part of taking in a packet. -/
def Act.IsUpkeep : Act → Prop
  | .record _ _ => False
  | .call (.receive _) => False
  | .count counter => counter = .sent ∨ counter = .abandoned
  | _ => True

namespace Deed

variable {ε : Type} {deeds : List (Deed ε)}

theorem fetched_of_upkeep (upkeep : ∀ deed ∈ deeds, deed.act.IsUpkeep) : fetched deeds = 0 := by
  apply List.countP_eq_zero.mpr
  intro deed member
  have harmless := upkeep deed member
  unfold fetches
  split
  · exact False.elim harmless
  · simp

theorem recordings_of_upkeep (upkeep : ∀ deed ∈ deeds, deed.act.IsUpkeep) :
    deeds.filterMap recording? = [] := by
  apply List.filterMap_eq_nil_iff.mpr
  intro deed member
  have harmless := upkeep deed member
  unfold recording?
  split
  · exact False.elim harmless
  · rfl

theorem counted_of_upkeep (upkeep : ∀ deed ∈ deeds, deed.act.IsUpkeep) (counter : Counter)
    (received : counter ≠ .sent ∧ counter ≠ .abandoned) : counted counter deeds = 0 := by
  apply List.count_eq_zero.mpr
  intro member
  obtain ⟨deed, among, here⟩ := List.mem_filterMap.mp member
  have harmless := upkeep deed among
  unfold counter? at here
  split at here
  · obtain rfl := Option.some.inj here
    rcases harmless with sent | abandoned
    · exact received.1 sent
    · exact received.2 abandoned
  · cases here

end Deed

/-! ## Intake in order -/

/-- Two counts agree, unless there is more to come and one lags by one. -/
def Lags (behind ahead : Nat) (finished : Bool) : Prop :=
  ahead = behind ∨ finished = false ∧ ahead = behind + 1

/-- What lags is what is in hand. -/
theorem Lags.exists_le {behind ahead : Nat} {finished : Bool} (lags : Lags behind ahead finished) :
    ∃ inHand ≤ (if finished then 0 else 1), ahead = behind + inHand := by
  rcases lags with same | ⟨unfinished, more⟩
  · exact ⟨0, Nat.zero_le _, same⟩
  · exact ⟨1, by simp [unfinished], more⟩

/-- What was taken in is accounted for, but for at most one packet, and that only
while there is more to come. -/
structure Deed.Intake {ε : Type} (deeds : List (Deed ε)) (finished : Bool) : Prop where
  packets : Lags (accounted deeds) (fetched deeds) finished
  presses : Lags (counted .heard deeds) (placed .appended deeds) finished

/-- Upkeep does not change what was taken in. -/
theorem Deed.Intake.upkeep {ε : Type} {front more : List (Deed ε)} {finished : Bool}
    (intake : Intake front finished) (upkeep : ∀ deed ∈ more, deed.act.IsUpkeep) :
    Intake (front ++ more) finished := by
  have fetched := fetched_of_upkeep upkeep
  have recordings := recordings_of_upkeep upkeep
  have heard := counted_of_upkeep upkeep .heard (by simp)
  have rejected := counted_of_upkeep upkeep .rejected (by simp)
  have lost := counted_of_upkeep upkeep .lost (by simp)
  have nowhere (placement : Placement) : placed placement more = 0 := by
    simp [placed, recordings]
  constructor
  · simpa [accounted, fetched, heard, rejected, lost, nowhere] using intake.packets
  · simpa [heard, nowhere] using intake.presses

theorem Deed.Intake.weaken {ε : Type} {deeds : List (Deed ε)} (intake : Intake deeds true)
    (finished : Bool) : Intake deeds finished := by
  constructor
  · exact .inl (intake.packets.resolve_right (by simp))
  · exact .inl (intake.presses.resolve_right (by simp))

/-- Before the end is reached less is asked for. -/
theorem Deed.Intake.unfinished {ε : Type} {deeds : List (Deed ε)} {finished : Bool}
    (intake : Intake deeds finished) : Intake deeds false := by
  constructor
  · exact intake.packets.imp_right fun lagging => ⟨rfl, lagging.2⟩
  · exact intake.presses.imp_right fun lagging => ⟨rfl, lagging.2⟩

/-- Behind what is accounted for, only what comes later can lag. -/
theorem Deed.Intake.append {ε : Type} {first second : List (Deed ε)} {finished : Bool}
    (before : Intake first true) (after : Intake second finished) :
    Intake (first ++ second) finished := by
  have packets := before.packets.resolve_right (by simp)
  have presses := before.presses.resolve_right (by simp)
  constructor
  · rw [accounted_append, fetched_append, packets]
    exact after.packets.imp (by omega) fun lagging => ⟨lagging.1, by omega⟩
  · rw [counted_append, placed_append, presses]
    exact after.presses.imp (by omega) fun lagging => ⟨lagging.1, by omega⟩

/-- Nothing was taken in yet, and nothing is owed. -/
theorem Deed.intake_nil {ε : Type} : Intake ([] : List (Deed ε)) true := ⟨.inl rfl, .inl rfl⟩

namespace Program

variable {ε α β : Type}

/-- Once all is accounted for, upkeep leaves it so, however far it comes. -/
theorem Uses.intake {rest : Program ε α} (upkeep : rest.Uses Act.IsUpkeep)
    {front : List (Deed ε)} (intake : Deed.Intake front true) :
    rest.Follows fun more result => Deed.Intake (front ++ more) result.isSome :=
  upkeep.follows fun _ result harmless => (intake.weaken result.isSome).upkeep harmless

/-! ### Programs that take in nothing -/

variable (describe : ε → String) (setup : Setup)

theorem isUpkeep_listen : (listen describe).Uses Act.IsUpkeep :=
  Uses.listen describe trivial trivial trivial fun _ => trivial

theorem isUpkeep_start : (start describe setup).Uses Act.IsUpkeep := by
  apply Uses.start describe setup trivial _ fun _ => trivial
  simp [Station.startCalls, Act.IsUpkeep]

theorem isUpkeep_burst (frame : Frame) (repeats : UInt16) :
    (burst frame repeats : Program ε _).Uses Act.IsUpkeep := by
  apply Uses.burst _ trivial fun _ => trivial
  intro asked planned
  cases asked with
  | receive length => simp [Burst.calls, Burst.approach] at planned
  | _ => trivial

theorem isUpkeep_transmit (transmission : Transmission) :
    (transmit describe setup transmission).Uses Act.IsUpkeep :=
  Uses.transmit describe setup transmission ⟨trivial, trivial⟩ trivial (fun _ => trivial)
    (isUpkeep_burst _ _) ⟨.inl rfl, .inr rfl⟩ trivial (isUpkeep_listen describe) fun _ => trivial

theorem isUpkeep_serve (request : Request) :
    (serve describe setup request).Uses Act.IsUpkeep :=
  Uses.serve describe setup (isUpkeep_transmit describe setup) (isUpkeep_listen describe)
    (Uses.shutDown describe trivial trivial fun _ => trivial)

/-! ### Taking in a packet -/

/-- One act of a path, behind what was done before it. -/
theorem follows_behind (spec : List (Deed ε) → Option α → Prop) {front : List (Deed ε)}
    {first : Act} {next : first.Answer ε → Program ε α} (stopped : spec front none)
    (onwards : ∀ answer begun ended, (next answer).Follows fun more result =>
      spec (front ++ [⟨first, answer, begun, ended⟩] ++ more) result) :
    (Program.act first next).Follows fun more result => spec (front ++ more) result := by
  constructor
  · simpa using stopped
  · intro answer begun ended
    simpa using onwards answer begun ended

variable {front : List (Deed ε)} {rest : Program ε α}

/-- The path so far leaves one fetched packet that is not accounted for yet. -/
structure InHand (front : List (Deed ε)) : Prop where
  packets : Deed.fetched front = Deed.accounted front + 1
  presses : Deed.placed .appended front = Deed.counted .heard front

theorem InHand.intake (inHand : InHand front) : Deed.Intake front false :=
  ⟨.inr ⟨rfl, inHand.packets⟩, .inl inHand.presses⟩

/-- Once the packet in hand is counted, there is nothing left to account for. -/
theorem follows_count {counter : Counter} (upkeep : rest.Uses Act.IsUpkeep)
    (stopped : Deed.Intake front false)
    (settled : ∀ begun ended, Deed.Intake
      (front ++ [⟨.count counter, (), begun, ended⟩]) true) :
    (once (.count counter) >>= fun _ => rest).Follows fun more result =>
      Deed.Intake (front ++ more) result.isSome :=
  follows_behind (fun deeds result => Deed.Intake deeds result.isSome) stopped
    fun _ begun ended => upkeep.intake (settled begun ended)

/-- A command in hand is recorded, and what becomes of it is counted, unless it is
a copy. -/
theorem intake_takeIn (command : Command) (upkeep : rest.Uses Act.IsUpkeep)
    (inHand : InHand front) :
    (takeIn command >>= fun _ => rest).Follows fun more result =>
      Deed.Intake (front ++ more) result.isSome := by
  have told (note : Note) : (once (.tell note) >>= fun _ => rest).Uses Act.IsUpkeep :=
    Uses.bind ((uses_once _).mpr trivial) fun _ => upkeep
  have packets := inHand.packets
  have presses := inHand.presses
  unfold Deed.accounted at packets
  refine follows_behind (fun deeds result => Deed.Intake deeds result.isSome)
    inHand.intake fun now _ _ => ?_
  refine follows_behind (fun deeds result => Deed.Intake deeds result.isSome)
    (inHand.intake.upkeep (by simp [Act.IsUpkeep])) fun placement _ _ => ?_
  cases placement with
  | appended =>
      refine follows_count (told _) ⟨.inr ⟨rfl, ?_⟩, .inr ⟨rfl, ?_⟩⟩ fun _ _ =>
        ⟨.inl ?_, .inl ?_⟩
      all_goals
        simp [Deed.accounted, Deed.fetches, Deed.recording?, Deed.counter?]
        omega
  | repeated =>
      apply upkeep.intake
      constructor <;> left <;>
        simp [Deed.accounted, Deed.fetches, Deed.recording?, Deed.counter?] <;> omega
  | dropped =>
      refine follows_count (told _) ⟨.inr ⟨rfl, ?_⟩, .inl ?_⟩ fun _ _ =>
        ⟨.inl ?_, .inl ?_⟩
      all_goals
        simp [Deed.accounted, Deed.fetches, Deed.recording?, Deed.counter?]
        omega

/-- A packet in hand is accounted for, whatever it says. -/
theorem intake_absorb (packet : Frame) (upkeep : rest.Uses Act.IsUpkeep)
    (inHand : InHand front) :
    (absorb packet >>= fun _ => rest).Follows fun more result =>
      Deed.Intake (front ++ more) result.isSome := by
  have packets := inHand.packets
  have presses := inHand.presses
  unfold Deed.accounted at packets
  unfold absorb
  split
  · exact intake_takeIn _ upkeep inHand
  · refine follows_count (Uses.bind ((uses_once _).mpr trivial) fun _ => upkeep)
      inHand.intake fun _ _ => ⟨.inl ?_, .inl ?_⟩
    all_goals
      simp [Deed.accounted, Deed.fetches, Deed.recording?, Deed.counter?]
      omega

/-- A packet that is to be fetched and can be is in hand; one that cannot be is not
taken in. -/
theorem intake_fetch (upkeep : rest.Uses Act.IsUpkeep) (intake : Deed.Intake front true) :
    (fetch describe >>= fun _ => rest).Follows fun more result =>
      Deed.Intake (front ++ more) result.isSome := by
  have packets := intake.packets.resolve_right (by simp)
  have presses := intake.presses.resolve_right (by simp)
  have behind : (listen describe >>= fun _ => rest).Uses Act.IsUpkeep :=
    Uses.bind (isUpkeep_listen describe) fun _ => upkeep
  apply follows_behind (fun deeds result => Deed.Intake deeds result.isSome) (intake.weaken _)
  intro answer begun ended
  cases answer with
  | error fault =>
      have told : (once (.tell (.fetchFailed (describe fault))) >>= fun _ =>
          listen describe >>= fun _ => rest).Uses Act.IsUpkeep :=
        Uses.bind ((uses_once _).mpr trivial) fun _ => behind
      apply Uses.intake told
      constructor <;> left <;>
        simpa [Deed.accounted, Deed.fetches, Deed.recording?, Deed.counter?]
  | ok bytes =>
      show ((absorb (Frame.ofVector bytes) >>= fun _ => listen describe) >>= fun _ =>
        rest).Follows _
      rw [bind_assoc]
      apply intake_absorb _ behind
      constructor <;>
        simpa [Deed.accounted, Deed.fetches, Deed.recording?, Deed.counter?]

/-- Upkeep in front of what accounts for all that it takes in. -/
theorem follows_upkeep {first : Program ε β} {next : β → Program ε α}
    (upkeep : first.Uses Act.IsUpkeep) (intake : Deed.Intake front true)
    (onwards : ∀ result front, Deed.Intake front true →
      (next result).Follows fun more result => Deed.Intake (front ++ more) result.isSome) :
    (first >>= next).Follows fun more result => Deed.Intake (front ++ more) result.isSome := by
  apply follows_bind.mpr
  apply upkeep.follows
  intro deeds result harmless
  have kept := intake.upkeep harmless
  cases result with
  | none => exact kept.weaken false
  | some result => simpa only [List.append_assoc] using onwards result _ kept

/-- Whatever the station finds to do, a step accounts for all that it takes in. -/
theorem intake_step : (step describe setup).Follows fun deeds result =>
    Deed.Intake deeds result.isSome := by
  have looking : (once .look : Program ε _).Uses Act.IsUpkeep := (uses_once _).mpr trivial
  have calming : (once .calm : Program ε _).Uses Act.IsUpkeep := (uses_once _).mpr trivial
  show (step describe setup).Follows fun more result => Deed.Intake ([] ++ more) result.isSome
  apply follows_upkeep looking Deed.intake_nil
  intro activity front looked
  split
  · exact Uses.intake (uses_done _) looked
  apply follows_upkeep calming looked
  intro ready front calmed
  split
  · exact intake_fetch describe (uses_done _) calmed
  · apply Uses.intake _ calmed
    apply Uses.bind ((uses_once _).mpr trivial)
    intro request
    cases request with
    | none => exact Uses.bind ((uses_once _).mpr trivial) fun _ => uses_done _
    | some request => exact isUpkeep_serve describe setup request

/-- Whatever task a station is set to, it accounts for all that it takes in. -/
theorem intake_task (task : Task) :
    (task.program describe setup).Follows fun deeds result =>
      Deed.Intake deeds result.isSome := by
  cases task with
  | start =>
      have upkeep : (Task.start.program describe setup).Uses Act.IsUpkeep :=
        Uses.bind (isUpkeep_start describe setup) fun _ => uses_done _
      exact upkeep.intake Deed.intake_nil
  | step => exact intake_step describe setup

end Program

end ShutterRadio
