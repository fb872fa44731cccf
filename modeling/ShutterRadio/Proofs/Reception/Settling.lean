/-
# One press is one reception

Frames of one press come in close to each other, while readers come when they like
and frames of other presses find no room.  Then the first frame starts a record, all
others are copies of it, and just one reader gets it, with the number of its copies:
the first who comes when the window has passed since the last copy and no older
record is left.

What carries this is where the record stands.  Until the last copy it has the last
place in line, and it is never handed out, as a reader always comes close to the next
copy.  After the last copy its place does not change any more, whatever comes behind
it.

Nothing is asked of the buffer before: its older records may be of any presses, this
one included, and may have been seen at any moments.
-/

import Mathlib.Data.List.Chain
import ShutterRadio.Proofs.Reception.Presses
import ShutterRadio.Proofs.Reception.Usage

namespace ShutterRadio

namespace Use

variable {command : Command}

@[simp]
theorem copies_append (command : Command) (earlier later : List Use) :
    copies command (earlier ++ later) = copies command earlier ++ copies command later :=
  List.filterMap_append

theorem copies_snoc_self (earlier : List Use) (now : Instant) :
    copies command (earlier ++ [.record command now]) = copies command earlier ++ [now] := by
  simp [copies, copy?]

theorem copies_snoc_of_ne {other : Command} (differs : other ≠ command) (earlier : List Use)
    (now : Instant) : copies command (earlier ++ [.record other now]) = copies command earlier := by
  simp [copies, copy?, differs]

theorem copies_snoc_take (earlier : List Use) (now : Instant) :
    copies command (earlier ++ [.take now]) = copies command earlier := by
  simp [copies, copy?]

/-- A copy comes at the moment of one of the uses. -/
theorem exists_of_mem_copies {uses : List Use} {moment : Instant}
    (copied : moment ∈ copies command uses) : ∃ use ∈ uses, use.moment = moment := by
  obtain ⟨use, among, same⟩ := List.mem_filterMap.mp copied
  refine ⟨use, among, ?_⟩
  cases use with
  | record other now =>
      simp only [copy?, Option.ite_none_right_eq_some, Option.some.injEq] at same
      exact same.2
  | take now => cases same

end Use

/-- The record of a press, by the moments of its first frame and of its copies. -/
def Sighting.ofCopies (command : Command) (begin : Instant) (moments : List Instant) : Sighting :=
  ⟨Press.reception ⟨command, moments.length⟩, moments.getLastD begin⟩

theorem Sighting.ofCopies_snoc (command : Command) (begin : Instant) (moments : List Instant)
    (now : Instant) :
    ofCopies command begin (moments ++ [now]) =
      ⟨(ofCopies command begin moments).reception.again, now⟩ := by
  simp only [ofCopies, ← Press.reception_again, Press.again, List.length_append,
    List.length_singleton, List.getLastD_concat]

namespace ReceiveBuffer

open Use (copies)

/-- A buffer hears a press: `during` the press its frames come in close to each other,
and `later` no more of them come before its record has been handed out. -/
structure Hears (buffer : ReceiveBuffer) (command : Command) (begin : Instant)
    (during later : List Use) : Prop where
  starts : (buffer.record command begin).1 = .appended
  order : (begin :: (during ++ later).map Use.moment).Pairwise (· ≤ ·)
  /-- No gap between copies is as long as the window. -/
  close : (begin :: copies command during).IsChain fun earlier next =>
    next.since earlier < buffer.debounce
  /-- The press is over with its last copy. -/
  ends : ∀ last ∈ during.getLast?, (last.copy? command).isSome
  /-- Until then no other press finds a place. -/
  alone : ∀ other ∈ (buffer.use (.record command begin)).started during, other = command
  /-- There are no more copies before the record and all older ones have been handed out. -/
  quiet : ∀ earlier now rest, later = earlier ++ .record command now :: rest →
    buffer.size < ((buffer.use (.record command begin)).handed (during ++ earlier)).length

namespace Hears

variable {buffer : ReceiveBuffer} {command : Command} {begin now : Instant}
  {during later earlier rest : List Use}

/-- Nobody who comes after a press comes before its last copy. -/
theorem last_le (hears : buffer.Hears command begin during later) {use : Use}
    (among : use ∈ later) : (copies command during).getLastD begin ≤ use.moment := by
  have order := hears.order
  rw [List.map_append, ← List.cons_append, List.pairwise_append] at order
  have after : ∀ moment ∈ begin :: during.map Use.moment, moment ≤ use.moment :=
    fun moment member => order.2.2 moment member _ (List.mem_map_of_mem among)
  rcases List.mem_cons.mp (List.getLastD_mem_cons (l := copies command during) (a := begin)) with
    first | copied
  · rw [first]
    exact after _ List.mem_cons_self
  · obtain ⟨copy, member, same⟩ := Use.exists_of_mem_copies copied
    exact after _ (List.mem_cons_of_mem _ (same ▸ List.mem_map_of_mem member))

/-- A reader who comes during a press is followed by a copy. -/
theorem exists_copy (hears : buffer.Hears command begin during later)
    (cut : during = earlier ++ .take now :: rest) :
    ∃ next more, copies command rest = next :: more ∧ ∀ moment ∈ next :: more, now ≤ moment := by
  have order := hears.order
  have ends := hears.ends
  subst cut
  have before : ∀ moment ∈ copies command rest, now ≤ moment := by
    intro moment copied
    obtain ⟨copy, member, same⟩ := Use.exists_of_mem_copies copied
    rw [List.append_assoc, List.cons_append, List.pairwise_cons, List.map_append,
      List.pairwise_append, List.map_cons, List.pairwise_cons] at order
    exact same ▸ order.2.2.1.1 _ (List.mem_map_of_mem (List.mem_append_left later member))
  have some : copies command rest ≠ [] := by
    rcases List.eq_nil_or_concat rest with rfl | ⟨front, last, rfl⟩
    · exact absurd (ends (.take now) (by simp)) (by simp [Use.copy?])
    · rw [List.concat_eq_append, ← List.cons_append, ← List.append_assoc] at ends
      obtain ⟨moment, copied⟩ := Option.isSome_iff_exists.mp (ends last List.getLast?_concat)
      simp [copies, copied]
  obtain ⟨next, more, same⟩ := List.exists_cons_of_ne_nil some
  exact ⟨next, more, same, same ▸ before⟩

theorem copies_cut (cut : during = earlier ++ .take now :: rest) :
    copies command during = copies command earlier ++ copies command rest := by
  rw [cut, Use.copies_append]
  rfl

/-- A reader who comes during a press comes before the window has passed since the
latest copy. -/
theorem early (hears : buffer.Hears command begin during later)
    (cut : during = earlier ++ .take now :: rest) :
    now.since (Sighting.ofCopies command begin (copies command earlier)).lastSeen <
      buffer.debounce := by
  obtain ⟨next, more, copied, before⟩ := hears.exists_copy cut
  have close := hears.close
  rw [copies_cut cut, copied, ← List.cons_append, List.isChain_append] at close
  have gap : next.since ((copies command earlier).getLastD begin) < buffer.debounce :=
    close.2.2 _ (by rw [List.getLast?_cons]; simp) _ rfl
  have notAfter : now.micros ≤ next.micros := before next List.mem_cons_self
  unfold Instant.since at gap ⊢
  exact Nat.lt_of_le_of_lt (Nat.sub_le_sub_right notAfter _) gap

/-- A reader who comes during a press does not come after its last copy. -/
theorem le_last (hears : buffer.Hears command begin during later)
    (cut : during = earlier ++ .take now :: rest) :
    now ≤ (copies command during).getLastD begin := by
  obtain ⟨next, more, copied, before⟩ := hears.exists_copy cut
  have last : (copies command during).getLastD begin = more.getLastD next := by
    rw [copies_cut cut, copied]
    simp [List.getLastD_eq_getLast?, List.getLast?_append, List.getLast?_cons]
  rw [last]
  exact before _ List.getLastD_mem_cons

/-- Until its last copy a press has the last place in line, and waits. -/
theorem standing (hears : buffer.Hears command begin during later) (cut : during = earlier ++ rest) :
    let start := buffer.use (.record command begin)
    (start.run earlier).InLine (start.handed earlier)
        (buffer.sightings.toList ++ [.ofCopies command begin (copies command earlier)]) ∧
      (start.handed earlier).length ≤ buffer.size := by
  intro start
  induction earlier using List.reverseRecOn generalizing rest with
  | nil => exact ⟨(InLine.start buffer).of_appended hears.starts, Nat.zero_le _⟩
  | append_singleton earlier last ih =>
      rw [List.append_assoc, List.singleton_append] at cut
      obtain ⟨inLine, waits⟩ := ih cut
      rw [run_snoc]
      cases last with
      | record other now =>
          rw [handed_snoc_record]
          refine ⟨?_, waits⟩
          by_cases same : other = command
          · subst same
            obtain ⟨-, -, copied⟩ := inLine.of_repeated (inLine.repeated waits now)
            rw [Use.copies_snoc_self, Sighting.ofCopies_snoc]
            exact copied
          · rw [Use.copies_snoc_of_ne same]
            cases placed : ((start.run earlier).record other now).1 with
            | appended => exact absurd (hears.alone other (cut ▸ mem_started placed)) same
            | repeated => exact absurd (inLine.of_repeated placed).1.symm same
            | dropped => exact inLine.of_dropped placed
      | take now =>
          rw [handed_snoc, Use.copies_snoc_take]
          refine ⟨inLine.take now, ?_⟩
          rcases Nat.lt_or_eq_of_le waits with others | reached
          · rw [List.length_append]
            have one := Option.length_toList_le (o := (start.run earlier).handed? (.take now))
            omega
          · rw [inLine.handed?_take reached, debounce_run, debounce_use, if_pos (hears.early cut)]
            simpa using waits

/-- From its last copy on a press keeps its place in line, just as it is then.  Behind
it come only records that were started later. -/
theorem behind (hears : buffer.Hears command begin during later) (cut : later = earlier ++ rest) :
    let start := buffer.use (.record command begin)
    ∃ newer : List Sighting,
      (start.run (during ++ earlier)).InLine (start.handed (during ++ earlier))
        (buffer.sightings.toList ++ .ofCopies command begin (copies command during) :: newer) ∧
      newer.map (·.reception.command) = (start.run during).started earlier := by
  intro start
  induction earlier using List.reverseRecOn generalizing rest with
  | nil =>
      obtain ⟨inLine, -⟩ := hears.standing (List.append_nil during).symm
      exact ⟨[], by simpa using inLine, rfl⟩
  | append_singleton earlier last ih =>
      rw [List.append_assoc, List.singleton_append] at cut
      obtain ⟨newer, inLine, begun⟩ := ih cut
      rw [← List.append_assoc, run_snoc, started_snoc, ← begun, ← run_append]
      cases last with
      | record other now =>
          rw [handed_snoc_record]
          cases placed : ((start.run (during ++ earlier)).record other now).1 with
          | appended =>
              refine ⟨newer ++ [⟨⟨other, 0⟩, now⟩], by simpa using inLine.of_appended placed, ?_⟩
              simp [started?, placed]
          | repeated =>
              rcases List.eq_nil_or_concat newer with rfl | ⟨between, latest, rfl⟩
              · -- A copy of the press itself would come before it was handed out.
                obtain ⟨same, waits, -⟩ := inLine.of_repeated placed
                obtain rfl : command = other := same
                exact absurd (hears.quiet _ _ _ cut) (Nat.not_lt.mpr waits)
              · rw [List.concat_eq_append, ← List.cons_append, ← List.append_assoc] at inLine
                obtain ⟨-, -, copied⟩ := inLine.of_repeated placed
                refine ⟨between ++ [⟨latest.reception.again, now⟩], by simpa using copied, ?_⟩
                simp [started?, placed, Reception.again]
          | dropped => exact ⟨newer, inLine.of_dropped placed, by simp [started?, placed]⟩
      | take now =>
          rw [handed_snoc]
          exact ⟨newer, inLine.take now, by simp [started?]⟩

/-- A reader who finds the press to be the oldest before its last copy gets nothing. -/
theorem handed?_during (hears : buffer.Hears command begin during later)
    (cut : during = earlier ++ .take now :: rest)
    (reached : ((buffer.use (.record command begin)).handed earlier).length = buffer.size) :
    ((buffer.use (.record command begin)).run earlier).handed? (.take now) = none := by
  obtain ⟨inLine, -⟩ := hears.standing cut
  rw [inLine.handed?_take reached, debounce_run, debounce_use]
  exact if_pos (hears.early cut)

/-- A reader who finds the press to be the oldest after its last copy gets it, with all
its copies, if it has settled. -/
theorem handed?_later (hears : buffer.Hears command begin during later)
    (cut : later = earlier ++ .take now :: rest)
    (reached : ((buffer.use (.record command begin)).handed (during ++ earlier)).length =
      buffer.size) :
    ((buffer.use (.record command begin)).run (during ++ earlier)).handed? (.take now) =
      if ((copies command during).getLastD begin).micros + buffer.debounce ≤ now.micros then
        some (Press.reception ⟨command, (copies command during).length⟩)
      else none := by
  obtain ⟨newer, inLine, -⟩ := hears.behind cut
  have notBefore : ((copies command during).getLastD begin).micros ≤ now.micros :=
    hears.last_le (show Use.take now ∈ later by simp [cut])
  rw [inLine.handed?_take reached, debounce_run, debounce_use]
  by_cases settled : ((copies command during).getLastD begin).micros + buffer.debounce ≤ now.micros
  · rw [if_pos settled, if_neg]
    · rfl
    · exact Nat.not_lt.mpr (Nat.le_sub_of_add_le' settled)
  · rw [if_neg settled, if_pos]
    exact (Nat.sub_lt_iff_lt_add notBefore).mpr (by omega)

/-- Copies of one press become one reception, and it is handed out once, by the time at
which it has settled.  Every frame after the first is a copy; what was handed out and
what waits are in the end the receptions from before, that of the press with all its
copies, and those of later records; and a reader who finds the press to be the oldest
gets it if the window has passed since its last copy, and nothing if it has not. -/
theorem handed_once (hears : buffer.Hears command begin during later) :
    let start := buffer.use (.record command begin)
    let last := (copies command during).getLastD begin
    let whole : Reception := ⟨command, .ofNat (min (copies command during).length 0xffff)⟩
    (∀ earlier now rest, during = earlier ++ .record command now :: rest →
      ((start.run earlier).record command now).1 = .repeated) ∧
    (∀ earlier rest, during = earlier ++ rest →
      (start.handed earlier).length ≤ buffer.size ∧
      start.handed earlier ++ (start.run earlier).receptions = buffer.receptions ++
        [⟨command, .ofNat (min (copies command earlier).length 0xffff)⟩]) ∧
    (∀ earlier rest, later = earlier ++ rest → ∃ newer,
      start.handed (during ++ earlier) ++ (start.run (during ++ earlier)).receptions =
        buffer.receptions ++ whole :: newer ∧
      newer.map Reception.command = (start.run during).started earlier) ∧
    (∀ earlier now rest, during ++ later = earlier ++ .take now :: rest →
      (start.handed earlier).length = buffer.size →
      (start.run earlier).handed? (.take now) =
        if last.micros + buffer.debounce ≤ now.micros then some whole else none) := by
  intro start last whole
  refine ⟨?copies, ?during, ?later, ?readers⟩
  case copies =>
    intro earlier now rest cut
    obtain ⟨inLine, waits⟩ := hears.standing cut
    exact inLine.repeated waits now
  case during =>
    intro earlier rest cut
    obtain ⟨inLine, waits⟩ := hears.standing cut
    refine ⟨waits, inLine.receptions.trans ?_⟩
    rw [List.map_append]
    rfl
  case later =>
    intro earlier rest cut
    obtain ⟨newer, inLine, begun⟩ := hears.behind cut
    refine ⟨newer.map Sighting.reception, inLine.receptions.trans ?_, ?_⟩
    · rw [List.map_append]
      rfl
    · rw [List.map_map]
      exact begun
  case readers =>
    intro earlier now rest cut reached
    rcases List.append_eq_append_iff.mp cut with ⟨between, rfl, after⟩ | ⟨between, split, after⟩
    · exact hears.handed?_later after reached
    · cases between with
      | nil =>
          obtain rfl : during = earlier := split.trans (List.append_nil earlier)
          rw [← List.append_nil during] at reached ⊢
          exact hears.handed?_later after.symm reached
      | cons next more =>
          obtain ⟨rfl, -⟩ := List.cons.inj after
          have window := hears.early split
          have notAfter : now.micros ≤ last.micros := hears.le_last split
          rw [hears.handed?_during split reached, if_neg]
          omega

end Hears

/-- A buffer in which seven records of one press have waited since the origin. -/
def crowded : ReceiveBuffer :=
  ⟨⟨List.replicate 7 ⟨⟨⟨5, 1, .my⟩, 0⟩, .origin⟩, by decide⟩, debounceWindow⟩

/-- A press of two frames takes the last room there is, so that a frame of another one
is dropped in between.  Readers come until the older records are gone; the one who comes
just before the press has settled gets nothing, and the next one gets it.  Only then
does the same press come again. -/
theorem handed_once_crowded :
    crowded.Hears ⟨0x27962a, 2612, .up⟩ (.ofMicros 100000)
        [.record ⟨6, 1, .my⟩ (.ofMicros 130000), .take (.ofMicros 140000),
          .record ⟨0x27962a, 2612, .up⟩ (.ofMicros 240000)]
        (List.replicate 7 (.take (.ofMicros 300000)) ++ [.take (.ofMicros 489999),
          .take (.ofMicros 490000), .record ⟨0x27962a, 2612, .up⟩ (.ofMicros 500000)]) ∧
      ((crowded.use (.record ⟨0x27962a, 2612, .up⟩ (.ofMicros 100000))).run
          ([.record ⟨6, 1, .my⟩ (.ofMicros 130000), .take (.ofMicros 140000),
            .record ⟨0x27962a, 2612, .up⟩ (.ofMicros 240000)] ++
            (List.replicate 7 (.take (.ofMicros 300000)) ++ [.take (.ofMicros 489999)]))).handed?
        (.take (.ofMicros 490000)) = some ⟨⟨0x27962a, 2612, .up⟩, 1⟩ := by
  refine (and_iff_left_of_imp fun hears => hears.handed_once.2.2.2 _ _ _ rfl (by decide)).mpr ?_
  constructor
  case starts => decide
  case order => decide
  case close => decide
  case ends => decide
  case alone => decide
  case quiet =>
    intro earlier now rest cut
    obtain ⟨rfl, -, -⟩ : earlier = List.replicate 7 (.take (.ofMicros 300000)) ++
        [.take (.ofMicros 489999), .take (.ofMicros 490000)] ∧ _ ∧ _ := by
      simpa [List.replicate, List.cons_eq_append_iff] using cut
    decide

end ReceiveBuffer

end ShutterRadio
