/-
# A receive buffer in use

Frames are recorded in a receive buffer and receptions are taken out of it, in any
order and at any moments.  `ReceiveBuffer.run` follows such uses, and `observe`
looks at what comes of them on the way.

All records there ever are form one line, in the order in which they were started:
those that were handed out are in front, and behind them are those that still wait.
`InLine` says so of a buffer and of what readers were handed.  A record keeps its
place in the line for good, so a place is what tells one record from another of the
same press.  Only the last place can change, by a copy, and only while it waits.

Moments count for one thing only: a reader who comes when a record is the oldest gets
it if it has settled, and nothing otherwise.
-/

import ShutterRadio.Proofs.Reception.Buffer

namespace ShutterRadio

/-- What is done with a receive buffer. -/
inductive Use
  | record (command : Command) (now : Instant)
  | take (now : Instant)
  deriving DecidableEq

namespace Use

def moment : Use → Instant
  | record _ now => now
  | take now => now

/-- The moment at which a frame of this very command comes in, if that is the use. -/
def copy? (command : Command) : Use → Option Instant
  | record other now => if other = command then some now else none
  | take _ => none

/-- The moments at which frames of a command come in, in order. -/
def copies (command : Command) (uses : List Use) : List Instant := uses.filterMap (copy? command)

end Use

namespace ReceiveBuffer

variable {α : Type}

/-! ## Runs -/

def use (buffer : ReceiveBuffer) : Use → ReceiveBuffer
  | .record command now => (buffer.record command now).2
  | .take now => ((buffer.takeSettled? now).map Prod.snd).getD buffer

theorem use_record (buffer : ReceiveBuffer) (command : Command) (now : Instant) :
    buffer.use (.record command now) = (buffer.record command now).2 := rfl

/-- The reception that is handed out, if any is. -/
def handed? (buffer : ReceiveBuffer) : Use → Option Reception
  | .record _ _ => none
  | .take now => (buffer.takeSettled? now).map Prod.fst

/-- The command that starts a record, if any does. -/
def started? (buffer : ReceiveBuffer) : Use → Option Command
  | .record command now =>
      if (buffer.record command now).1 = .appended then some command else none
  | .take _ => none

def run (buffer : ReceiveBuffer) (uses : List Use) : ReceiveBuffer := uses.foldl use buffer

/-- What is seen of the uses of a run, in order. -/
def observe (look : ReceiveBuffer → Use → Option α) (buffer : ReceiveBuffer) :
    List Use → List α
  | [] => []
  | first :: rest => (look buffer first).toList ++ (buffer.use first).observe look rest

/-- The receptions that are handed out, in order. -/
def handed (buffer : ReceiveBuffer) (uses : List Use) : List Reception :=
  buffer.observe handed? uses

/-- The commands that start records, in order. -/
def started (buffer : ReceiveBuffer) (uses : List Use) : List Command :=
  buffer.observe started? uses

variable {buffer : ReceiveBuffer}

theorem run_append (buffer : ReceiveBuffer) (earlier later : List Use) :
    buffer.run (earlier ++ later) = (buffer.run earlier).run later := List.foldl_append

theorem observe_append (look : ReceiveBuffer → Use → Option α) (buffer : ReceiveBuffer)
    (earlier later : List Use) :
    buffer.observe look (earlier ++ later) =
      buffer.observe look earlier ++ (buffer.run earlier).observe look later := by
  induction earlier generalizing buffer with
  | nil => rfl
  | cons first rest ih => simp only [List.cons_append, observe, ih, List.append_assoc]; rfl

theorem run_snoc (buffer : ReceiveBuffer) (earlier : List Use) (last : Use) :
    buffer.run (earlier ++ [last]) = (buffer.run earlier).use last := run_append buffer earlier [last]

theorem handed_snoc (buffer : ReceiveBuffer) (earlier : List Use) (last : Use) :
    buffer.handed (earlier ++ [last]) =
      buffer.handed earlier ++ ((buffer.run earlier).handed? last).toList := by
  simp [handed, observe_append, observe]

/-- Nothing is handed out when a frame comes in. -/
theorem handed_snoc_record (buffer : ReceiveBuffer) (earlier : List Use) (command : Command)
    (now : Instant) : buffer.handed (earlier ++ [.record command now]) = buffer.handed earlier := by
  simp [handed_snoc, handed?]

/-- What starts a record on the way is among what a run starts. -/
theorem mem_started {earlier rest : List Use} {command : Command} {now : Instant}
    (appended : ((buffer.run earlier).record command now).1 = .appended) :
    command ∈ buffer.started (earlier ++ .record command now :: rest) := by
  simp [started, observe_append, observe, started?, appended]

theorem started_snoc (buffer : ReceiveBuffer) (earlier : List Use) (last : Use) :
    buffer.started (earlier ++ [last]) =
      buffer.started earlier ++ ((buffer.run earlier).started? last).toList := by
  simp [started, observe_append, observe]

/-- A reader who gets nothing changes nothing, and one who gets something gets the
oldest. -/
theorem take_cases (buffer : ReceiveBuffer) (now : Instant) :
    (buffer.handed? (.take now) = none ∧ buffer.use (.take now) = buffer) ∨
      ∃ oldest, buffer.handed? (.take now) = some oldest.reception ∧
        buffer.sightings.toList = oldest :: (buffer.use (.take now)).sightings.toList ∧
        (buffer.use (.take now)).debounce = buffer.debounce := by
  simp only [handed?, ReceiveBuffer.use]
  cases taken : buffer.takeSettled? now with
  | none => exact .inl ⟨rfl, rfl⟩
  | some settled =>
      obtain ⟨oldest, sightings, same, -, debounce⟩ := takeSettled?_eq_some taken
      exact .inr ⟨oldest, congrArg some same.symm, sightings, debounce⟩

theorem debounce_use (buffer : ReceiveBuffer) (use : Use) :
    (buffer.use use).debounce = buffer.debounce := by
  cases use with
  | record command now => exact debounce_record buffer command now
  | take now =>
      rcases buffer.take_cases now with ⟨-, same⟩ | ⟨-, -, -, same⟩
      · rw [same]
      · exact same

theorem debounce_run (buffer : ReceiveBuffer) (uses : List Use) :
    (buffer.run uses).debounce = buffer.debounce := by
  induction uses generalizing buffer with
  | nil => rfl
  | cons first rest ih => exact (ih (buffer.use first)).trans (debounce_use buffer first)

/-! ## The line -/

/-- The records there have been are those that were handed out, as they were then,
and behind them those that wait. -/
def InLine (buffer : ReceiveBuffer) (delivered : List Reception) (line : List Sighting) : Prop :=
  ∃ gone, delivered = gone.map Sighting.reception ∧ line = gone ++ buffer.sightings.toList

namespace InLine

variable {delivered : List Reception} {line older newer : List Sighting} {here : Sighting}

/-- In the beginning all of the line waits. -/
theorem start (buffer : ReceiveBuffer) : buffer.InLine [] buffer.sightings.toList :=
  ⟨[], rfl, rfl⟩

/-- What was handed out and what waits are the receptions of the line. -/
theorem receptions (inLine : buffer.InLine delivered line) :
    delivered ++ buffer.receptions = line.map Sighting.reception := by
  obtain ⟨gone, rfl, rfl⟩ := inLine
  exact List.map_append.symm

/-- As long as no more was handed out than there is before a place, that place waits. -/
theorem waiting (inLine : buffer.InLine delivered (older ++ here :: newer))
    (still : delivered.length ≤ older.length) :
    buffer.sightings.toList = older.drop delivered.length ++ here :: newer := by
  obtain ⟨gone, rfl, same⟩ := inLine
  rw [List.length_map] at still ⊢
  rw [← List.drop_append_of_le_length still, same, List.drop_left]

/-- If just as much was handed out as there is before a place, that place is the oldest. -/
theorem oldest (inLine : buffer.InLine delivered (older ++ here :: newer))
    (reached : delivered.length = older.length) :
    buffer.sightings.toList = here :: newer := by
  simpa [reached] using inLine.waiting (Nat.le_of_eq reached)

/-- A reader who comes when a record is the oldest gets it if it has settled. -/
theorem handed?_take (inLine : buffer.InLine delivered (older ++ here :: newer))
    (reached : delivered.length = older.length) (now : Instant) :
    buffer.handed? (.take now) =
      if now.since here.lastSeen < buffer.debounce then none else some here.reception := by
  have first := inLine.oldest reached
  split
  case isTrue early => rw [handed?, takeSettled?_of_early first early]; rfl
  case isFalse settled =>
    obtain ⟨rest, taken, -, -⟩ := takeSettled?_of_settled first (Nat.le_of_not_lt settled)
    rw [handed?, taken]
    rfl

/-- A reader moves the line on and changes none of its places. -/
theorem take (inLine : buffer.InLine delivered line) (now : Instant) :
    (buffer.use (.take now)).InLine (delivered ++ (buffer.handed? (.take now)).toList) line := by
  rcases buffer.take_cases now with ⟨nothing, same⟩ | ⟨oldest, something, sightings, -⟩
  · simpa [nothing, same] using inLine
  · obtain ⟨gone, rfl, rfl⟩ := inLine
    exact ⟨gone ++ [oldest], by simp [something], by simp [sightings]⟩

section

variable {command : Command} {now : Instant}

/-- A copy changes the last place, which is of the same press and still waits. -/
theorem of_repeated (inLine : buffer.InLine delivered (older ++ [here]))
    (placed : (buffer.record command now).1 = .repeated) :
    here.reception.command = command ∧ delivered.length ≤ older.length ∧
      (buffer.use (.record command now)).InLine delivered
        (older ++ [⟨here.reception.again, now⟩]) := by
  obtain ⟨gone, rfl, line⟩ := inLine
  rcases buffer.record_cases command now with
    ⟨front, newest, after, sightings, same, recorded, copied⟩ |
    ⟨after, -, recorded, -⟩ | ⟨-, -, recorded⟩
  · rw [sightings, ← List.append_assoc] at line
    obtain ⟨rfl, last⟩ := List.append_inj' line rfl
    obtain rfl := List.singleton_inj.mp last
    refine ⟨same, by simp, gone, rfl, ?_⟩
    rw [use_record, recorded, copied, List.append_assoc]
  · rw [recorded] at placed
    cases placed
  · rw [recorded] at placed
    cases placed

/-- A frame that starts a record adds a place. -/
theorem of_appended (inLine : buffer.InLine delivered line)
    (placed : (buffer.record command now).1 = .appended) :
    (buffer.use (.record command now)).InLine delivered (line ++ [⟨⟨command, 0⟩, now⟩]) := by
  obtain ⟨gone, rfl, rfl⟩ := inLine
  rcases buffer.record_cases command now with
    ⟨-, -, after, -, -, recorded, -⟩ | ⟨after, -, recorded, added⟩ | ⟨-, -, recorded⟩
  · rw [recorded] at placed
    cases placed
  · refine ⟨gone, rfl, ?_⟩
    rw [use_record, recorded, added, List.append_assoc]
  · rw [recorded] at placed
    cases placed

/-- A frame that is dropped changes nothing. -/
theorem of_dropped (inLine : buffer.InLine delivered line)
    (placed : (buffer.record command now).1 = .dropped) :
    (buffer.use (.record command now)).InLine delivered line := by
  rcases buffer.record_cases command now with
    ⟨-, -, after, -, -, recorded, -⟩ | ⟨after, -, recorded, -⟩ | ⟨-, -, recorded⟩
  · rw [recorded] at placed
    cases placed
  · rw [recorded] at placed
    cases placed
  · rw [use_record, recorded]
    exact inLine

end

/-- A frame of the press that has the last place is a copy, as long as that place waits. -/
theorem repeated (inLine : buffer.InLine delivered (older ++ [here]))
    (still : delivered.length ≤ older.length) (now : Instant) :
    (buffer.record here.reception.command now).1 = .repeated :=
  (record_of_newest now _ (inLine.waiting still) rfl).1

end InLine

end ReceiveBuffer

end ShutterRadio
