/-
# What it takes to send a packet

To send a packet the driver waits for the chip to settle, hands the packet over, asks
for the sending mode, waits until the chip has settled in it and until the packet has
left, and asks for standby.  The three waits read one sequence of answers, so where
one of them ends decides what the next one sees.  Each ends at the first answer that
shows what it waits for, or is given up after a fixed number of them.

`Through` says what goes over the bus in a list of such stages, and which waits are
given up; `BrokeOff` says so of stages of which one met a failing transaction.  Both are
put together along the operations of the driver.  Nothing is assumed of the chip or of
the bus but that its pauses come to their end.
-/

import ShutterRadio.Proofs.Chip.Exchange

namespace ShutterRadio

namespace Chip

variable {σ τ : Type}

/-! ## Waits -/

/-- What the driver waits for: that the chip has settled in its mode, or that it has
sent its packet. -/
inductive Awaited
  | settled
  | sent
  deriving DecidableEq

namespace Awaited

def shown : Awaited → StatusFlags → Bool
  | settled => modeReady
  | sent => packetSent

/-- How often to ask for it. -/
def polls : Awaited → Nat
  | settled => modePolls
  | sent => sendPolls

/-- The pause in between, in microseconds. -/
def micros : Awaited → Nat
  | settled => modePollMicros
  | sent => sendPollMicros

theorem polls_settled : settled.polls = 10000 := rfl

theorem polls_sent : sent.polls = 100000 := rfl

theorem micros_settled : settled.micros = 1 := rfl

theorem micros_sent : sent.micros = 100 := rfl

/-- Count that it was given up. -/
def count : Awaited → Driver σ → Driver σ
  | settled => fun driver => { driver with modeTimeouts := driver.modeTimeouts + 1 }
  | sent => fun driver => { driver with sendTimeouts := driver.sendTimeouts + 1 }

/-- What is told when it is given up. -/
def note : Awaited → StatusFlags → Note
  | settled => .modeTimeout
  | sent => .sendTimeout

/-- Wait for it, or until it took too long. -/
def wait (b : Bus σ τ) : Awaited → Run σ τ Unit
  | settled => awaitMode b
  | sent => awaitSent b

end Awaited

/-- A wait that was given up, and the flags seen last. -/
abbrev Missed := Awaited × StatusFlags

/-- A driver that has given up waits, with its bus in some state. -/
def Driver.having (driver : Driver σ) (missed : List Missed) (bus : σ) : Driver σ where
  bus
  modeTimeouts := driver.modeTimeouts + .ofNat (missed.countP (·.1 = .settled))
  sendTimeouts := driver.sendTimeouts + .ofNat (missed.countP (·.1 = .sent))
  journal := (missed.map fun wait => wait.1.note wait.2).reverse ++ driver.journal

@[simp]
theorem Driver.having_nil (driver : Driver σ) (bus : σ) :
    driver.having [] bus = { driver with bus } := by
  simp [having]

@[simp]
theorem Driver.having_having (driver : Driver σ) (missed more : List Missed) (bus bus' : σ) :
    (driver.having missed bus).having more bus' = driver.having (missed ++ more) bus' := by
  simp [having, UInt16.ofNat_add, UInt16.add_assoc]

/-- Asking for the flags, with a pause after each answer. -/
def polling (micros : Nat) (seen : List StatusFlags) : List Exchange :=
  seen.flatMap fun flags => [.poll (.ok flags), .pause micros]

theorem polling_answered (micros : Nat) (seen : List StatusFlags) :
    ∀ exchange ∈ polling micros seen, exchange.cause? = none := by
  intro exchange member
  obtain ⟨flags, -, here⟩ := List.mem_flatMap.mp member
  simp only [List.mem_cons, List.not_mem_nil, or_false] at here
  rcases here with rfl | rfl
  · rfl
  · rfl

theorem length_polling (micros : Nat) (seen : List StatusFlags) :
    (polling micros seen).length = 2 * seen.length := by
  induction seen with
  | nil => rfl
  | cons flags seen ih =>
      show (polling micros seen).length + 2 = 2 * (seen.length + 1)
      rw [ih, Nat.mul_succ]

/-- A wait that came to its end, with at most so many polls: the answers that did not show
what was waited for, and the one that did, if there was one. -/
structure Wait (shown : StatusFlags → Bool) (polls : Nat) where
  unshown : List StatusFlags
  last : Option StatusFlags
  not_shown : ∀ seen ∈ unshown, shown seen = false
  shows : ∀ seen ∈ last, shown seen = true
  length_le : unshown.length + last.toList.length ≤ polls
  exhausted : last = none → unshown.length = polls

namespace Wait

variable {shown : StatusFlags → Bool} {polls : Nat}

/-- What went over the bus in a wait. -/
def exchanges (wait : Wait shown polls) (micros : Nat) : List Exchange :=
  polling micros wait.unshown ++ wait.last.toList.map fun seen => .poll (.ok seen)

/-- The flags seen last, if the wait was given up; some flags were seen before it. -/
def gaveUp? (wait : Wait shown polls) (before : StatusFlags) : Option StatusFlags :=
  if wait.last = none then some (wait.unshown.getLastD before) else none

theorem exchanges_answered (wait : Wait shown polls) (micros : Nat) :
    ∀ exchange ∈ wait.exchanges micros, exchange.cause? = none := by
  refine List.forall_mem_append.mpr ⟨polling_answered _ _, fun exchange member => ?_⟩
  obtain ⟨seen, -, rfl⟩ := List.mem_map.mp member
  rfl

/-- There is nothing to wait for. -/
def shownAtOnce {seen : StatusFlags} (isShown : shown seen = true) : Wait shown (polls + 1) where
  unshown := []
  last := some seen
  not_shown := nofun
  shows := by simpa using isShown
  length_le := Nat.le_add_left _ _
  exhausted := nofun

/-- A wait with one more poll, in front of the others. -/
def later (wait : Wait shown polls) {seen : StatusFlags} (notShown : shown seen = false) :
    Wait shown (polls + 1) where
  unshown := seen :: wait.unshown
  last := wait.last
  not_shown := List.forall_mem_cons.mpr ⟨notShown, wait.not_shown⟩
  shows := wait.shows
  length_le := by
    have := wait.length_le
    simp only [List.length_cons]
    omega
  exhausted none := congrArg (· + 1) (wait.exhausted none)

theorem gaveUp?_later (wait : Wait shown polls) {seen : StatusFlags}
    (notShown : shown seen = false) (before : StatusFlags) :
    (wait.later notShown).gaveUp? before = wait.gaveUp? seen := by
  simp only [gaveUp?, later, List.getLastD_cons]

end Wait

namespace Awaited

/-- A wait for something, that came to its end. -/
abbrev Waited (awaited : Awaited) := Wait awaited.shown awaited.polls

/-- What went over the bus in it. -/
def exchanges {awaited : Awaited} (wait : awaited.Waited) : List Exchange :=
  wait.exchanges awaited.micros

/-- The wait itself, if it was given up. -/
def missed {awaited : Awaited} (wait : awaited.Waited) : List Missed :=
  (wait.gaveUp? ⟨0, 0⟩).toList.map fun seen => (awaited, seen)

end Awaited

/-! ## Stages -/

/-- One stage of an operation. -/
inductive Stage
  | write (parts : List (List UInt8))
  | await (awaited : Awaited)

namespace Stage

/-- What goes over the bus in stages that are gone through, and the waits given up. -/
inductive Through : List Stage → List Exchange → List Missed → Prop
  | done : Through [] [] []
  | write (parts : List (List UInt8)) {stages : List Stage} {exchanges : List Exchange}
      {missed : List Missed} : Through stages exchanges missed →
        Through (.write parts :: stages) (.write parts (.ok ()) :: exchanges) missed
  | await {awaited : Awaited} (wait : awaited.Waited) {stages : List Stage}
      {exchanges : List Exchange} {missed : List Missed} : Through stages exchanges missed →
        Through (.await awaited :: stages) (Awaited.exchanges wait ++ exchanges)
          (Awaited.missed wait ++ missed)

/-- What goes over the bus in a stage of which a transaction fails: that is the last. -/
inductive Fails : Stage → List Exchange → String → Prop
  | write (parts : List (List UInt8)) (cause : String) :
      Fails (.write parts) [.write parts (.error cause)] cause
  | await {awaited : Awaited} {early : List StatusFlags} (cause : String) :
      (∀ seen ∈ early, awaited.shown seen = false) → early.length < awaited.polls →
        Fails (.await awaited) (polling awaited.micros early ++ [.poll (.error cause)]) cause

/-- Some stages were gone through, and then a transaction failed. -/
def BreaksOff (stages : List Stage) (exchanges : List Exchange) (missed : List Missed)
    (cause : String) : Prop :=
  ∃ done halfway rest made last, stages = done ++ halfway :: rest ∧ Through done made missed ∧
    Fails halfway last cause ∧ exchanges = made ++ last

variable {stages more : List Stage} {exchanges further : List Exchange}
  {missed others : List Missed} {cause : String}

theorem Through.append (first : Through stages exchanges missed)
    (second : Through more further others) :
    Through (stages ++ more) (exchanges ++ further) (missed ++ others) := by
  induction first with
  | done => exact second
  | write parts _ ih => exact .write parts ih
  | await wait _ ih =>
      rw [List.append_assoc, List.append_assoc]
      exact .await wait ih

/-- What would have come after a failure is of no account. -/
theorem BreaksOff.early (breaks : BreaksOff stages exchanges missed cause) (more : List Stage) :
    BreaksOff (stages ++ more) exchanges missed cause := by
  obtain ⟨done, halfway, rest, made, last, rfl, through, fails, rfl⟩ := breaks
  exact ⟨done, halfway, rest ++ more, made, last, by simp, through, fails, rfl⟩

theorem BreaksOff.late (first : Through stages exchanges missed)
    (breaks : BreaksOff more further others cause) :
    BreaksOff (stages ++ more) (exchanges ++ further) (missed ++ others) cause := by
  obtain ⟨done, halfway, rest, made, last, rfl, through, fails, rfl⟩ := breaks
  exact ⟨stages ++ done, halfway, rest, exchanges ++ made, last, by simp, first.append through,
    fails, by simp⟩

/-! ### Failing transactions -/

theorem Through.answered (through : Through stages exchanges missed) :
    ∀ exchange ∈ exchanges, exchange.cause? = none := by
  induction through with
  | done => exact fun _ none => (List.not_mem_nil none).elim
  | write parts _ ih => exact List.forall_mem_cons.mpr ⟨rfl, ih⟩
  | await wait _ ih => exact List.forall_mem_append.mpr ⟨wait.exchanges_answered _, ih⟩

theorem Fails.last {stage : Stage} (fails : Fails stage exchanges cause) :
    ∃ front failing, exchanges = front ++ [failing] ∧ failing.cause? = some cause ∧
      ∀ earlier ∈ front, earlier.cause? = none := by
  cases fails with
  | write parts => exact ⟨[], _, rfl, rfl, nofun⟩
  | await => exact ⟨_, _, rfl, rfl, polling_answered _ _⟩

/-- The failing transaction is the last one, and no other failed. -/
theorem BreaksOff.last (breaks : BreaksOff stages exchanges missed cause) :
    ∃ front failing, exchanges = front ++ [failing] ∧ failing.cause? = some cause ∧
      ∀ earlier ∈ front, earlier.cause? = none := by
  obtain ⟨done, halfway, rest, made, last, -, through, fails, rfl⟩ := breaks
  obtain ⟨front, failing, rfl, failed, answered⟩ := fails.last
  exact ⟨made ++ front, failing, by simp, failed,
    List.forall_mem_append.mpr ⟨through.answered, answered⟩⟩

end Stage

/-! ## Operations -/

variable (b : Bus σ τ)

/-- What became of an operation with these stages. -/
inductive Conducted (stages : List Stage) (before : Driver σ) :
    EStateM.Result (Halt τ) (Driver σ) Unit → Prop
  | ended {exchanges : List Exchange} {missed : List Missed} {s : σ} :
      Stage.Through stages exchanges missed → b.Path before.bus exchanges s →
      Conducted stages before (.ok () (before.having missed s))
  | failed {exchanges : List Exchange} {missed : List Missed} {cause : String} {s : σ} :
      Stage.BreaksOff stages exchanges missed cause → b.Path before.bus exchanges s →
      Conducted stages before (.error (.fault (.spi cause)) (before.having missed s))

/-- An operation goes through stages, one after the other, and ends if one of them fails. -/
def Conducts (stages : List Stage) (operation : Run σ τ Unit) : Prop :=
  ∀ before, Conducted b stages before (operation before)

variable {b}

theorem Conducts.andThen {stages more : List Stage} {operation rest : Run σ τ Unit}
    (first : Conducts b stages operation) (second : Conducts b more rest) :
    Conducts b (stages ++ more) (operation >>= fun _ => rest) := by
  intro before
  have began := first before
  show Conducted b _ before (EStateM.bind operation (fun _ => rest) before)
  unfold EStateM.bind
  generalize operation before = middle at began ⊢
  cases began with
  | @ended exchanges missed s through path =>
      have went := second (before.having missed s)
      show Conducted b _ before (rest (before.having missed s))
      generalize rest (before.having missed s) = last at went ⊢
      cases went with
      | ended through' path' =>
          rw [Driver.having_having]
          exact .ended (through.append through') (path.append path')
      | failed breaks path' =>
          rw [Driver.having_having]
          exact .failed (breaks.late through) (path.append path')
  | failed breaks path => exact .failed (breaks.early more) path

theorem conducts_writes (parts : List (List UInt8)) :
    Conducts b [.write parts] (use .spi (b.write parts)) := by
  intro before
  have wrote := exchanged_write b before parts
  generalize use .spi (b.write parts) before = result at wrote ⊢
  cases wrote with
  | @answered answer s leads =>
      rw [← Driver.having_nil before s]
      exact .ended (.write parts .done) (Bus.path_singleton leads)
  | @refused cause s leads =>
      rw [← Driver.having_nil before s]
      exact .failed ⟨[], .write parts, [], [], _, rfl, .done, .write parts cause, rfl⟩
        (Bus.path_singleton leads)

/-- What became of asking for the flags until they show something. -/
inductive Polled (b : Bus σ τ) (shown : StatusFlags → Bool) (micros polls : Nat)
    (start : StatusFlags) (before : Driver σ) :
    EStateM.Result (Halt τ) (Driver σ) (Option StatusFlags) → Prop
  | ended (wait : Wait shown polls) {s : σ} : b.Path before.bus (wait.exchanges micros) s →
      Polled b shown micros polls start before (.ok (wait.gaveUp? start) { before with bus := s })
  | refused {early : List StatusFlags} {cause : String} {s : σ} :
      (∀ other ∈ early, shown other = false) → early.length < polls →
      b.Path before.bus (polling micros early ++ [.poll (.error cause)]) s →
      Polled b shown micros polls start before
        (.error (.fault (.spi cause)) { before with bus := s })

/-- One more poll that did not show it, in front of the others, and the pause after it. -/
theorem Polled.later {shown : StatusFlags → Bool} {micros polls : Nat} {start seen : StatusFlags}
    {before : Driver σ} {s s' : σ}
    {result : EStateM.Result (Halt τ) (Driver σ) (Option StatusFlags)}
    (asked : (Exchange.poll (.ok seen)).Leads b before.bus s)
    (paused : b.pause micros s = .ok () s') (notShown : shown seen = false)
    (polled : Polled b shown micros polls seen { before with bus := s' } result) :
    Polled b shown micros (polls + 1) start before result := by
  have path {exchanges : List Exchange} {after : σ} (rest : b.Path s' exchanges after) :
      b.Path before.bus (polling micros [seen] ++ exchanges) after :=
    .step asked (.step paused rest)
  cases polled with
  | ended wait rest =>
      rw [← wait.gaveUp?_later notShown start]
      exact .ended (wait.later notShown) (path rest)
  | refused others fewer rest =>
      exact .refused (List.forall_mem_cons.mpr ⟨notShown, others⟩) (Nat.succ_lt_succ fewer)
        (path rest)

theorem polled_await (patient : b.Patient) (shown : StatusFlags → Bool) (micros polls : Nat)
    (start : StatusFlags) (before : Driver σ) :
    Polled b shown micros polls start before (await b shown micros polls start before) := by
  induction polls generalizing start before with
  | zero => exact .ended ⟨[], none, nofun, nofun, Nat.le_refl _, fun _ => rfl⟩ (.here _)
  | succ polls ih =>
      have asked := exchanged_flags b before
      show Polled b shown micros _ start before (EStateM.bind (flags b) _ before)
      unfold EStateM.bind
      generalize flags b before = result at asked ⊢
      cases asked with
      | @refused cause s leads =>
          have unshown : ∀ other ∈ ([] : List StatusFlags), shown other = false := nofun
          exact .refused unshown (Nat.succ_pos _) (Bus.path_singleton leads)
      | @answered seen s leads =>
          show Polled b shown micros _ start before ((if shown seen then pure none else do
            pause b micros
            await b shown micros polls seen) { before with bus := s })
          cases isShown : shown seen with
          | true => exact .ended (.shownAtOnce isShown) (Bus.path_singleton leads)
          | false =>
              obtain ⟨s', paused⟩ := patient micros s
              have rested : pause b micros { before with bus := s } =
                  .ok () { before with bus := s' } := by simp only [pause, paused]
              show Polled b shown micros _ start before (EStateM.bind (pause b micros) _ _)
              rw [EStateM.bind, rested]
              exact (ih seen { before with bus := s' }).later leads paused isShown

/-- To wait for something is to ask for it, and to count and tell if it took too long. -/
theorem wait_eq (awaited : Awaited) : awaited.wait b = (do
    match ← await b awaited.shown awaited.micros awaited.polls ⟨0, 0⟩ with
    | none => pure ()
    | some last => giveUp awaited.count (awaited.note last)) := by
  cases awaited with
  | settled => rfl
  | sent => rfl

theorem giveUp_count (awaited : Awaited) (last : StatusFlags) (before : Driver σ) (s : σ) :
    (giveUp awaited.count (awaited.note last) : Run σ τ Unit) { before with bus := s } =
      .ok () (before.having [(awaited, last)] s) := by
  show EStateM.Result.ok () { awaited.count { before with bus := s } with
    journal := awaited.note last :: before.journal } = _
  cases awaited with
  | settled => simp [Driver.having, Awaited.count]
  | sent => simp [Driver.having, Awaited.count]

theorem conducts_wait (patient : b.Patient) (awaited : Awaited) :
    Conducts b [.await awaited] (awaited.wait b) := by
  intro before
  have polled := polled_await patient awaited.shown awaited.micros awaited.polls ⟨0, 0⟩ before
  rw [wait_eq]
  show Conducted b _ before (EStateM.bind _ _ before)
  unfold EStateM.bind
  generalize await b awaited.shown awaited.micros awaited.polls ⟨0, 0⟩ before = result at polled ⊢
  cases polled with
  | @ended wait s path =>
      have through : Stage.Through [.await awaited] (Awaited.exchanges wait)
          (Awaited.missed wait) := by
        simpa using Stage.Through.await wait .done
      unfold Awaited.missed at through
      cases gaveUp : wait.gaveUp? ⟨0, 0⟩ with
      | none =>
          rw [gaveUp] at through
          rw [← Driver.having_nil before s]
          exact .ended through path
      | some last =>
          rw [gaveUp] at through
          show Conducted b _ before (giveUp awaited.count (awaited.note last) _)
          rw [giveUp_count]
          exact .ended through path
  | @refused early cause s others fewer path =>
      rw [← Driver.having_nil before s]
      exact .failed ⟨[], .await awaited, [], [], _, rfl, .done, .await cause others fewer, rfl⟩ path

/-- The stages of sending a packet. -/
def transmission (packet : List UInt8) : List Stage :=
  [.await .settled, .write [[Register.packet.writeByte], packet],
    .write [[Register.mode.writeByte, Mode.transmit.byte]], .await .settled, .await .sent,
    .write [[Register.mode.writeByte, Mode.standby.byte]]]

theorem conducts_transmit (patient : b.Patient) (packet : List UInt8) :
    Conducts b (transmission packet) (transmit b packet) := by
  have wait := conducts_wait patient
  refine (wait .settled).andThen ?_
  refine (conducts_writes _).andThen ?_
  refine (conducts_writes _).andThen ?_
  refine (wait .settled).andThen ?_
  refine (wait .sent).andThen ?_
  exact conducts_writes _

theorem through_transmission {packet : List UInt8} {exchanges : List Exchange}
    {missed : List Missed} (through : Stage.Through (transmission packet) exchanges missed) :
    ∃ (first second : Awaited.settled.Waited) (third : Awaited.sent.Waited),
      exchanges = Awaited.exchanges first ++
        [.write [[0x80], packet] (.ok ()), .write [[0x81, 0x0c]] (.ok ())] ++
        Awaited.exchanges second ++ Awaited.exchanges third ++ [.write [[0x81, 0x04]] (.ok ())] ∧
      missed = Awaited.missed first ++ Awaited.missed second ++ Awaited.missed third := by
  cases through with
  | await first through =>
  cases through with
  | write _ through =>
  cases through with
  | write _ through =>
  cases through with
  | await second through =>
  cases through with
  | await third through =>
  cases through with
  | write _ through =>
  cases through
  have queue : Register.packet.writeByte = 0x80 := by decide
  have mode : Register.mode.writeByte = 0x81 := by decide
  exact ⟨first, second, third, by simp [queue, mode, Mode.byte], by simp⟩

/-- What it takes to send a packet, whatever the chip shows and the bus refuses.

Either no transaction fails, and the packet is sent.  It is handed over once, between a wait
for the chip to settle and the change to the sending mode, then the driver waits for the
chip to settle and for the packet to leave, and the last that it does is to ask for
standby.  Each wait is over with the first poll that shows what it is for, or with its last
poll, and there is a pause after every other poll.

Or a transaction fails.  That is the last use of the bus then, and its cause is the error.

The counters have grown by the waits that were given up until then. -/
theorem transmit_exchanges (b : Bus σ τ) (patient : b.Patient) (packet : List UInt8)
    (driver : Driver σ) :
    ∃ exchanges missed after,
      b.Path driver.bus exchanges after.bus ∧
      after.modeTimeouts = driver.modeTimeouts + .ofNat (missed.countP (·.1 = .settled)) ∧
      after.sendTimeouts = driver.sendTimeouts + .ofNat (missed.countP (·.1 = .sent)) ∧
      (transmit b packet driver = .ok () after ∧
          (∀ exchange ∈ exchanges, exchange.cause? = none) ∧
          (∃ (first second : Awaited.settled.Waited) (third : Awaited.sent.Waited),
            exchanges = Awaited.exchanges first ++
              [.write [[0x80], packet] (.ok ()), .write [[0x81, 0x0c]] (.ok ())] ++
              Awaited.exchanges second ++ Awaited.exchanges third ++
              [.write [[0x81, 0x04]] (.ok ())] ∧
            missed = Awaited.missed first ++ Awaited.missed second ++ Awaited.missed third) ∨
        ∃ cause front failing, transmit b packet driver = .error (.fault (.spi cause)) after ∧
          exchanges = front ++ [failing] ∧ failing.cause? = some cause ∧
          (∀ earlier ∈ front, earlier.cause? = none) ∧
          Stage.BreaksOff (transmission packet) exchanges missed cause) := by
  have conducted := conducts_transmit patient packet driver
  generalize transmit b packet driver = result at conducted ⊢
  cases conducted with
  | @ended exchanges missed s through path =>
      exact ⟨exchanges, missed, driver.having missed s, path, rfl, rfl,
        .inl ⟨rfl, through.answered, through_transmission through⟩⟩
  | @failed exchanges missed cause s breaks path =>
      obtain ⟨front, failing, whole, refused, answered⟩ := breaks.last
      exact ⟨exchanges, missed, driver.having missed s, path, rfl, rfl,
        .inr ⟨cause, front, failing, rfl, whole, refused, answered, breaks⟩⟩

/-- A use of a chip that always shows the same flags. -/
def Exchange.IsSteady (flags : StatusFlags) (exchange : Exchange) : Prop :=
  exchange.cause? = none ∧ ∀ seen, exchange = .poll (.ok seen) → seen = flags

/-- If what is always seen does not show it, the wait lasts as long as a wait can. -/
theorem Awaited.missed_of_steady {awaited : Awaited} {flags : StatusFlags}
    (wait : awaited.Waited) (unshown : awaited.shown flags = false)
    (steady : ∀ exchange ∈ exchanges wait, exchange.IsSteady flags) :
    (∃ last, missed wait = [(awaited, last)]) ∧ (exchanges wait).length = 2 * awaited.polls := by
  have unseen : wait.last = none := by
    cases last : wait.last with
    | none => rfl
    | some seen =>
        have polled : .poll (.ok seen) ∈ exchanges wait := by
          simp [exchanges, Wait.exchanges, last]
        rw [← (steady _ polled).2 seen rfl, wait.shows seen last] at unshown
        cases unshown
  constructor
  · simp [missed, Wait.gaveUp?, unseen]
  · simp [exchanges, Wait.exchanges, unseen, length_polling, wait.exhausted unseen]

/-- A chip that answers every poll with the same flags. -/
def steady (flags : StatusFlags) : Bus Unit Empty where
  write _ _ := (.ok (), ())
  read _ _ _ := (.ok (.ofFn fun place => if place.val = 0 then flags.first else flags.second), ())
  drive _ _ := (.ok (), ())
  pause _ _ := .ok () ()

theorem patient_steady (flags : StatusFlags) : (steady flags).Patient := fun _ _ => ⟨(), rfl⟩

theorem isSteady_of_leads {flags : StatusFlags} {exchange : Exchange} {s s' : Unit}
    (leads : exchange.Leads (steady flags) s s') : exchange.IsSteady flags := by
  cases exchange with
  | write parts answer =>
      injection leads with answered
      rw [← answered]
      exact ⟨rfl, fun seen same => by cases same⟩
  | read address count answer =>
      injection leads with answered
      rw [← answered]
      refine ⟨rfl, fun seen same => ?_⟩
      injection same with _ two bytes
      subst two
      injection eq_of_heq bytes with bytes
      have first := congrArg (fun bytes : Vector UInt8 2 => bytes[0]) bytes
      have second := congrArg (fun bytes : Vector UInt8 2 => bytes[1]) bytes
      simp only [Vector.getElem_ofFn] at first second
      exact (congr (congrArg StatusFlags.mk first) second).symm
  | pause micros => exact ⟨rfl, fun seen same => by cases same⟩

theorem isSteady_of_path {flags : StatusFlags} {exchanges : List Exchange} {s s' : Unit}
    (path : (steady flags).Path s exchanges s') :
    ∀ exchange ∈ exchanges, exchange.IsSteady flags := by
  induction path with
  | here => exact nofun
  | step leads _ ih => exact List.forall_mem_cons.mpr ⟨isSteady_of_leads leads, ih⟩

/-- A chip whose flags are on a list, one entry for each poll.  Behind its end the bus
refuses to read. -/
def scripted : Bus (List StatusFlags) Empty where
  write _ script := (.ok (), script)
  read _ _
    | [] => (.error "over", [])
    | seen :: script => (.ok (.ofFn fun place => if place.val = 0 then seen.first else seen.second),
        script)
  drive _ script := (.ok (), script)
  pause _ script := .ok () script

theorem patient_scripted : scripted.Patient := fun _ script => ⟨script, rfl⟩

/-- One chip settles at the second poll, and at the first one after that; the packet has left
at the second poll for it, if the bus lets that be known.  Another chip never says anything:
all three waits are given up, after two exchanges for each of their polls. -/
theorem transmit_exchanges_scripted :
    let early : List StatusFlags := [⟨0, 0⟩, ⟨0x80, 0⟩, ⟨0x80, 0⟩, ⟨0, 0⟩]
    scripted.Patient ∧
    (∃ exchanges after, scripted.Path (early ++ [⟨0, 8⟩]) exchanges after.bus ∧
      transmit scripted [5, 6] (.fresh (early ++ [⟨0, 8⟩])) = .ok () after ∧
      exchanges.getLast? = some (.write [[0x81, 0x04]] (.ok ()))) ∧
    (∃ front failing after, scripted.Path early (front ++ [failing]) after.bus ∧
      transmit scripted [5, 6] (.fresh early) = .error (.fault (.spi "over")) after ∧
      failing.cause? = some "over" ∧ ∀ earlier ∈ front, earlier.cause? = none) ∧
    (steady ⟨0, 0⟩).Patient ∧
    ∃ exchanges after, (steady ⟨0, 0⟩).Path () exchanges after.bus ∧
      transmit (steady ⟨0, 0⟩) [5, 6] (.fresh ()) = .ok () after ∧ after.modeTimeouts = 2 ∧
      after.sendTimeouts = 1 ∧ exchanges.length = 2 * (10000 + 10000 + 100000) + 3 := by
  intro early
  obtain ⟨exchanges, _, after, path, -, -, sent | failed⟩ :=
    transmit_exchanges scripted patient_scripted [5, 6] (.fresh (early ++ [⟨0, 8⟩]))
  case inr =>
    obtain ⟨cause, front, failing, broken, -⟩ := failed
    have sends : transmit scripted [5, 6] (.fresh (early ++ [⟨0, 8⟩])) = .ok () (.fresh []) := rfl
    rw [sends] at broken
    cases broken
  obtain ⟨exchanges', _, after', path', -, -, sent' | failed'⟩ :=
    transmit_exchanges scripted patient_scripted [5, 6] (.fresh early)
  case inl =>
    have breaks : transmit scripted [5, 6] (.fresh early) =
        .error (.fault (.spi "over")) (.fresh []) := rfl
    rw [breaks] at sent'
    cases sent'.1
  obtain ⟨silence, _, silent, quiet, modes, sends, gone | halted⟩ :=
    transmit_exchanges (steady ⟨0, 0⟩) (patient_steady _) [5, 6] (.fresh ())
  case inr =>
    obtain ⟨cause, front, failing, -, rfl, failed, -⟩ := halted
    rw [(isSteady_of_path quiet failing (by simp)).1] at failed
    cases failed
  refine ⟨patient_scripted, ⟨exchanges, after, path, sent.1, ?_⟩, ?_, patient_steady _, silence,
    silent, quiet, gone.1, ?_⟩
  · obtain ⟨-, -, first, second, third, whole, -⟩ := sent
    rw [whole, List.getLast?_concat]
  · obtain ⟨cause, front, failing, broken, rfl, failed, answered, -⟩ := failed'
    have named : cause = "over" := by
      have breaks : transmit scripted [5, 6] (.fresh early) =
          .error (.fault (.spi "over")) (.fresh []) := rfl
      rw [breaks] at broken
      cases broken
      rfl
    exact ⟨front, failing, after', path', named ▸ broken, named ▸ failed, answered⟩
  · obtain ⟨-, -, first, second, third, rfl, rfl⟩ := gone
    have steady := isSteady_of_path quiet
    simp only [List.forall_mem_append] at steady
    obtain ⟨⟨⟨⟨during₁, -⟩, during₂⟩, during₃⟩, -⟩ := steady
    obtain ⟨⟨_, missed₁⟩, length₁⟩ := Awaited.missed_of_steady first rfl during₁
    obtain ⟨⟨_, missed₂⟩, length₂⟩ := Awaited.missed_of_steady second rfl during₂
    obtain ⟨⟨_, missed₃⟩, length₃⟩ := Awaited.missed_of_steady third rfl during₃
    rw [missed₁, missed₂, missed₃] at modes sends
    refine ⟨modes, sends, ?_⟩
    simp only [List.length_append, length₁, length₂, length₃, Awaited.polls_settled,
      Awaited.polls_sent, List.length_cons, List.length_nil]

end Chip

end ShutterRadio
