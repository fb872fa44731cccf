/-
# The queue between producers and the station

Producers ask the station for transmissions through a bounded queue of
requests, read what it has received from a receive buffer, and see what it is
doing.  A radio that has a packet ready raises a flag.  Everything the two
sides share is here, and every operation is one indivisible step.

Once a request to shut down is in the queue nothing is added behind it, so it
is always the last, and everything accepted before it is served first.
-/

import ShutterRadio.Reception

namespace ShutterRadio

/-- A command to send, and how often to repeat it. -/
structure Transmission where
  command : Command
  repeats : UInt16
  deriving DecidableEq, Repr, Inhabited

/-- What a producer may ask of the station. -/
inductive Request
  | transmit (transmission : Transmission)
  | listen
  -- Stop, once everything asked for earlier has been done.
  | shutdown
  deriving DecidableEq, Repr

/-- How a request is shown in diagnostics. -/
def Request.text : Request → String
  | .transmit ⟨command, repeats⟩ =>
      "Transmit \x7b remote_id: " ++ toString command.remote ++
        ", rolling_code: " ++ toString command.code ++
        ", button: " ++ command.button.text ++
        ", repeat: " ++ toString repeats ++ " \x7d"
  | .listen => "ArmReceive"
  | .shutdown => "Shutdown"

/-- What the station is doing. -/
inductive Activity
  | idle
  | transmitting
  | shutDown
  deriving DecidableEq, Repr, Inhabited

/-- How an activity is shown in diagnostics. -/
def Activity.text : Activity → String
  | .idle => "Idle"
  | .transmitting => "Transmitting"
  | .shutDown => "ShuttingDown"

/-- How many requests wait for the station at most. -/
def queueCapacity : Nat := 16

/-- What producers and the station share. -/
structure Queue where
  /-- Requests accepted and not served yet, oldest first. -/
  requests : Bounded Request queueCapacity
  received : ReceiveBuffer
  /-- Whether the radio has announced a packet that was not fetched yet. -/
  ready : Bool
  closing : Bool
  activity : Activity
  deriving DecidableEq

namespace Queue

def empty : Queue := ⟨.empty, .empty, false, false, .idle⟩

def pending (queue : Queue) : Nat := queue.requests.size

def receivedSize (queue : Queue) : Nat := queue.received.size

/-- Add a request behind the others, if there is room. -/
def push (request : Request) : StateM Queue Bool := do
  match (← get).requests.push? request with
  | some requests => do
      modify fun queue => { queue with requests }
      return true
  | none => return false

/-- Ask for something; refused if the queue is full or shutting down. -/
def offer (request : Request) : StateM Queue Bool := do
  if (← get).closing then return false else push request

/-- Ask for a shutdown.  Asking again changes nothing; while the queue is full
the caller has to come back. -/
def close : StateM Queue Bool := do
  if (← get).closing then
    return true
  else if ← push .shutdown then
    modify fun queue => { queue with closing := true }
    return true
  else
    return false

/-- Whether the station has served a request to shut down. -/
def isDrained (queue : Queue) : Bool := queue.activity == .shutDown

/-- Read the oldest reception, provided that it has settled by `now`. -/
def read? (queue : Queue) (now : Instant) : Option (Reception × Queue) :=
  (queue.received.takeSettled? now).map fun (reception, received) =>
    (reception, { queue with received })

/-- Read the oldest reception, if there is one that has settled by `now`. -/
def collect (queue : Queue) (now : Instant) : Option Reception × Queue :=
  match queue.read? now with
  | some (reception, rest) => (some reception, rest)
  | none => (none, queue)

def signal (queue : Queue) : Queue := { queue with ready := true }

/-- Take back the announcement of a packet. -/
def calm (queue : Queue) : Queue := { queue with ready := false }

def next? (queue : Queue) : Option (Request × Queue) :=
  queue.requests.pop?.map fun (request, requests) => (request, { queue with requests })

/-- Take the oldest request out, if there is one. -/
def take (queue : Queue) : Option Request × Queue :=
  match queue.next? with
  | some (request, rest) => (some request, rest)
  | none => (none, queue)

def record (queue : Queue) (command : Command) (now : Instant) : Placement × Queue :=
  let (placement, received) := queue.received.record command now
  (placement, { queue with received })

def become (queue : Queue) (activity : Activity) : Queue := { queue with activity }

/-- How a queue is shown in diagnostics. -/
def text (queue : Queue) : String :=
  "RadioQueue \x7b state: " ++ queue.activity.text ++
    ", pending: " ++ toString queue.pending ++
    ", received: " ++ toString queue.receivedSize ++ " \x7d"

/-- Taking a request out of a queue takes the oldest one and changes nothing else. -/
theorem take_eq (queue : Queue) :
    queue.requests.toList = queue.take.1.toList ++ queue.take.2.requests.toList ∧
      queue.take.2 = { queue with requests := queue.take.2.requests } := by
  unfold take next?
  cases popped : queue.requests.pop? with
  | none => exact ⟨rfl, rfl⟩
  | some taken => exact ⟨Bounded.pop?_eq_some_iff.mp popped, rfl⟩

/-- If a request waits, the one that stands first is taken. -/
theorem take_of_cons {queue : Queue} {request : Request} {others : List Request}
    (waiting : queue.requests.toList = request :: others) : queue.take.1 = some request := by
  unfold take next?
  cases popped : queue.requests.pop? with
  | none =>
      rw [Bounded.pop?_eq_none_iff.mp popped] at waiting
      cases waiting
  | some taken =>
      rw [Bounded.pop?_eq_some_iff.mp popped] at waiting
      exact congrArg some (List.cons.inj waiting).1

/-- A request finds no room and nothing is changed, or it stands behind the others. -/
theorem push_cases (queue : Queue) (request : Request) :
    (queue.pending = queueCapacity ∧ push request queue = (false, queue)) ∨
    (queue.pending < queueCapacity ∧ ∃ added, push request queue = (true, added) ∧
      added.requests.toList = queue.requests.toList ++ [request] ∧
      added = { queue with requests := added.requests }) := by
  have pushed : push request queue = match queue.requests.push? request with
      | some requests => (true, { queue with requests })
      | none => (false, queue) := by
    show (match queue.requests.push? request with
      | some requests => _
      | none => _ : StateM Queue Bool) queue = _
    cases queue.requests.push? request <;> rfl
  rw [pushed]
  cases asked : queue.requests.push? request with
  | none => exact .inl ⟨Bounded.push?_eq_none_iff.mp asked, rfl⟩
  | some requests =>
      obtain ⟨room, longer⟩ := Bounded.push?_eq_some_iff.mp asked
      exact .inr ⟨room, { queue with requests }, rfl, longer, rfl⟩

theorem offer_of_closing {queue : Queue} (closing : queue.closing = true) (request : Request) :
    offer request queue = (false, queue) := by
  show (if queue.closing then pure false else push request : StateM Queue Bool) queue = _
  rw [if_pos closing]
  rfl

theorem offer_of_running {queue : Queue} (running : queue.closing = false) (request : Request) :
    offer request queue = push request queue := by
  show (if queue.closing then pure false else push request : StateM Queue Bool) queue = _
  rw [if_neg (by simp [running])]

/-- What becomes of an offer: it is refused and nothing is changed, or it was accepted
and stands behind the others. -/
theorem offer_cases (queue : Queue) (request : Request) :
    ((queue.closing = true ∨ queue.pending = queueCapacity) ∧
      offer request queue = (false, queue)) ∨
    (queue.closing = false ∧ queue.pending < queueCapacity ∧
      ∃ added, offer request queue = (true, added) ∧
        added.requests.toList = queue.requests.toList ++ [request] ∧
        added = { queue with requests := added.requests }) := by
  cases closing : queue.closing with
  | true => exact .inl ⟨.inl rfl, offer_of_closing closing request⟩
  | false =>
      rw [offer_of_running closing]
      rcases queue.push_cases request with ⟨full, refused⟩ | ⟨room, added, accepted⟩
      · exact .inl ⟨.inr full, refused⟩
      · exact .inr ⟨rfl, room, added, closing ▸ accepted⟩

theorem close_of_closing {queue : Queue} (closing : queue.closing = true) :
    close queue = (true, queue) := by
  show (if queue.closing then pure true else _ : StateM Queue Bool) queue = _
  rw [if_pos closing]
  rfl

/-- What becomes of a request to shut down: there was one already, or it finds no room,
and nothing is changed; or it is the last. -/
theorem close_cases (queue : Queue) :
    (queue.closing = true ∧ close queue = (true, queue)) ∨
    (queue.closing = false ∧ queue.pending = queueCapacity ∧ close queue = (false, queue)) ∨
    (queue.closing = false ∧ ∃ closed, close queue = (true, closed) ∧
      closed.requests.toList = queue.requests.toList ++ [.shutdown] ∧
      closed = { queue with requests := closed.requests, closing := true }) := by
  cases closing : queue.closing with
  | true => exact .inl ⟨rfl, close_of_closing closing⟩
  | false =>
      have asked : close queue = if (push .shutdown queue).1 then
          (true, { (push .shutdown queue).2 with closing := true })
        else (false, (push .shutdown queue).2) := by
        show (if queue.closing then pure true else _ : StateM Queue Bool) queue = _
        rw [if_neg (by simp [closing])]
        show (if (push .shutdown queue).1 then _ else _ : StateM Queue Bool)
          (push .shutdown queue).2 = _
        split <;> rfl
      rcases queue.push_cases .shutdown with
        ⟨full, refused⟩ | ⟨-, added, accepted, longer, others⟩
      · exact .inr (.inl ⟨rfl, full, by rw [asked, refused]; rfl⟩)
      · refine .inr (.inr ⟨rfl, { added with closing := true }, ?_, longer, ?_⟩)
        · rw [asked, accepted]
          rfl
        · rw [others]

/-- Whatever becomes of an offer, it is about nothing but the requests. -/
theorem offer_aside (queue : Queue) (request : Request) :
    (offer request queue).2 = { queue with requests := (offer request queue).2.requests } := by
  rcases queue.offer_cases request with ⟨-, refused⟩ | ⟨-, -, added, accepted, -, others⟩
  · rw [refused]
  · rw [accepted]
    exact others

theorem close_aside (queue : Queue) :
    (close queue).2 = { queue with
      requests := (close queue).2.requests, closing := (close queue).2.closing } := by
  rcases queue.close_cases with ⟨-, again⟩ | ⟨-, -, refused⟩ | ⟨-, closed, accepted, -, others⟩
  · rw [again]
  · rw [refused]
  · rw [accepted]
    show closed = _
    rw [others]

/-- What a reader takes away leaves the requests alone. -/
theorem collect_eq (queue : Queue) (now : Instant) :
    (queue.collect now).2 =
      { queue with received := (queue.collect now).2.received } := by
  unfold collect read?
  cases queue.received.takeSettled? now <;> rfl

end Queue

end ShutterRadio
