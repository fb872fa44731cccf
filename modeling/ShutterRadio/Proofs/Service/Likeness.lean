/-
# Devices that look alike

Some of the state of a device may be of no account for a station: what the station gets to
see, and what becomes of the rest of the state, does not depend on it.  Such a device can be
seen through a map that leaves that part out, and looks like another device then.

On devices that look alike every act does the same, so a service on one of them, seen
through the map, is a service on the other: `Service.run_map`.
-/

import ShutterRadio.Proofs.Service.Basic

namespace ShutterRadio

variable {σ ρ ε τ α : Type} {f : σ → ρ}

/-- A result with its state seen through a map. -/
def through (f : σ → ρ) : EStateM.Result τ σ α → EStateM.Result τ ρ α
  | .ok answer s => .ok answer (f s)
  | .error reason s => .error reason (f s)

/-- The state that a result leaves things in. -/
def left : EStateM.Result τ σ α → σ
  | .ok _ s => s
  | .error _ s => s

theorem left_through (result : EStateM.Result τ σ α) :
    left (through f result) = f (left result) := by
  cases result <;> rfl

/-- Through the map, one timebase looks like the other. -/
structure Timebase.Maps (f : σ → ρ) (base : Timebase σ τ) (base' : Timebase ρ τ) : Prop where
  time : ∀ s, base'.time (f s) = base.time s
  read : ∀ s, base'.read (f s) = ((base.read s).1, f (base.read s).2)
  pause : ∀ micros s, base'.pause micros (f s) = through f (base.pause micros s)

/-- Through the map, one device looks like the other, its light apart. -/
structure Device.Maps (f : σ → ρ) (d : Device σ ε τ) (d' : Device ρ ε τ) : Prop where
  timebase : d.toTimebase.Maps f d'.toTimebase
  perform : ∀ activity asked s, d'.perform activity asked (f s) =
    { d.perform activity asked s with device := f (d.perform activity asked s).device }
  describe : d'.describe = d.describe

theorem Timebase.Maps.wait {base : Timebase σ τ} {base' : Timebase ρ τ} (maps : base.Maps f base')
    (deadline : Instant) (s : σ) :
    base'.wait deadline (f s) = through f (base.wait deadline s) := by
  have read := maps.read s
  by_cases remains : deadline.since (base.read s).1 = 0
  · rw [wait_of_reached base deadline s remains,
      wait_of_reached base' deadline (f s) (by rw [read]; exact remains), read]
    rfl
  · have remains' : deadline.since (base'.read (f s)).1 ≠ 0 := by rwa [read]
    have paused := maps.pause (min (deadline.since (base.read s).1) longestSlice) (base.read s).2
    cases slept : base.pause (min (deadline.since (base.read s).1) longestSlice)
        (base.read s).2 with
    | ok _ between =>
        rw [slept] at paused
        have shorter := base.remaining_decreases deadline _ remains slept
        rw [base.wait_of_paused deadline remains slept,
          base'.wait_of_paused deadline remains' (by rw [read]; exact paused)]
        exact maps.wait deadline between
    | error reason between =>
        rw [slept] at paused
        rw [base.wait_of_refused deadline remains slept,
          base'.wait_of_refused deadline remains' (by rw [read]; exact paused)]
        rfl
termination_by deadline.since (base.time s)

/-! ## Stations -/

namespace Station

def map (f : σ → ρ) (station : Station σ) : Station ρ :=
  { station with device := f station.device }

theorem passing_map {lapse : σ → EStateM.Result τ σ Unit} {lapse' : ρ → EStateM.Result τ ρ Unit}
    (station : Station σ) (same : lapse' (f station.device) = through f (lapse station.device)) :
    passing lapse' (station.map f) = through (map f) (passing lapse station) := by
  have shown : lapse' (station.map f).device = through f (lapse station.device) := same
  unfold passing
  rw [shown]
  cases lapse station.device <;> rfl

theorem call_map {d : Device σ ε τ} {d' : Device ρ ε τ} (maps : d.Maps f d') (asked : Call)
    (station : Station σ) :
    call d' asked (station.map f) = through (map f) (call d asked station) := by
  have shown : d'.perform (station.map f).queue.activity asked (station.map f).device = _ :=
    maps.perform station.queue.activity asked station.device
  simp only [call, shown]
  cases (d.perform station.queue.activity asked station.device).ending <;> rfl

end Station

/-- Every act does the same, the switching of the light if that looks the same too. -/
theorem Act.perform_map {d : Device σ ε τ} {d' : Device ρ ε τ} (maps : d.Maps f d') (act : Act)
    (light : ∀ on, act = .light on → ∀ level s, d'.indicate level (f s) = f (d.indicate level s))
    (station : Station σ) :
    act.perform d' (station.map f) = through (Station.map f) (act.perform d station) := by
  cases act with
  | call asked => exact Station.call_map maps asked station
  | pause micros => exact Station.passing_map station (maps.timebase.pause micros _)
  | wait deadline => exact Station.passing_map station (maps.timebase.wait deadline _)
  | clock =>
      have read : d'.read (station.map f).device = _ := maps.timebase.read station.device
      simp only [perform, Station.clock, read]
      rfl
  | light on =>
      have shown := light on rfl
      rcases station with ⟨setup, indicator, tally, queue, device, journal⟩
      cases indicator with
      | none => rfl
      | some polarity =>
          show EStateM.Result.ok () (⟨setup, some polarity, tally, queue,
            d'.indicate (polarity.level on) (f device), journal⟩ : Station ρ) = _
          rw [shown]
          rfl
  | _ => rfl

theorem Wish.grant_map (wish : Wish) (station : Station σ) :
    wish.grant (station.map f) = through (Station.map f) (wish.grant station) := by
  have offer (request : Request) : (Station.offer request : Station.Work ρ Empty Bool)
      (station.map f) = through (Station.map f) (Station.offer request station) := by
    rw [Station.offer_eq, Station.offer_eq]
    rfl
  cases wish with
  | send transmission => exact offer _
  | listen => exact offer _
  | close =>
      rfl
  | announce => rfl
  | read now => rfl

/-! ## Services -/

namespace Service

/-- A service with the device of its station seen through a map. -/
def map (f : σ → ρ) (service : Service σ ε) : Service ρ ε :=
  { service with station := service.station.map f }

theorem act_map {d : Device σ ε τ} {d' : Device ρ ε τ} (maps : d.Maps f d')
    (light : ∀ level s, d'.indicate level (f s) = f (d.indicate level s)) (service : Service σ ε)
    (task : Task) (deeds : List (Deed ε)) (first : Act)
    (next : first.Answer ε → Program ε Station.Flow) :
    (service.map f).act d' task deeds first next = (service.act d task deeds first next).map f := by
  have performed : first.perform d' (service.map f).station = _ :=
    first.perform_map maps (fun _ _ => light) service.station
  have time (station : Station σ) : d'.time (station.map f).device = d.time station.device :=
    maps.timebase.time station.device
  unfold act
  rw [performed]
  cases first.perform d service.station with
  | ok answer station =>
      simp only [through, map, time]
  | error reason station => rfl

theorem move_map {d : Device σ ε τ} {d' : Device ρ ε τ} (maps : d.Maps f d')
    (light : ∀ level s, d'.indicate level (f s) = f (d.indicate level s))
    (service : Service σ ε) (move : Move) :
    (service.map f).move d' move = (service.move d move).map f := by
  cases move with
  | set task =>
      show (service.map f).set d' task = (service.set d task).map f
      rcases service with ⟨station, _ | job, stuck, past, dealings⟩
      · simp only [set, map, maps.describe]
        rfl
      · rfl
  | ask wish =>
      show (service.map f).ask wish = (service.ask wish).map f
      have granted : wish.grant (service.map f).station = _ := wish.grant_map service.station
      simp only [ask, granted]
      cases wish.grant service.station with
      | ok answer station => rfl
      | error reason station => exact reason.elim
  | proceed =>
      show (service.map f).proceed d' = (service.proceed d).map f
      rcases service with ⟨station, job, stuck, past, dealings⟩
      rcases stuck with _ | _
      · rcases job with _ | ⟨task, deeds, result | ⟨first, next⟩⟩
        · rfl
        · rfl
        · exact act_map maps light ⟨station, _, false, past, dealings⟩ task deeds first next
      · rfl

/-- On devices that look alike the same comes of every run. -/
theorem run_map {d : Device σ ε τ} {d' : Device ρ ε τ} (maps : d.Maps f d')
    (light : ∀ level s, d'.indicate level (f s) = f (d.indicate level s))
    (service : Service σ ε) (moves : List Move) :
    (service.map f).run d' moves = (service.run d moves).map f := by
  induction moves generalizing service with
  | nil => rfl
  | cons move moves ih => rw [run_cons, run_cons, move_map maps light, ih]

end Service

end ShutterRadio
