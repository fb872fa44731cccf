/-
# What goes over the bus

The driver knows its chip only by what the bus answers, so what it does can be said by
its exchanges with the bus: transactions with their answers, and pauses.  A list of
exchanges leads a bus from one state to another (`Bus.Path`), whatever kind of bus it
is; one that keeps a record has just these exchanges in it.

Here are the exchanges of the driver's basic operations.  A bus is patient if it never
refuses a pause.
-/

import ShutterRadio.Chip.Driver

namespace ShutterRadio

namespace Chip

variable {σ τ : Type}

/-- One use of the bus, and what was answered. -/
inductive Exchange
  | write (parts : List (List UInt8)) (answer : Except String Unit)
  | read (address : UInt8) (count : Nat) (answer : Except String (Vector UInt8 count))
  | pause (micros : Nat)

namespace Exchange

/-- The transaction that asks for the status flags. -/
def poll (answer : Except String StatusFlags) : Exchange :=
  .read Register.flags.readByte 2 (answer.map fun seen => #v[seen.first, seen.second])

/-- Why a transaction failed, if it did. -/
def cause? : Exchange → Option String
  | .write _ (.error cause) => some cause
  | .read _ _ (.error cause) => some cause
  | _ => none

/-- An exchange leads a bus from one state to another. -/
def Leads (b : Bus σ τ) : Exchange → σ → σ → Prop
  | .write parts answer, s, s' => b.write parts s = (answer, s')
  | .read address count answer, s, s' => b.read address count s = (answer, s')
  | .pause micros, s, s' => b.pause micros s = .ok () s'

end Exchange

end Chip

namespace Bus

variable {σ τ : Type} {b : Bus σ τ}

/-- Every pause comes to its end. -/
def Patient (b : Bus σ τ) : Prop := ∀ micros s, ∃ s', b.pause micros s = .ok () s'

/-- Exchanges lead a bus from one state to another, one after the other. -/
inductive Path (b : Bus σ τ) : σ → List Chip.Exchange → σ → Prop
  | here (s : σ) : Path b s [] s
  | step {exchange : Chip.Exchange} {exchanges : List Chip.Exchange} {s between s' : σ} :
      exchange.Leads b s between → Path b between exchanges s' → Path b s (exchange :: exchanges) s'

theorem Path.append {first second : List Chip.Exchange} {s between s' : σ}
    (path : b.Path s first between) (further : b.Path between second s') :
    b.Path s (first ++ second) s' := by
  induction path with
  | here s => exact further
  | step leads _ ih => exact .step leads (ih further)

theorem path_singleton {exchange : Chip.Exchange} {s s' : σ} (leads : exchange.Leads b s s') :
    b.Path s [exchange] s' :=
  .step leads (.here s')

end Bus

namespace Chip

variable {σ τ : Type} (b : Bus σ τ) (driver : Driver σ)

/-- What came of one transaction: it was answered, or the operation is over. -/
inductive Exchanged {α : Type} (exchange : Except String α → Exchange) :
    EStateM.Result (Halt τ) (Driver σ) α → Prop
  | answered {answer : α} {s : σ} : (exchange (.ok answer)).Leads b driver.bus s →
      Exchanged exchange (.ok answer { driver with bus := s })
  | refused {cause : String} {s : σ} : (exchange (.error cause)).Leads b driver.bus s →
      Exchanged exchange (.error (.fault (.spi cause)) { driver with bus := s })

variable {driver}

theorem use_of_answered {α : Type} {cause : String → Fault} {access : σ → Except String α × σ}
    {answer : α} {s : σ} (answered : access driver.bus = (.ok answer, s)) :
    (use cause access : Run σ τ α) driver = .ok answer { driver with bus := s } := by
  simp only [use, answered]

theorem use_of_refused {α : Type} {cause : String → Fault} {access : σ → Except String α × σ}
    {name : String} {s : σ} (refused : access driver.bus = (.error name, s)) :
    (use cause access : Run σ τ α) driver =
      .error (.fault (cause name)) { driver with bus := s } := by
  simp only [use, refused]

variable (driver)

theorem exchanged_write (parts : List (List UInt8)) :
    Exchanged b driver (.write parts) (use .spi (b.write parts) driver) := by
  rcases accessed : b.write parts driver.bus with ⟨cause | ⟨⟩, s⟩
  · rw [use_of_refused accessed]
    exact .refused accessed
  · rw [use_of_answered accessed]
    exact .answered accessed

theorem exists_bytes (bytes : Vector UInt8 2) : ∃ first second, bytes = #v[first, second] := by
  rcases bytes with ⟨⟨bytes⟩, two⟩
  match bytes, two with
  | [first, second], _ => exact ⟨first, second, rfl⟩

theorem exchanged_flags : Exchanged b driver .poll (flags b driver) := by
  show Exchanged b driver .poll (EStateM.bind (read b .flags 2) _ driver)
  rcases accessed : b.read Register.flags.readByte 2 driver.bus with ⟨cause | bytes, s⟩
  · rw [EStateM.bind, read, use_of_refused accessed]
    exact .refused accessed
  · rw [EStateM.bind, read, use_of_answered accessed]
    obtain ⟨first, second, rfl⟩ := exists_bytes bytes
    exact .answered accessed

end Chip

end ShutterRadio
