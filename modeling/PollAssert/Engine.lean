import PollAssert.Report
import PollAssert.Run.Ending
import PollAssert.Time.Source

/-!
# The engine: what the library itself does

The library works on a `World`: the user's state, the runtime's clock, and the **notices**, a
transcript of what the library has asked of its surroundings. A notice is a log entry, the start of
a sleep, or a failure handed to the handler. User code can neither read nor change the notices, and
never moves the clock; both hold by the type of `Action`.

Calling user code (`Engine.call`) lends it the user's state and a view. If user code halts then so
does the engine, with everything noticed up to then kept.
-/

namespace PollAssert

/-- An entry of the log. -/
inductive LogEntry where
  /-- A sample was taken. -/
  | sampled (mode : Mode) (number : Nat) (elapsed : Duration) (passed : Bool)
  /-- A run held. -/
  | held (mode : Mode) (samples : Nat) (elapsed : Duration)
  /-- A run failed. -/
  | failed (mode : Mode) (samples : Nat) (elapsed : Duration) (ending : Ending)
  /-- An assertion could not run. -/
  | misconfigured (mode : Mode) (ending : Ending)
  deriving DecidableEq

namespace LogEntry

/-- How loud the entry is. -/
def level : LogEntry → String
  | .sampled .. => "TRACE"
  | .held .. => "DEBUG"
  | .failed .. => "DEBUG"
  | .misconfigured .. => "WARN"

/-- The entry in words. -/
def message : LogEntry → String
  | .sampled .. => "sampled"
  | .held .. => "assertion held"
  | .failed .. => "assertion failed"
  | .misconfigured .. => "invalid assertion configuration"

/-- The named values of the entry, in order. -/
def fields : LogEntry → List (String × String)
  | .sampled mode number elapsed passed =>
    [("mode", mode.text), ("sample", inspect number), ("elapsed", elapsed.text),
      ("passed", inspect passed)]
  | .held mode samples elapsed =>
    [("mode", mode.text), ("samples", inspect samples), ("elapsed", elapsed.text)]
  | .failed mode samples elapsed ending =>
    [("mode", mode.text), ("samples", inspect samples), ("elapsed", elapsed.text),
      ("error", ending.text)]
  | .misconfigured mode ending => [("mode", mode.text), ("error", ending.text)]

end LogEntry

/-- Something that the library asked of its surroundings. -/
inductive Notice where
  /-- It wrote to the log. -/
  | logged (entry : LogEntry)
  /-- It started a sleep of the given length. -/
  | slept (length : Duration)
  /-- It handed a failure to the handler. -/
  | handed (failure : Failure)
  deriving DecidableEq

/-- The state that the library works on. -/
structure World (σ : Type) where
  /-- The user's state. -/
  user : σ
  /-- The instant at which the runtime's clock stands. -/
  clock : Duration
  /-- What the library has asked of its surroundings, newest first. -/
  notices : List Notice

/-- A computation of the library. -/
abbrev Engine (σ : Type) : Type → Type := Effect (World σ)

namespace Engine

variable {σ β : Type}

/-- Call user code, which sees the given report. -/
def call (report : Option (Nat → Effect σ String)) (act : Action σ β) : Engine σ β := fun w ↦
  match act ⟨w.clock, report⟩ w.user with
  | (r, user) => (r, { w with user := user })

/-- Add to the notices. -/
def note (n : Notice) : Engine σ Unit := fun w ↦ (.ok (), { w with notices := n :: w.notices })

/-- Write to the log. -/
def log (entry : LogEntry) : Engine σ Unit := note (.logged entry)

/-- Hand a failure to the handler. No assertion is running by then. -/
def hand (handler : Handler σ) (failure : Failure) : Engine σ Unit := do
  note (.handed failure)
  call none (handler failure)

/-- Hand in a failure with the given message and offset. -/
def handIn (handler : Handler σ) (message : String) (offset : UInt64) (site : Site) :
    Engine σ Unit := do
  hand handler (← Failure.ofOffset message offset site)

/-- The instant at which the runtime's clock stands. -/
def clock : Engine σ Duration := fun w ↦ (.ok w.clock, w)

/-- Put a question to the user's state. -/
def asks (question : σ → β) : Engine σ β := fun w ↦ (.ok (question w.user), w)

@[simp] theorem note_apply (n : Notice) (w : World σ) :
    note n w = (.ok (), { w with notices := n :: w.notices }) := rfl

@[simp] theorem clock_apply (w : World σ) : (clock : Engine σ Duration) w = (.ok w.clock, w) := rfl

@[simp] theorem asks_apply (question : σ → β) (w : World σ) :
    asks question w = (.ok (question w.user), w) := rfl

/-- If the calls to skip fit a word, the failure with their number is handed over. -/
theorem handIn_of_eq_some {offset skip : UInt64} (h : callerSkip? offset = some skip)
    (handler : Handler σ) (message : String) (site : Site) :
    handIn handler message offset site = hand handler ⟨message, skip, site⟩ := by
  rw [handIn, Failure.ofOffset, h]
  rfl

/-- If they do not, that is a panic, and nothing is handed over. -/
theorem handIn_of_eq_none {offset : UInt64} (h : callerSkip? offset = none) (handler : Handler σ)
    (message : String) (site : Site) :
    handIn handler message offset site = Effect.panic Failure.overflowText := by
  rw [handIn, Failure.ofOffset, h]
  rfl

/-- User code does not move the clock. -/
@[simp] theorem call_clock (report : Option (Nat → Effect σ String)) (act : Action σ β)
    (w : World σ) : (call report act w).2.clock = w.clock := rfl

/-- User code does not write notices. -/
@[simp] theorem call_notices (report : Option (Nat → Effect σ String)) (act : Action σ β)
    (w : World σ) : (call report act w).2.notices = w.notices := rfl

end Engine

end PollAssert
