import PollAssert.Action

/-!
# Timers and sources of time

A run never looks at a clock itself. It asks a `TimeSource` for readings and for timers, and the
runtime tells which timers have gone off.

The runtime's own clock is **virtual**. It stands still while code runs, and moves on only when
everything waits; then it jumps to the next timer. It keeps whole milliseconds: a timer goes off at
its target rounded up to the next one. A target that has been reached is due at once, and a target
past the clock's horizon never comes. A **sleep**, though, lasts thirty years at most, however long
it was asked to be, so it always ends; waiting until an instant knows no such bound.

A source need not say how to wait until an instant. If it does not, the instant is compared with one
reading: an instant that has been reached is due at once, and otherwise the difference is slept.
-/

namespace PollAssert

/-- What a sleep waits for: an instant of the runtime's clock, or nothing that will ever come. -/
structure Timer where
  /-- The instant at which the timer goes off. -/
  due? : Option Duration
  deriving DecidableEq

namespace Timer

/-- A timer that never goes off. -/
def never : Timer := ⟨none⟩

/-- A timer that has gone off. -/
def elapsed : Timer := ⟨some .zero⟩

/-- Has the timer gone off at this instant of the clock? -/
def isDue (t : Timer) (clock : Duration) : Bool :=
  match t.due? with
  | none => false
  | some instant => decide (instant ≤ clock)

@[simp] theorem isDue_never (clock : Duration) : never.isDue clock = false := rfl

@[simp] theorem isDue_elapsed (clock : Duration) : elapsed.isDue clock = true := by
  simp [elapsed, isDue, Duration.le_def]

/-- A timer that has gone off stays so. -/
theorem isDue_mono {t : Timer} {a b : Duration} (hab : a ≤ b) (h : t.isDue a = true) :
    t.isDue b = true := by
  rcases t with ⟨_ | instant⟩
  · exact h
  · simp only [isDue, decide_eq_true_eq, Duration.le_def] at *
    omega

/-- The first of two timers. -/
def earlier (s t : Timer) : Timer :=
  match s.due?, t.due? with
  | none, _ => t
  | _, none => s
  | some a, some b => if b < a then t else s

end Timer

namespace VirtualClock

/-- The clock cannot stand at or past this many nanoseconds: `2 ^ 63` seconds. -/
def horizon : Nat := twoTo 63 * nanosPerSecond

/-- The least number of whole milliseconds that is not below the given nanoseconds. -/
def ceilMillis (nanos : Nat) : Nat := (nanos + (nanosPerMilli - 1)) / nanosPerMilli

/-- Rounding to milliseconds does not go below the target. -/
theorem le_ceilMillis (nanos : Nat) : nanos ≤ ceilMillis nanos * nanosPerMilli := by
  simp only [ceilMillis, nanosPerMilli]
  omega

/-- Rounding to milliseconds adds less than one of them. -/
theorem ceilMillis_lt (nanos : Nat) :
    ceilMillis nanos * nanosPerMilli < nanos + nanosPerMilli := by
  simp only [ceilMillis, nanosPerMilli]
  omega

/-- A target of whole milliseconds is not moved. -/
@[simp] theorem ceilMillis_mul (n : Nat) : ceilMillis (n * nanosPerMilli) = n := by
  simp only [ceilMillis, nanosPerMilli]
  omega

/-- The timer for a target in nanoseconds. -/
def timerAt (target : Nat) : Timer :=
  if target < horizon then ⟨some (.ofMillis (ceilMillis target))⟩ else .never

/-- The longest sleep in nanoseconds: thirty years of 365 days. -/
def longestSleep : Nat := 946080000 * nanosPerSecond

/-- The timer for a sleep that starts at the given instant. -/
def timerAfter (clock sleep : Duration) : Timer :=
  timerAt (clock.nanos + min sleep.nanos longestSleep)

/-- A sleep that is not too long ends at the instant it was asked to end at. -/
theorem timerAfter_of_le {clock sleep : Duration} (h : sleep.nanos ≤ longestSleep) :
    timerAfter clock sleep = timerAt (clock.nanos + sleep.nanos) := by
  rw [timerAfter, Nat.min_eq_left h]

/-- The timer for a limit that starts to count at the given instant. A limit is no sleep and may be
longer than one; only if it reaches past the horizon does it end as a sleep would. -/
def timerForLimit (clock limit : Duration) : Timer :=
  if clock.nanos + limit.nanos < horizon then timerAt (clock.nanos + limit.nanos)
  else timerAfter clock limit

/-- Wait for a timer, under a limit if there is one: does it go off, and where does the clock stand
then? If both go off together the timer has gone off. -/
def await (clock : Duration) (t : Timer) (limit : Option Duration) : Bool × Duration :=
  if t.isDue clock then (true, clock)
  else
    let bound := match limit with
      | none => .never
      | some l => timerForLimit clock l
    match (t.earlier bound).due? with
    | none => (false, clock)
    | some instant =>
      let later := if clock < instant then instant else clock
      (t.isDue later, later)

end VirtualClock

/-- Where a run takes its time from. -/
structure TimeSource (σ : Type) where
  /-- The time since the source's epoch. -/
  now : Action σ Duration
  /-- Start to sleep. -/
  sleep : Duration → Action σ Timer
  /-- Start to wait until an instant counted from the source's epoch, if the source has a way of its
  own to do so. -/
  sleepUntil? : Option (Duration → Action σ Timer) := none

namespace TimeSource

variable {σ : Type}

/-- What is left to sleep until an instant; nothing if the reading has reached it. -/
def remaining? (now instant : Duration) : Option Duration :=
  if instant ≤ now then none else some (instant.saturatingSub now)

/-- Start to wait until an instant, in the source's own way if it has one. -/
def waitUntil (t : TimeSource σ) (instant : Duration) : Action σ Timer :=
  match t.sleepUntil? with
  | some wait => wait instant
  | none => do
    match remaining? (← t.now) instant with
    | none => return .elapsed
    | some length => t.sleep length

/-- The runtime's clock, counted from an epoch. -/
def runtime (epoch : Duration) : TimeSource σ where
  now := do return (← Action.clock).saturatingSub epoch
  sleep d := do return VirtualClock.timerAfter (← Action.clock) d
  sleepUntil? := some fun deadline ↦ pure (VirtualClock.timerAt (epoch.nanos + deadline.nanos))

/-- A clock that is ahead of the runtime's by a part of the user's state. It sleeps on the runtime's
clock and has no way of its own to wait for an instant. -/
def ahead (offset : σ → Duration) : TimeSource σ where
  now := do return (← Action.clock).saturatingAdd (offset (← get))
  sleep d := do return VirtualClock.timerAfter (← Action.clock) d

end TimeSource

end PollAssert
