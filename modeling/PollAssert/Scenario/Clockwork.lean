import PollAssert.Engine
import PollAssert.Scenario.Stage

/-!
# Examining the sources of time

The two sources that scenarios know are the runtime's clock and the stage's own, which is ahead of
it by the stage's offset. They are driven here apart from any run: the clock is moved, and sleeps
are waited for, under a limit where there is one.
-/

namespace PollAssert.Scenario

/-- The source of time of a scenario: the stage's own clock, or the runtime's. -/
def timeSource (ownClock : Bool) : TimeSource Stage :=
  if ownClock then .ahead Stage.offset else .runtime .zero

/-- What is done to the clocks. -/
inductive Move where
  /-- Move the runtime's clock. -/
  | advance (length : Duration)
  /-- Move the stage's clock further ahead. -/
  | skew (length : Duration)
  /-- Sleep on a source, under a limit if there is one. -/
  | sleep (length : Duration) (limit : Option Duration)
  /-- Wait for an instant of a source, under a limit if there is one. -/
  | wait (instant : Duration) (limit : Option Duration)

/-- A move, on one of the two sources. -/
structure ClockStep where
  /-- Is the source the stage's own clock? -/
  ownClock : Bool
  /-- What is done. -/
  move : Move

/-- What came of a step. -/
structure Reached where
  /-- Did the wait end by itself? A step without a wait does. -/
  fired : Bool
  /-- The reading of the step's source. -/
  now : Duration
  deriving DecidableEq

/-- Move the runtime's clock. -/
def advanceClock (length : Duration) : Engine Stage Unit := fun w ↦
  (.ok (), { w with clock := w.clock.saturatingAdd length })

/-- Start a timer and wait for it: does it go off before the limit? -/
def awaitTimer (start : Action Stage Timer) (limit : Option Duration) : Engine Stage Bool := do
  let timer ← Engine.call none start
  let (fired, clock) := VirtualClock.await (← Engine.clock) timer limit
  modify fun w ↦ { w with clock := clock }
  return fired

/-- Do a move: does the wait, if it is one, end by itself? -/
def Move.perform (time : TimeSource Stage) : Move → Engine Stage Bool
  | .advance length => do
    advanceClock length
    return true
  | .skew length => do
    Engine.call none (Stage.skew length)
    return true
  | .sleep length limit => awaitTimer (time.sleep length) limit
  | .wait instant limit => awaitTimer (time.waitUntil instant) limit

namespace ClockStep

/-- Perform a step. -/
def perform (s : ClockStep) : Engine Stage Reached := do
  let time := timeSource s.ownClock
  let fired ← s.move.perform time
  return ⟨fired, ← Engine.call none time.now⟩

/-- Perform one step after the other. -/
def performAll : List ClockStep → Engine Stage (List Reached)
  | [] => return []
  | step :: rest => do
    let reached ← step.perform
    return reached :: (← performAll rest)

/-- Perform several steps, beginning at the epoch. -/
def run (steps : List ClockStep) : Except Halt (List Reached) :=
  (performAll steps ⟨{}, .zero, []⟩).1

end ClockStep

end PollAssert.Scenario
