import PollAssert.Report
import PollAssert.Time.Source

/-!
# The stage of a scenario

A scenario is user code given as data: producers that follow a script, matchers that keep a
transcript, things that happen meanwhile. This module holds the state that such code works on.

* The **lines** are the transcript that the user code keeps of itself, newest first. They are not
  the notices of the engine, which the user code cannot see.
* A **counter** belongs to one instance of something that counts its calls. Counters are handed out
  as instances are built, so an instance built anew starts over.
* The **offset** is how far the stage's own clock is ahead of the runtime's. It moves in the middle
  of a call, which the runtime's clock never does.
-/

namespace PollAssert.Scenario

/-- The four callbacks of a matcher. -/
inductive Callback where
  | judge
  | failureText
  | negatedText
  | mayChange
  deriving DecidableEq

/-- A line of the transcript. -/
inductive Line where
  /-- A callback of the named matcher was called on a value. -/
  | called (name : String) (callback : Callback) (value : String)
  /-- A script was played. -/
  | sampled (number : Nat) (elapsed : Duration)
  /-- The report of the running assertion was asked for. -/
  | peeked (report : Option String)
  /-- The checklist was asked whether a check has failed. -/
  | failedYet (answer : Bool)
  /-- The token was asked whether it has been cancelled. -/
  | cancelledYet (answer : Bool)
  /-- A failing check was ignored. -/
  | ignored
  /-- A failing check was passed on. -/
  | stopped (text : String)
  /-- A lazy description was rendered. -/
  | described
  /-- A failure was handed in. -/
  | handled
  deriving DecidableEq

/-- The state that the user code of a scenario works on. -/
structure Stage where
  /-- The transcript, newest first. -/
  lines : List Line := []
  /-- How often each counted instance has been called. -/
  counters : Array Nat := #[]
  /-- The names of the tokens that have been cancelled. -/
  cancelled : List String := []
  /-- How far the stage's clock is ahead. -/
  offset : Duration := .zero
  /-- A stop that a producer has kept for later. -/
  stash : Option Stop := none
  /-- What the recording handler has received. -/
  recorder : Recorder := {}
  /-- What the witnessing handler has received. -/
  witnessed : Recorder := {}

namespace Stage

/-- Add a line to the transcript. -/
def say (line : Line) : Action Stage Unit := modify fun s ↦ { s with lines := line :: s.lines }

/-- A new counter. -/
def newCounter : Action Stage Nat :=
  modifyGet fun s ↦ (s.counters.size, { s with counters := s.counters.push 0 })

/-- Count a call, and say how many there have been before. -/
def count (counter : Nat) : Action Stage Nat :=
  modifyGet fun s ↦
    (s.counters.getD counter 0, { s with counters := s.counters.modify counter (· + 1) })

/-- Move the stage's clock on. -/
def skew (d : Duration) : Action Stage Unit :=
  modify fun s ↦ { s with offset := s.offset.saturatingAdd d }

/-- Cancel the token of the given name. -/
def cancel (name : String) : Action Stage Unit :=
  modify fun s ↦ { s with cancelled := name :: s.cancelled }

/-- Has the token of the given name been cancelled? -/
def isCancelled (name : String) (s : Stage) : Bool := s.cancelled.contains name

/-- Ask for the report of the running assertion. No code of a scenario does so inside a report. -/
def peek : Action Stage Unit := do say (.peeked (← Action.report 1))

/-- Take the stop that was kept, if there is one. -/
def takeStash : Action Stage (Option Stop) := modifyGet fun s ↦ (s.stash, { s with stash := none })

/-- Keep a stop for later. -/
def keep (kept : Stop) : Action Stage Unit := modify fun s ↦ { s with stash := some kept }

/-- The failures that the stage's handlers have received, oldest first. -/
def received (s : Stage) : List Failure := s.recorder.failures ++ s.witnessed.failures

/-- The handler that records. -/
def recording : Handler Stage :=
  Recorder.handler fun update s ↦ { s with recorder := update s.recorder }

/-- The handler that says so and keeps the failure for itself. -/
def witnessing : Handler Stage := fun failure ↦ do
  say .handled
  Recorder.handler (fun update s ↦ { s with witnessed := update s.witnessed }) failure

/-- A lazy description that says when it is rendered. -/
def describing (text : String) : Description Stage :=
  .computed do
    say .described
    return text

end Stage

end PollAssert.Scenario
