import PollAssert.Assertion

/-!
# Rehearsals on the virtual clock

To rehearse a flight is to carry it out on the runtime's virtual clock, together with **errands**:
things that other tasks do at given instants. The flight and the errands share one task, so whenever
the clock reaches an instant, the errands due by then come first, in the order they are listed, and
the flight goes on after them. An errand may call user code, which sees the report of the flight, or
abandon the flight; an abandoned flight is dropped where it stands. A flight may also be dropped
before its first step; the errands due by then are done even so.

The clock moves only when everything waits, to the first timer of the flight or errand that is
still to come. If there is none the flight waits forever, and the rehearsal says so. A flight that
never waits need not end either, so a rehearsal is given a number of steps it may take.
-/

namespace PollAssert

/-- What an errand is about. -/
inductive Task (σ : Type) where
  /-- Call user code. -/
  | act (act : Action σ Unit)
  /-- Abandon the flight. -/
  | abandon

/-- Something to be done at an instant of the clock. -/
structure Errand (σ : Type) where
  /-- When it is to be done. -/
  timer : Timer
  /-- What is to be done. -/
  task : Task σ

/-- How a rehearsal ended. -/
inductive Landing where
  /-- The flight came to an answer. -/
  | answered (held : Bool)
  /-- An errand abandoned the flight. -/
  | abandoned
  /-- The flight was dropped before its first step. -/
  | dropped
  /-- The flight waits for nothing that will ever come. -/
  | stuck
  /-- The steps were used up. -/
  | unfinished
  deriving DecidableEq

namespace Rehearsal

variable {σ α : Type}

/-- Do the errands that are due. What is left are the others, or nothing if the flight has been
abandoned. -/
def runErrands (f : Flight σ α) (clock : Duration) :
    List (Errand σ) → Engine σ (Option (List (Errand σ)))
  | [] => return some []
  | e :: rest =>
    if e.timer.isDue clock then
      match e.task with
      | .abandon => return none
      | .act act => do
        Engine.call (f.report clock) act
        runErrands f clock rest
    else do
      return (← runErrands f clock rest).map (e :: ·)

/-- The first timer that the flight or an errand waits for. -/
def nextTimer (f : Flight σ α) (errands : List (Errand σ)) : Timer :=
  errands.foldl (fun t e ↦ t.earlier e.timer) f.nextTimer

/-- Let the clock jump to an instant. -/
def jump (instant : Duration) : Engine σ Unit := fun w ↦ (.ok (), { w with clock := instant })

/-- Drop a flight before its first step. The errands that are due come first, and may abandon it. -/
def drop (f : Flight σ α) (errands : List (Errand σ)) : Engine σ Landing := do
  match ← runErrands f (← Engine.clock) errands with
  | none => return .abandoned
  | some _ => return .dropped

/-- Carry out a flight within a number of steps. -/
def fly : Nat → Flight σ α → List (Errand σ) → Engine σ Landing
  | 0, _, _ => return .unfinished
  | fuel + 1, f, errands => do
    match ← runErrands f (← Engine.clock) errands with
    | none => return .abandoned
    | some errands =>
      match ← f.step with
      | (.landed held, _) => return .answered held
      | (f, false) => fly fuel f errands
      | (f, true) =>
        match (nextTimer f errands).due? with
        | none => return .stuck
        | some instant => do
          jump instant
          fly fuel f errands

end Rehearsal

end PollAssert
