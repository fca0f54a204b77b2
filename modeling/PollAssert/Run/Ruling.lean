import PollAssert.Run.Sample

/-!
# When a run ends

The rules of the two modes, apart from all effects. After every sample the mode gives a `Ruling`:
the run goes on, with a number of passing samples in a row, or it is over for a `Cause`. If it goes
on it waits, and what ended the wait (`Wake`) may end the run as well.

`eventually` counts passing samples in a row and holds when there are enough. A request to try again
neither adds to the count nor resets it; any other sample that does not pass resets it. A settled
sample that does not pass is final, unless a request to stop comes first.

`consistently` fails at the first sample that neither passes nor asks to try again. A request to try
again is not judged at all, not even if it is settled; a settled sample that passes decides the run.

The end of the time is what sets the modes apart: for `eventually` it is the failure, for
`consistently` the success. A cancellation fails both.
-/

namespace PollAssert

/-- Why a run is over. -/
inductive Cause where
  /-- The assertion held. -/
  | held
  /-- A sample asked to stop. -/
  | stopped (message : String)
  /-- A fixed value does not pass and never will. -/
  | noFutureChange
  /-- A sample did not pass that had to. -/
  | failed
  /-- The time was up before enough samples passed. -/
  | timedOut
  /-- The token was cancelled. -/
  | cancelled
  deriving DecidableEq

/-- What follows from a sample. -/
inductive Ruling where
  /-- Wait and sample again, after so many passing samples in a row. -/
  | goOn (passes : Nat)
  /-- The run is over. -/
  | over (cause : Cause)
  deriving DecidableEq

/-- What ends a wait. -/
inductive Wake where
  /-- It is time for the next sample. -/
  | tick
  /-- The time of the run is up. -/
  | deadline
  /-- The token was cancelled. -/
  | cancelled
  deriving DecidableEq

namespace Mode

/-- What follows from a sample for `eventually`, after `passes` passing samples in a row of the
`repeats` that are asked for. -/
def ruleEventually (repeats passes : Nat) (r : Reading) : Ruling :=
  if r.passed then
    if repeats ≤ passes + 1 then .over .held else .goOn (passes + 1)
  else
    match r.steering with
    | .stop message => .over (.stopped message)
    | .retry _ => if r.settled then .over .noFutureChange else .goOn passes
    | .goOn => if r.settled then .over .noFutureChange else .goOn 0

/-- What follows from a sample for `consistently`. -/
def ruleConsistently (passes : Nat) (r : Reading) : Ruling :=
  match r.steering with
  | .stop message => .over (.stopped message)
  | .retry _ => .goOn passes
  | .goOn =>
    if r.passed then
      if r.settled then .over .held else .goOn passes
    else .over .failed

/-- What follows from a sample. -/
def rule : Mode → Nat → Nat → Reading → Ruling
  | .eventually, repeats, passes, r => ruleEventually repeats passes r
  | .consistently, _, passes, r => ruleConsistently passes r

/-- Why the end of a wait ends the run, if it does. -/
def causeOfWake? : Mode → Wake → Option Cause
  | _, .tick => none
  | .eventually, .deadline => some .timedOut
  | .consistently, .deadline => some .held
  | _, .cancelled => some .cancelled

end Mode

/-- How a run ended that is over after the given time; nothing if it held. -/
def Cause.ending? (elapsed : Duration) : Cause → Option Ending
  | .held => none
  | .stopped message => some (.stopped message elapsed)
  | .noFutureChange => some (.noFutureChange elapsed)
  | .failed => some (.failed elapsed)
  | .timedOut => some (.timedOut elapsed)
  | .cancelled => some (.cancelled elapsed)

end PollAssert
