import PollAssert.Scenario.Judge

/-!
# Examining a matcher

All four callbacks of one matcher are called on one value after the other, apart from any run. The
matcher is prepared once, so what it counts goes on from value to value.
-/

namespace PollAssert.Scenario

/-- What the callbacks of a matcher came to on a value. -/
structure Finding where
  /-- The judgement. -/
  matched : Except Fault Bool
  /-- Why the value fails to match. -/
  failure : String
  /-- Why the value fails not to match. -/
  negated : String
  /-- Could judging it again come out differently? -/
  mayChange : Bool
  /-- The transcript of the calls, oldest first. -/
  lines : List Line

namespace Exam

/-- Examine a matcher on one value. -/
def examine (m : Matcher Stage Value) (v : Value) : Action Stage Finding := do
  modify fun s ↦ { s with lines := [] }
  let matched ← m.judge v
  let failure ← m.failureText v
  let negated ← m.negatedText v
  let mayChange ← m.mayChange v
  let stage ← get
  return ⟨matched, failure, negated, mayChange, stage.lines.reverse⟩

/-- Examine a matcher on one value after the other. -/
def examineAll (m : Matcher Stage Value) : List Value → Action Stage (List Finding)
  | [] => return []
  | v :: rest => do
    let finding ← examine m v
    return finding :: (← examineAll m rest)

/-- Examine a matcher on several values, on an empty stage. -/
def run (judge : Judge) (values : List Value) : Except Halt (List Finding) :=
  ((do examineAll (← judge.prepare) values : Action Stage (List Finding)) ⟨.zero, none⟩ {}).1

end Exam

end PollAssert.Scenario
