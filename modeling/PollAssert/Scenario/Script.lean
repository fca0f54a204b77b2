import PollAssert.Run.Subject
import PollAssert.Scenario.Judge

/-!
# Scripted producers

A script has one `Entry` per call; after its end the last entry is repeated, or the script starts
over. An entry says, in this order, what the producer does: it puts a line into the transcript, asks
for the report of the run, cancels a token, and takes some time, where the entry has it do so. Then
it either ends in a panic or makes its checks and returns.

A failing check returns a `Stop`. A producer may pass it on as its error, keep it for a later call,
or ignore it. A stop that was kept is an ordinary error when it is passed on.
-/

namespace PollAssert.Scenario

/-- What a producer does with a stop. -/
inductive Disposal where
  /-- Return it as the producer's error, behind a context text if there is one. -/
  | passOn (context : Option String)
  /-- Keep it for a later call. -/
  | stash
  /-- Ignore it. -/
  | ignore

/-- What a producer may do with its checklist. -/
inductive Check where
  /-- Check that a value matches, or that it does not. -/
  | expect (judge : Judge) (desired : Bool) (v : Value) (disposal : Disposal)
  /-- Fail. -/
  | fail (message : String) (disposal : Disposal)
  /-- Take out the stop that was kept, if there is one. -/
  | stale (disposal : Disposal)
  /-- Ask whether a check has failed. -/
  | failed
  /-- Ask whether the token has been cancelled. -/
  | cancelled

/-- The end of a call of a producer that returns a `ρ`. -/
inductive Conclusion (ρ : Type) where
  /-- A panic. -/
  | panic (message : String)
  /-- Checks, and what is returned unless one of them makes the producer return before. -/
  | result (checks : List Check) (r : ρ)

/-- One call of a producer that returns a `ρ`. -/
structure Entry (ρ : Type) where
  /-- Ask for the report of the run. -/
  peek : Bool
  /-- Cancel the token of this name. -/
  cancel : Option String
  /-- Move the stage's clock on. -/
  cost : Option Duration
  /-- How it ends. -/
  conclusion : Conclusion ρ

/-- The calls of a producer. -/
structure Script (ρ : Type) where
  /-- The first call. -/
  first : Entry ρ
  /-- The calls after the first. -/
  rest : List (Entry ρ)
  /-- Does the script start over after its end? -/
  cycle : Bool

/-- The entry of the call that comes after `n` earlier ones. -/
def Script.entry {ρ : Type} (s : Script ρ) (n : Nat) : Entry ρ :=
  if s.cycle then (s.first :: s.rest).getD (n % (s.rest.length + 1)) s.first
  else (s.first :: s.rest).getD n (s.rest.getLastD s.first)

/-! ### Checks -/

/-- Deal with a stop; the fault is what the producer returns on account of it. -/
def Disposal.deal (s : Stop) : Disposal → Action Stage (Option Fault)
  | .passOn context => do
    Stage.say (.stopped s.text)
    return some (match context with
      | none => s.fault
      | some text => .context text s.fault)
  | .stash => do
    Stage.keep s
    return none
  | .ignore => do
    Stage.say .ignored
    return none

namespace Check

/-- Where a scripted producer checks a value. -/
def expectSite : Site := "SITE:check"

/-- Where a scripted producer fails. -/
def failSite : Site := "SITE:fail"

/-- Make a check; the fault is what the producer returns on account of it. -/
def run (token : Option (Token Stage)) : Check → Checked Stage (Option Fault)
  | .expect judge desired v disposal => do
    let m ← judge.prepare
    match ← Checklist.expect expectSite m desired v with
    | .ok () => return none
    | .error s => disposal.deal s
  | .fail message disposal => do
    let s ← Checklist.fail failSite message
    disposal.deal s
  | .stale disposal => do
    match ← Stage.takeStash with
    | none => return none
    | some s => disposal.deal s
  | .failed => do
    let answer ← Checklist.failed
    Stage.say (.failedYet answer)
    return none
  | .cancelled => do
    match token with
    | none => return none
    | some token =>
      let stage : Stage ← (get : Action Stage Stage)
      Stage.say (.cancelledYet (token stage))
      return none

/-- Make one check after the other, up to the first that makes the producer return. -/
def runAll (token : Option (Token Stage)) : List Check → Checked Stage (Option Fault)
  | [] => return none
  | check :: rest => do
    match ← check.run token with
    | some f => return some f
    | none => runAll token rest

end Check

/-! ### Producers -/

/-- Start a call: perform its entry up to the checks, which are still to be made. -/
def Script.open {ρ : Type} (s : Script ρ) (elapsed : Action Stage Duration) (counter : Nat) :
    Action Stage (List Check × ρ) := do
  let earlier ← Stage.count counter
  Stage.say (.sampled (earlier + 1) (← elapsed))
  let entry := s.entry earlier
  if entry.peek then Stage.peek
  match entry.cancel with
  | none => pure ()
  | some name => Stage.cancel name
  match entry.cost with
  | none => pure ()
  | some cost => Stage.skew cost
  match entry.conclusion with
  | .panic message => Action.panic message
  | .result checks r => return (checks, r)

/-- Perform a call that makes no checks. -/
def Script.play {ρ : Type} (s : Script ρ) (elapsed : Action Stage Duration) (counter : Nat) :
    Action Stage ρ := do return (← s.open elapsed counter).2

/-- Perform a call that makes checks. -/
def Script.playChecked (s : Script (Except Fault Value)) (elapsed : Action Stage Duration)
    (counter : Nat) (token : Option (Token Stage)) : Checked Stage (Except Fault Value) := do
  let (checks, result) ← s.open elapsed counter
  match ← Check.runAll token checks with
  | some f => return .error f
  | none => return result

/-- What an assertion of a scenario is about. -/
inductive Actor where
  /-- A fixed value. -/
  | fixed (v : Value)
  /-- A producer that always has a value. -/
  | returning (script : Script Value)
  /-- A producer that has a value or an error. -/
  | fallible (script : Script (Except Fault Value))
  /-- A producer that makes checks. -/
  | checked (script : Script (Except Fault Value))
  /-- A producer that makes checks and has the token. -/
  | checkedWithToken (script : Script (Except Fault Value))
  /-- A producer that returns extras behind its value. -/
  | withExtras (script : Script (Value × List Extra))
  /-- A producer without a result. -/
  | silent

/-- Prepare the subject of an assertion. The elapsed time is what the transcript shows. -/
def Actor.prepare (actor : Actor) (elapsed : Action Stage Duration) :
    Action Stage (Subject Stage Value) := do
  let counter ← Stage.newCounter
  return match actor with
    | .fixed v => .fixed v
    | .returning script => .ofAction (script.play elapsed counter)
    | .fallible script => .produced (script.play elapsed counter)
    | .checked script => .checked (script.playChecked elapsed counter none)
    | .checkedWithToken script =>
      .checkedWithToken fun token ↦ script.playChecked elapsed counter (some token)
    | .withExtras script => .withExtras (script.play elapsed counter)
    | .silent => .returnsNothing

end PollAssert.Scenario
