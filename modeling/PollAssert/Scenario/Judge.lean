import PollAssert.Matcher.Combinators
import PollAssert.Matcher.Values
import PollAssert.Scenario.Stage
import PollAssert.Value.Basic

/-!
# Predicates and matchers of a scenario

Both are given as data and **prepared** before they are used. Preparing hands out the counters of
whatever counts its calls, so two matchers prepared from the same data count separately, and one
matcher counts over its whole life.
-/

namespace PollAssert.Scenario

/-! ### Predicates -/

/-- What a predicate may come to. -/
inductive Answer where
  | verdict (holds : Bool)
  | fault (fault : Fault)
  | panic (message : String)

/-- Give an answer. -/
def Answer.give : Answer → Action Stage (Except Fault Bool)
  | .verdict holds => pure (.ok holds)
  | .fault f => pure (.error f)
  | .panic message => Action.panic message

/-- A predicate on values, as data. -/
inductive Predicate where
  /-- The same answer for every value. -/
  | always (holds : Bool)
  /-- The value equals the given one. -/
  | equalTo (v : Value)
  /-- The value compares to the given one in the given way. -/
  | comparing (c : Comparison) (v : Value)
  /-- One answer per call, whatever the value, and the last one from then on. -/
  | inTurn (answers : List Answer) (last : Answer)
  /-- An answer of its own for the values that meet a condition. -/
  | choosing (condition : Predicate) (met : Answer) (otherwise : Predicate)

namespace Predicate

/-- Prepare a predicate for use. -/
def prepare : Predicate → Action Stage (Value → Action Stage (Except Fault Bool))
  | .always holds => return fun _ ↦ pure (.ok holds)
  | .equalTo v => return fun a ↦ pure (.ok (a == v))
  | .comparing c v => return fun a ↦ pure (.ok (c.holds (PartialCompare.compare? a v)))
  | .inTurn answers last => do
    let counter ← Stage.newCounter
    return fun _ ↦ do (answers.getD (← Stage.count counter) last).give
  | .choosing condition met otherwise => do
    let condition ← condition.prepare
    let otherwise ← otherwise.prepare
    return fun a ↦ do
      match ← condition a with
      | .error f => return .error f
      | .ok true => met.give
      | .ok false => otherwise a

/-- Prepare a predicate whose faults count as "does not hold". -/
def prepareTotal (p : Predicate) : Action Stage (Value → Action Stage Bool) := do
  let ask ← p.prepare
  return fun a ↦ do return (← ask a).toOption.getD false

end Predicate

/-! ### Matchers -/

/-- A matcher, as data. -/
inductive Judge where
  | equalTo (v : Value)
  | comparing (c : Comparison) (v : Value)
  | succeeding
  | containingText (part : String)
  | containing (element : Value)
  | ofLength (n : Nat)
  | empty
  | satisfying (p : Predicate) (description : String)
  | trySatisfying (p : Predicate) (description : String)
  | withOracle (judge : Judge) (mayChange : Predicate)
  | not (judge : Judge)
  | allOf (judges : List Judge)
  | anyOf (judges : List Judge)
  /-- The same matcher, with a line in the transcript for every call of one of its callbacks. -/
  | watched (name : String) (judge : Judge)

namespace Judge

/-- Call a callback of a matcher, after a line that says so. -/
def watch {β : Type} (name : String) (callback : Callback) (call : Value → Action Stage β) :
    Value → Action Stage β := fun a ↦ do
  Stage.say (.called name callback (inspect a))
  call a

/-- A matcher whose calls are in the transcript. -/
def watching (name : String) (m : Matcher Stage Value) : Matcher Stage Value where
  judge := watch name .judge m.judge
  failureText := watch name .failureText m.failureText
  negatedText := watch name .negatedText m.negatedText
  mayChange := watch name .mayChange m.mayChange

mutual

/-- Prepare a matcher for use. -/
def prepare : Judge → Action Stage (Matcher Stage Value)
  | .equalTo v => return .equalTo v
  | .comparing c v => return .comparing c v
  | .succeeding => return .succeeding
  | .containingText part => return (Matcher.containingText part).comap Value.asText
  | .containing element => return (Matcher.containing element).comap Value.asList
  | .ofLength n => return (Matcher.ofLength n : Matcher Stage (List Value)).comap Value.asList
  | .empty => return (Matcher.empty : Matcher Stage (List Value)).comap Value.asList
  | .satisfying p description => do return .satisfying (← p.prepareTotal) description
  | .trySatisfying p description => do return .trySatisfying (← p.prepare) description
  | .withOracle judge mayChange => do
    let m ← prepare judge
    return m.withOracle (← mayChange.prepareTotal)
  | .not judge => do return (← prepare judge).not
  | .allOf judges => do return .allOf (← prepareAll judges)
  | .anyOf judges => do return .anyOf (← prepareAll judges)
  | .watched name judge => do return watching name (← prepare judge)

/-- Prepare several matchers, in order. -/
def prepareAll : List Judge → Action Stage (List (Matcher Stage Value))
  | [] => return []
  | judge :: rest => do
    let m ← prepare judge
    return m :: (← prepareAll rest)

end

end Judge

end PollAssert.Scenario
