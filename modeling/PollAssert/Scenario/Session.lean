import PollAssert.Rehearsal
import PollAssert.Scenario.Clockwork
import PollAssert.Scenario.Script

/-!
# Sessions

A session is a sequence of steps on one bench: assertions that are rehearsed, single assertions, and
things that happen between them. The stage, the clock and the bench last from step to step, and so
does everything that the user code remembers.

A panic ends the step it happens in and nothing else. What the step did before it stays done.

The places where a scenario makes its assertions and checks have names instead of positions.
-/

namespace PollAssert.Scenario

/-! ### Steps -/

/-- The handlers that a session may have. -/
inductive HandlerChoice where
  | recording
  | witnessing
  | panicking
  | missing
  deriving DecidableEq

/-- The handler of that choice. -/
def HandlerChoice.handler : HandlerChoice → Option (Handler Stage)
  | .recording => some Stage.recording
  | .witnessing => some Stage.witnessing
  | .panicking => some .panicking
  | .missing => none

/-- What another task does. -/
inductive Deed where
  /-- Cancel the token of this name. -/
  | cancel (name : String)
  /-- Ask for the report of the run. -/
  | peek
  /-- Abandon the assertion. -/
  | abandon

/-- The deed as a task of a rehearsal. -/
def Deed.task : Deed → Task Stage
  | .cancel name => .act (Stage.cancel name)
  | .peek => .act Stage.peek
  | .abandon => .abandon

/-- A deed, at a time after the step began. -/
structure Event where
  /-- How long after the step began, on the runtime's clock. -/
  after : Duration
  /-- What is done. -/
  deed : Deed

/-- An assertion to be made. -/
structure Trial where
  /-- How to poll. -/
  mode : Mode
  /-- What it is about. -/
  actor : Actor
  /-- What judges it. -/
  judge : Judge
  /-- The calls of setters, in order. -/
  settings : List (Setting Stage)
  /-- The verdict to demand; without one the assertion is dropped. -/
  desired : Option Bool
  /-- The text above the detail of a report. -/
  description : Description Stage
  /-- What happens meanwhile. -/
  events : List Event

/-- A step of a session. -/
inductive Step where
  /-- Make an assertion that polls. -/
  | poll (trial : Trial)
  /-- Make a single assertion on a value. -/
  | expect (judge : Judge) (desired : Bool) (v : Value) (offset : UInt64)
  /-- Move the runtime's clock. -/
  | advance (length : Duration)
  /-- Move the stage's clock further ahead. -/
  | skew (length : Duration)
  /-- Cancel the token of this name. -/
  | cancel (name : String)
  /-- Forget what has been recorded. -/
  | clear
  /-- Go on with other budgets. -/
  | setBudgets (budgets : Budgets)
  /-- Go on with a copy of the bench. -/
  | copy
  /-- Look at the bench. -/
  | look

/-! ### What comes of a step -/

/-- How a demand for a verdict ended. -/
inductive Verdict where
  | held (answer : Bool)
  | halted (h : Halt)
  | abandoned
  /-- It was never demanded. -/
  | dropped
  /-- It would have gone on forever. -/
  | endless
  deriving DecidableEq

/-- An assertion as it looks before the verdict is demanded. -/
structure Preflight where
  /-- The subject as a value. -/
  subject : String
  /-- Is the subject a fixed value? -/
  isFixed : Bool
  /-- The assertion as a value. -/
  assertion : String
  /-- Its reporter as a value. -/
  reporter : String
  deriving DecidableEq

/-- What came of an assertion. Afterwards there is no run to be reported on. -/
structure TrialRecord where
  /-- How it looked before. -/
  preflight : Preflight
  /-- How it ended. -/
  verdict : Verdict
  /-- How long that took. -/
  elapsed : Duration
  deriving DecidableEq

/-- The bench of a session, as it looks. -/
structure Look where
  /-- The bench as a value. -/
  bench : String
  /-- The recorder as a value. -/
  recorder : String
  /-- Is there a handler? -/
  isConfigured : Bool
  /-- The budgets. -/
  budgets : Budgets
  /-- Has nothing been recorded? -/
  isEmpty : Bool
  /-- What was recorded last. -/
  last : Option Failure
  deriving DecidableEq

/-- What came of a step, apart from what it left in the record. -/
inductive Outcome where
  | polled (record : TrialRecord)
  | expected (held : Bool)
  | moved (now : Duration)
  | looked (look : Look)
  | done
  deriving DecidableEq

/-- Everything that came of a step. -/
structure StepRecord where
  /-- What came of it, unless it halted. -/
  outcome : Except Halt Outcome
  /-- The failures that were received. -/
  failures : List Failure
  /-- How many failures are recorded now. -/
  recorded : Nat
  /-- The transcript of the user code, oldest first. -/
  lines : List Line
  /-- What the library asked of its surroundings, oldest first. -/
  notices : List Notice

/-! ### Performing a step -/

namespace Trial

/-- How many steps a rehearsal may take. -/
def patience : Nat := twoTo 40

/-- Where the assertions of a mode are made. -/
def site : Mode → Site
  | .eventually => "SITE:eventually"
  | .consistently => "SITE:consistently"

/-- How a demand ended that came to the given landing. -/
def verdictOf : Except Halt Landing → Verdict
  | .error h => .halted h
  | .ok (.answered held) => .held held
  | .ok .abandoned => .abandoned
  | .ok .dropped => .dropped
  | .ok .stuck => .endless
  | .ok .unfinished => .endless

/-- An assertion as it looks before the verdict is demanded. -/
def preflight (a : Assertion Stage Value) (flight : Flight Stage Value) : Preflight where
  subject := inspect a.subject
  isFixed := a.subject.isFixed
  assertion := inspect a
  reporter := flight.reporterShape.compact

/-- The events as errands, for an assertion that begins now. -/
def errands (t : Trial) (clock : Duration) : List (Errand Stage) :=
  t.events.map fun e ↦ ⟨VirtualClock.timerAfter clock e.after, e.deed.task⟩

/-- Make the assertion. -/
def perform (t : Trial) (bench : Bench Stage) : Engine Stage TrialRecord := do
  let clock ← Engine.clock
  let began ← Engine.call none bench.time.now
  let elapsed : Action Stage Duration := do return (← bench.time.now).saturatingSub began
  let subject ← Engine.call none (t.actor.prepare elapsed)
  let matcher ← Engine.call none t.judge.prepare
  let assertion := t.settings.foldl .set (Assertion.make bench t.mode subject (site t.mode))
  let flight := Flight.demand assertion matcher (t.desired.getD true) t.description
  let landing ← Effect.attempt (match t.desired with
    | none => Rehearsal.drop flight (t.errands clock)
    | some _ => Rehearsal.fly patience flight (t.errands clock))
  return ⟨preflight assertion flight, verdictOf landing, ← Engine.call none elapsed⟩

end Trial

namespace Step

/-- Where the single assertions of a session are made. -/
def expectSite : Site := "SITE:expect"

/-- Perform a step: the bench to go on with, and what came of it. -/
def perform (bench : Bench Stage) : Step → Engine Stage (Bench Stage × Outcome)
  | .poll trial => do return (bench, .polled (← trial.perform bench))
  | .expect judge desired v offset => do
    let m ← Engine.call none judge.prepare
    return (bench, .expected (← bench.expect expectSite offset m desired v))
  | .advance length => do
    advanceClock length
    return (bench, .moved (← Engine.call none bench.time.now))
  | .skew length => do
    Engine.call none (Stage.skew length)
    return (bench, .moved (← Engine.call none bench.time.now))
  | .cancel name => do
    Engine.call none (Stage.cancel name)
    return (bench, .done)
  | .clear => do
    Engine.call none (modify fun s ↦ { s with recorder := {} })
    return (bench, .done)
  | .setBudgets budgets => return ({ bench with budgets := budgets }, .done)
  | .copy => return (bench, .done)
  | .look => do
    let recorder ← Engine.asks Stage.recorder
    return (bench, .looked {
      bench := inspect bench
      recorder := inspect recorder
      isConfigured := bench.isConfigured
      budgets := bench.budgets
      isEmpty := recorder.isEmpty
      last := recorder.last? })

end Step

/-! ### Sessions -/

/-- What lasts from step to step. -/
structure Session where
  /-- What assertions are made on. -/
  bench : Bench Stage
  /-- The stage and the clock. -/
  world : World Stage

namespace Session

/-- A session that begins. -/
def start (choice : HandlerChoice) (ownClock : Bool) (budgets : Budgets) : Session where
  bench := { handler := choice.handler, budgets := budgets, time := timeSource ownClock }
  world := { user := {}, clock := .zero, notices := [] }

/-- The world with empty transcripts. -/
def freshWorld (s : Session) : World Stage :=
  { s.world with user := { s.world.user with lines := [] }, notices := [] }

/-- Take one step. -/
def step (s : Session) (step : Step) : Session × StepRecord :=
  let (result, world) := step.perform s.bench s.freshWorld
  let bench := match result with
    | .ok (bench, _) => bench
    | .error _ => s.bench
  (⟨bench, world⟩, {
    outcome := result.map Prod.snd
    failures := world.user.received.drop s.world.user.received.length
    recorded := world.user.recorder.length
    lines := world.user.lines.reverse
    notices := world.notices.reverse })

/-- Take one step after the other. -/
def run (s : Session) : List Step → List StepRecord
  | [] => []
  | step :: rest =>
    let (s, record) := s.step step
    record :: s.run rest

end Session

end PollAssert.Scenario
