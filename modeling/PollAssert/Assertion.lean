import PollAssert.Run.Basic

/-!
# Building and running assertions

A `Bench` is what assertions are made on: where failures go, the default time budgets, and the
source of time. A polling `Assertion` is built from it by setters, of which the last call of each
kind counts; what is invalid is remembered and reported when the assertion runs, before any sample.

A `Flight` is an assertion under way, from the call that demands a verdict to the answer. Its `step`
first makes sure that there is a handler, and **panics** if there is none, whatever else is wrong or
right; then it reports a misconfigured assertion at once or starts the run. Exactly the flights that
answer `false` hand a failure to the handler, each of them one, and after the run is over: while the
message is composed and while the handler works, no run is there to be reported on.
-/

namespace PollAssert

/-! ### Budgets -/

/-- The default time budgets. -/
structure Budgets where
  /-- How long `eventually` tries. -/
  eventuallyTimeout : Duration := .ofSeconds 1
  /-- How long `eventually` waits between samples. -/
  eventuallyPolling : Duration := .ofMillis 10
  /-- How long `consistently` watches. -/
  consistentlyDuration : Duration := .ofMillis 100
  /-- How long `consistently` waits between samples. -/
  consistentlyPolling : Duration := .ofMillis 10
  deriving DecidableEq

namespace Budgets

/-- The polling interval of both modes. -/
def withPolling (b : Budgets) (interval : Duration) : Budgets :=
  { b with eventuallyPolling := interval, consistentlyPolling := interval }

/-- How long a mode polls. -/
def timeout (b : Budgets) : Mode → Duration
  | .eventually => b.eventuallyTimeout
  | .consistently => b.consistentlyDuration

/-- How long a mode waits between samples. -/
def polling (b : Budgets) : Mode → Duration
  | .eventually => b.eventuallyPolling
  | .consistently => b.consistentlyPolling

instance : Inspect Budgets where
  shape b := .whole "Defaults"
    [.field "eventually_timeout" (Inspect.shape b.eventuallyTimeout),
      .field "eventually_polling" (Inspect.shape b.eventuallyPolling),
      .field "consistently_duration" (Inspect.shape b.consistentlyDuration),
      .field "consistently_polling" (Inspect.shape b.consistentlyPolling)]

end Budgets

/-! ### The bench -/

/-- What assertions are made on. -/
structure Bench (σ : Type) where
  /-- Where failures go. -/
  handler : Option (Handler σ)
  /-- The default time budgets. -/
  budgets : Budgets
  /-- Where runs take their time from. -/
  time : TimeSource σ

namespace Bench

variable {σ α : Type}

/-- Is there a handler? -/
def isConfigured (b : Bench σ) : Bool := b.handler.isSome

instance : Inspect (Bench σ) where
  shape b := .record "Harness"
    [.field "configured" (Inspect.shape b.isConfigured),
      .field "defaults" (Inspect.shape b.budgets)] true

/-- The handler; without one, user code is in for a panic. -/
def requireHandler (b : Bench σ) : Engine σ (Handler σ) :=
  match b.handler with
  | some handler => pure handler
  | none => Effect.panic Misconfiguration.missingHandler.text

/-- A single assertion on a value, made at once: does it match, or not match, as desired? -/
def expect (b : Bench σ) (site : Site) (offset : UInt64) (m : Matcher σ α) (desired : Bool)
    (a : α) : Engine σ Bool := do
  let handler ← b.requireHandler
  match ← Engine.call none (m.check desired a) with
  | none => return true
  | some message =>
    Engine.handIn handler message offset site
    return false

end Bench

/-! ### Polling assertions -/

/-- A polling assertion that has not run yet. -/
structure Assertion (σ α : Type) where
  /-- What it is made on. -/
  bench : Bench σ
  /-- How to poll. -/
  mode : Mode
  /-- What it is about. -/
  subject : Subject σ α
  /-- How long to poll. -/
  timeout : Except Misconfiguration Duration
  /-- How long to wait between samples. -/
  polling : Except Misconfiguration Duration
  /-- How many samples in a row have to pass. -/
  repeats : Except Misconfiguration Nat
  /-- What may cancel it. -/
  token : Option (Token σ)
  /-- The calls to skip on top of the usual ones. -/
  offset : UInt64
  /-- Where it was made. -/
  site : Site

/-- A call of one of an assertion's setters. -/
inductive Setting (σ : Type) where
  /-- Set how long to poll. -/
  | timeout (d : Duration)
  /-- Set how long to wait between samples. -/
  | polling (d : Duration)
  /-- Set what may cancel the run. -/
  | token (t : Token σ)
  /-- Set the calls to skip on top of the usual ones. -/
  | offset (n : UInt64)
  /-- Set how many samples in a row have to pass. -/
  | repeats (n : Nat)

namespace Assertion

variable {σ α : Type}

/-- A time limit, which must be some time. -/
def positiveTimeout (mode : Mode) (d : Duration) : Except Misconfiguration Duration :=
  if d.isZero then .error (.nonPositiveTimeout mode d) else .ok d

/-- A polling interval, which must be some time. -/
def positivePolling (mode : Mode) (d : Duration) : Except Misconfiguration Duration :=
  if d.isZero then .error (.nonPositivePolling mode d) else .ok d

/-- A count of passing samples, which only `eventually` knows and which must not be zero. -/
def validRepeats : Mode → Nat → Except Misconfiguration Nat
  | .consistently, _ => .error .repeatsWithConsistently
  | .eventually, 0 => .error (.invalidRepeatCount 0)
  | .eventually, n => .ok n

/-- An assertion with the bench's budgets. -/
def make (bench : Bench σ) (mode : Mode) (subject : Subject σ α) (site : Site) :
    Assertion σ α where
  bench := bench
  mode := mode
  subject := subject
  timeout := positiveTimeout mode (bench.budgets.timeout mode)
  polling := positivePolling mode (bench.budgets.polling mode)
  repeats := .ok 1
  token := none
  offset := 0
  site := site

/-- Set how long to poll. -/
def withTimeout (a : Assertion σ α) (d : Duration) : Assertion σ α :=
  { a with timeout := positiveTimeout a.mode d }

/-- Set how long to poll: another word for `withTimeout`. -/
def within (a : Assertion σ α) (d : Duration) : Assertion σ α := a.withTimeout d

/-- Set how long to wait between samples. -/
def withPolling (a : Assertion σ α) (d : Duration) : Assertion σ α :=
  { a with polling := positivePolling a.mode d }

/-- Set how long to wait between samples: another word for `withPolling`. -/
def probeEvery (a : Assertion σ α) (d : Duration) : Assertion σ α := a.withPolling d

/-- Set what may cancel the run. -/
def withToken (a : Assertion σ α) (t : Token σ) : Assertion σ α := { a with token := some t }

/-- Set the calls to skip on top of the usual ones. -/
def withOffset (a : Assertion σ α) (n : UInt64) : Assertion σ α := { a with offset := n }

/-- Set how many samples in a row have to pass. -/
def mustPassRepeatedly (a : Assertion σ α) (n : Nat) : Assertion σ α :=
  { a with repeats := validRepeats a.mode n }

/-- Call a setter. -/
def set (a : Assertion σ α) : Setting σ → Assertion σ α
  | .timeout d => a.withTimeout d
  | .polling d => a.withPolling d
  | .token t => a.withToken t
  | .offset n => a.withOffset n
  | .repeats n => a.mustPassRepeatedly n

/-- The plan of a run that wants the matcher's verdict to be the desired one. Of several things that
are wrong, the first of these counts: time limit, polling interval, count of samples, subject. -/
def plan (a : Assertion σ α) (m : Matcher σ α) (desired : Bool) (description : Description σ) :
    Except Misconfiguration (Plan σ α) := do
  let timeout ← a.timeout
  let polling ← a.polling
  let repeats ← a.repeats
  let source ← a.subject.resolve a.mode a.token
  return {
    mode := a.mode
    timeout := timeout
    polling := polling
    repeats := repeats
    token := a.token
    source := source
    matcher := m
    desired := desired
    description := description
    time := a.bench.time }

instance : Inspect (Assertion σ α) where
  shape a := .record "AsyncAssertion"
    [.field "mode" (Inspect.shape a.mode),
      .field "actual" (Inspect.shape a.subject),
      .field "timeout" (Inspect.shape a.timeout),
      .field "polling" (Inspect.shape a.polling),
      .field "repeats" (Inspect.shape a.repeats),
      .field "context" (Inspect.shape a.token.isSome),
      .field "offset" (Inspect.shape a.offset.toNat)] true

end Assertion

/-! ### Flights -/

/-- An assertion under way. -/
inductive Flight (σ α : Type) where
  /-- The verdict has been demanded, and nothing has been done yet. -/
  | grounded (assertion : Assertion σ α) (matcher : Matcher σ α) (desired : Bool)
      (description : Description σ)
  /-- The run is on. -/
  | polling (assertion : Assertion σ α) (handler : Handler σ) (run : Run σ α)
  /-- The answer is known. -/
  | landed (held : Bool)

namespace Flight

variable {σ α : Type}

/-- Demand that the subject matches, or that it does not. -/
def demand (a : Assertion σ α) (m : Matcher σ α) (desired : Bool) (description : Description σ) :
    Flight σ α := .grounded a m desired description

/-- Hand in the failure of an assertion. -/
def fail (a : Assertion σ α) (handler : Handler σ) (message : String) : Engine σ (Flight σ α) := do
  Engine.handIn handler message a.offset a.site
  return .landed false

/-- The first step: find the handler, and start the run if the assertion is valid. -/
def takeOff (a : Assertion σ α) (m : Matcher σ α) (desired : Bool) (description : Description σ) :
    Engine σ (Flight σ α) := do
  let handler ← a.bench.requireHandler
  let started ← Engine.call none a.bench.time.now
  match a.plan m desired description with
  | .ok plan => return .polling a handler (.start plan started)
  | .error cause =>
    Engine.log (.misconfigured a.mode (.misconfigured cause))
    fail a handler cause.text

/-- One step of a flight, and whether it has to wait now. -/
def step : Flight σ α → Engine σ (Flight σ α × Bool)
  | .grounded a m desired description => do
    return (← takeOff a m desired description, false)
  | .polling a handler run => do
    match ← run.step with
    | .ready run => return (.polling a handler run, false)
    | .pending run => return (.polling a handler run, true)
    | .over _ none => return (.landed true, false)
    | .over run (some ending) =>
      let message ← Engine.call none (run.failureMessage ending)
      return (← fail a handler message, false)
  | .landed held => return (.landed held, false)

/-- Is there a run to be reported on? -/
def isRunning : Flight σ α → Bool
  | .polling _ _ _ => true
  | _ => false

/-- The report that is seen at the given instant, if there is a run. -/
def report (clock : Duration) : Flight σ α → Option (Nat → Effect σ String)
  | .polling _ _ run => some (run.report clock)
  | _ => none

/-- The reporter of a flight, as a value. -/
def reporterShape (f : Flight σ α) : Shape :=
  .whole "ProgressReporter" [.field "running" (Inspect.shape f.isRunning)]

/-- The timer that a flight waits for first. -/
def nextTimer : Flight σ α → Timer
  | .polling _ _ run => run.nextTimer
  | _ => .never

end Flight

end PollAssert
