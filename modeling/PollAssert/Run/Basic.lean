import PollAssert.Engine
import PollAssert.Run.Ruling

/-!
# A polling run, step by step

A `Run` is the state of one polling assertion between its steps. It alternates between two phases:
**sampling**, and **waiting** for one of three things, which are looked at in this order whenever
the run is polled:

1. the cancellation token,
2. the deadline of the whole run,
3. the tick, after the polling interval or the delay that the last sample asked for.

`step` takes one step and says how the run stands: it can go on at once, it waits for its timers, or
it is over. A run is stepped from outside, so whatever happens between two steps (the clock moves,
somebody cancels the token, the report is asked for, the run is dropped) is not the run's business,
and a run need not end.

A delay that a sample asks for is good for **one** wait: every sample sets it anew and every wait
takes it. The deadline is fixed when the run starts, and missing if it is not representable. It is
looked at between samples only, so a slow producer can overrun it.

The start of the tick's sleep comes before the first look at the token. The deadline's sleep is
started at the first look that gets that far.
-/

namespace PollAssert

/-- A validated assertion: everything that a run does not change. -/
structure Plan (σ α : Type) where
  /-- How to poll. -/
  mode : Mode
  /-- How long to poll. -/
  timeout : Duration
  /-- How long to wait between samples. -/
  polling : Duration
  /-- How many samples in a row have to pass. -/
  repeats : Nat
  /-- What may cancel the run. -/
  token : Option (Token σ)
  /-- Where the values come from. -/
  source : Source σ α
  /-- What judges them. -/
  matcher : Matcher σ α
  /-- The verdict that passes. -/
  desired : Bool
  /-- The text above the report's detail. -/
  description : Description σ
  /-- Where the time comes from. -/
  time : TimeSource σ

/-- The latest sample of a run. -/
structure Published (α : Type) where
  /-- The sample. -/
  sample : Sample α
  /-- The time since the start of the run. -/
  capturedAt : Duration

/-- What a run is about to do. -/
inductive Phase where
  /-- Take a sample. -/
  | sampling
  /-- Wait for the tick and for the deadline, whose timer may not have been started yet. -/
  | waiting (tick : Timer) (deadline : Option Timer)
  deriving DecidableEq

/-- The state of a polling assertion between its steps. -/
structure Run (σ α : Type) where
  /-- What the run does not change. -/
  plan : Plan σ α
  /-- The reading at which it started. -/
  started : Duration
  /-- How many samples it has taken. -/
  samples : Nat
  /-- The latest of them. -/
  latest : Option (Published α)
  /-- The delay that the latest sample asked for, until a wait takes it. -/
  requestedDelay : Option Duration
  /-- How many samples in a row have passed. -/
  passes : Nat
  /-- What comes next. -/
  phase : Phase

/-- How a run stands after a step. -/
inductive Turn (σ α : Type) where
  /-- It can go on at once. -/
  | ready (run : Run σ α)
  /-- It waits for its timers. -/
  | pending (run : Run σ α)
  /-- It is over: it held, or failed with an ending. -/
  | over (run : Run σ α) (ending : Option Ending)

namespace Run

variable {σ α β : Type}

/-- A run that starts at the given reading. -/
def start (plan : Plan σ α) (started : Duration) : Run σ α :=
  ⟨plan, started, 0, none, none, 0, .sampling⟩

/-- The reading at which the time of the run is up, if it is representable. -/
def deadline? (r : Run σ α) : Option Duration := r.started.checkedAdd? r.plan.timeout

/-! ### Explaining the run -/

/-- The time since the start of the run; none if the source has gone backward. -/
def elapsed (r : Run σ α) : Action σ Duration := do
  return (← r.plan.time.now).saturatingSub r.started

/-- Explain the latest sample; the empty text if there is none. -/
def detail (r : Run σ α) : Action σ String :=
  match r.latest with
  | none => pure ""
  | some latest => latest.sample.detail r.plan.mode r.plan.desired r.plan.matcher

/-- The report of a run that is not over. The detail is composed under the lock of the latest
sample, where the surroundings look as in `held`; what comes before and after it sees `free`. -/
def snapshot (r : Run σ α) (free held : View σ) : Effect σ String := do
  let elapsed ← r.elapsed free
  let detail ← r.detail held
  r.plan.description.compose
    (r.plan.mode.text ++ " has been polling for " ++ elapsed.text ++ " (" ++
      toString r.samples ++ " samples).") detail free

/-- The message of a run that failed. -/
def failureMessage (r : Run σ α) (ending : Ending) : Action σ String := do
  let detail ← r.detail
  r.plan.description.compose ending.text detail

/-- A report that is asked for under the lock of the latest sample. It reads the time, and then
waits for that lock, which is not given back before the code that asked has returned. -/
def heldReport (r : Run σ α) (clock : Duration) : Nat → Effect σ String
  | 0 => .halt .overflow
  | room + 1 => do
    let _ ← r.elapsed ⟨clock, some fun _ ↦ r.heldReport clock room⟩
    .halt .deadlock

/-- The report at the given instant, on a stack with room for so many reports. The run is on while
its report is composed: the code that is called for it may ask for the report again, which takes
what room is left. -/
def report (r : Run σ α) (clock : Duration) : Nat → Effect σ String
  | 0 => .halt .overflow
  | room + 1 =>
    r.snapshot ⟨clock, some fun _ ↦ r.report clock room⟩
      ⟨clock, some fun _ ↦ r.heldReport clock room⟩

/-- Call user code in the course of the run. -/
def call (r : Run σ α) (act : Action σ β) : Engine σ β := do
  Engine.call (some (r.report (← Engine.clock))) act

/-! ### Sampling -/

/-- The run after a sample. -/
def publish (r : Run σ α) (sample : Sample α) (capturedAt : Duration) : Run σ α :=
  { r with
    samples := r.samples + 1
    latest := some ⟨sample, capturedAt⟩
    requestedDelay := match sample.steering with
      | .retry delay => some delay
      | _ => none }

/-- Take a sample and publish it. -/
def takeSample (r : Run σ α) : Engine σ (Run σ α × Reading) := do
  let sample ← r.call (Sample.take r.plan.source r.plan.matcher)
  let settled ← r.call (sample.isSettled r.plan.source r.plan.matcher)
  let passed := sample.passed r.plan.desired
  let r := r.publish sample (← r.call r.elapsed)
  Engine.log (.sampled r.plan.mode r.samples (← r.call r.elapsed) passed)
  return (r, ⟨passed, settled, sample.steering⟩)

/-! ### Waiting -/

/-- Start a sleep on the run's source of time. -/
def sleep (r : Run σ α) (length : Duration) : Engine σ Timer := do
  Engine.note (.slept length)
  r.call (r.plan.time.sleep length)

/-- Start to wait for an instant of the run's source of time. -/
def sleepUntil (r : Run σ α) (instant : Duration) : Engine σ Timer :=
  match r.plan.time.sleepUntil? with
  | some wait => r.call (wait instant)
  | none => do
    match TimeSource.remaining? (← r.call r.plan.time.now) instant with
    | none => return .elapsed
    | some length => r.sleep length

/-- Start to wait for the deadline. -/
def sleepUntilDeadline (r : Run σ α) : Engine σ Timer :=
  match r.deadline? with
  | some deadline => r.sleepUntil deadline
  | none => return .never

/-- The length of the next wait's tick. -/
def interval (r : Run σ α) : Duration := r.requestedDelay.getD r.plan.polling

/-- Start to wait. The delay that the latest sample asked for is used up. -/
def startWaiting (r : Run σ α) : Engine σ (Run σ α) := do
  let tick ← ({ r with requestedDelay := none } : Run σ α).sleep r.interval
  return { r with requestedDelay := none, phase := .waiting tick none }

/-- Has the token been cancelled? -/
def isCancelled (r : Run σ α) : Engine σ Bool :=
  match r.plan.token with
  | none => return false
  | some token => Engine.asks token

/-- Look at what the run waits for: what has ended the wait, and the deadline's timer if the look
got that far. -/
def look (r : Run σ α) (tick : Timer) (deadline : Option Timer) :
    Engine σ (Option Wake × Option Timer) := do
  if ← r.isCancelled then return (some .cancelled, deadline)
  let timer ← match deadline with
    | some timer => pure timer
    | none => r.sleepUntilDeadline
  let clock ← Engine.clock
  if timer.isDue clock then return (some .deadline, some timer)
  if tick.isDue clock then return (some .tick, some timer)
  return (none, some timer)

/-! ### Steps -/

/-- The run is over. -/
def finish (r : Run σ α) (cause : Cause) : Engine σ (Turn σ α) := do
  let ending ← match cause with
    | .held => pure none
    | _ => (fun elapsed ↦ cause.ending? elapsed) <$> r.call r.elapsed
  let elapsed ← r.call r.elapsed
  Engine.log (match ending with
    | none => .held r.plan.mode r.samples elapsed
    | some ending => .failed r.plan.mode r.samples elapsed ending)
  return .over r ending

/-- Take a sample and go by what follows from it. -/
def sampleStep (r : Run σ α) : Engine σ (Turn σ α) := do
  let (r, reading) ← r.takeSample
  match r.plan.mode.rule r.plan.repeats r.passes reading with
  | .over cause => r.finish cause
  | .goOn passes => .ready <$> ({ r with passes := passes } : Run σ α).startWaiting

/-- Look at what the run waits for and go by it. -/
def waitStep (r : Run σ α) (tick : Timer) (deadline : Option Timer) : Engine σ (Turn σ α) := do
  match ← r.look tick deadline with
  | (none, deadline) => return .pending { r with phase := .waiting tick deadline }
  | (some wake, _) =>
    match r.plan.mode.causeOfWake? wake with
    | some cause => r.finish cause
    | none => return .ready { r with phase := .sampling }

/-- One step of the run. -/
def step (r : Run σ α) : Engine σ (Turn σ α) :=
  match r.phase with
  | .sampling => r.sampleStep
  | .waiting tick deadline => r.waitStep tick deadline

/-- The timer that a waiting run waits for first. -/
def nextTimer (r : Run σ α) : Timer :=
  match r.phase with
  | .sampling => .never
  | .waiting tick deadline => tick.earlier (deadline.getD .never)

end Run

end PollAssert
