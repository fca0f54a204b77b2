import PollAssert.Run.Subject

/-!
# Samples

To take a `Sample` is to ask the source for a value and the matcher for a judgement of it. Four
things can come of it, one constructor each: a verdict, a value that the matcher could not judge, an
error of the producer, a failed check inside the producer.

Of a sample the run only uses a `Reading`: whether it passed, whether it is **settled** (a fixed
value whose oracle rules out a change), and what it asks of the run (`Steering`). A failed check
steers nothing, whatever signal the producer returned with it.

The rest of the sample is kept for the report. `detail` explains a sample: by the matcher's text of
the assertion's polarity if there was a verdict, by the error otherwise. A signal is explained by
itself, without the chain around it.
-/

namespace PollAssert

/-- What came of taking a sample. -/
inductive Sample (α : Type) where
  /-- The matcher came to a verdict. -/
  | judged (value : α) (matched : Bool)
  /-- The matcher came to a fault. -/
  | unjudged (value : α) (fault : Fault)
  /-- There was no value to judge. -/
  | missed (mishap : Mishap)

/-- What a sample asks of the run, beyond passing or not. -/
inductive Steering where
  /-- Nothing in particular. -/
  | goOn
  /-- Stop and fail, for the given reason. -/
  | stop (message : String)
  /-- Take the next sample after the given delay. -/
  | retry (delay : Duration)
  deriving DecidableEq

/-- What a run uses of a sample. -/
structure Reading where
  /-- Did the sample pass? -/
  passed : Bool
  /-- Is it known that no later sample will differ? -/
  settled : Bool
  /-- What does it ask for? -/
  steering : Steering
  deriving DecidableEq

namespace Sample

variable {σ α : Type}

/-- Take a sample. Without a value the matcher is not asked. -/
def take (source : Source σ α) (m : Matcher σ α) : Action σ (Sample α) := do
  match ← source.take with
  | .error mishap => return .missed mishap
  | .ok a =>
    match ← m.judge a with
    | .ok matched => return .judged a matched
    | .error fault => return .unjudged a fault

/-- Did the sample pass? Only a verdict can, and only the desired one. -/
def passed (desired : Bool) : Sample α → Bool
  | .judged _ matched => matched == desired
  | .unjudged _ _ => false
  | .missed _ => false

/-- The value that was sampled, if there is one. -/
def value? : Sample α → Option α
  | .judged a _ => some a
  | .unjudged a _ => some a
  | .missed _ => none

/-- The signal that the sample carries. -/
def signal? : Sample α → Option Signal
  | .judged _ _ => none
  | .unjudged _ fault => fault.signal?
  | .missed (.fault fault) => fault.signal?
  | .missed (.nested _) => none

/-- What the sample asks for. -/
def steering (s : Sample α) : Steering :=
  match s.signal? with
  | none => .goOn
  | some signal =>
    match signal.request with
    | .stop message => .stop message
    | .retry delay => .retry delay

/-- Is the sample settled? Only a fixed value can be, and only if the matcher's oracle, which is not
asked otherwise, rules out a change. -/
def isSettled (source : Source σ α) (m : Matcher σ α) (s : Sample α) : Action σ Bool :=
  match source.isFixed, s.value? with
  | true, some a => (!·) <$> m.mayChange a
  | _, _ => pure false

/-! ### Explaining a sample -/

/-- The text of a signal in a report. The message of a request to stop is the report's first line
already, so only what it wraps remains; then each attachment has a paragraph. -/
def signalDetail (signal : Signal) : String :=
  let own := match signal.request, signal.wrapped? with
    | .stop _, none => ""
    | .stop _, some wrapped => wrapped.text
    | .retry _, _ => signal.text
  own ++ String.join (signal.attachments.map fun a ↦
    "\n" ++ a.description ++ ":\n    " ++ a.value)

/-- The text of an error that the named party returned. -/
def faultDetail (mode : Mode) (party : String) (fault : Fault) : String :=
  match fault.signal? with
  | some signal => signalDetail signal
  | none =>
    "The " ++ party ++ " passed to " ++ mode.text ++ " returned the following error:\n    " ++
      fault.chainText

/-- The text of a failed check. -/
def nestedDetail (mode : Mode) (failure : NestedFailure) : String :=
  "The function passed to " ++ mode.text ++ " failed at " ++ failure.site ++ " with:\n" ++
    failure.message

/-- Explain the sample to a reader of the report. -/
def detail (mode : Mode) (desired : Bool) (m : Matcher σ α) : Sample α → Action σ String
  | .judged a _ => m.textFor desired a
  | .unjudged _ fault => pure (faultDetail mode "matcher" fault)
  | .missed (.fault fault) => pure (faultDetail mode "function" fault)
  | .missed (.nested failure) => pure (nestedDetail mode failure)

end Sample

end PollAssert
