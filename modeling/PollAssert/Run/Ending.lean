import PollAssert.Inspect.Basic

/-!
# How an assertion fails

A polling assertion runs in one of two modes. `eventually` samples until the matcher is content;
`consistently` samples for a while and wants the matcher content throughout.

An assertion that cannot run as it was built has a `Misconfiguration`: it is never sampled. One that
ran and did not hold has another `Ending`, whose text is the first line of the report.
-/

namespace PollAssert

/-- The two ways to poll. -/
inductive Mode where
  /-- Sample until a sample passes or the time is up. -/
  | eventually
  /-- Sample until a sample fails or the time is up. -/
  | consistently
  deriving DecidableEq

namespace Mode

/-- The name of the mode in reports. -/
def text : Mode → String
  | .eventually => "Eventually"
  | .consistently => "Consistently"

instance : Inspect Mode := ⟨fun mode ↦ .atom mode.text⟩

end Mode

/-- Why an assertion cannot run. -/
inductive Misconfiguration where
  /-- The producer has no result to match. -/
  | returnsNothing (mode : Mode)
  /-- The producer wants a cancellation token, and none was given. -/
  | tokenRequired (mode : Mode)
  /-- The time limit is no time. -/
  | nonPositiveTimeout (mode : Mode) (duration : Duration)
  /-- The polling interval is no time. -/
  | nonPositivePolling (mode : Mode) (duration : Duration)
  /-- No passing sample is asked for. -/
  | invalidRepeatCount (count : Nat)
  /-- A count of passing samples means nothing to `consistently`. -/
  | repeatsWithConsistently
  /-- There is nobody to report failures to. -/
  | missingHandler
  deriving DecidableEq

namespace Misconfiguration

/-- The misconfiguration in words. -/
def text : Misconfiguration → String
  | .returnsNothing mode =>
    mode.text ++ " had an invalid signature: the function passed to " ++ mode.text ++
      " returns nothing. Functions passed to " ++ mode.text ++
      " must either take no arguments and return at least one value, " ++
      "or take a Checker (optionally followed by a CancellationToken)"
  | .tokenRequired mode =>
    mode.text ++ " was passed a function that takes a CancellationToken, " ++
      "but no context was provided. Use with_context(token) to provide one"
  | .nonPositiveTimeout mode duration =>
    mode.text ++ " requires a positive timeout, got " ++ duration.text
  | .nonPositivePolling mode duration =>
    mode.text ++ " requires a positive polling interval, got " ++ duration.text
  | .invalidRepeatCount count =>
    "must_pass_repeatedly requires a count of at least 1, got " ++ toString count
  | .repeatsWithConsistently =>
    "Invalid use of must_pass_repeatedly with Consistently: it has no meaning"
  | .missingHandler =>
    "no fail handler has been registered: build the harness with Harness::new(handler) " ++
      "before making assertions"

instance : Inspect Misconfiguration where
  shape
    | .returnsNothing mode => .whole "ProducerReturnsNothing" [.field "mode" (Inspect.shape mode)]
    | .tokenRequired mode => .whole "ContextRequired" [.field "mode" (Inspect.shape mode)]
    | .nonPositiveTimeout mode duration =>
      .whole "NonPositiveTimeout"
        [.field "mode" (Inspect.shape mode), .field "duration" (Inspect.shape duration)]
    | .nonPositivePolling mode duration =>
      .whole "NonPositivePolling"
        [.field "mode" (Inspect.shape mode), .field "duration" (Inspect.shape duration)]
    | .invalidRepeatCount count =>
      .whole "InvalidRepeatCount" [.field "count" (Inspect.shape count)]
    | .repeatsWithConsistently => .atom "RepeatedPassesWithConsistently"
    | .missingHandler => .atom "MissingFailHandler"

end Misconfiguration

/-- How an assertion ended that did not hold. -/
inductive Ending where
  /-- It could not run. -/
  | misconfigured (cause : Misconfiguration)
  /-- `eventually` ran out of time. -/
  | timedOut (elapsed : Duration)
  /-- `consistently` met a failing sample. -/
  | failed (elapsed : Duration)
  /-- The cancellation token was cancelled. -/
  | cancelled (elapsed : Duration)
  /-- A sample asked to stop. -/
  | stopped (message : String) (elapsed : Duration)
  /-- The oracle ruled out that a fixed value would ever pass. -/
  | noFutureChange (elapsed : Duration)
  deriving DecidableEq

namespace Ending

/-- The ending in words. -/
def text : Ending → String
  | .misconfigured cause => cause.text
  | .timedOut elapsed => "Timed out after " ++ elapsed.text ++ "."
  | .failed elapsed => "Failed after " ++ elapsed.text ++ "."
  | .cancelled elapsed => "Context was cancelled after " ++ elapsed.text ++ "."
  | .stopped message elapsed => message ++ " after " ++ elapsed.text ++ "."
  | .noFutureChange elapsed =>
    "No future change is possible.  Bailing out early after " ++ elapsed.text ++ "."

/-- The time from the start of the run to its end, if it ran. -/
def elapsed? : Ending → Option Duration
  | .misconfigured _ => none
  | .timedOut elapsed => some elapsed
  | .failed elapsed => some elapsed
  | .cancelled elapsed => some elapsed
  | .stopped _ elapsed => some elapsed
  | .noFutureChange elapsed => some elapsed

/-- Did the assertion never run? -/
def isMisconfigured : Ending → Bool
  | .misconfigured _ => true
  | _ => false

instance : Inspect Ending where
  shape
    | .misconfigured cause => .tagged "Config" [Inspect.shape cause]
    | .timedOut elapsed => .tagged "TimedOut" [Inspect.shape elapsed]
    | .failed elapsed => .tagged "Failed" [Inspect.shape elapsed]
    | .cancelled elapsed => .tagged "Cancelled" [Inspect.shape elapsed]
    | .stopped message elapsed =>
      .whole "StoppedTrying"
        [.field "message" (.quoted message), .field "elapsed" (Inspect.shape elapsed)]
    | .noFutureChange elapsed => .tagged "NoFutureChange" [Inspect.shape elapsed]

end Ending

end PollAssert
