import PollAssert.Action
import PollAssert.Assertion
import PollAssert.Checklist
import PollAssert.Decimal.Nearest
import PollAssert.Decimal.Shortest
import PollAssert.Decimal.Style
import PollAssert.Engine
import PollAssert.Fault
import PollAssert.Inspect.Basic
import PollAssert.Inspect.Shape
import PollAssert.Matcher.Basic
import PollAssert.Matcher.Combinators
import PollAssert.Matcher.Values
import PollAssert.Powers
import PollAssert.Proofs.Effects
import PollAssert.Proofs.Run.Course
import PollAssert.Proofs.Run.Frame
import PollAssert.Proofs.Run.Semantics
import PollAssert.Proofs.Run.Standing
import PollAssert.Proofs.Run.Step
import PollAssert.Rehearsal
import PollAssert.Report
import PollAssert.Run.Basic
import PollAssert.Run.Ending
import PollAssert.Run.Ruling
import PollAssert.Run.Sample
import PollAssert.Run.Subject
import PollAssert.Scenario.Clockwork
import PollAssert.Scenario.Exam
import PollAssert.Scenario.Judge
import PollAssert.Scenario.Script
import PollAssert.Scenario.Session
import PollAssert.Scenario.Stage
import PollAssert.Text.Combining
import PollAssert.Text.Pictureless
import PollAssert.Text.Quoted
import PollAssert.Text.Unseen
import PollAssert.Time.Duration
import PollAssert.Time.Source
import PollAssert.Value.Basic
import PollAssert.Value.Extra
import PollAssert.Proofs.Time.Timers
import PollAssert.Proofs.Run.OnTime
import PollAssert.Proofs.Run.Schedule
import PollAssert.Proofs.Flight.Handover
import PollAssert.Proofs.Flight.Accounts
import PollAssert.Proofs.Alike
import PollAssert.Proofs.Run.Alike
import PollAssert.Proofs.Run.Blame
import PollAssert.Proofs.Flight.Alike
import PollAssert.Proofs.Flight.Negation
import PollAssert.Proofs.Flight.Shortcut
import PollAssert.Proofs.Matcher.Soundness
import PollAssert.Proofs.Run.Requests
import PollAssert.Proofs.Run.Cancellation
import PollAssert.Proofs.Run.Budget
import PollAssert.Proofs.Run.Duality
import PollAssert.Proofs.Flight.Settings
import PollAssert.Proofs.Run.Tide
import PollAssert.Proofs.Run.Kindred
import PollAssert.Proofs.Run.Monotone
import PollAssert.Proofs.Time.Shift
import PollAssert.Proofs.Run.Epoch
import PollAssert.Proofs.Flight.Reporter
import PollAssert.Proofs.Run.Signals
import PollAssert.Proofs.Flight.Message
import PollAssert.Proofs.Run.Checks
import PollAssert.Proofs.Run.Opinion
import PollAssert.Proofs.Flight.Judgement
import PollAssert.Proofs.Flight.Layers
import PollAssert.Proofs.Flight.Calls
import PollAssert.Proofs.Run.Log
import PollAssert.Proofs.Flight.Log
import PollAssert.Proofs.Run.Retries
import PollAssert.Proofs.Matcher.Laws
import PollAssert.Proofs.Matcher.Quotes
import PollAssert.Proofs.Run.FirstFailure
