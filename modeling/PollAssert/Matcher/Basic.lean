import PollAssert.Action
import PollAssert.Fault

/-!
# Matchers

A `Matcher σ α` judges values of type `α`. It is four callbacks: a judgement, which may come out as
a fault instead of a verdict; a text for each way an assertion can fail; and the **oracle**
`mayChange`, which says whether judging the same value again could come out differently.

All four are actions on the user's state `σ`, so a matcher may count its calls, answer differently
each time, or halt. A matcher whose answers depend on the value alone is built by `ofPure`.
-/

namespace PollAssert

/-- A judgement of values, with the texts that explain it. -/
structure Matcher (σ α : Type) where
  /-- Does the value match? A fault is no verdict. -/
  judge : α → Action σ (Except Fault Bool)
  /-- Why the value failed an assertion that it matches. -/
  failureText : α → Action σ String
  /-- Why the value failed an assertion that it does not match. -/
  negatedText : α → Action σ String
  /-- Could judging the value again come out differently? -/
  mayChange : α → Action σ Bool

namespace Matcher

variable {σ α β : Type}

/-- A matcher that depends on the value alone and never rules out a change. -/
def ofPure (holds : α → Bool) (failure negated : α → String) : Matcher σ α where
  judge a := pure (.ok (holds a))
  failureText a := pure (failure a)
  negatedText a := pure (negated a)
  mayChange _ := pure true

/-- Judge a value by a part of it. -/
def comap (f : β → α) (m : Matcher σ α) : Matcher σ β where
  judge b := m.judge (f b)
  failureText b := m.failureText (f b)
  negatedText b := m.negatedText (f b)
  mayChange b := m.mayChange (f b)

/-- The text that explains a failure of the given polarity. -/
def textFor (m : Matcher σ α) (desired : Bool) (a : α) : Action σ String :=
  if desired then m.failureText a else m.negatedText a

/-- One judgement on its own: nothing if it comes out as desired, and otherwise the text that
explains the failure. A fault fails either polarity. -/
def check (m : Matcher σ α) (desired : Bool) (a : α) : Action σ (Option String) := do
  match ← m.judge a with
  | .ok matched => if matched = desired then return none else some <$> m.textFor desired a
  | .error fault =>
    return some ("The matcher returned the following error:\n    " ++ fault.chainText)

end Matcher

end PollAssert
