import PollAssert.Matcher.Basic

/-!
# Combinations of matchers

`both`-or-`either` over whole lists, negation, and a replaced oracle. Three decisions run through
the module.

* **Judging stops early.** `allOf` ends at the first component that does not match and `anyOf` at
  the first that does; a component's fault ends either, as the result of the whole. A fault is never
  negated.
* **Whom to blame is asked again.** The judgement keeps no record of the component that decided it.
  The text of a failed `allOf` is found by judging the components anew up to the first that does not
  match, where a fault now counts as "does not match"; likewise the text of a failed negated
  `anyOf`. If nobody is to blame the text is empty.
* **The oracle follows the blame.** A failing `allOf` can change only if the component to blame can.
  In all other cases one component that may change is enough.
-/

namespace PollAssert

namespace Matcher

variable {σ α : Type}

/-- The judgement with faults counted as "does not match". -/
def accepts (m : Matcher σ α) (a : α) : Action σ Bool := do
  match ← m.judge a with
  | .ok matched => return matched
  | .error _ => return false

/-- The first of the matchers that accepts the value, or the first that does not. -/
def firstThat (accepting : Bool) : List (Matcher σ α) → α → Action σ (Option (Matcher σ α))
  | [], _ => pure none
  | m :: rest, a => do
    if (← m.accepts a) = accepting then return some m else firstThat accepting rest a

/-- Judge by one matcher after the other, up to the first verdict `decisive` or the first fault; if
there is none, the verdict is the opposite one. -/
def judgeUntil (decisive : Bool) : List (Matcher σ α) → α → Action σ (Except Fault Bool)
  | [], _ => pure (.ok !decisive)
  | m :: rest, a => do
    match ← m.judge a with
    | .ok matched => if matched = decisive then return .ok matched else judgeUntil decisive rest a
    | .error fault => return .error fault

/-- May one of the matchers change its mind? Asking stops at the first that may. -/
def anyMayChange : List (Matcher σ α) → α → Action σ Bool
  | [], _ => pure false
  | m :: rest, a => do
    if ← m.mayChange a then return true else anyMayChange rest a

/-- The texts that the given callback of each matcher gives, in order. -/
def textsBy (text : Matcher σ α → α → Action σ String) :
    List (Matcher σ α) → α → Action σ (List String)
  | [], _ => pure []
  | m :: rest, a => do
    let t ← text m a
    let ts ← textsBy text rest a
    return t :: ts

/-- Texts side by side in brackets. -/
def bracketed (texts : List String) : String := "[" ++ "; ".intercalate texts ++ "]"

/-- Every one of the matchers matches. -/
def allOf (ms : List (Matcher σ α)) : Matcher σ α where
  judge := judgeUntil false ms
  failureText a := do
    match ← firstThat false ms a with
    | some m => m.failureText a
    | none => return ""
  negatedText a := do
    return "expected not all of: " ++ bracketed (← textsBy negatedText ms a)
  mayChange a := do
    match ← firstThat false ms a with
    | some m => m.mayChange a
    | none => anyMayChange ms a

/-- At least one of the matchers matches. -/
def anyOf (ms : List (Matcher σ α)) : Matcher σ α where
  judge := judgeUntil true ms
  failureText a := do
    return "matched none of: " ++ bracketed (← textsBy failureText ms a)
  negatedText a := do
    match ← firstThat true ms a with
    | some m => m.negatedText a
    | none => return ""
  mayChange := anyMayChange ms

/-- The matcher does not match. Verdict and texts are swapped; faults and the oracle are not. -/
def not (m : Matcher σ α) : Matcher σ α where
  judge a := (Except.map (!·)) <$> m.judge a
  failureText := m.negatedText
  negatedText := m.failureText
  mayChange := m.mayChange

/-- The same matcher with another oracle. -/
def withOracle (m : Matcher σ α) (mayChange : α → Action σ Bool) : Matcher σ α :=
  { m with mayChange := mayChange }

end Matcher

end PollAssert
