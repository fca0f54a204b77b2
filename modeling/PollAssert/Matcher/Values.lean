import PollAssert.Matcher.Basic

/-!
# Matchers for values

Equality and order, texts and lists, and predicates of the user. Apart from the predicates, each
depends on the value alone. None of them rules out a change; that takes `Matcher.withOracle`.
-/

namespace PollAssert

namespace Matcher

variable {σ α : Type}

/-! ### Equality and order -/

/-- A matcher that relates the value to an expected one, in the given words. -/
def relating [Inspect α] (words : String) (holds : α → α → Bool) (expected : α) : Matcher σ α :=
  ofPure (fun a ↦ holds a expected)
    (fun a ↦ "expected " ++ inspect a ++ " to " ++ words ++ " " ++ inspect expected)
    (fun a ↦ "expected " ++ inspect a ++ " not to " ++ words ++ " " ++ inspect expected)

/-- The value equals the expected one. -/
def equalTo [BEq α] [Inspect α] : α → Matcher σ α :=
  relating "equal" fun a expected ↦ a == expected

/-- A comparison in words. -/
def comparisonWords : Comparison → String
  | .less => "be less than"
  | .lessOrEqual => "be less than or equal to"
  | .greater => "be greater than"
  | .greaterOrEqual => "be greater than or equal to"

/-- The value compares to the expected one in the given way. -/
def comparing [PartialCompare α] [Inspect α] (c : Comparison) : α → Matcher σ α :=
  relating (comparisonWords c) fun a expected ↦ c.holds (PartialCompare.compare? a expected)

/-! ### Texts and lists -/

/-- The text contains another one. -/
def containingText (part : String) : Matcher σ String :=
  ofPure (fun s ↦ occursIn part.toList s.toList)
    (fun s ↦ "expected " ++ inspect s ++ " to contain " ++ inspect part)
    (fun s ↦ "expected " ++ inspect s ++ " not to contain " ++ inspect part)

/-- The list contains an element. -/
def containing [BEq α] [Inspect α] (element : α) : Matcher σ (List α) :=
  ofPure (fun as ↦ as.any (· == element))
    (fun as ↦ "expected " ++ inspect as ++ " to contain " ++ inspect element)
    (fun as ↦ "expected " ++ inspect as ++ " not to contain " ++ inspect element)

/-- The list has the given length. -/
def ofLength [Inspect α] (n : Nat) : Matcher σ (List α) :=
  ofPure (fun as ↦ as.length == n)
    (fun as ↦ "expected length " ++ toString n ++ ", but was " ++ toString as.length ++
      " (value: " ++ inspect as ++ ")")
    (fun as ↦ "expected " ++ inspect as ++ " not to have length " ++ toString n)

/-- The list is empty. -/
def empty [Inspect α] : Matcher σ (List α) :=
  ofPure (fun as ↦ as.isEmpty)
    (fun as ↦ "expected empty, but had " ++ toString as.length ++ " elements: " ++ inspect as)
    (fun _ ↦ "expected a non-empty collection")

/-! ### Predicates -/

/-- Every value will do: what matters is that there is one. -/
def succeeding : Matcher σ α :=
  ofPure (fun _ ↦ true) (fun _ ↦ "expected success")
    (fun _ ↦ "expected failure, but the function succeeded")

/-- The user's predicate holds; it may come to a fault instead of an answer. -/
def trySatisfying [Inspect α] (predicate : α → Action σ (Except Fault Bool))
    (description : String) : Matcher σ α where
  judge := predicate
  failureText a := pure (inspect a ++ " does not satisfy: " ++ description)
  negatedText a := pure (inspect a ++ " unexpectedly satisfies: " ++ description)
  mayChange _ := pure true

/-- The user's predicate holds. -/
def satisfying [Inspect α] (predicate : α → Action σ Bool) (description : String) : Matcher σ α :=
  trySatisfying (fun a ↦ .ok <$> predicate a) description

end Matcher

end PollAssert
