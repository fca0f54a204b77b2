import PollAssert.Decimal.Style
import PollAssert.Inspect.Shape
import PollAssert.Time.Duration

/-!
# Values that reports can show, and their order

`Inspect` gives a type's values their shape. `PartialCompare` gives them the order that comparison
matchers use: an order that may leave a pair undecided, as a float that is no number is undecided
against everything. A comparison that comes out undecided holds in none of its four forms.
-/

namespace PollAssert

/-- Types whose values can be shown in a report. -/
class Inspect (α : Type) where
  /-- The visible structure of a value. -/
  shape : α → Shape

/-- A value on one line. -/
def inspect {α : Type} [Inspect α] (a : α) : String := (Inspect.shape a).compact

/-- A value with a line for each of its parts. -/
def inspectTall {α : Type} [Inspect α] (a : α) : String := (Inspect.shape a).tall

instance : Inspect Unit := ⟨fun _ ↦ .atom "()"⟩

instance : Inspect Bool := ⟨fun b ↦ .atom (if b then "true" else "false")⟩

instance : Inspect Nat := ⟨fun n ↦ .atom (toString n)⟩

instance : Inspect Int := ⟨fun n ↦ .atom (toString n)⟩

instance : Inspect Float := ⟨fun x ↦ .atom (reportStyle.float x)⟩

instance : Inspect Float32 := ⟨fun x ↦ .atom (reportStyle.float32 x)⟩

instance : Inspect Char := ⟨fun c ↦ .atom (quoteChar c)⟩

instance : Inspect String := ⟨fun s ↦ .quoted s⟩

instance : Inspect Duration := ⟨fun d ↦ .atom d.text⟩

instance {α : Type} [Inspect α] : Inspect (List α) :=
  ⟨fun as ↦ .list (as.map Inspect.shape)⟩

instance {α : Type} [Inspect α] : Inspect (Option α) where
  shape
    | none => .atom "None"
    | some a => .tagged "Some" [Inspect.shape a]

instance {ε α : Type} [Inspect ε] [Inspect α] : Inspect (Except ε α) where
  shape
    | .ok a => .tagged "Ok" [Inspect.shape a]
    | .error e => .tagged "Err" [Inspect.shape e]

/-! ### Order -/

/-- Types whose values are ordered, some pairs perhaps not. -/
class PartialCompare (α : Type) where
  /-- How the first value stands to the second, if it does. -/
  compare? : α → α → Option Ordering

instance {α : Type} [Ord α] : PartialCompare α := ⟨fun a b ↦ some (compare a b)⟩

/-- Floats are ordered as numbers; what is no number is ordered against nothing, and the two zeros
are equal. -/
def compareFloats? (a b : Float) : Option Ordering :=
  if a < b then some .lt else if b < a then some .gt else if a == b then some .eq else none

instance : PartialCompare Float := ⟨compareFloats?⟩

/-- A comparison between an actual and an expected value. -/
inductive Comparison where
  | less
  | lessOrEqual
  | greater
  | greaterOrEqual
  deriving DecidableEq

/-- Does the comparison hold of a pair that stands as given? Undecided pairs satisfy none. -/
def Comparison.holds : Comparison → Option Ordering → Bool
  | .less, some .lt => true
  | .lessOrEqual, some .lt => true
  | .lessOrEqual, some .eq => true
  | .greater, some .gt => true
  | .greaterOrEqual, some .gt => true
  | .greaterOrEqual, some .eq => true
  | _, _ => false

end PollAssert
