import PollAssert.Powers

/-!
# Durations

A `Duration` is an exact number of nanoseconds up to a fixed limit. The limit is part of the type,
so "the sum is representable" is a question with an answer (`checkedAdd?`) and not an accident of
the machine: a run whose deadline lies past the limit has **no** deadline.

Instants of a clock are durations too, counted from the clock's epoch.

## The text of a duration

`Duration.text` writes the largest of the units s, ms, µs and ns whose integer part is not zero,
with the exact fraction in that unit and no trailing zeros. Nothing is rounded, so two durations
have the same text only if they are equal.
-/

namespace PollAssert

/-- The number of nanoseconds in a second. -/
def nanosPerSecond : Nat := 1000000000

/-- The number of nanoseconds in a millisecond. -/
def nanosPerMilli : Nat := 1000000

/-- The number of nanoseconds in a microsecond. -/
def nanosPerMicro : Nat := 1000

/-- The greatest representable number of nanoseconds: one less than `2 ^ 64` seconds. -/
def nanosLimit : Nat := twoTo 64 * nanosPerSecond - 1

/-- A length of time: a number of nanoseconds that does not pass the limit. -/
structure Duration where
  /-- The whole length in nanoseconds. -/
  nanos : Nat
  /-- Every duration is representable. -/
  nanos_le : nanos ≤ nanosLimit := by decide
  deriving DecidableEq

namespace Duration

theorem ext {a b : Duration} (h : a.nanos = b.nanos) : a = b := by
  cases a; cases b; cases h; rfl

instance : LE Duration := ⟨fun a b ↦ a.nanos ≤ b.nanos⟩

instance : LT Duration := ⟨fun a b ↦ a.nanos < b.nanos⟩

instance (a b : Duration) : Decidable (a ≤ b) :=
  inferInstanceAs (Decidable (a.nanos ≤ b.nanos))

instance (a b : Duration) : Decidable (a < b) :=
  inferInstanceAs (Decidable (a.nanos < b.nanos))

theorem le_def {a b : Duration} : a ≤ b ↔ a.nanos ≤ b.nanos := Iff.rfl

theorem lt_def {a b : Duration} : a < b ↔ a.nanos < b.nanos := Iff.rfl

/-- No time at all. -/
def zero : Duration := ⟨0, Nat.zero_le _⟩

instance : Inhabited Duration := ⟨zero⟩

/-- The greatest representable duration. -/
def greatest : Duration := ⟨nanosLimit, Nat.le_refl _⟩

/-- The duration of `n` nanoseconds, or the greatest duration if that is not representable. -/
def ofNanos (n : Nat) : Duration := ⟨min n nanosLimit, Nat.min_le_right _ _⟩

/-- The duration of `n` milliseconds, or the greatest one. -/
def ofMillis (n : Nat) : Duration := ofNanos (n * nanosPerMilli)

/-- The duration of `n` seconds, or the greatest one. -/
def ofSeconds (n : Nat) : Duration := ofNanos (n * nanosPerSecond)

/-- Is this no time at all? -/
def isZero (d : Duration) : Bool := d.nanos == 0

/-- The sum, if it is representable. -/
def checkedAdd? (a b : Duration) : Option Duration :=
  if h : a.nanos + b.nanos ≤ nanosLimit then some ⟨a.nanos + b.nanos, h⟩ else none

/-- The sum, or the greatest duration if the sum is not representable. -/
def saturatingAdd (a b : Duration) : Duration := ofNanos (a.nanos + b.nanos)

/-- The difference, or zero where it would be negative. -/
def saturatingSub (a b : Duration) : Duration :=
  ⟨a.nanos - b.nanos, Nat.le_trans (Nat.sub_le _ _) a.nanos_le⟩

@[simp] theorem nanos_zero : zero.nanos = 0 := rfl

@[simp] theorem nanos_saturatingSub (a b : Duration) :
    (a.saturatingSub b).nanos = a.nanos - b.nanos := rfl

theorem nanos_of_checkedAdd? {a b c : Duration} (h : a.checkedAdd? b = some c) :
    c.nanos = a.nanos + b.nanos := by
  unfold checkedAdd? at h
  split at h
  · cases h; rfl
  · cases h

/-- The sum is missing exactly when it passes the limit. -/
theorem checkedAdd?_eq_none_iff {a b : Duration} :
    a.checkedAdd? b = none ↔ nanosLimit < a.nanos + b.nanos := by
  unfold checkedAdd?
  split <;> simp <;> omega

/-! ### Text -/

/-- A decimal fraction of the given width without its trailing zeros, point included; the empty
text if nothing is left. -/
def fractionText (width n : Nat) : String :=
  let digits := (Nat.toDigits 10 n).reverse
  let padded := digits ++ List.replicate (width - digits.length) '0'
  let kept := padded.dropWhile (· == '0')
  if kept.isEmpty then "" else String.ofList ('.' :: kept.reverse)

/-- The text of a number of nanoseconds in a unit of `10 ^ width` of them. -/
def inUnit (nanos width : Nat) (unit : String) : String :=
  toString (nanos / tenTo width) ++ fractionText width (nanos % tenTo width) ++ unit

/-- The text of a duration, in the largest unit that it fills. -/
def text (d : Duration) : String :=
  if nanosPerSecond ≤ d.nanos then inUnit d.nanos 9 "s"
  else if nanosPerMilli ≤ d.nanos then inUnit d.nanos 6 "ms"
  else if nanosPerMicro ≤ d.nanos then inUnit d.nanos 3 "µs"
  else inUnit d.nanos 0 "ns"

end Duration

end PollAssert
