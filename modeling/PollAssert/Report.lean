import PollAssert.Action
import PollAssert.Checklist
import PollAssert.Inspect.Basic

/-!
# Reports

A failed assertion hands one `Failure` to a handler. Its message is a header line, the assertion's
description if it has one to show, and a detail about the last sample.

Descriptions may be **lazy**: the user's code is called when a text is composed, and not before. A
description that comes out empty is left out with its line. The detail is composed first, so where
matcher and description both have effects the matcher's come first.

The number of calls to skip is a machine word of 64 bits, and so is the offset that an assertion
adds to it. The sum is checked: one that no word can hold is a panic, and there is no failure then.
-/

namespace PollAssert

/-- How many calls lie between an assertion and the handler, before any offset. -/
def baseCallerSkip : UInt64 := 2

/-- How many calls to skip with the given offset, if a word can hold the number. -/
def callerSkip? (offset : UInt64) : Option UInt64 :=
  if baseCallerSkip.toNat + offset.toNat < UInt64.size then some (baseCallerSkip + offset) else none

/-- The sum is exact, -/
theorem callerSkip?_eq_some_iff {offset skip : UInt64} :
    callerSkip? offset = some skip ↔ skip.toNat = baseCallerSkip.toNat + offset.toNat := by
  have hskip : skip.toNat < UInt64.size := skip.toNat_lt
  rw [callerSkip?]
  split
  next hfits =>
    have hsum : (baseCallerSkip + offset).toNat = baseCallerSkip.toNat + offset.toNat := by
      rw [UInt64.toNat_add, Nat.mod_eq_of_lt hfits]
    rw [Option.some.injEq, ← UInt64.toNat_inj, hsum, eq_comm]
  next hover => exact ⟨nofun, fun h ↦ absurd (h ▸ hskip) hover⟩

/-- and it is missing exactly if it is too large for a word. -/
theorem callerSkip?_eq_none_iff {offset : UInt64} :
    callerSkip? offset = none ↔ UInt64.size ≤ baseCallerSkip.toNat + offset.toNat := by
  rw [callerSkip?]
  split
  next hfits => simpa using hfits
  next hover => simpa using hover

/-- A failed assertion. -/
structure Failure where
  /-- The whole text of the report. -/
  message : String
  /-- How many calls to skip to reach the user's code. -/
  callerSkip : UInt64
  /-- Where the assertion was made. -/
  site : Site
  deriving DecidableEq

namespace Failure

/-- The text of the panic when a sum is too large for a word. -/
def overflowText : String := "attempt to add with overflow"

/-- The failure of an assertion with the given offset. -/
def ofOffset {σ : Type} (message : String) (offset : UInt64) (site : Site) : Effect σ Failure :=
  match callerSkip? offset with
  | some skip => pure ⟨message, skip, site⟩
  | none => Effect.panic overflowText

end Failure

/-- Receives the failures. -/
abbrev Handler (σ : Type) : Type := Failure → Action σ Unit

namespace Handler

variable {σ : Type}

/-- The handler that ends in a panic, with the place and the message. -/
def panicking : Handler σ := fun failure ↦ .panic (failure.site ++ ": " ++ failure.message)

end Handler

/-! ### Descriptions -/

/-- The text above the detail of a report. -/
inductive Description (σ : Type) where
  /-- No text. -/
  | none
  /-- A fixed text. -/
  | text (s : String)
  /-- A text that is computed when it is needed. -/
  | computed (describe : Action σ String)

namespace Description

variable {σ : Type}

/-- The text to show; nothing if it is empty. -/
def render : Description σ → Action σ (Option String)
  | .none => pure Option.none
  | .text s => pure (if s.isEmpty then Option.none else some s)
  | .computed describe => do
    let s ← describe
    return if s.isEmpty then Option.none else some s

instance : Inspect (Description σ) where
  shape
    | .none => .atom "Description::Empty"
    | .text s => .tagged "Description::Text" [.quoted s]
    | .computed _ => .atom "Description::Lazy(..)"

/-- The header, the description and the detail, one below the other. -/
def compose (header : String) (description : Description σ) (detail : String) :
    Action σ String := do
  match ← description.render with
  | Option.none => return header ++ "\n" ++ detail
  | some shown => return header ++ "\n" ++ shown ++ "\n" ++ detail

end Description

/-! ### Keeping failures -/

/-- A record of failures, oldest first. -/
structure Recorder where
  /-- What has been recorded. -/
  failures : List Failure := []
  deriving DecidableEq

namespace Recorder

/-- Record one more failure. -/
def record (r : Recorder) (failure : Failure) : Recorder := ⟨r.failures ++ [failure]⟩

/-- The number of recorded failures. -/
def length (r : Recorder) : Nat := r.failures.length

/-- Has nothing failed? -/
def isEmpty (r : Recorder) : Bool := r.failures.isEmpty

/-- The latest failure. -/
def last? (r : Recorder) : Option Failure := r.failures.getLast?

@[simp] theorem length_record (r : Recorder) (failure : Failure) :
    (r.record failure).length = r.length + 1 := by
  simp [record, length]

@[simp] theorem last?_record (r : Recorder) (failure : Failure) :
    (r.record failure).last? = some failure := by
  simp [record, last?]

instance : Inspect Recorder where
  shape r := .whole "RecordingFailHandler" [.field "failures" (Inspect.shape r.length)]

/-- The handler that records into a part of the user's state. -/
def handler {σ : Type} (update : (Recorder → Recorder) → σ → σ) : Handler σ := fun failure ↦
  modify (update (·.record failure))

end Recorder

end PollAssert
