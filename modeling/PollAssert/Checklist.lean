import PollAssert.Matcher.Basic

/-!
# Assertions inside a producer

A producer may check several things about one sample. It is handed a `Checklist`, fresh for every
sample, and each check on it either passes or returns a `Stop`, which the producer may pass on as
its error or ignore. The checklist records the **first** failure only; when the producer is done,
`settle` lets that failure win over whatever the producer returned.

A `Stop` that a producer keeps and returns for a later sample is an ordinary error there, because
that sample's checklist has no failure of its own.
-/

namespace PollAssert

/-- The place in the user's code where an assertion or a check was made. -/
abbrev Site : Type := String

/-- A failed check. -/
structure NestedFailure where
  /-- Why it failed. -/
  message : String
  /-- Where the check was made. -/
  site : Site
  deriving DecidableEq

/-- The record of one sample's checks. -/
structure Checklist where
  /-- The first check that failed. -/
  failure : Option NestedFailure := none
  deriving DecidableEq

/-- What a failing check returns. The failure itself is on the checklist. -/
inductive Stop where
  | stop
  deriving DecidableEq

namespace Stop

/-- The text of a stop. -/
def text (_ : Stop) : String := "nested assertion failed"

/-- A stop as the error of a producer. -/
def fault (s : Stop) : Fault := .message s.text

end Stop

/-- User code that may make checks. -/
abbrev Checked (σ : Type) : Type → Type := StateT Checklist (Action σ)

namespace Checklist

variable {σ α : Type}

/-- The checklist after a failure: the first one stays. -/
def record (c : Checklist) (failure : NestedFailure) : Checklist :=
  match c.failure with
  | none => ⟨some failure⟩
  | some _ => c

/-- The first failure is recorded. -/
@[simp] theorem record_empty (failure : NestedFailure) :
    (⟨none⟩ : Checklist).record failure = ⟨some failure⟩ := rfl

/-- Later failures are not. -/
@[simp] theorem record_record (c : Checklist) (first later : NestedFailure) :
    (c.record first).record later = c.record first := by
  rcases c with ⟨_ | _⟩ <;> rfl

/-- Record a failure. -/
def fail (site : Site) (message : String) : Checked σ Stop := do
  modify (·.record ⟨message, site⟩)
  return .stop

/-- Check that the value matches, or that it does not. -/
def expect (site : Site) (m : Matcher σ α) (desired : Bool) (a : α) :
    Checked σ (Except Stop Unit) := do
  match ← m.check desired a with
  | none => return .ok ()
  | some message => .error <$> fail site message

/-- Has a check failed? -/
def failed : Checked σ Bool := do return (← get).failure.isSome

end Checklist

end PollAssert
