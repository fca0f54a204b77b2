import PollAssert.Checklist
import PollAssert.Run.Ending
import PollAssert.Value.Extra

/-!
# What an assertion is about

A `Subject` is the value under assertion or the code that produces it, once per sample. When the
assertion starts, `resolve` turns it into a `Source`, which can be sampled; two kinds of subject may
be refused there.

Only a **fixed** value is known not to change between samples, so only for it does the matcher's
oracle have a say.
-/

namespace PollAssert

/-- A cancellation token: the question, put to the user's state, whether it has been cancelled. -/
abbrev Token (σ : Type) : Type := σ → Bool

/-- The value under assertion, or the code that produces it. -/
inductive Subject (σ α : Type) where
  /-- A value that stays as it is. -/
  | fixed (value : α)
  /-- A producer. -/
  | produced (produce : Action σ (Except Fault α))
  /-- A producer that makes checks of its own. -/
  | checked (produce : Checked σ (Except Fault α))
  /-- A producer that makes checks and looks at the cancellation token. -/
  | checkedWithToken (produce : Token σ → Checked σ (Except Fault α))
  /-- A producer without a result. -/
  | returnsNothing

/-- A subject that is ready to be sampled. -/
inductive Source (σ α : Type) where
  /-- A value that stays as it is. -/
  | fixed (value : α)
  /-- A producer. -/
  | produced (produce : Action σ (Except Fault α))
  /-- A producer that makes checks of its own. -/
  | checked (produce : Checked σ (Except Fault α))

/-- Why a sample has no value. -/
inductive Mishap where
  /-- The producer returned an error. -/
  | fault (fault : Fault)
  /-- A check inside the producer failed. -/
  | nested (failure : NestedFailure)

namespace Subject

variable {σ α : Type}

/-- A producer that always has a value. -/
def ofAction (produce : Action σ α) : Subject σ α := .produced (.ok <$> produce)

/-- A producer that returns extras behind its value. -/
def withExtras (produce : Action σ (α × List Extra)) : Subject σ α :=
  .produced do
    let (a, extras) ← produce
    match Extra.accept a extras with
    | .ok a => return .ok a
    | .error u => return .error u.fault

/-- Is the subject a fixed value? -/
def isFixed : Subject σ α → Bool
  | .fixed _ => true
  | _ => false

/-- The name of the subject's kind in reports. -/
def kindName : Subject σ α → String
  | .fixed _ => "Static"
  | .produced _ => "Producer"
  | .checked _ => "Checked"
  | .checkedWithToken _ => "CheckedWithContext"
  | .returnsNothing => "ReturnsNothing"

instance : Inspect (Subject σ α) where
  shape s := .whole "Actual" [.field "shape" (.quoted s.kindName)]

/-- Make the subject ready to be sampled by an assertion of the given mode and token. -/
def resolve (mode : Mode) (token : Option (Token σ)) :
    Subject σ α → Except Misconfiguration (Source σ α)
  | .fixed value => .ok (.fixed value)
  | .produced produce => .ok (.produced produce)
  | .checked produce => .ok (.checked produce)
  | .checkedWithToken produce =>
    match token with
    | some t => .ok (.checked (produce t))
    | none => .error (.tokenRequired mode)
  | .returnsNothing => .error (.returnsNothing mode)

end Subject

namespace Checklist

variable {α : Type}

/-- The result of a producer that made checks: a failed check wins over whatever it returned. -/
def settle (c : Checklist) (result : Except Fault α) : Except Mishap α :=
  match c.failure, result with
  | some failure, _ => .error (.nested failure)
  | none, .ok a => .ok a
  | none, .error fault => .error (.fault fault)

end Checklist

namespace Source

variable {σ α : Type}

/-- Is the source a fixed value? -/
def isFixed : Source σ α → Bool
  | .fixed _ => true
  | _ => false

/-- Take one value. A producer that makes checks gets a fresh checklist. -/
def take : Source σ α → Action σ (Except Mishap α)
  | .fixed value => pure (.ok value)
  | .produced produce => do
    match ← produce with
    | .ok a => return .ok a
    | .error fault => return .error (.fault fault)
  | .checked produce => do
    let (result, checklist) ← produce.run {}
    return checklist.settle result

end Source

end PollAssert
