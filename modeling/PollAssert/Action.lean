import PollAssert.Time.Duration

/-!
# Effects: what user code may do

Assertions call code that is not theirs: producers, matchers, oracles, descriptions, handlers, time
sources. That code may keep state between calls and may halt instead of returning: it panics, or it
never comes back. Three layers describe this.

* `Effect σ β` is a computation on a state `σ` that returns a `β` or halts. The state that a halt
  leaves behind is **kept**: what happened before it has happened.
* `View σ` is what a called function can see of its surroundings: the instant on the runtime's
  clock, and the report of the run that calls it, if one is running. Asking for the report may
  itself run user code, so it is an effect. That code may ask for the report again, and how often
  this can be nested depends on the room that is left on the stack.
* `Action σ β` is an effect that may consult its view. All user code has this type, and `σ` is the
  user's own: an action can change nothing else.

The state is a parameter throughout, so that a statement about all actions covers callbacks that
count their calls or change their mind.
-/

namespace PollAssert

/-- How a computation ends that does not return. -/
inductive Halt where
  /-- It panics: it unwinds with a text. -/
  | panic (message : String)
  /-- It waits forever, for a lock that is not given back before it goes on. -/
  | deadlock
  /-- The stack is used up, which ends the whole program. -/
  | overflow
  deriving DecidableEq

/-- A computation on a state that returns or halts, and leaves a state behind either way. -/
def Effect (σ β : Type) : Type := σ → Except Halt β × σ

namespace Effect

variable {σ β γ : Type}

instance : Monad (Effect σ) where
  pure b := fun s ↦ (.ok b, s)
  bind x f := fun s ↦
    match x s with
    | (.ok b, s) => f b s
    | (.error h, s) => (.error h, s)

theorem bind_def (x : Effect σ β) (f : β → Effect σ γ) (s : σ) :
    (x >>= f) s = match x s with
      | (.ok b, t) => f b t
      | (.error h, t) => (.error h, t) := rfl

@[simp] theorem pure_apply (b : β) (s : σ) : (pure b : Effect σ β) s = (.ok b, s) := rfl

instance : LawfulMonad (Effect σ) :=
  LawfulMonad.mk' _
    (fun x ↦ by
      funext s
      show (x >>= pure) s = x s
      rw [bind_def]
      rcases x s with ⟨_ | _, _⟩ <;> rfl)
    (fun _ _ ↦ rfl)
    (fun x f g ↦ by
      funext s
      simp only [bind_def]
      rcases x s with ⟨_ | _, _⟩ <;> rfl)

instance : MonadStateOf σ (Effect σ) where
  get := fun s ↦ (.ok s, s)
  set s := fun _ ↦ (.ok (), s)
  modifyGet f := fun s ↦ let (b, s) := f s; (.ok b, s)

/-- Halt in the given way. -/
def halt (h : Halt) : Effect σ β := fun s ↦ (.error h, s)

/-- End in a panic. -/
def panic (message : String) : Effect σ β := halt (.panic message)

/-- Carry out a computation to its end, whether it returns or halts. -/
def attempt (x : Effect σ β) : Effect σ (Except Halt β) := fun s ↦
  match x s with
  | (r, s) => (.ok r, s)

@[simp] theorem halt_apply (h : Halt) (s : σ) : (halt h : Effect σ β) s = (.error h, s) := rfl

@[simp] theorem panic_apply (message : String) (s : σ) :
    (panic message : Effect σ β) s = (.error (.panic message), s) := rfl

/-- After a panic nothing else is done. -/
@[simp] theorem panic_bind (message : String) (f : β → Effect σ γ) :
    (panic message >>= f : Effect σ γ) = panic message := rfl

@[simp] theorem attempt_apply (x : Effect σ β) (s : σ) :
    x.attempt s = (.ok (x s).1, (x s).2) := rfl

theorem bind_of_ok {x : Effect σ β} {s t : σ} {b : β} (h : x s = (.ok b, t))
    (f : β → Effect σ γ) : (x >>= f) s = f b t := by
  rw [bind_def, h]

/-- If the first of two computations halts then so do both, with the state it left behind. -/
theorem bind_of_error {x : Effect σ β} {s t : σ} {p : Halt} (h : x s = (.error p, t))
    (f : β → Effect σ γ) : (x >>= f) s = (.error p, t) := by
  rw [bind_def, h]

end Effect

/-- What a called function can see of its surroundings. -/
structure View (σ : Type) where
  /-- The instant on the runtime's clock. -/
  clock : Duration
  /-- The report of the running assertion, if one is running. It takes the number of reports that
  the stack has room for. -/
  report : Option (Nat → Effect σ String)

/-- User code: an effect on the user's state that may consult its view. -/
abbrev Action (σ : Type) : Type → Type := ReaderT (View σ) (Effect σ)

namespace Action

variable {σ β : Type}

/-- End in a panic. -/
def panic (message : String) : Action σ β := fun _ ↦ Effect.panic message

/-- The instant on the runtime's clock. -/
def clock : Action σ Duration := fun view ↦ pure view.clock

/-- The report of the running assertion, if one is running, on a stack with room for so many
reports. -/
def report (room : Nat) : Action σ (Option String) := fun view ↦
  match view.report with
  | none => pure none
  | some text => some <$> text room

/-- Is an assertion running? -/
def isRunning : Action σ Bool := fun view ↦ pure view.report.isSome

end Action

end PollAssert
