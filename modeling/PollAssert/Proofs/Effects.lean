import PollAssert.Engine

/-!
# What computations come to, and what they keep

Two ways to reason about `Effect`s without opening them.

* **Inversion.** A sequence of computations returns only if each of them does (`bind_eq_ok_iff`), so
  a computation that returned can be peeled apart into its calls and the states between them.
* **Keeping.** `x.Keeps I E` says that `x`, started in a state with `I`, returns in a state with `I`
  or halts in one with `E`. Sequences of computations that keep `I` keep it as well, so what holds
  of a long computation is read off its parts.

The `E` is there for two uses. With `E` false the computation **always returns**. With both `I` and
`E` saying that `f` of the state has a certain value, for every value, it leaves `f` as it was,
whether it returns or halts (`Fixes`).

User code sees its surroundings, and asking for a report may itself run user code. So an action
keeps `I` if it does in every view whose report does (`Action.Keeps`). Code that is called for a
report sees a report as well, which may halt where the first one would return: it waits for a lock
that is held already, or the stack is used up. Such code has to keep `I` whatever comes of asking
(`Action.KeepsNested`). Of some user code more is known: that it returns one result, whatever it can
see (`Action.Returns`).
-/

namespace PollAssert

/-! ### Inversion -/

theorem except_bind_eq_ok_iff {ε β δ : Type} {x : Except ε β} {f : β → Except ε δ} {c : δ} :
    (x >>= f) = .ok c ↔ ∃ b, x = .ok b ∧ f b = .ok c := by
  rcases x with e | b
  · exact ⟨nofun, by rintro ⟨_, ⟨⟩, -⟩⟩
  · exact ⟨fun h ↦ ⟨b, rfl, h⟩, by rintro ⟨_, ⟨⟩, h⟩; exact h⟩

namespace Effect

variable {σ β γ δ : Type}

theorem pure_eq_ok_iff {b c : β} {s t : σ} :
    (pure b : Effect σ β) s = (.ok c, t) ↔ b = c ∧ s = t := by
  simp

theorem bind_eq_ok_iff {x : Effect σ β} {f : β → Effect σ δ} {s u : σ} {c : δ} :
    (x >>= f) s = (.ok c, u) ↔ ∃ b t, x s = (.ok b, t) ∧ f b t = (.ok c, u) := by
  rw [bind_def]
  rcases x s with ⟨p | b, t⟩
  · simp
  · exact ⟨fun h ↦ ⟨b, t, rfl, h⟩, by rintro ⟨_, _, ⟨⟩, h⟩; exact h⟩

theorem map_eq_ok_iff {x : Effect σ β} {f : β → δ} {s u : σ} {c : δ} :
    (f <$> x) s = (.ok c, u) ↔ ∃ b, x s = (.ok b, u) ∧ f b = c := by
  rw [map_eq_pure_bind, bind_eq_ok_iff]
  simp only [pure_eq_ok_iff]
  exact ⟨fun ⟨b, t, hx, hc, ht⟩ ↦ ⟨b, ht ▸ hx, hc⟩, fun ⟨b, hx, hc⟩ ↦ ⟨b, u, hx, hc, rfl⟩⟩

/-! ### Keeping -/

/-- From a state with `I` the computation returns in a state with `I`, or halts in one with `E`. -/
def Keeps (I E : σ → Prop) (x : Effect σ β) : Prop := ∀ s, I s →
  match x s with
  | (.ok _, t) => I t
  | (.error _, t) => E t

namespace Keeps

variable {I E : σ → Prop} {x : Effect σ β}

theorem of_ok {s t : σ} {b : β} (hx : x.Keeps I E) (hs : I s) (h : x s = (.ok b, t)) : I t := by
  have ht := hx s hs
  rwa [h] at ht

theorem of_error {s t : σ} {p : Halt} (hx : x.Keeps I E) (hs : I s) (h : x s = (.error p, t)) :
    E t := by
  have ht := hx s hs
  rwa [h] at ht

/-- What keeps `I` and must not halt returns. -/
theorem exists_eq_ok (hx : x.Keeps I fun _ ↦ False) {s : σ} (hs : I s) :
    ∃ b t, x s = (.ok b, t) ∧ I t := by
  rcases h : x s with ⟨p | b, t⟩
  · exact (hx.of_error hs h).elim
  · exact ⟨b, t, rfl, hx.of_ok hs h⟩

protected theorem pure (b : β) : (pure b : Effect σ β).Keeps I E := fun _ hs ↦ hs

theorem halt {h : Halt} (hE : ∀ s, I s → E s) : (Effect.halt h : Effect σ β).Keeps I E := hE

/-- Less may be asked of the states that a halt leaves behind. -/
theorem mono_halt {E' : σ → Prop} (hx : x.Keeps I E) (hE : ∀ s, E s → E' s) : x.Keeps I E' := by
  intro s hs
  have ht := hx s hs
  rcases h : x s with ⟨p | b, t⟩ <;> rw [h] at ht
  · exact hE t ht
  · exact ht

/-- What the second computation starts from may be used to show that it keeps `I`. -/
theorem bind_of_ok {g : β → Effect σ δ} (hx : x.Keeps I E)
    (hg : ∀ b s t, x s = (.ok b, t) → (g b).Keeps I E) : (x >>= g).Keeps I E := by
  intro s hs
  rw [bind_def]
  rcases h : x s with ⟨p | b, t⟩
  · exact hx.of_error hs h
  · exact hg b s t h t (hx.of_ok hs h)

protected theorem bind {g : β → Effect σ δ} (hx : x.Keeps I E) (hg : ∀ b, (g b).Keeps I E) :
    (x >>= g).Keeps I E := hx.bind_of_ok fun b _ _ _ ↦ hg b

protected theorem map {g : β → δ} (hx : x.Keeps I E) : (g <$> x).Keeps I E := by
  rw [map_eq_pure_bind]
  exact hx.bind fun b ↦ .pure (g b)

protected theorem and {I' E' : σ → Prop} (hx : x.Keeps I E) (hx' : x.Keeps I' E') :
    x.Keeps (fun s ↦ I s ∧ I' s) fun s ↦ E s ∧ E' s := by
  rintro s ⟨hs, hs'⟩
  have ht := hx s hs
  have ht' := hx' s hs'
  rcases h : x s with ⟨p | b, t⟩ <;> rw [h] at ht ht' <;> exact ⟨ht, ht'⟩

end Keeps

/-- The computation leaves `f` of the state as it was, whether it returns or halts. -/
def Fixes (f : σ → γ) (x : Effect σ β) : Prop := ∀ s, f (x s).2 = f s

theorem fixes_iff {f : σ → γ} {x : Effect σ β} :
    x.Fixes f ↔ ∀ c, x.Keeps (f · = c) (f · = c) := by
  constructor
  · intro hx c s hs
    have ht := hx s
    rcases h : x s with ⟨p | b, t⟩ <;> rw [h, hs] at ht <;> exact ht
  · intro hx s
    rcases h : x s with ⟨p | b, t⟩
    · exact (hx _).of_error rfl h
    · exact (hx _).of_ok rfl h

theorem Fixes.of_ok {f : σ → γ} {x : Effect σ β} {s t : σ} {b : β} (hx : x.Fixes f)
    (h : x s = (.ok b, t)) : f t = f s := by
  rw [← hx s, h]

end Effect

/-- What the called function can see keeps `I`: the report does, if the stack has room for it. -/
def View.Keeps {σ : Type} (I E : σ → Prop) (view : View σ) : Prop :=
  ∀ text, view.report = some text → ∀ room, (text (room + 1)).Keeps I E

/-- The action keeps `I` of the user's state in these views. -/
def Action.KeepsIn {σ β : Type} (views : View σ → Prop) (I E : σ → Prop) (act : Action σ β) :
    Prop :=
  ∀ view, views view → (act view).Keeps I E

/-- The action keeps `I` of the user's state, unless the report that it may ask for does not. -/
abbrev Action.Keeps {σ β : Type} (I E : σ → Prop) (act : Action σ β) : Prop :=
  act.KeepsIn (View.Keeps I E) I E

/-- The action keeps `I` of the user's state even where the report that it may ask for halts. -/
abbrev Action.KeepsNested {σ β : Type} (I E : σ → Prop) (act : Action σ β) : Prop :=
  act.KeepsIn (View.Keeps I fun s ↦ I s ∨ E s) I E

namespace Action.KeepsIn

variable {σ β γ δ : Type} {views : View σ → Prop} {I E : σ → Prop} {act : Action σ β}

protected theorem pure (b : β) : (pure b : Action σ β).KeepsIn views I E := fun _ _ ↦ .pure b

protected theorem bind {g : β → Action σ δ} (ha : act.KeepsIn views I E)
    (hg : ∀ b, (g b).KeepsIn views I E) : (act >>= g).KeepsIn views I E :=
  fun view hv ↦ (ha view hv).bind fun b ↦ hg b view hv

protected theorem map {g : β → δ} (ha : act.KeepsIn views I E) : (g <$> act).KeepsIn views I E :=
  fun view hv ↦ (ha view hv).map

protected theorem clock : (Action.clock : Action σ Duration).KeepsIn views I E := fun _ _ ↦ .pure _

/-- What keeps `I` where a report halts keeps it where a report returns. -/
theorem keeps (ha : act.KeepsNested I E) : act.Keeps I E :=
  fun view hv ↦ ha view fun text htext room ↦ (hv text htext room).mono_halt fun _ ↦ .inr

end Action.KeepsIn

/-- From a state with `I` the action returns `b`, whatever it can see, and leaves a state with `I`
behind. -/
def Action.Returns {σ β : Type} (I : σ → Prop) (b : β) (act : Action σ β) : Prop :=
  ∀ view s, I s → ∃ t, act view s = (.ok b, t) ∧ I t

namespace Action.Returns

variable {σ β γ : Type} {I : σ → Prop} {b : β} {act : Action σ β}

protected theorem pure (b : β) : Action.Returns I b (pure b : Action σ β) :=
  fun _ s hs ↦ ⟨s, rfl, hs⟩

protected theorem bind {c : γ} {k : β → Action σ γ} (ha : Action.Returns I b act)
    (hk : Action.Returns I c (k b)) : Action.Returns I c (act >>= k) := by
  intro view s hs
  obtain ⟨t, hact, ht⟩ := ha view s hs
  obtain ⟨u, hrest, hu⟩ := hk view t ht
  exact ⟨u, (Effect.bind_of_ok hact _).trans hrest, hu⟩

protected theorem map (g : β → γ) (ha : Action.Returns I b act) :
    Action.Returns I (g b) (g <$> act) := by
  rw [map_eq_pure_bind]
  exact ha.bind (.pure (g b))

end Action.Returns

namespace Engine

variable {σ β : Type} {report : Option (Nat → Effect σ String)} {act : Action σ β}

theorem call_apply (report : Option (Nat → Effect σ String)) (act : Action σ β) (w : World σ) :
    call report act w =
      ((act ⟨w.clock, report⟩ w.user).1, { w with user := (act ⟨w.clock, report⟩ w.user).2 }) := rfl

theorem call_eq_ok_iff {w v : World σ} {b : β} :
    call report act w = (.ok b, v) ↔
      ∃ user, act ⟨w.clock, report⟩ w.user = (.ok b, user) ∧ v = { w with user := user } := by
  rw [call_apply]
  rcases act ⟨w.clock, report⟩ w.user with ⟨r, user⟩
  simp only [Prod.mk.injEq]
  exact ⟨fun ⟨hr, hv⟩ ↦ ⟨user, ⟨hr, rfl⟩, hv.symm⟩, fun ⟨_, ⟨hr, hu⟩, hv⟩ ↦ ⟨hr, hu ▸ hv.symm⟩⟩

/-- Calling user code keeps whatever is not the user's. -/
theorem keeps_call_of_foreign {I : World σ → Prop}
    (huser : ∀ w user, I w → I { w with user := user }) : (call report act).Keeps I I := by
  intro w hw
  rw [call_apply]
  split
  next h => exact (Prod.mk.inj h).2 ▸ huser w _ hw
  next h => exact (Prod.mk.inj h).2 ▸ huser w _ hw

/-- Calling user code keeps what the user code keeps. -/
theorem keeps_call_user {I E : σ → Prop}
    (hr : ∀ text, report = some text → ∀ room, (text (room + 1)).Keeps I E)
    (ha : Action.Keeps I E act) : (call report act).Keeps (fun w ↦ I w.user) fun w ↦ E w.user := by
  intro w hw
  have hact := ha ⟨w.clock, report⟩ hr w.user hw
  rw [call_apply]
  rcases h : act ⟨w.clock, report⟩ w.user with ⟨p | b, user⟩ <;> rw [h] at hact <;> exact hact

variable {I E : World σ → Prop}

theorem keeps_note {n : Notice} (hI : ∀ w, I w → I { w with notices := n :: w.notices }) :
    (note n).Keeps I E := fun w hw ↦ hI w hw

theorem keeps_clock : (clock : Engine σ Duration).Keeps I E := fun _ hw ↦ hw

end Engine

end PollAssert
