import PollAssert.Proofs.Effects
import Mathlib.Data.Option.Basic

/-!
# Computations that do alike

To compare two runs is to carry a relation of states through two computations at once. `R` says
which states count as the same: equal ones, or ones that differ in something that nobody looks at.
Two computations **do alike** (`Effect.Alike R Q x y`) if from states that `R` relates both return,
results that `Q` relates, or both halt in the same way, and the states they leave behind are
related again. Sequences of computations that do alike do alike, so two long computations are
compared part by part.

If states and results are related only when they are equal, computations that do alike **are equal**
(`Effect.Alike.eq`).

User code sees its surroundings, so actions do alike if they do in views that are alike: at the same
instant, with reports that do alike. The library's own state, the clock and the notices, has to be
the same in worlds that are alike.
-/

namespace PollAssert

variable {σ β β' γ γ' : Type}

/-- Options that are related stay so under a weaker relation. -/
theorem optionRel_mono {P Q : β → β' → Prop} {x : Option β} {y : Option β'} (h : Option.Rel P x y)
    (hPQ : ∀ b b', P b b' → Q b b') : Option.Rel Q x y := by
  cases h with
  | none => exact .none
  | some hb => exact .some (hPQ _ _ hb)

/-! ### Effects -/

/-- Two computations have come to the same: to results that `Q` relates or to the same halt, in
states that `R` relates. -/
inductive SameEnd (R : σ → σ → Prop) (Q : β → β' → Prop) :
    Except Halt β × σ → Except Halt β' × σ → Prop
  | returned {b : β} {b' : β'} {s s' : σ} (hresult : Q b b') (hstate : R s s') :
      SameEnd R Q (.ok b, s) (.ok b', s')
  | halted {p : Halt} {s s' : σ} (hstate : R s s') : SameEnd R Q (.error p, s) (.error p, s')

theorem SameEnd.mono {R : σ → σ → Prop} {P Q : β → β' → Prop} {x : Except Halt β × σ}
    {y : Except Halt β' × σ} (h : SameEnd R P x y) (hP : ∀ b b', P b b' → Q b b') :
    SameEnd R Q x y := by
  cases h with
  | returned hresult hstate => exact .returned (hP _ _ hresult) hstate
  | halted hstate => exact .halted hstate

theorem SameEnd.mono_state {R R' : σ → σ → Prop} {Q : β → β' → Prop} {x : Except Halt β × σ}
    {y : Except Halt β' × σ} (h : SameEnd R Q x y) (hR : ∀ s s', R s s' → R' s s') :
    SameEnd R' Q x y := by
  cases h with
  | returned hresult hstate => exact .returned hresult (hR _ _ hstate)
  | halted hstate => exact .halted (hR _ _ hstate)

/-- If the one has returned, so has the other, -/
theorem SameEnd.exists_ok {R : σ → σ → Prop} {Q : β → β' → Prop} {y : Except Halt β' × σ} {b : β}
    {s : σ} (h : SameEnd R Q (.ok b, s) y) : ∃ b' s', y = (.ok b', s') ∧ Q b b' ∧ R s s' := by
  cases h with
  | returned hresult hstate => exact ⟨_, _, rfl, hresult, hstate⟩

/-- and the other way round. -/
theorem SameEnd.exists_ok_left {R : σ → σ → Prop} {Q : β → β' → Prop} {x : Except Halt β × σ}
    {b' : β'} {s' : σ} (h : SameEnd R Q x (.ok b', s')) :
    ∃ b s, x = (.ok b, s) ∧ Q b b' ∧ R s s' := by
  cases h with
  | returned hresult hstate => exact ⟨_, _, rfl, hresult, hstate⟩

/-- What is done next may depend on the results that two computations have come to. -/
theorem SameEnd.bind {R : σ → σ → Prop} {P : β → β' → Prop} {Q : γ → γ' → Prop}
    {x : Effect σ β} {y : Effect σ β'} {f : β → Effect σ γ} {g : β' → Effect σ γ'} {s s' : σ}
    (h : SameEnd R P (x s) (y s'))
    (hf : ∀ b b' t t', P b b' → R t t' → SameEnd R Q (f b t) (g b' t')) :
    SameEnd R Q ((x >>= f) s) ((y >>= g) s') := by
  rw [Effect.bind_def, Effect.bind_def]
  generalize x s = r at h ⊢
  generalize y s' = r' at h ⊢
  cases h with
  | returned hresult hstate => exact hf _ _ _ _ hresult hstate
  | halted hstate => exact .halted hstate

/-- From states that `R` relates the two computations come to the same. -/
def Effect.Alike (R : σ → σ → Prop) (Q : β → β' → Prop) (x : Effect σ β) (y : Effect σ β') : Prop :=
  ∀ s s', R s s' → SameEnd R Q (x s) (y s')

namespace Effect.Alike

variable {R : σ → σ → Prop} {P : β → β' → Prop} {Q : γ → γ' → Prop} {x : Effect σ β}
  {y : Effect σ β'}

protected theorem pure {c : γ} {c' : γ'} (h : Q c c') :
    Effect.Alike R Q (pure c : Effect σ γ) (pure c') := fun _ _ hs ↦ .returned h hs

protected theorem bind {f : β → Effect σ γ} {g : β' → Effect σ γ'} (hx : Effect.Alike R P x y)
    (hf : ∀ b b', P b b' → Effect.Alike R Q (f b) (g b')) :
    Effect.Alike R Q (x >>= f) (y >>= g) := fun s s' hs ↦
  (hx s s' hs).bind fun b b' t t' hb ht ↦ hf b b' hb t t' ht

protected theorem map {f : β → γ} {g : β' → γ'} (hx : Effect.Alike R P x y)
    (hf : ∀ b b', P b b' → Q (f b) (g b')) : Effect.Alike R Q (f <$> x) (g <$> y) := by
  rw [map_eq_pure_bind, map_eq_pure_bind]
  exact hx.bind fun b b' hb ↦ .pure (hf b b' hb)

protected theorem mono {P' : β → β' → Prop} (hx : Effect.Alike R P x y)
    (hP : ∀ b b', P b b' → P' b b') : Effect.Alike R P' x y := fun s s' hs ↦ (hx s s' hs).mono hP

/-- What is known of every result of the two computations may be added. -/
theorem and_results {I : β → Prop} {I' : β' → Prop} (hx : Effect.Alike R P x y)
    (hI : ∀ s b t, x s = (.ok b, t) → I b) (hI' : ∀ s b t, y s = (.ok b, t) → I' b) :
    Effect.Alike R (fun b b' ↦ P b b' ∧ I b ∧ I' b') x y := by
  intro s s' hs
  have hend := hx s s' hs
  have hresult := hI s
  have hresult' := hI' s'
  generalize x s = r at hend hresult ⊢
  generalize y s' = r' at hend hresult' ⊢
  cases hend with
  | returned hP hstate => exact .returned ⟨hP, hresult _ _ rfl, hresult' _ _ rfl⟩ hstate
  | halted hstate => exact .halted hstate

/-- Two computations that halt at once, and in the same way, do alike. -/
protected theorem halt (h : Halt) :
    Effect.Alike R Q (Effect.halt h : Effect σ γ) (Effect.halt h : Effect σ γ') :=
  fun _ _ hs ↦ .halted hs

/-- What two computations come to that return. -/
theorem of_ok {s s' t t' : σ} {b : β} {b' : β'} (hx : Effect.Alike R P x y) (hs : R s s')
    (h : x s = (.ok b, t)) (h' : y s' = (.ok b', t')) : P b b' ∧ R t t' := by
  have hend := hx s s' hs
  rw [h, h'] at hend
  cases hend with
  | returned hresult hstate => exact ⟨hresult, hstate⟩

/-- Every computation does like itself, if nothing but equality counts. -/
protected theorem refl (x : Effect σ β) : Effect.Alike Eq Eq x x := by
  rintro s _ rfl
  rcases x s with ⟨p | b, t⟩
  · exact .halted rfl
  · exact .returned rfl rfl

/-- **Computations that do alike are equal**, if nothing but equality counts. -/
protected theorem eq {x y : Effect σ β} (hx : Effect.Alike Eq Eq x y) : x = y := by
  funext s
  have hend := hx s s rfl
  generalize x s = r at hend ⊢
  generalize y s = r' at hend ⊢
  cases hend with
  | returned hresult hstate => rw [hresult, hstate]
  | halted hstate => rw [hstate]

end Effect.Alike

/-! ### Actions -/

/-- The surroundings look the same: the instant is the same, and the reports do alike. -/
structure View.Alike (R : σ → σ → Prop) (view view' : View σ) : Prop where
  clock : view.clock = view'.clock
  report : Option.Rel (fun text text' ↦ ∀ room, Effect.Alike R Eq (text room) (text' room))
    view.report view'.report

/-- In views that are alike the two actions do alike. -/
def Action.Alike (R : σ → σ → Prop) (Q : β → β' → Prop) (act : Action σ β) (act' : Action σ β') :
    Prop :=
  ∀ view view', View.Alike R view view' → Effect.Alike R Q (act view) (act' view')

namespace Action.Alike

variable {R : σ → σ → Prop} {P : β → β' → Prop} {Q : γ → γ' → Prop} {act : Action σ β}
  {act' : Action σ β'}

protected theorem pure {c : γ} {c' : γ'} (h : Q c c') :
    Action.Alike R Q (pure c : Action σ γ) (pure c') := fun _ _ _ ↦ .pure h

protected theorem bind {f : β → Action σ γ} {g : β' → Action σ γ'}
    (ha : Action.Alike R P act act') (hf : ∀ b b', P b b' → Action.Alike R Q (f b) (g b')) :
    Action.Alike R Q (act >>= f) (act' >>= g) := fun view view' hv ↦
  (ha view view' hv).bind fun b b' hb ↦ hf b b' hb view view' hv

protected theorem map {f : β → γ} {g : β' → γ'} (ha : Action.Alike R P act act')
    (hf : ∀ b b', P b b' → Q (f b) (g b')) : Action.Alike R Q (f <$> act) (g <$> act') :=
  fun view view' hv ↦ (ha view view' hv).map hf

protected theorem mono {P' : β → β' → Prop} (ha : Action.Alike R P act act')
    (hP : ∀ b b', P b b' → P' b b') : Action.Alike R P' act act' :=
  fun view view' hv ↦ (ha view view' hv).mono hP

protected theorem clock :
    Action.Alike R Eq (Action.clock : Action σ Duration) Action.clock :=
  fun _ _ hv ↦ .pure hv.clock

end Action.Alike

/-- Views that are alike are equal, if nothing but equality counts. -/
protected theorem View.Alike.eq {view view' : View σ} (hv : View.Alike Eq view view') :
    view = view' := by
  obtain ⟨clock, report⟩ := view
  obtain ⟨clock', report'⟩ := view'
  obtain ⟨rfl, hreport⟩ := hv
  cases hreport with
  | none => rfl
  | some htext => rw [funext fun room ↦ (htext room).eq]

protected theorem Action.Alike.refl (act : Action σ β) : Action.Alike Eq Eq act act := by
  intro view view' hv
  rw [hv.eq]
  exact .refl _

/-- An action does like itself with another result. -/
theorem Action.alike_map {Q : β → γ → Prop} (act : Action σ β) (f : β → γ)
    (hQ : ∀ b, Q b (f b)) : Action.Alike Eq Q act (f <$> act) := by
  have h : Action.Alike Eq Q (id <$> act) (f <$> act) :=
    (Action.Alike.refl act).map fun b b' hb ↦ hb ▸ hQ b
  rwa [id_map] at h

/-! ### The engine -/

/-- The worlds are the same but for the user's states, which `R` relates. -/
structure World.Alike (R : σ → σ → Prop) (w w' : World σ) : Prop where
  user : R w.user w'.user
  clock : w.clock = w'.clock
  notices : w.notices = w'.notices

protected theorem World.Alike.eq {w w' : World σ} (hw : World.Alike Eq w w') : w = w' := by
  obtain ⟨user, clock, notices⟩ := w
  obtain ⟨user', clock', notices'⟩ := w'
  obtain ⟨rfl, rfl, rfl⟩ := hw
  rfl

/-- Worlds are alike exactly if they are equal, if nothing but equality counts. -/
theorem World.alike_eq : World.Alike (Eq : σ → σ → Prop) = Eq := by
  funext w w'
  refine propext ⟨World.Alike.eq, ?_⟩
  rintro rfl
  exact ⟨rfl, rfl, rfl⟩

/-- From worlds that are alike the two computations come to the same. -/
abbrev Engine.Alike (R : σ → σ → Prop) (Q : β → β' → Prop) (x : Engine σ β) (y : Engine σ β') :
    Prop := Effect.Alike (World.Alike R) Q x y

namespace Engine

variable {R : σ → σ → Prop} {Q : β → β' → Prop}

/-- User code that does alike at every instant is called alike. -/
theorem alike_call_of {report report' : Option (Nat → Effect σ String)} {act : Action σ β}
    {act' : Action σ β'}
    (ha : ∀ clock, Effect.Alike R Q (act ⟨clock, report⟩) (act' ⟨clock, report'⟩)) :
    Engine.Alike R Q (call report act) (call report' act') := by
  intro w w' hw
  have hend := ha w.clock _ _ hw.user
  rw [call_apply, call_apply, ← hw.clock]
  generalize act ⟨w.clock, report⟩ w.user = r at hend ⊢
  generalize act' ⟨w.clock, report'⟩ w'.user = r' at hend ⊢
  cases hend with
  | returned hresult hstate => exact .returned hresult ⟨hstate, rfl, hw.notices⟩
  | halted hstate => exact .halted ⟨hstate, rfl, hw.notices⟩

/-- User code that does alike is called alike. -/
theorem alike_call {report report' : Option (Nat → Effect σ String)} {act : Action σ β}
    {act' : Action σ β'}
    (hr : Option.Rel (fun text text' ↦ ∀ room, Effect.Alike R Eq (text room) (text' room))
      report report')
    (ha : Action.Alike R Q act act') : Engine.Alike R Q (call report act) (call report' act') :=
  alike_call_of fun _ ↦ ha _ _ ⟨rfl, hr⟩

theorem alike_note (n : Notice) : Engine.Alike R Eq (note n) (note n) := by
  intro w w' hw
  have hnotices : n :: w.notices = n :: w'.notices := by rw [hw.notices]
  exact .returned rfl ⟨hw.user, hw.clock, hnotices⟩

theorem alike_clock : Engine.Alike R Eq (clock : Engine σ Duration) clock :=
  fun _ _ hw ↦ .returned hw.clock hw

theorem alike_refl (x : Engine σ β) : Engine.Alike Eq Eq x x := by
  rw [Engine.Alike, World.alike_eq]
  exact .refl x

/-- **Computations of the engine that do alike are equal**, if nothing but equality counts. -/
theorem eq_of_alike {x y : Engine σ β} (h : Engine.Alike Eq Eq x y) : x = y := by
  rw [Engine.Alike, World.alike_eq] at h
  exact h.eq

end Engine

end PollAssert
