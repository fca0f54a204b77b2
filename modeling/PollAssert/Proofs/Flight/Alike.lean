import PollAssert.Proofs.Flight.Handover
import PollAssert.Proofs.Run.Alike
import PollAssert.Rehearsal

/-!
# Flights that nobody can tell apart

From the outside a flight can be stepped, and it can be asked for its report, for the timer that it
waits for, and for its answer. Two flights are **indistinguishable** if none of this ever tells them
apart: in every world a step of the one does to the world what a step of the other does, halt or
not, and the two are indistinguishable again afterwards (`Flight.Indistinguishable`). The world
holds the state of all the user's code and all the notices, so user code has been called in the same
way, and the log, the sleeps and the failures handed over are the same.

Rehearsals of such flights are equal, whatever other tasks do meanwhile
(`Flight.Indistinguishable.fly_eq`).

To show that two flights are indistinguishable it is enough to compare their plans once and for all
(`Plan.Twins`): the runs do alike from then on, by what `Run.Alike` says of their steps.
-/

namespace PollAssert

variable {σ α α' : Type}

/-- What a rehearsal does after a step of the flight. -/
def Rehearsal.goOn (fuel : Nat) (f : Flight σ α) (waits : Bool) (errands : List (Errand σ)) :
    Engine σ Landing :=
  match f.answer? with
  | some held => return .answered held
  | none =>
    if waits then
      match (nextTimer f errands).due? with
      | none => return .stuck
      | some instant => do
        jump instant
        fly fuel f errands
    else fly fuel f errands

theorem Rehearsal.fly_succ (fuel : Nat) (f : Flight σ α) (errands : List (Errand σ)) :
    fly (fuel + 1) f errands = (do
      match ← runErrands f (← Engine.clock) errands with
      | none => return .abandoned
      | some errands => f.step >>= fun stepped ↦ goOn fuel stepped.1 stepped.2 errands) := by
  rw [fly]
  congr 1
  funext clock
  congr 1
  funext left
  cases left with
  | none => rfl
  | some errands =>
    refine congrArg (f.step >>= ·) (funext fun stepped ↦ ?_)
    obtain ⟨f', waits⟩ := stepped
    cases f' with
    | landed held => cases waits <;> rfl
    | grounded | polling => cases waits <;> rfl

namespace Flight

/-- No step and no question breaks the relation of flights. -/
structure IsBisimulation (B : Flight σ α → Flight σ α' → Prop) : Prop where
  report : ∀ {f g}, B f g → ∀ clock, f.report clock = g.report clock
  nextTimer : ∀ {f g}, B f g → f.nextTimer = g.nextTimer
  answer : ∀ {f g}, B f g → f.answer? = g.answer?
  step : ∀ {f g}, B f g → Engine.Alike Eq (fun x y ↦ B x.1 y.1 ∧ x.2 = y.2) f.step g.step

/-- Nothing that happens to the two flights can ever tell them apart. -/
def Indistinguishable (f : Flight σ α) (g : Flight σ α') : Prop :=
  ∃ B : Flight σ α → Flight σ α' → Prop, IsBisimulation B ∧ B f g

namespace Indistinguishable

variable {f : Flight σ α} {g : Flight σ α'}

theorem report_eq (h : f.Indistinguishable g) (clock : Duration) :
    f.report clock = g.report clock := by
  obtain ⟨B, hB, hfg⟩ := h
  exact hB.report hfg clock

theorem nextTimer_eq (h : f.Indistinguishable g) : f.nextTimer = g.nextTimer := by
  obtain ⟨B, hB, hfg⟩ := h
  exact hB.nextTimer hfg

theorem answer_eq (h : f.Indistinguishable g) : f.answer? = g.answer? := by
  obtain ⟨B, hB, hfg⟩ := h
  exact hB.answer hfg

/-- After a step the flights are indistinguishable again, in the same world. -/
theorem step (h : f.Indistinguishable g) :
    Engine.Alike Eq (fun x y ↦ x.1.Indistinguishable y.1 ∧ x.2 = y.2) f.step g.step := by
  obtain ⟨B, hB, hfg⟩ := h
  exact (hB.step hfg).mono fun x y hxy ↦ ⟨⟨B, hB, hxy.1⟩, hxy.2⟩

/-- Errands see nothing of a flight but its report. -/
theorem runErrands_eq (h : f.Indistinguishable g) (clock : Duration) (errands : List (Errand σ)) :
    Rehearsal.runErrands f clock errands = Rehearsal.runErrands g clock errands := by
  induction errands with
  | nil => rfl
  | cons e rest ih => rw [Rehearsal.runErrands, Rehearsal.runErrands, h.report_eq clock, ih]

/-- **Rehearsals of indistinguishable flights are equal**, whatever the errands do. -/
theorem fly_eq (h : f.Indistinguishable g) (fuel : Nat) (errands : List (Errand σ)) :
    Rehearsal.fly fuel f errands = Rehearsal.fly fuel g errands := by
  induction fuel generalizing f g errands with
  | zero => rfl
  | succ fuel ih =>
    rw [Rehearsal.fly_succ, Rehearsal.fly_succ]
    congr 1
    funext clock
    rw [h.runErrands_eq clock]
    congr 1
    funext left
    cases left with
    | none => rfl
    | some errands =>
      refine Engine.eq_of_alike (h.step.bind ?_)
      rintro ⟨f, waits⟩ ⟨g, _⟩ ⟨hfg, rfl⟩
      have hgoOn : Rehearsal.goOn fuel f waits errands = Rehearsal.goOn fuel g waits errands := by
        rw [Rehearsal.goOn, Rehearsal.goOn, Rehearsal.nextTimer, Rehearsal.nextTimer,
          hfg.answer_eq, hfg.nextTimer_eq, ih hfg]
      exact hgoOn ▸ Engine.alike_refl _

/-- The same is true of flights that are dropped before their first step. -/
theorem drop_eq (h : f.Indistinguishable g) (errands : List (Errand σ)) :
    Rehearsal.drop f errands = Rehearsal.drop g errands := by
  rw [Rehearsal.drop, Rehearsal.drop]
  congr 1
  funext clock
  rw [h.runErrands_eq clock]

end Indistinguishable

end Flight

/-! ### Twins -/

/-- The two plans are alike in every state, and come to related samples of which the oracles say the
same. -/
structure Plan.Twins (S : Sample α → Sample α' → Prop) (p : Plan σ α) (p' : Plan σ α') : Prop
    extends Plan.Alike Eq S p p' where
  observe : Action.Alike Eq (fun o o' ↦ S o.sample o'.sample ∧ o.mayChange = o'.mayChange)
    (Observation.take p.source p.matcher) (Observation.take p'.source p'.matcher)

/-- The steps of two runs with plans that are twins are alike. -/
theorem Run.Alike.step_of_twins {S : Sample α → Sample α' → Prop} {r : Run σ α} {r' : Run σ α'}
    (hr : Run.Alike Eq S r r') (hp : Plan.Twins S r.plan r'.plan) :
    Engine.Alike Eq (fun turn turn' ↦ Turn.Alike Eq S turn turn' ∧ turn.run.plan = r.plan ∧
      turn'.run.plan = r'.plan) r.step r'.step :=
  (hr.step hp.observe).and_results (fun _ _ _ ↦ plan_of_step) fun _ _ _ ↦ plan_of_step

namespace Flight

/-- The two flights stand alike, under plans that are twins. -/
inductive Twins (S : Sample α → Sample α' → Prop) : Flight σ α → Flight σ α' → Prop
  /-- Neither has taken off, and both will be refused for the same reason or get such plans. -/
  | grounded {a : Assertion σ α} {a' : Assertion σ α'} {m : Matcher σ α} {m' : Matcher σ α'}
      {desired desired' : Bool} {d d' : Description σ} (hbench : a.bench = a'.bench)
      (hmode : a.mode = a'.mode) (hoffset : a.offset = a'.offset) (hsite : a.site = a'.site)
      (herror : ∀ cause, a.plan m desired d = .error cause → a'.plan m' desired' d' = .error cause)
      (hok : ∀ p, a.plan m desired d = .ok p →
        ∃ p', a'.plan m' desired' d' = .ok p' ∧ Plan.Twins S p p') :
      Twins S (.grounded a m desired d) (.grounded a' m' desired' d')
  /-- Both are polling. -/
  | polling {a : Assertion σ α} {a' : Assertion σ α'} {handler : Handler σ} {r : Run σ α}
      {r' : Run σ α'} (hoffset : a.offset = a'.offset) (hsite : a.site = a'.site)
      (hr : Run.Alike Eq S r r') (hp : Plan.Twins S r.plan r'.plan) :
      Twins S (.polling a handler r) (.polling a' handler r')
  /-- Both have come to the same answer. -/
  | landed {held : Bool} : Twins S (.landed held) (.landed held)

variable {S : Sample α → Sample α' → Prop} {f : Flight σ α} {g : Flight σ α'} {a : Assertion σ α}
  {a' : Assertion σ α'}

theorem twins_fail (hoffset : a.offset = a'.offset) (hsite : a.site = a'.site)
    (handler : Handler σ) (message : String) :
    Engine.Alike Eq (Twins S) (fail a handler message) (fail a' handler message) := by
  rw [fail, fail, hoffset, hsite]
  exact (Engine.alike_refl _).bind fun _ _ _ ↦ .pure .landed

namespace Twins

theorem report_eq (h : Twins S f g) (clock : Duration) : f.report clock = g.report clock := by
  cases h with
  | grounded | landed => rfl
  | polling _ _ hr => exact congrArg some (funext fun room ↦ (hr.report clock room).eq)

theorem nextTimer_eq (h : Twins S f g) : f.nextTimer = g.nextTimer := by
  cases h with
  | grounded | landed => rfl
  | polling _ _ hr => rw [nextTimer, nextTimer, Run.nextTimer, Run.nextTimer, hr.phase]

theorem answer_eq (h : Twins S f g) : f.answer? = g.answer? := by
  cases h <;> rfl

theorem step (h : Twins S f g) :
    Engine.Alike Eq (fun x y ↦ Twins S x.1 y.1 ∧ x.2 = y.2) f.step g.step := by
  cases h with
  | landed => exact .pure ⟨.landed, rfl⟩
  | @grounded a a' m m' desired desired' d d' hbench hmode hoffset hsite herror hok =>
    have htakeOff : Engine.Alike Eq (Twins S) (takeOff a m desired d)
        (takeOff a' m' desired' d') := by
      rw [takeOff, takeOff, hbench, hmode]
      refine (Engine.alike_refl _).bind ?_
      rintro handler _ rfl
      refine (Engine.alike_refl _).bind ?_
      rintro started _ rfl
      cases hplan : a.plan m desired d with
      | error cause =>
        rw [herror cause hplan]
        exact (Engine.alike_refl _).bind fun _ _ _ ↦ twins_fail hoffset hsite handler cause.text
      | ok p =>
        obtain ⟨p', hplan', hp⟩ := hok p hplan
        rw [hplan']
        exact .pure (.polling hoffset hsite (.start hp.toAlike started) hp)
    exact htakeOff.bind fun f g hfg ↦ .pure ⟨hfg, rfl⟩
  | @polling a a' handler r r' hoffset hsite hr hp =>
    refine (hr.step_of_twins hp).bind ?_
    rintro turn turn' ⟨hturn, hplan, hplan'⟩
    obtain hr' | hr' | @⟨r, r', ending, hr'⟩ := hturn
    · exact .pure ⟨.polling hoffset hsite hr' (hplan ▸ hplan' ▸ hp), rfl⟩
    · exact .pure ⟨.polling hoffset hsite hr' (hplan ▸ hplan' ▸ hp), rfl⟩
    · cases ending with
      | none => exact .pure ⟨.landed, rfl⟩
      | some ending =>
        -- the message is the same, and the handler has its turn in the same world
        refine (Engine.alike_call .none (hr'.failureMessage ending)).bind ?_
        rintro message _ rfl
        exact (twins_fail hoffset hsite handler message).bind fun f g hfg ↦ .pure ⟨hfg, rfl⟩

end Twins

/-- **Flights that stand alike under plans that are twins are indistinguishable.** -/
theorem Twins.indistinguishable (h : Twins S f g) : f.Indistinguishable g :=
  ⟨Twins S, ⟨report_eq, nextTimer_eq, answer_eq, step⟩, h⟩

end Flight

end PollAssert
