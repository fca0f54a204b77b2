import PollAssert.Proofs.Run.OnTime

/-!
# What a cancellation can do to a run

The token is looked at when a wait is looked at, and at no other time. So a cancellation that comes
between two looks counts at the second of them, where it goes before the deadline and before the
tick, and it does not count at all if a sample ends the run before.

The results are about every surrounding: the token may be cancelled before the run, by the producer
in the middle of a sample, or between any two steps. `Last` names the last step of a course and the
world in which it was taken, so that a result can say what was true at that moment. `HeedsToken`
collects what holds of every course, and `Course.heedsToken` proves it.
-/

namespace PollAssert

open VirtualClock

variable {σ α : Type}

/-! ### What does not look at the token -/

/-- A ruling is never for a cause that ends waits. -/
theorem Mode.ne_of_rule_eq_over {mode : Mode} {repeats passes : Nat} {reading : Reading}
    {cause : Cause} (h : mode.rule repeats passes reading = .over cause) :
    cause ≠ .cancelled ∧ cause ≠ .timedOut := by
  cases mode with
  | eventually => grind [rule, ruleEventually]
  | consistently => grind [rule, ruleConsistently]

/-- No sample ends a run because the token has been cancelled or because the time is up. -/
theorem Plan.ne_of_cause? {p : Plan σ α} {os : List (Observation α)} {o : Observation α}
    {cause : Cause} (hfits : o.Fits p.source) (h : p.cause? (os ++ [o]) = some cause) :
    cause ≠ .cancelled ∧ cause ≠ .timedOut := by
  have hrule := p.judges.rule_concat os o hfits
  rw [h] at hrule
  exact Mode.ne_of_rule_eq_over hrule

/-- What ends a wait and the run with it is a cancellation or the deadline. -/
theorem Mode.of_causeOfWake?_eq_some {mode : Mode} {wake : Wake} {cause : Cause}
    (h : mode.causeOfWake? wake = some cause) :
    (wake = .cancelled ∧ cause = .cancelled) ∨
      (wake = .deadline ∧ cause = match mode with
        | .eventually => .timedOut
        | .consistently => .held) := by
  cases mode <;> cases wake <;> cases h <;> simp

/-- The timers alone never look like a cancellation. -/
theorem Wake.at?_ne_cancelled (tick deadline : Timer) (clock : Duration) :
    Wake.at? tick deadline clock ≠ some .cancelled := by
  rw [at?]
  split_ifs <;> simp

theorem Wake.at?_eq_tick_iff {tick deadline : Timer} {clock : Duration} :
    Wake.at? tick deadline clock = some .tick ↔
      deadline.isDue clock = false ∧ tick.isDue clock = true := by
  rw [at?]
  split_ifs <;> simp_all

theorem Wake.at?_eq_none_iff {tick deadline : Timer} {clock : Duration} :
    Wake.at? tick deadline clock = none ↔
      deadline.isDue clock = false ∧ tick.isDue clock = false := by
  rw [at?]
  split_ifs <;> simp_all

namespace Run

variable {between : Turn σ α → World σ → World σ → Prop} {p : Plan σ α} {r₀ r : Run σ α}
  {started epoch : Duration} {w₀ w u v z : World σ} {h : List (Event α)} {turn last : Turn σ α}

/-! ### One look -/

/-- **A wait yields a cancellation exactly if the token has been cancelled**, whatever the timers
say. -/
theorem Steps.cancelled_iff {wake : Option Wake} (h : r.Steps u (.looked wake) turn v) :
    wake = some .cancelled ↔ r.plan.isCancelled u = true := by
  obtain ⟨tick, deadline, found, w₁, -, hlook, -⟩ := h.heed_eq
  obtain ⟨htoken, rfl, -⟩ | ⟨timer, htoken, -, rfl, -⟩ := of_look_eq_ok hlook
  · exact iff_of_true rfl (isCancelled_eq_ok_iff.1 htoken)
  · refine iff_of_false (Wake.at?_ne_cancelled _ _ _) ?_
    rw [isCancelled_eq_ok_iff.1 htoken]
    exact Bool.false_ne_true

theorem Steps.isCancelled_eq_false {wake : Option Wake} (h : r.Steps u (.looked wake) turn v)
    (hwake : wake ≠ some .cancelled) : r.plan.isCancelled u = false :=
  Bool.eq_false_iff.2 fun hcancelled ↦ hwake (h.cancelled_iff.2 hcancelled)

/-- A look that finds the token cancelled is the last step of the run. -/
theorem Steps.over_of_cancelled {wake : Option Wake} (h : r.Steps u (.looked wake) turn v)
    (hcancelled : r.plan.isCancelled u = true) :
    ∃ elapsed, turn = .over r (some (.cancelled elapsed)) := by
  obtain rfl := h.cancelled_iff.2 hcancelled
  have hturn := h.turn_of_looked_some
  have hcause : r.plan.mode.causeOfWake? .cancelled = some .cancelled := by
    cases r.plan.mode <;> rfl
  rw [hcause] at hturn
  exact hturn

/-- A run that is over is so for the ruling on a sample or for what ended a wait. -/
theorem Steps.cause_of_over {e : Event α} {r' : Run σ α} {ending : Option Ending}
    (h : r.Steps u e (.over r' ending) v) :
    ∃ cause elapsed, ending = cause.ending? elapsed ∧
      ((∃ o, e = .sampled o ∧ r.plan.mode.rule r.plan.repeats r.passes (o.reading r.plan.desired) =
          .over cause) ∨
        ∃ wake, e = .looked (some wake) ∧ r.plan.mode.causeOfWake? wake = some cause) := by
  have hleads := h.leads
  generalize hturn : Turn.over r' ending = turn at hleads
  cases hleads with
  | waits | pends | resumes => cases hturn
  | @decided o _ elapsed cause hrule =>
    exact ⟨cause, elapsed, (Turn.over.inj hturn).2, .inl ⟨o, rfl, hrule⟩⟩
  | @woken wake cause elapsed hcause =>
    exact ⟨cause, elapsed, (Turn.over.inj hturn).2, .inr ⟨wake, rfl, hcause⟩⟩

/-! ### The runtime's clock -/

/-- On the runtime's clock a look compares the timers with the clock, and leaves the world as it
is. -/
theorem of_look_runtime (hplan : r.plan = p) (hstarted : r.started = started)
    (htime : p.time = .runtime epoch) {tick : Timer} {deadline found : Option Timer}
    {wake : Option Wake}
    (hdeadline : ∀ timer, deadline = some timer → timer = p.wakeUp epoch started)
    (h : r.look tick deadline u = (.ok (wake, found), v)) :
    v = u ∧ (wake = some .cancelled ∨
      wake = Wake.at? tick (p.wakeUp epoch started) u.clock ∧
        found = some (p.wakeUp epoch started)) := by
  obtain ⟨-, rfl, -, rfl⟩ | ⟨timer, -, htimer, hwake, hfound⟩ := of_look_eq_ok h
  · exact ⟨rfl, .inl rfl⟩
  · rw [deadlineTimer_eq_wakeUp hplan hstarted htime hdeadline u] at htimer
    obtain ⟨hok, rfl⟩ := Prod.mk.inj htimer
    obtain rfl := Except.ok.inj hok
    exact ⟨rfl, .inr ⟨hwake, hfound⟩⟩

/-- The deadline's timer that a waiting run keeps is that one. -/
theorem Course.timer_eq_wakeUp (htime : p.time = .runtime epoch)
    (hc : Course between (.start p started) w₀ h turn w) (hrun : turn.run? = some r)
    {tick timer : Timer} (hphase : r.phase = .waiting tick (some timer)) :
    timer = p.wakeUp epoch started := by
  refine hc.of_kept_timer (· = p.wakeUp epoch started) ?_ hrun hphase
  intro r u v timer hplan hstarted htimer
  have hstart : r.deadlineTimer none u = (.ok (p.wakeUp epoch started), u) := by
    refine deadlineTimer_eq_wakeUp hplan hstarted htime ?_ u
    nofun
  exact (Except.ok.inj (Prod.mk.inj (hstart.symm.trans htimer)).1).symm

/-- So the deadline's timer is the same at every look. -/
theorem Course.deadlineTimer_eq (htime : p.time = .runtime epoch)
    (hc : Course between (.start p started) w₀ h turn w) (hrun : turn.run? = some r)
    {tick : Timer} {deadline : Option Timer} (hphase : r.phase = .waiting tick deadline)
    (u : World σ) : r.deadlineTimer deadline u = (.ok (p.wakeUp epoch started), u) := by
  refine deadlineTimer_eq_wakeUp (hc.plan_eq hrun) (hc.started_eq hrun) htime ?_ u
  rintro timer rfl
  exact hc.timer_eq_wakeUp htime hrun hphase

/-- So every look compares the tick and that one with the clock, unless the token has been
cancelled, and what follows from it is done in the world that was looked at. -/
theorem Course.heed_of_looked (htime : p.time = .runtime epoch)
    (hc : Course between (.start p started) w₀ h turn w) (hrun : turn.run? = some r)
    {wake : Option Wake} {turn' : Turn σ α} (hsteps : r.Steps u (.looked wake) turn' v) :
    ∃ tick deadline found, r.phase = .waiting tick deadline ∧
      (wake = some .cancelled ∨ wake = Wake.at? tick (p.wakeUp epoch started) u.clock) ∧
      r.heed tick wake found u = (.ok turn', v) := by
  obtain ⟨tick, deadline, found, w₁, hphase, hlook, hheed⟩ := hsteps.heed_eq
  have hkept : ∀ timer, deadline = some timer → timer = p.wakeUp epoch started := by
    rintro timer rfl
    exact hc.timer_eq_wakeUp htime hrun hphase
  obtain ⟨rfl, hwake⟩ :=
    of_look_runtime (hc.plan_eq hrun) (hc.started_eq hrun) htime hkept hlook
  exact ⟨tick, deadline, found, hphase, hwake.imp_right And.left, hheed⟩

theorem Course.wake_of_looked (htime : p.time = .runtime epoch)
    (hc : Course between (.start p started) w₀ h turn w) (hrun : turn.run? = some r)
    {wake : Option Wake} {turn' : Turn σ α} (hsteps : r.Steps u (.looked wake) turn' v) :
    ∃ tick deadline, r.phase = .waiting tick deadline ∧
      (wake = some .cancelled ∨ wake = Wake.at? tick (p.wakeUp epoch started) u.clock) := by
  obtain ⟨tick, deadline, -, hphase, hwake, -⟩ := hc.heed_of_looked htime hrun hsteps
  exact ⟨tick, deadline, hphase, hwake⟩

/-! ### The last step of a course -/

/-- The last step of the course was taken in the world `u`, and `e` happened on it. -/
def Last (between : Turn σ α → World σ → World σ → Prop) (r₀ : Run σ α) (w₀ : World σ)
    (h : List (Event α)) (turn : Turn σ α) (w : World σ) (e : Event α) (u : World σ) : Prop :=
  ∃ h' turn' w' r, Course between r₀ w₀ h' turn' w' ∧ turn'.run? = some r ∧ between turn' w' u ∧
    r.Steps u e turn w ∧ r.plan = r₀.plan ∧ r.started = r₀.started ∧ h = h' ++ [e]

theorem Course.exists_last (hc : Course between r₀ w₀ h turn w) :
    (h = [] ∧ turn = .ready r₀) ∨ ∃ e u, Last between r₀ w₀ h turn w e u := by
  cases hc with
  | start => exact .inl ⟨rfl, rfl⟩
  | step hc hrun hbetween hsteps =>
    exact .inr ⟨_, _, _, _, _, _, hc, hrun, hbetween, hsteps, hc.plan_eq hrun, hc.started_eq hrun,
      rfl⟩

/-- If the last look found something else than a cancellation, the token was not cancelled then. -/
theorem Last.isCancelled_eq_false {wake : Option Wake}
    (hlast : Last between (.start p started) w₀ h turn w (.looked wake) u)
    (hwake : wake ≠ some .cancelled) : p.isCancelled u = false := by
  obtain ⟨-, -, -, r, -, -, -, hsteps, hplan, -⟩ := hlast
  obtain rfl : r.plan = p := hplan
  exact hsteps.isCancelled_eq_false hwake

/-- On the runtime's clock a tick leaves the world as it is, and comes before the deadline. -/
theorem Last.isDue_wakeUp_eq_false (htime : p.time = .runtime epoch)
    (hlast : Last between (.start p started) w₀ h turn w (.looked (some .tick)) u) :
    w = u ∧ (p.wakeUp epoch started).isDue u.clock = false := by
  obtain ⟨h', turn', w', r, hc, hrun, -, hsteps, -⟩ := hlast
  obtain ⟨tick, deadline, found, -, hwake, hheed⟩ := hc.heed_of_looked htime hrun hsteps
  rw [heed_some, Mode.causeOfWake?_eq_none_iff.2 rfl] at hheed
  obtain ⟨-, rfl⟩ := Effect.pure_eq_ok_iff.1 hheed
  obtain hwake | hwake := hwake
  · cases hwake
  · exact ⟨rfl, (Wake.at?_eq_tick_iff.1 hwake.symm).1⟩

/-- A run that is about to sample, and not for the first time, has been woken by a tick. -/
theorem Course.last_of_sampling (hc : Course between (.start p started) w₀ h turn w)
    (hrun : turn.run? = some r) (hphase : r.phase = .sampling) :
    h = [] ∨ turn = .ready r ∧
      ∃ u, Last between (.start p started) w₀ h turn w (.looked (some .tick)) u := by
  obtain ⟨rfl, -⟩ | ⟨e, u, hlast⟩ := hc.exists_last
  · exact .inl rfl
  obtain ⟨-, -, -, r', -, -, -, hsteps, -⟩ := id hlast
  cases hsteps.leads with
  | decided | woken => cases hrun
  | waits | pends =>
    obtain rfl := Option.some.inj hrun
    cases hphase
  | resumes hcause =>
    obtain rfl := Mode.causeOfWake?_eq_none_iff.1 hcause
    obtain rfl := Option.some.inj hrun
    exact .inr ⟨rfl, u, hlast⟩

/-- A run waits for its timers when a look found that the wait goes on. -/
theorem Leads.event_of_pending {r' : Run σ α} {e : Event α} (hleads : r'.Leads e (.pending r)) :
    e = .looked none := by
  generalize hturn : Turn.pending r = turn at hleads
  cases hleads with
  | pends => rfl
  | waits | decided | resumes | woken => cases hturn

/-- A run that waits for its timers has found that neither has gone off and that the token has not
been cancelled. -/
theorem Course.idle_of_pending (htime : p.time = .runtime epoch)
    (hc : Course between (.start p started) w₀ h (.pending r) w) :
    ∃ tick, r.phase = .waiting tick (some (p.wakeUp epoch started)) ∧
      tick.isDue w.clock = false ∧ (p.wakeUp epoch started).isDue w.clock = false ∧
        p.isCancelled w = false := by
  obtain ⟨tick, timer, hphase⟩ := hc.phase_of_pending
  obtain rfl := hc.timer_eq_wakeUp htime rfl hphase
  obtain ⟨-, hstart⟩ | ⟨e, u, h', turn', w', r', hc', hrun, -, hsteps, hplan, -⟩ := hc.exists_last
  · cases hstart
  obtain rfl := hsteps.leads.event_of_pending
  obtain ⟨tick', deadline, found, hphase', hwake, hheed⟩ := hc'.heed_of_looked htime hrun hsteps
  obtain ⟨hturn, rfl⟩ := Effect.pure_eq_ok_iff.1 hheed
  obtain rfl := Turn.pending.inj hturn
  obtain ⟨rfl, -⟩ := Phase.waiting.inj hphase
  obtain ⟨hdeadline, htick⟩ := Wake.at?_eq_none_iff.1 (hwake.resolve_left nofun).symm
  have hcancelled := hsteps.isCancelled_eq_false nofun
  rw [hplan] at hcancelled
  exact ⟨tick', hphase, htick, hdeadline, hcancelled⟩

/-- Only a look that finds the token cancelled ends a run with a cancellation. -/
theorem Course.last_of_cancelled {elapsed : Duration}
    (hc : Course between (.start p started) w₀ h (.over r (some (.cancelled elapsed))) w) :
    ∃ u, Last between (.start p started) w₀ h (.over r (some (.cancelled elapsed))) w
      (.looked (some .cancelled)) u ∧ p.isCancelled u = true := by
  obtain ⟨-, hturn⟩ | ⟨e, u, hlast⟩ := hc.exists_last
  · cases hturn
  obtain ⟨-, -, -, r', -, -, -, hsteps, hplan, -⟩ := id hlast
  obtain rfl : r'.plan = p := hplan
  obtain ⟨cause, elapsed', hending, hwhy⟩ := hsteps.cause_of_over
  have hcancelled : cause = .cancelled := by
    cases cause <;> first | rfl | cases hending
  subst hcancelled
  obtain ⟨o, rfl, hrule⟩ | ⟨wake, rfl, hcause⟩ := hwhy
  · exact absurd rfl (Mode.ne_of_rule_eq_over hrule).1
  · obtain ⟨rfl, -⟩ | ⟨-, hcause⟩ := Mode.of_causeOfWake?_eq_some hcause
    · exact ⟨u, hlast, hsteps.cancelled_iff.1 rfl⟩
    · split at hcause <;> cases hcause

/-- A run that held was decided by a sample, or by a deadline that found the token not cancelled. -/
theorem Course.last_of_held (hc : Course between (.start p started) w₀ h (.over r none) w) :
    ∃ e u, Last between (.start p started) w₀ h (.over r none) w e u ∧
      ((∃ o, e = .sampled o) ∨ e = .looked (some .deadline) ∧ p.isCancelled u = false) := by
  obtain ⟨-, hturn⟩ | ⟨e, u, hlast⟩ := hc.exists_last
  · cases hturn
  refine ⟨e, u, hlast, ?_⟩
  obtain ⟨-, -, -, r', -, -, -, hsteps, -⟩ := id hlast
  obtain ⟨cause, elapsed, hending, hwhy⟩ := hsteps.cause_of_over
  obtain rfl := Cause.ending?_eq_none_iff.1 hending.symm
  obtain ⟨o, rfl, -⟩ | ⟨wake, rfl, hcause⟩ := hwhy
  · exact .inl ⟨o, rfl⟩
  · obtain ⟨-, hcause⟩ | ⟨rfl, -⟩ := Mode.of_causeOfWake?_eq_some hcause
    · cases hcause
    · exact .inr ⟨rfl, hlast.isCancelled_eq_false (by simp)⟩

/-- The first thing that happens to a run is a sample. -/
theorem Course.first_sampled {e : Event α} {rest : List (Event α)}
    (hc : Course between (.start p started) w₀ (e :: rest) turn w) : ∃ o, e = .sampled o := by
  cases hc.onward with
  | step hrun _ hsteps =>
    obtain rfl := Option.some.inj hrun
    cases e with
    | sampled o => exact ⟨o, rfl⟩
    | looked wake =>
      obtain ⟨tick, deadline, -, -, hphase, -⟩ := hsteps.heed_eq
      cases hphase

/-! ### Once the token has been cancelled -/

section Stays

variable {rest : List (Event α)}
  (hstays : ∀ (turn : Turn σ α) (w u : World σ), between turn w u →
    p.isCancelled w = true → p.isCancelled u = true)

include hstays

/-- A run that waits, or is over, comes to its end at the next look. -/
theorem Onward.of_cancelled_of_waiting (ho : Onward between turn w rest last z)
    (hplan : turn.run.plan = p) (hcancelled : p.isCancelled w = true)
    (hwaits : ∀ r, turn.run? = some r → r.phase ≠ .sampling) :
    rest = [] ∨ rest = [.looked (some .cancelled)] := by
  cases ho with
  | refl => exact .inl rfl
  | @step _ turn' _ r _ u v _ e rest hrun hbetween hsteps hrest =>
    rw [Turn.run_of_run? hrun] at hplan
    cases e with
    | sampled o => exact absurd hsteps.goBy_eq.1 (hwaits r hrun)
    | looked wake =>
      have hu : r.plan.isCancelled u = true := hplan ▸ hstays _ _ _ hbetween hcancelled
      obtain rfl := hsteps.cancelled_iff.2 hu
      obtain ⟨elapsed, rfl⟩ := hsteps.over_of_cancelled hu
      rw [hrest.eq_nil_of_over]
      exact .inr rfl

/-- A run that is about to sample takes that one sample more, and comes to its end at the next
look if the sample has not ended it. -/
theorem Onward.of_cancelled {token : Token σ} {E : σ → Prop} (htoken : p.token = some token)
    (hkeeps : p.UserKeeps (token · = true) E) (ho : Onward between turn w rest last z)
    (hplan : turn.run.plan = p) (hcancelled : p.isCancelled w = true) :
    (rest = [] ∨ rest = [.looked (some .cancelled)]) ∨
      (∃ r, turn.run? = some r ∧ r.phase = .sampling) ∧
        ∃ o, rest = [.sampled o] ∨ rest = [.sampled o, .looked (some .cancelled)] := by
  have heq : ∀ w : World σ, p.isCancelled w = token w.user := by
    intro w
    rw [Plan.isCancelled, htoken, Option.elim_some]
  by_cases hwaits : ∀ r, turn.run? = some r → r.phase ≠ .sampling
  · exact .inl (ho.of_cancelled_of_waiting hstays hplan hcancelled hwaits)
  push Not at hwaits
  cases ho with
  | refl => exact .inl (.inl rfl)
  | @step _ turn' _ r _ u v _ e rest hrun hbetween hsteps hrest =>
    obtain ⟨r', hrun', hphase⟩ := id hwaits
    obtain rfl := Option.some.inj (hrun.symm.trans hrun')
    rw [Turn.run_of_run? hrun] at hplan
    cases e with
    | looked wake =>
      obtain ⟨tick, deadline, -, -, hphase', -⟩ := hsteps.heed_eq
      rw [hphase] at hphase'
      cases hphase'
    | sampled o =>
      -- the sample leaves the token cancelled, and the run waiting if not over
      have hu : token u.user = true := heq u ▸ hstays _ _ _ hbetween hcancelled
      have hv : p.isCancelled v = true := by
        rw [heq]
        exact (keeps_step_user (hplan ▸ hkeeps)).of_ok hu hsteps.step_eq
      have hwaits' : ∀ r, turn'.run? = some r → r.phase ≠ .sampling := by
        intro r'' hrun'' hsampling
        cases hsteps.leads with
        | decided => cases hrun''
        | waits =>
          obtain rfl := Option.some.inj hrun''
          cases hsampling
      have hplan' : turn'.run.plan = p := hsteps.run_eq.1.trans hplan
      have hrest' := hrest.of_cancelled_of_waiting hstays hplan' hv hwaits'
      exact .inr ⟨hwaits, o, hrest'.imp (congrArg _) (congrArg _)⟩

end Stays

/-! ### Every course -/

/-- What a cancellation can do to a run, and what it cannot, told at the end of a course. -/
structure HeedsToken (between : Turn σ α → World σ → World σ → Prop) (p : Plan σ α)
    (started : Duration) (w₀ : World σ) (h : List (Event α)) (turn : Turn σ α) (w : World σ) :
    Prop where
  /-- The run begins with a sample, whether or not the token has been cancelled before. -/
  first : ∀ e rest, h = e :: rest → ∃ o, e = .sampled o
  /-- The run can go on, and take the first sample, unless user code halts. -/
  goesOn : ∀ I : σ → Prop, p.Calm I → ∀ r, turn.run? = some r → ∀ u : World σ, I u.user →
    ∃ e turn' v, r.Steps u e turn' v ∧ I v.user
  /-- The verdict that a sample reaches stands, whether or not the token has been cancelled. -/
  verdict : ∀ r u o turn' v cause, turn.run? = some r → r.Steps u (.sampled o) turn' v →
    p.cause? ((transcript h).samples ++ [o]) = some cause →
    cause ≠ .cancelled ∧ cause ≠ .timedOut ∧
      ∃ r' elapsed, turn' = .over r' (cause.ending? elapsed)
  /-- A wait that is looked at yields a cancellation exactly if the token has been cancelled by
  then, whatever else has ended it, and the run is over. -/
  look : ∀ r u wake turn' v, turn.run? = some r → r.Steps u (.looked wake) turn' v →
    (wake = some .cancelled ↔ p.isCancelled u = true) ∧
      (p.isCancelled u = true → ∃ elapsed, turn' = .over r (some (.cancelled elapsed)))
  /-- A run is cancelled only if the token has been. -/
  cancelled : ∀ r elapsed, turn = .over r (some (.cancelled elapsed)) →
    ∃ u, Last between (.start p started) w₀ h turn w (.looked (some .cancelled)) u ∧
      p.isCancelled u = true
  /-- Every other sample follows a look that has found the token not cancelled and, on the runtime's
  clock, the deadline still to come. If nothing happens to a run that can go on, the sample starts
  in the world of that look. -/
  sample : ∀ r u o turn' v, turn.run? = some r → between turn w u →
    r.Steps u (.sampled o) turn' v →
    h = [] ∨ ∃ u', Last between (.start p started) w₀ h turn w (.looked (some .tick)) u' ∧
      p.isCancelled u' = false ∧ ∀ epoch, p.time = .runtime epoch →
        (p.wakeUp epoch started).isDue u'.clock = false ∧
          ((∀ r w u, between (.ready r) w u → u = w) → u = u')
  /-- A run that held was decided by a sample, or by a deadline that found the token not
  cancelled. -/
  held : ∀ r, turn = .over r none →
    ∃ e u, Last between (.start p started) w₀ h turn w e u ∧
      ((∃ o, e = .sampled o) ∨ e = .looked (some .deadline) ∧ p.isCancelled u = false)
  /-- Once the token has been cancelled for good, the run takes no other sample than the one that it
  is about to take, and if that does not end it the next look does. -/
  forGood : ∀ token E, p.token = some token → p.UserKeeps (token · = true) E →
    (∀ (turn : Turn σ α) w u, between turn w u → p.isCancelled w = true → p.isCancelled u = true) →
    p.isCancelled w = true → ∀ rest last z, Onward between turn w rest last z →
      (rest = [] ∨ rest = [.looked (some .cancelled)]) ∨
        (∃ r, turn.run? = some r ∧ r.phase = .sampling) ∧
          ∃ o, rest = [.sampled o] ∨ rest = [.sampled o, .looked (some .cancelled)]

/-- **Cancellation has priority between samples and never inside one**, in every mode and at
whatever moments the token is cancelled. -/
theorem Course.heedsToken (hc : Course between (.start p started) w₀ h turn w) :
    HeedsToken between p started w₀ h turn w := by
  have hplan : turn.run.plan = p := hc.run_eq.1
  refine ⟨?_, fun I hcalm r hrun u hu ↦ hc.exists_steps hrun hcalm hu, ?_, ?_, ?_, ?_, ?_, ?_⟩
  · rintro e rest rfl
    exact hc.first_sampled
  · intro r u o turn' v cause hrun hsteps hcause
    obtain rfl : r.plan = p := by rwa [Turn.run_of_run? hrun] at hplan
    obtain ⟨hcancelled, htimedOut⟩ := Plan.ne_of_cause? hsteps.fits.1 hcause
    obtain ⟨capturedAt, hturn⟩ :=
      (hc.standing r.plan.judges).turn_of_sampled r.plan.judges hrun rfl hsteps
    rw [hcause] at hturn
    obtain ⟨elapsed, hturn⟩ := hturn
    exact ⟨hcancelled, htimedOut, _, elapsed, hturn⟩
  · intro r u wake turn' v hrun hsteps
    obtain rfl : r.plan = p := by rwa [Turn.run_of_run? hrun] at hplan
    exact ⟨hsteps.cancelled_iff, hsteps.over_of_cancelled⟩
  · rintro r elapsed rfl
    exact hc.last_of_cancelled
  · intro r u o turn' v hrun hbetween hsteps
    refine (hc.last_of_sampling hrun hsteps.goBy_eq.1).imp_right ?_
    rintro ⟨rfl, u', hlast⟩
    refine ⟨u', hlast, hlast.isCancelled_eq_false (by simp), fun epoch htime ↦ ?_⟩
    obtain ⟨rfl, hdue⟩ := hlast.isDue_wakeUp_eq_false htime
    exact ⟨hdue, fun hready ↦ hready r w u hbetween⟩
  · rintro r rfl
    exact hc.last_of_held
  · intro token E htoken hkeeps hstays hcancelled rest last z ho
    exact ho.of_cancelled hstays htoken hkeeps hplan hcancelled

end Run

/-- The second call of the producer cancels the token. -/
def Plan.selfCancelling : Plan Nat Nat :=
  { counting .consistently 0 with token := some fun calls ↦ decide (2 ≤ calls) }

namespace Run

/-- Both samples pass. The wait after the second one is looked at when its tick and the deadline are
due as well, and it yields the cancellation. -/
theorem heedsToken_selfCancelling : ∃ h r w,
    Course clockMoves (.start .selfCancelling .zero) ⟨0, .zero, []⟩ h
      (.over r (some (.cancelled (.ofMillis 20)))) w ∧
    HeedsToken clockMoves .selfCancelling .zero ⟨0, .zero, []⟩ h
      (.over r (some (.cancelled (.ofMillis 20)))) w ∧
    r.samples = 2 ∧ (Plan.selfCancelling.wakeUp .zero .zero).isDue w.clock = true := by
  obtain ⟨h, r, w, hc, hsamples, hdue⟩ : ∃ h r w,
      Course clockMoves (.start .selfCancelling .zero) ⟨0, .zero, []⟩ h
        (.over r (some (.cancelled (.ofMillis 20)))) w ∧
      r.samples = 2 ∧ (Plan.selfCancelling.wakeUp .zero .zero).isDue w.clock = true :=
    ⟨_, _, _, .step (.step (.step (.step (.step .start rfl ⟨.zero, rfl⟩ (.sampled rfl rfl rfl))
      rfl ⟨.zero, rfl⟩ (.looked rfl rfl rfl)) rfl ⟨.ofMillis 10, rfl⟩ (.looked rfl rfl rfl))
      rfl ⟨.ofMillis 10, rfl⟩ (.sampled rfl rfl rfl)) rfl ⟨.ofMillis 20, rfl⟩
      (.looked rfl rfl rfl), rfl, rfl⟩
  exact ⟨h, r, w, hc, hc.heedsToken, hsamples, hdue⟩

end Run

end PollAssert
