import PollAssert.Proofs.Run.Kindred

/-!
# More time, fewer repeats

What becomes of a run if it is given a longer limit, or if fewer passing samples are asked of it?
On the runtime's clock, in a tide, the answer is the one that a user expects who raises the timeout
of a flaky test.

A run with a longer limit does what the run with the shorter one does, until the time of the shorter
one is up (`Plan.exists_course_of_longer`, `Plan.exists_course_of_shorter`): its deadline's timer
goes off no earlier, whether it goes off at all or is missing because the deadline cannot be
represented. A run of `eventually` that asks for fewer passing samples does what the run does that
asks for more, until it holds (`Plan.exists_course_of_fewer`).

From these three the statements on verdicts follow, for a run in a tide has a single history
(`Plan.monotone`).
-/

namespace PollAssert

open VirtualClock

variable {σ α : Type}

/-- The plan with another budget. -/
def Plan.budgeted (p : Plan σ α) (limit : Duration) (repeats : Nat) : Plan σ α :=
  { p with timeout := limit, repeats := repeats }

theorem Plan.kin_budgeted (p : Plan σ α) (limit : Duration) (repeats : Nat) :
    p.Kin (p.budgeted limit repeats) := ⟨rfl, rfl, rfl, rfl, rfl, rfl, rfl⟩

/-- **A longer limit puts the deadline off**, or does away with it. -/
theorem Plan.isDue_wakeUp_of_le {p : Plan σ α} {limit : Duration} (hlimit : p.timeout ≤ limit)
    (repeats : Nat) (epoch started clock : Duration)
    (h : ((p.budgeted limit repeats).wakeUp epoch started).isDue clock = true) :
    (p.wakeUp epoch started).isDue clock = true := by
  have hlimited : (p.budgeted limit repeats).timeout = limit := rfl
  rw [wakeUp] at h ⊢
  rw [hlimited] at h
  rcases hlong : started.checkedAdd? limit with - | long
  · rw [hlong] at h
    cases h
  rw [hlong] at h
  have hnanos := Duration.nanos_of_checkedAdd? hlong
  rw [Duration.le_def] at hlimit
  rcases hshort : started.checkedAdd? p.timeout with - | short
  · -- a shorter limit is representable if the longer one is
    have hpast := Duration.checkedAdd?_eq_none_iff.1 hshort
    have hle := long.nanos_le
    omega
  · have hnanos' := Duration.nanos_of_checkedAdd? hshort
    exact Timer.isDue_timerAt_of_le (by omega) h

theorem Plan.isDue_wakeUp_eq_false_of_le {p : Plan σ α} {limit : Duration}
    (hlimit : p.timeout ≤ limit) (repeats : Nat) {epoch started clock : Duration}
    (h : (p.wakeUp epoch started).isDue clock = false) :
    ((p.budgeted limit repeats).wakeUp epoch started).isDue clock = false := by
  refine Bool.eq_false_iff.2 fun hdue ↦ ?_
  rw [isDue_wakeUp_of_le hlimit repeats epoch started clock hdue] at h
  cases h

/-- **If fewer passes are asked for a sample gets the same ruling, or the run holds.** -/
theorem Mode.ruleEventually_of_le {count repeats : Nat} (hle : count ≤ repeats) (passes : Nat)
    (reading : Reading) :
    ruleEventually count passes reading = ruleEventually repeats passes reading ∨
      ruleEventually count passes reading = .over .held := by
  rw [ruleEventually, ruleEventually]
  by_cases hpassed : reading.passed = true
  · rw [if_pos hpassed, if_pos hpassed]
    by_cases henough : count ≤ passes + 1
    · exact .inr (if_pos henough)
    · rw [if_neg henough, if_neg fun h ↦ henough (Nat.le_trans hle h)]
      exact .inl rfl
  · rw [if_neg hpassed, if_neg hpassed]
    exact .inl rfl

namespace Run

/-- The timers of two deadlines that are given. -/
def AreDeadlines (D D' _tick timer timer' : Timer) : Prop := timer = D ∧ timer' = D'

section Runtime

variable {p : Plan σ α} {epoch started : Duration} {tide : Tide σ}
  {between : Turn σ α → World σ → World σ → Prop} {w₀ w u u' v : World σ} {h : List (Event α)}
  {turn : Turn σ α} {r r' : Run σ α} {tick : Timer} {deadline : Option Timer}

/-! ### Runs on the runtime's clock -/

/-- The runtime's clock never panics. -/
theorem spares_runtime (htime : p.time = .runtime epoch) :
    p.Spares (fun _ ↦ True) fun _ ↦ False where
  log _ _ _ := trivial
  slept _ _ _ := trivial
  now r _ := by
    intro w _
    rw [r.call_apply, htime]
    trivial
  sleep r d _ := by
    intro w _
    rw [r.call_apply, htime]
    trivial
  wait r wait d _ hwait := by
    rw [htime] at hwait
    obtain rfl := Option.some.inj hwait
    intro w _
    rw [r.call_apply]
    trivial

/-- Two runs on the runtime's clock that started together tell the same time. -/
theorem sameTime_runtime (htime : r.plan.time = .runtime epoch)
    (htime' : r'.plan.time = .runtime epoch) (hstarted : r.started = r'.started)
    (clock : Duration) : SameTime clock r r' where
  elapsed view _ := by rw [elapsed, elapsed, htime, htime', hstarted]
  sleep d view _ := by rw [htime, htime']

/-- A look that does not find the deadline, and not a cancellation either, was made before it. -/
theorem Course.isDue_eq_false (htime : p.time = .runtime epoch)
    (hc : Course between (.start p started) w₀ h turn w) (hrun : turn.run? = some r) {e : Event α}
    {turn' : Turn σ α} (hsteps : r.Steps u e turn' v) (hphase : r.phase = .waiting tick deadline)
    (hcancelled : p.isCancelled u = false) (hne : e ≠ .looked (some .deadline)) :
    (p.wakeUp epoch started).isDue u.clock = false := by
  rcases e with o | wake
  · rw [hsteps.goBy_eq.1] at hphase
    cases hphase
  obtain ⟨tick', -, -, hwake⟩ := hc.wake_of_looked htime hrun hsteps
  have hfound : wake ≠ some .cancelled := fun h ↦ by
    rw [hsteps.cancelled_iff, hc.plan_eq hrun] at h
    exact Bool.false_ne_true (hcancelled.symm.trans h)
  refine Bool.eq_false_iff.2 fun hdue ↦ hne ?_
  rw [hwake.resolve_left hfound, Wake.at?, if_pos hdue]

/-- When the deadline's timer has gone off a look finds it, unless the token has been cancelled. -/
theorem Course.exists_steps_of_deadline (htime : p.time = .runtime epoch)
    (hc : Course between (.start p started) w₀ h turn w) (hrun : turn.run? = some r)
    (hphase : r.phase = .waiting tick deadline) (hcancelled : p.isCancelled u = false)
    (hdue : (p.wakeUp epoch started).isDue u.clock = true) :
    ∃ turn' v, r.Steps u (.looked (some .deadline)) turn' v := by
  have hplan : r.plan = p := hc.plan_eq hrun
  have hlook := look_of_deadlineTimer tick (hplan ▸ hcancelled)
    (hc.deadlineTimer_eq htime hrun hphase u)
  rw [Wake.at?, if_pos hdue] at hlook
  obtain ⟨turn', v, hstep, -⟩ :=
    (keeps_waitStep (hplan ▸ spares_runtime htime) tick deadline).exists_eq_ok (s := u) trivial
  exact ⟨turn', v, .looked hphase hlook (by rw [step_of_waiting hphase, hstep])⟩

end Runtime

/-- After the history `h` the run found its deadline and is over. -/
def Expired (tide : Tide σ) (p : Plan σ α) (started : Duration) (w₀ : World σ)
    (h : List (Event α)) (turn : Turn σ α) (w : World σ) : Prop :=
  Course (OnTide tide) (.start p started) w₀ (h ++ [.looked (some .deadline)]) turn w ∧
    ∃ r cause elapsed, turn = .over r (cause.ending? elapsed) ∧
      p.mode.causeOfWake? .deadline = some cause

theorem Course.expired {tide : Tide σ} {p : Plan σ α} {started : Duration} {w₀ w u v : World σ}
    {h : List (Event α)} {turn next : Turn σ α} {r : Run σ α}
    (hc : Course (OnTide tide) (.start p started) w₀ h turn w) (hrun : turn.run? = some r)
    (hbetween : OnTide tide turn w u) (hsteps : r.Steps u (.looked (some .deadline)) next v) :
    Expired tide p started w₀ h next v := by
  have hmode : r.plan.mode = p.mode := congrArg Plan.mode (hc.plan_eq hrun)
  obtain ⟨cause, hcause⟩ : ∃ cause, p.mode.causeOfWake? .deadline = some cause := by
    cases p.mode <;> exact ⟨_, rfl⟩
  have hturn := hsteps.turn_of_looked_some
  rw [hmode, hcause] at hturn
  obtain ⟨elapsed, hturn⟩ := hturn
  exact ⟨hc.step hrun hbetween hsteps, r, cause, elapsed, hturn, hcause⟩

theorem Course.exists_expired {tide : Tide σ} {p : Plan σ α} {epoch started : Duration}
    {w₀ w u : World σ} {h : List (Event α)} {turn : Turn σ α} {r : Run σ α} {tick : Timer}
    {deadline : Option Timer} (htime : p.time = .runtime epoch)
    (hc : Course (OnTide tide) (.start p started) w₀ h turn w) (hrun : turn.run? = some r)
    (hbetween : OnTide tide turn w u) (hphase : r.phase = .waiting tick deadline)
    (hcancelled : p.isCancelled u = false)
    (hdue : (p.wakeUp epoch started).isDue u.clock = true) :
    ∃ next v, Expired tide p started w₀ h next v := by
  obtain ⟨next, v, hsteps⟩ := hc.exists_steps_of_deadline htime hrun hphase hcancelled hdue
  exact ⟨next, v, hc.expired hrun hbetween hsteps⟩

/-! ### Two runs at the same point -/

/-- The two runs on the runtime's clock started together and are at the same point. -/
abbrev SamePoint (tide : Tide σ) (p p' : Plan σ α) (epoch started : Duration) (w₀ : World σ) :
    List (Event α) → Turn σ α → Turn σ α → World σ → World σ → Prop :=
  Together (AreDeadlines (p.wakeUp epoch started) (p'.wakeUp epoch started)) (OnTide tide)
    (.start p started) (.start p' started) w₀

/-- The two runs take the same step in these worlds. -/
abbrev StepAlike (p p' : Plan σ α) (epoch started : Duration) (r r' : Run σ α) (u u' : World σ) :
    Prop :=
  SameEnd (World.LevelAt u.clock)
    (Turn.SameStep (AreDeadlines (p.wakeUp epoch started) (p'.wakeUp epoch started)))
    (r.traced u) (r'.traced u')

namespace SamePoint

variable {tide : Tide σ} {p p' : Plan σ α} {epoch started : Duration} {w₀ w w' u u' v v' : World σ}
  {h : List (Event α)} {turn turn' next next' : Turn σ α} {r r' : Run σ α} {e : Event α}

section

variable (hp : SamePoint tide p p' epoch started w₀ h turn turn' w w')

include hp

theorem sameTime (htime : p.time = .runtime epoch) (htime' : p'.time = .runtime epoch)
    (hrun : turn.run? = some r) (hrun' : turn'.run? = some r') (clock : Duration) :
    SameTime clock r r' := by
  have hplan : r.plan = p := hp.course.plan_eq hrun
  have hplan' : r'.plan = p' := hp.course'.plan_eq hrun'
  have hstarted : r.started = started := hp.course.started_eq hrun
  have hstarted' : r'.started = started := hp.course'.started_eq hrun'
  exact sameTime_runtime (hplan ▸ htime) (hplan' ▸ htime') (hstarted.trans hstarted'.symm) clock

/-- **From the same point both take the same step**, if they are after equally many samples and
their deadlines have both come or neither has. -/
theorem same_step (htime : p.time = .runtime epoch) (htime' : p'.time = .runtime epoch)
    (hrun : turn.run? = some r) (hrun' : turn'.run? = some r')
    (hu : World.Level u u') (hrepeats : r.phase = .sampling → p.repeats = p'.repeats)
    (hdue : ∀ tick deadline, r.phase = .waiting tick deadline → p.isCancelled u = false →
      (p.wakeUp epoch started).isDue u.clock = (p'.wakeUp epoch started).isDue u.clock) :
    StepAlike p p' epoch started r r' u u' := by
  have hr := hp.kin.of_run? hrun hrun'
  have hplan : r.plan = p := hp.course.plan_eq hrun
  have hplan' : r'.plan = p' := hp.course'.plan_eq hrun'
  have ht := hp.sameTime htime htime' hrun hrun' u.clock
  rcases hphase : r.phase with - | ⟨tick, deadline⟩
  · exact hr.traced_of_sampling ht hphase (hplan ▸ hplan' ▸ hrepeats hphase) _ _ hu.at
  · obtain ⟨deadline', hphase', -⟩ := (hphase ▸ hr.phase).exists_waiting
    refine hr.traced_of_waiting ht hphase hphase' hu.at fun hcancelled ↦ ?_
    exact ⟨_, _, u, u', hp.course.deadlineTimer_eq htime hrun hphase u,
      hp.course'.deadlineTimer_eq htime' hrun' hphase' u', hu.at,
      hdue tick deadline hphase (hplan ▸ hcancelled), fun _ ↦ ⟨rfl, rfl⟩⟩

/-- Two runs that wait at the same point wait for the same tick, each with its deadline. -/
theorem exists_tick (htime : p.time = .runtime epoch) (htime' : p'.time = .runtime epoch)
    (hturn : turn = .pending r) (hturn' : turn' = .pending r') :
    ∃ tick, r.phase = .waiting tick (some (p.wakeUp epoch started)) ∧
      r.nextTimer = tick.earlier (p.wakeUp epoch started) ∧
      r'.nextTimer = tick.earlier (p'.wakeUp epoch started) ∧ p.isCancelled w = false := by
  subst hturn hturn'
  obtain ⟨tick, hphase, -, -, hcancelled⟩ := hp.course.idle_of_pending htime
  obtain ⟨tick', hphase', -⟩ := hp.course'.idle_of_pending htime'
  have hr := hp.kin.of_run? rfl rfl
  obtain ⟨deadline', hwaiting, -⟩ := (hphase ▸ hr.phase).exists_waiting
  obtain ⟨rfl, -⟩ := Phase.waiting.inj (hwaiting.symm.trans hphase')
  have hnextTimer : r.nextTimer = tick.earlier (p.wakeUp epoch started) := by
    rw [nextTimer, hphase]
    rfl
  have hnextTimer' : r'.nextTimer = tick.earlier (p'.wakeUp epoch started) := by
    rw [nextTimer, hphase']
    rfl
  exact ⟨tick, hphase, hnextTimer, hnextTimer', hcancelled⟩

end

/-- What is due for the first of two timers is due for the first of others, unless the second one is
found. -/
theorem isDue_of_isDue {tick timer timer' : Timer} {instant : Duration}
    (hcancelled : p.isCancelled w = false) (hdue : tide.IsDue (tick.earlier timer) instant)
    (hnot : p.isCancelled (tide.carry w instant) = false → timer.isDue instant = false) :
    tide.IsDue (tick.earlier timer') instant := by
  rcases htide : tide instant with - | change
  · -- where the tide has no part nobody cancels the token
    have hfree : p.isCancelled (tide.carry w instant) = false := by
      rw [Plan.isCancelled, Tide.user_carry_of_eq_none w htide]
      exact hcancelled
    exact hdue.of_earlier (hnot hfree)
  · exact .inl (by rw [htide]; rfl)

end SamePoint

/-! ### A longer limit -/

section Longer

variable {tide : Tide σ} {p : Plan σ α} {epoch started limit : Duration}
  {w₀ w w' u u' v v' : World σ} {h : List (Event α)} {turn turn' next next' : Turn σ α}
  {r r' : Run σ α} {e : Event α}
  (htime : p.time = .runtime epoch) (hlimit : p.timeout ≤ limit)

include htime hlimit

/-- **Until its deadline is found a run does what it does with a longer limit.** -/
theorem SamePoint.forward
    (hp : SamePoint tide p (p.budgeted limit p.repeats) epoch started w₀ h turn turn' w w')
    (hrun : turn.run? = some r) (hbetween : OnTide tide turn w u) (hsteps : r.Steps u e next v)
    (hne : e ≠ .looked (some .deadline)) :
    ∃ next' v', SamePoint tide p (p.budgeted limit p.repeats) epoch started w₀ (h ++ [e]) next
      next' v v' := by
  obtain ⟨r', hrun', -⟩ := hp.kin.exists_run? hrun
  -- before its own deadline the run with the longer limit has not come to its deadline either
  have hsame : ∀ u', World.Level u u' →
      StepAlike p (p.budgeted limit p.repeats) epoch started r r' u u' := by
    refine fun u' hu ↦ hp.same_step htime htime hrun hrun' hu (fun _ ↦ rfl) ?_
    intro tick deadline hphase hcancelled
    have hnot := hp.course.isDue_eq_false htime hrun hsteps hphase hcancelled hne
    exact hnot.trans (Plan.isDue_wakeUp_eq_false_of_le hlimit p.repeats hnot).symm
  have hkin := hp.kin
  rcases hbetween with - | @⟨r₁, _, instant, hnext⟩
  · cases hkin
    exact hp.concat hrun hrun' .ready .ready (hsame w' hp.level) hsteps
  · obtain rfl := Option.some.inj hrun
    cases hkin with | @pending _ r₁' hr
    obtain rfl := Option.some.inj hrun'
    obtain ⟨tick, hphase, hnextTimer, hnextTimer', hcancelled⟩ := hp.exists_tick htime htime rfl rfl
    rw [hnextTimer] at hnext
    -- what is due is due for both, for it is not the deadline
    have hdue : tide.IsDue r₁'.nextTimer instant := by
      rw [hnextTimer']
      exact isDue_of_isDue hcancelled hnext.isDue fun hfree ↦
        hp.course.isDue_eq_false htime rfl hsteps hphase hfree hne
    have hnext' : tide.IsNext r₁'.nextTimer w'.clock instant := by
      rw [← hp.level.clock]
      refine hnext.of_le (fun t _ _ ht ↦ ?_) hdue
      rw [hnextTimer', Timer.isDue_earlier, Bool.or_eq_true] at ht
      rw [Timer.isDue_earlier, Bool.or_eq_true]
      exact ht.imp_right (p.isDue_wakeUp_of_le hlimit p.repeats epoch started t)
    rw [← hnextTimer] at hnext
    exact hp.concat rfl rfl (.pending hnext) (.pending hnext')
      (hsame _ (hp.level.carry tide instant)) hsteps

/-- In level worlds the run takes the step that it takes with a longer limit, or finds its
deadline. -/
theorem SamePoint.backward_of_level
    (hp : SamePoint tide p (p.budgeted limit p.repeats) epoch started w₀ h turn turn' w w')
    (hrun : turn.run? = some r) (hrun' : turn'.run? = some r') (hbetween : OnTide tide turn w u)
    (hbetween' : OnTide tide turn' w' u') (hlevel : World.Level u u')
    (hsteps' : r'.Steps u' e next' v') :
    (∃ next v, SamePoint tide p (p.budgeted limit p.repeats) epoch started w₀ (h ++ [e]) next
        next' v v') ∨
      ∃ next v, Expired tide p started w₀ h next v := by
  by_cases hfound : ∃ tick deadline, r.phase = .waiting tick deadline ∧
      p.isCancelled u = false ∧ (p.wakeUp epoch started).isDue u.clock = true
  · obtain ⟨tick, deadline, hphase, hcancelled, hdue⟩ := hfound
    exact .inr (hp.course.exists_expired htime hrun hbetween hphase hcancelled hdue)
  · refine .inl (hp.concat_right hrun hrun' hbetween hbetween'
      (hp.same_step htime htime hrun hrun' hlevel (fun _ ↦ rfl) ?_) hsteps')
    intro tick deadline hphase hcancelled
    have hnot : (p.wakeUp epoch started).isDue u.clock = false :=
      Bool.eq_false_iff.2 fun hdue ↦ hfound ⟨tick, deadline, hphase, hcancelled, hdue⟩
    exact hnot.trans (Plan.isDue_wakeUp_eq_false_of_le hlimit p.repeats hnot).symm

/-- **A run does what it does with a longer limit**, or finds its deadline. -/
theorem SamePoint.backward
    (hp : SamePoint tide p (p.budgeted limit p.repeats) epoch started w₀ h turn turn' w w')
    (hrun' : turn'.run? = some r') (hbetween' : OnTide tide turn' w' u')
    (hsteps' : r'.Steps u' e next' v') :
    (∃ next v, SamePoint tide p (p.budgeted limit p.repeats) epoch started w₀ (h ++ [e]) next
        next' v v') ∨
      ∃ next v, Expired tide p started w₀ h next v := by
  obtain ⟨r, hrun, -⟩ := hp.kin.exists_run?_right hrun'
  have hkin := hp.kin
  rcases hbetween' with - | @⟨r₁', _, instant, hnext'⟩
  · cases hkin
    exact hp.backward_of_level htime hlimit hrun hrun' .ready .ready hp.level hsteps'
  · cases hkin with | @pending r₁ _ hr
    obtain rfl := Option.some.inj hrun
    obtain ⟨tick, hphase, hnextTimer, hnextTimer', hcancelled⟩ := hp.exists_tick htime htime rfl rfl
    have hdue : tide.IsDue r₁.nextTimer instant := by
      have hdue' := hnext'.isDue
      rw [hnextTimer', Tide.IsDue, Timer.isDue_earlier, Bool.or_eq_true] at hdue'
      rw [hnextTimer, Tide.IsDue, Timer.isDue_earlier, Bool.or_eq_true]
      exact hdue'.imp_right (Or.imp_right (p.isDue_wakeUp_of_le hlimit p.repeats epoch started _))
    obtain ⟨first, hle, hnext⟩ := Tide.exists_isNext (hp.level.clock ▸ hnext'.lt) hdue
    by_cases hfound : p.isCancelled (tide.carry w first) = false ∧
        (p.wakeUp epoch started).isDue first = true
    · exact .inr (hp.course.exists_expired htime rfl (.pending hnext) hphase hfound.1 hfound.2)
    · -- what is due first is not the deadline, so it is due for both
      have hdue' : tide.IsDue r₁'.nextTimer first := by
        rw [hnextTimer']
        exact isDue_of_isDue hcancelled (hnextTimer ▸ hnext.isDue) fun hfree ↦
          Bool.eq_false_iff.2 fun h ↦ hfound ⟨hfree, h⟩
      obtain rfl : first = instant := Duration.ext
        (Nat.le_antisymm hle (hnext'.le first (hp.level.clock ▸ hnext.lt) hdue'))
      exact hp.backward_of_level htime hlimit rfl hrun' (.pending hnext) (.pending hnext')
        (hp.level.carry tide first) hsteps'

/-- **The history of a run is one of the run with a longer limit**, but for the deadline at its
end. -/
theorem Course.exists_longer (hc : Course (OnTide tide) (.start p started) w₀ h turn w) :
    (∃ turn' w', SamePoint tide p (p.budgeted limit p.repeats) epoch started w₀ h turn turn' w
        w') ∨
      ∃ h' turn₁ turn₁' w₁ w₁', SamePoint tide p (p.budgeted limit p.repeats) epoch started w₀ h'
        turn₁ turn₁' w₁ w₁' ∧ h = h' ++ [.looked (some .deadline)] ∧
          Expired tide p started w₀ h' turn w := by
  induction hc with
  | start => exact .inl ⟨_, _, .start (p.kin_budgeted limit p.repeats) started started⟩
  | @step h turn next r w u v e hc hrun hbetween hsteps ih =>
    obtain ⟨turn', w', hp⟩ | ⟨-, -, -, -, -, -, -, -, r', cause, elapsed, rfl, -⟩ := ih
    · by_cases he : e = .looked (some .deadline)
      · subst he
        exact .inr ⟨h, turn, turn', w, w', hp, rfl, hc.expired hrun hbetween hsteps⟩
      · exact .inl (hp.forward htime hlimit hrun hbetween hsteps he)
    · cases hrun

/-- **A history of the run with a longer limit is one of the run**, unless that finds its deadline
first. -/
theorem Course.exists_shorter
    (hc' : Course (OnTide tide) (.start (p.budgeted limit p.repeats) started) w₀ h turn' w') :
    (∃ turn w, SamePoint tide p (p.budgeted limit p.repeats) epoch started w₀ h turn turn' w
        w') ∨ ∃ h' turn w, Expired tide p started w₀ h' turn w := by
  induction hc' with
  | start => exact .inl ⟨_, _, .start (p.kin_budgeted limit p.repeats) started started⟩
  | @step h turn' next' r' w' u' v' e hc' hrun' hbetween' hsteps' ih =>
    obtain ⟨turn, w, hp⟩ | hexpired := ih
    · exact (hp.backward htime hlimit hrun' hbetween' hsteps').imp_right fun hexpired ↦
        ⟨h, hexpired⟩
    · exact .inr hexpired

end Longer

/-! ### Fewer repeats -/

section Fewer

variable {tide : Tide σ} {p : Plan σ α} {epoch started : Duration} {count : Nat}
  {w₀ w w' u u' v v' : World σ} {h : List (Event α)} {turn turn' next : Turn σ α}
  {r r' : Run σ α} {e : Event α} (htime : p.time = .runtime epoch) (hmode : p.mode = .eventually)
  (hcount : count ≤ p.repeats)

include htime hmode hcount

/-- On a sample the run goes on as it does with fewer repeats, or the latter holds. -/
theorem SamePoint.sampled_fewer {o : Observation α}
    (hp : SamePoint tide p (p.budgeted p.timeout count) epoch started w₀ h turn turn' w w')
    (hrun : turn.run? = some r) (hrun' : turn'.run? = some r') (hbetween : OnTide tide turn w u)
    (hbetween' : OnTide tide turn' w' u') (hlevel : World.Level u u')
    (hsteps : r.Steps u (.sampled o) next v) :
    (∃ next' v', SamePoint tide p (p.budgeted p.timeout count) epoch started w₀ (h ++ [.sampled o])
        next next' v v') ∨
      ∃ r' v', Course (OnTide tide) (.start (p.budgeted p.timeout count) started) w₀
        (h ++ [.sampled o]) (.over r' none) v' := by
  have hr := hp.kin.of_run? hrun hrun'
  have hplan : r.plan = p := hp.course.plan_eq hrun
  have hplan' : r'.plan = p.budgeted p.timeout count := hp.course'.plan_eq hrun'
  have ht := hp.sameTime htime htime hrun hrun' u.clock
  obtain ⟨hphase', u₁, u₁', hu₁, hgo, ho'⟩ := hr.of_sampled ht hlevel.at hsteps
  have hstep : r'.step u' = r'.goBy o u₁' := by
    rw [step_of_sampling hphase', Effect.bind_of_ok ho']
  have hrule : ∀ repeats, p.mode.rule repeats r.passes (o.reading p.desired) =
      Mode.ruleEventually repeats r.passes (o.reading p.desired) := by
    intro repeats
    rw [hmode]
    rfl
  have hrule' : r'.plan.mode.rule r'.plan.repeats r'.passes (o.reading r'.plan.desired) =
      Mode.ruleEventually count r.passes (o.reading p.desired) := by
    rw [hplan', ← hr.passes]
    exact hrule count
  rcases Mode.ruleEventually_of_le hcount r.passes (o.reading p.desired) with hsame | hheld
  · have hend := hr.alike_goBy ht o (by rw [hrule', hsame, hplan, hrule]) _ _ hu₁
    rw [hgo] at hend
    obtain ⟨_, _, hgo', hkin, hv⟩ := hend.exists_ok
    exact .inl ⟨_, _, hp.course.step hrun hbetween hsteps,
      hp.course'.step hrun' hbetween' (.sampled hphase' ho' (hstep.trans hgo')), hkin,
      hv.toLevel⟩
  · have hspares : r'.plan.Spares (fun _ ↦ True) fun _ ↦ False := by
      rw [hplan']
      exact spares_runtime htime
    obtain ⟨turn₁, v', hgo', -⟩ := (keeps_goBy hspares o).exists_eq_ok (s := u₁') trivial
    obtain ⟨capturedAt, hturn⟩ := turn_of_goBy hgo'
    rw [hrule', hheld] at hturn
    obtain ⟨elapsed, rfl⟩ := hturn
    exact .inr ⟨_, v', hp.course'.step hrun' hbetween'
      (.sampled hphase' ho' (hstep.trans hgo'))⟩

/-- **A run does what it does with fewer repeats**, until that has held. -/
theorem SamePoint.forward_fewer
    (hp : SamePoint tide p (p.budgeted p.timeout count) epoch started w₀ h turn turn' w w')
    (hrun : turn.run? = some r) (hbetween : OnTide tide turn w u) (hsteps : r.Steps u e next v) :
    (∃ next' v', SamePoint tide p (p.budgeted p.timeout count) epoch started w₀ (h ++ [e]) next
        next' v v') ∨
      ∃ r' v', Course (OnTide tide) (.start (p.budgeted p.timeout count) started) w₀ (h ++ [e])
        (.over r' none) v' := by
  obtain ⟨r', hrun', -⟩ := hp.kin.exists_run? hrun
  -- both have the same timers, so the surroundings treat them alike
  obtain ⟨u', hbetween', hlevel⟩ : ∃ u', OnTide tide turn' w' u' ∧ World.Level u u' := by
    have hkin := hp.kin
    rcases hbetween with - | @⟨r₁, _, instant, hnext⟩
    · cases hkin
      exact ⟨w', .ready, hp.level⟩
    · cases hkin with | @pending _ r₁' hr
      obtain ⟨tick, -, hnextTimer, hnextTimer', -⟩ := hp.exists_tick htime htime rfl rfl
      rw [hnextTimer, hp.level.clock] at hnext
      exact ⟨_, .pending (by rwa [hnextTimer']), hp.level.carry tide instant⟩
  cases e with
  | sampled o =>
    exact hp.sampled_fewer htime hmode hcount hrun hrun' hbetween hbetween' hlevel hsteps
  | looked wake =>
    refine .inl (hp.concat hrun hrun' hbetween hbetween' (hp.same_step htime htime hrun hrun' hlevel
      (fun hphase ↦ ?_) fun _ _ _ _ ↦ rfl) hsteps)
    obtain ⟨tick, deadline, -, -, hphase', -⟩ := hsteps.heed_eq
    rw [hphase] at hphase'
    cases hphase'

/-- **The history of a run is one of the run with fewer repeats**, until that has held. -/
theorem Course.exists_fewer (hc : Course (OnTide tide) (.start p started) w₀ h turn w) :
    (∃ turn' w', SamePoint tide p (p.budgeted p.timeout count) epoch started w₀ h turn turn' w
        w') ∨
      ∃ h' r' w', Course (OnTide tide) (.start (p.budgeted p.timeout count) started) w₀ h'
        (.over r' none) w' ∧ h' <+: h := by
  induction hc with
  | start => exact .inl ⟨_, _, .start (p.kin_budgeted p.timeout count) started started⟩
  | @step h turn next r w u v e hc hrun hbetween hsteps ih =>
    obtain ⟨turn', w', hp⟩ | ⟨h', r', w', hc', hprefix⟩ := ih
    · obtain hsame | ⟨r', v', hc'⟩ := hp.forward_fewer htime hmode hcount hrun hbetween hsteps
      · exact .inl hsame
      · exact .inr ⟨h ++ [e], r', v', hc', List.prefix_rfl⟩
    · exact .inr ⟨h', r', w', hc', hprefix.trans (List.prefix_append h [e])⟩

end Fewer

end Run

/-! ### The verdicts -/

section Verdicts

open Run

variable {tide : Tide σ} {p : Plan σ α} {epoch started : Duration} {w₀ : World σ}

/-- What a longer limit does to a run, in surroundings that are the same. -/
structure Plan.Outlasts (tide : Tide σ) (started : Duration) (w₀ : World σ) (p p' : Plan σ α) :
    Prop where
  /-- The other run takes all the samples that the run takes, at the same times, and in between
  nothing else. -/
  samples : ∀ h turn w, Course (OnTide tide) (.start p started) w₀ h turn w →
    ∃ h' turn' w', Course (OnTide tide) (.start p' started) w₀ h' turn' w' ∧
      (transcript h').samples = (transcript h).samples
  /-- So the samples of the run are the first ones of the other. -/
  samples_prefix : ∀ h h' turn w r' ending' w',
    Course (OnTide tide) (.start p started) w₀ h turn w →
      Course (OnTide tide) (.start p' started) w₀ h' (.over r' ending') w' →
        (transcript h).samples <+: (transcript h').samples
  /-- If `eventually` holds, it holds with the longer limit too, at the same sample and the same
  time, and there is no other way in which it could end. -/
  eventually_held : p.mode = .eventually → ∀ h r w,
    Course (OnTide tide) (.start p started) w₀ h (.over r none) w →
      (∃ r' w', Course (OnTide tide) (.start p' started) w₀ h (.over r' none) w' ∧
        w'.clock = w.clock) ∧
      ∀ h' r' ending' w', Course (OnTide tide) (.start p' started) w₀ h' (.over r' ending') w' →
        h' = h ∧ ending' = none ∧ w'.clock = w.clock
  /-- If `consistently` holds with the longer limit, it holds. -/
  consistently_held : p.mode = .consistently → ∀ h' r' w',
    Course (OnTide tide) (.start p' started) w₀ h' (.over r' none) w' →
      (∃ h r w, Course (OnTide tide) (.start p started) w₀ h (.over r none) w) ∧
      ∀ h r ending w, Course (OnTide tide) (.start p started) w₀ h (.over r ending) w →
        ending = none

/-- With fewer repeats `eventually` holds if it holds with more, at a sample no later. -/
def Plan.HoldsSooner (tide : Tide σ) (started : Duration) (w₀ : World σ) (p p' : Plan σ α) : Prop :=
  ∀ h r w, Course (OnTide tide) (.start p started) w₀ h (.over r none) w →
    (∃ h' r' w', Course (OnTide tide) (.start p' started) w₀ h' (.over r' none) w' ∧ h' <+: h) ∧
    ∀ h' r' ending' w', Course (OnTide tide) (.start p' started) w₀ h' (.over r' ending') w' →
      ending' = none ∧ (transcript h').samples <+: (transcript h).samples

theorem Plan.outlasts_of_le (htime : p.time = .runtime epoch) {limit : Duration}
    (hlimit : p.timeout ≤ limit) :
    p.Outlasts tide started w₀ (p.budgeted limit p.repeats) := by
  have hsamples : ∀ h turn w, Course (OnTide tide) (.start p started) w₀ h turn w →
      ∃ h' turn' w',
        Course (OnTide tide) (.start (p.budgeted limit p.repeats) started) w₀ h' turn' w' ∧
          (transcript h').samples = (transcript h).samples := by
    intro h turn w hc
    obtain ⟨turn', w', hp⟩ | ⟨h', turn₁, turn₁', w₁, w₁', hp, rfl, -⟩ :=
      hc.exists_longer htime hlimit
    · exact ⟨h, turn', w', hp.course', rfl⟩
    · exact ⟨h', turn₁', w₁', hp.course', by rw [transcript_concat_looked]⟩
  refine ⟨hsamples, ?_, ?_, ?_⟩
  · intro h h' turn w r' ending' w' hc hc'
    obtain ⟨h₁, turn₁, w₁, hc₁, hsame⟩ := hsamples h turn w hc
    obtain ⟨rest, rfl⟩ := hc₁.prefix_of_over (onTide_unique tide) hc'
    rw [← hsame, transcript_append_samples]
    exact List.prefix_append _ _
  · intro hmode h r w hc
    obtain ⟨turn', w', hp⟩ | ⟨-, -, -, -, -, -, -, -, r', cause, elapsed, hturn, hcause⟩ :=
      hc.exists_longer htime hlimit
    · obtain ⟨r', rfl⟩ := hp.kin.eq_over
      refine ⟨⟨r', w', hp.course', hp.level.clock.symm⟩, fun h' r₁ ending' w₁ hc' ↦ ?_⟩
      obtain ⟨rfl, -, rfl, rfl⟩ := hp.course'.eq_of_over (onTide_unique tide) hc'
      exact ⟨rfl, rfl, hp.level.clock.symm⟩
    · -- the end of the time is a failure
      rw [hmode] at hcause
      obtain rfl := Option.some.inj hcause
      cases (Turn.over.inj hturn).2
  · intro hmode h' r' w' hc'
    have hheld : ∃ h r w, Course (OnTide tide) (.start p started) w₀ h (.over r none) w := by
      obtain ⟨turn, w, hp⟩ | ⟨h, turn, w, hc, r, cause, elapsed, rfl, hcause⟩ :=
        hc'.exists_shorter htime hlimit
      · obtain ⟨r, rfl⟩ := hp.kin.eq_over_right
        exact ⟨h', r, w, hp.course⟩
      · rw [hmode] at hcause
        obtain rfl := Option.some.inj hcause
        exact ⟨_, r, w, hc⟩
    refine ⟨hheld, fun h r ending w hc ↦ ?_⟩
    obtain ⟨h₁, r₁, w₁, hc₁⟩ := hheld
    exact (hc₁.eq_of_over (onTide_unique tide) hc).2.2.1

theorem Plan.holdsSooner_of_le (htime : p.time = .runtime epoch) (hmode : p.mode = .eventually)
    {count : Nat} (hcount : count ≤ p.repeats) :
    p.HoldsSooner tide started w₀ (p.budgeted p.timeout count) := by
  intro h r w hc
  have hheld : ∃ h' r' w', Course (OnTide tide) (.start (p.budgeted p.timeout count) started) w₀ h'
      (.over r' none) w' ∧ h' <+: h := by
    obtain ⟨turn', w', hp⟩ | hheld := hc.exists_fewer htime hmode hcount
    · obtain ⟨r', rfl⟩ := hp.kin.eq_over
      exact ⟨h, r', w', hp.course', List.prefix_rfl⟩
    · exact hheld
  refine ⟨hheld, fun h' r' ending' w' hc' ↦ ?_⟩
  obtain ⟨h₁, r₁, w₁, hc₁, hprefix⟩ := hheld
  obtain ⟨rfl, -, rfl, -⟩ := hc₁.eq_of_over (onTide_unique tide) hc'
  obtain ⟨rest, rfl⟩ := hprefix
  rw [transcript_append_samples]
  exact ⟨rfl, List.prefix_append _ _⟩

/-- **More time and fewer repeats**: what holds of a run in a tide when its limit is raised or the
count of passing samples is lowered. -/
theorem Plan.monotone (p : Plan σ α) (htime : p.time = .runtime epoch) (tide : Tide σ)
    (started : Duration) (w₀ : World σ) :
    (∀ limit, p.timeout ≤ limit → p.Outlasts tide started w₀ (p.budgeted limit p.repeats)) ∧
      (p.mode = .eventually → ∀ count ≤ p.repeats,
        p.HoldsSooner tide started w₀ (p.budgeted p.timeout count)) :=
  ⟨fun _ hlimit ↦ outlasts_of_le htime hlimit, fun hmode _ hcount ↦
    holdsSooner_of_le htime hmode hcount⟩

/-- At the second sample `eventually` holds, without a deadline too. Who has watched for twenty-five
milliseconds has watched for twenty. Two passing samples in a row are one passing sample. -/
theorem Plan.monotone_counting :
    (∃ h r w r' w',
      Course (OnTide .still) (.start (.counting .eventually 2) (.ofMillis 1))
        ⟨0, .ofMillis 1, []⟩ h (.over r none) w ∧ (transcript h).samples.length = 2 ∧
      (Duration.ofMillis 1).checkedAdd? .greatest = none ∧
      Course (OnTide .still) (.start ((counting .eventually 2).budgeted .greatest 1) (.ofMillis 1))
        ⟨0, .ofMillis 1, []⟩ h (.over r' none) w' ∧ w'.clock = w.clock) ∧
    (∃ h r w,
      Course (OnTide .still) (.start (.counting .consistently 0) .zero) ⟨0, .zero, []⟩ h
        (.over r none) w) ∧
    ∃ h r w h' r' w',
      Course (OnTide .still) (.start ((counting .eventually 2).budgeted (.ofMillis 40) 2) .zero)
        ⟨0, .zero, []⟩ h (.over r none) w ∧ (transcript h).samples.length = 3 ∧
      Course (OnTide .still) (.start ((counting .eventually 2).budgeted (.ofMillis 40) 1) .zero)
        ⟨0, .zero, []⟩ h' (.over r' none) w' ∧ h' <+: h := by
  refine ⟨?_, ?_, ?_⟩
  · obtain ⟨h, r, w, hc, hlength⟩ : ∃ h r w,
        Course (OnTide .still) (.start (.counting .eventually 2) (.ofMillis 1))
          ⟨0, .ofMillis 1, []⟩ h (.over r none) w ∧ (transcript h).samples.length = 2 :=
      ⟨_, _, _, .step (.step (.step (.step .start rfl .ready (.sampled rfl rfl rfl))
        rfl .ready (.looked rfl rfl rfl))
        rfl (.pending (Tide.isNext_still rfl (by decide))) (.looked rfl rfl rfl))
        rfl .ready (.sampled rfl rfl rfl), rfl⟩
    obtain ⟨r', w', hc', hclock⟩ := (((monotone (.counting .eventually 2) rfl .still (.ofMillis 1)
      ⟨0, .ofMillis 1, []⟩).1 .greatest (by decide)).eventually_held rfl h r w hc).1
    exact ⟨h, r, w, r', w', hc, hlength, by decide, hc', hclock⟩
  · obtain ⟨h', r', w', hc'⟩ : ∃ h' r' w',
        Course (OnTide .still) (.start ((counting .consistently 0).budgeted (.ofMillis 25) 1) .zero)
          ⟨0, .zero, []⟩ h' (.over r' none) w' :=
      ⟨_, _, _, .step (.step (.step (.step (.step (.step (.step (.step (.step .start
        rfl .ready (.sampled rfl rfl rfl)) rfl .ready (.looked rfl rfl rfl))
        rfl (.pending (Tide.isNext_still rfl (by decide))) (.looked rfl rfl rfl))
        rfl .ready (.sampled rfl rfl rfl)) rfl .ready (.looked rfl rfl rfl))
        rfl (.pending (Tide.isNext_still rfl (by decide))) (.looked rfl rfl rfl))
        rfl .ready (.sampled rfl rfl rfl)) rfl .ready (.looked rfl rfl rfl))
        rfl (.pending (Tide.isNext_still rfl (by decide))) (.looked rfl rfl rfl)⟩
    exact (((monotone (.counting .consistently 0) rfl .still .zero ⟨0, .zero, []⟩).1
      (.ofMillis 25) (by decide)).consistently_held rfl h' r' w' hc').1
  · obtain ⟨h, r, w, hc, hlength⟩ : ∃ h r w,
        Course (OnTide .still) (.start ((counting .eventually 2).budgeted (.ofMillis 40) 2) .zero)
          ⟨0, .zero, []⟩ h (.over r none) w ∧ (transcript h).samples.length = 3 :=
      ⟨_, _, _, .step (.step (.step (.step (.step (.step (.step .start
        rfl .ready (.sampled rfl rfl rfl)) rfl .ready (.looked rfl rfl rfl))
        rfl (.pending (Tide.isNext_still rfl (by decide))) (.looked rfl rfl rfl))
        rfl .ready (.sampled rfl rfl rfl)) rfl .ready (.looked rfl rfl rfl))
        rfl (.pending (Tide.isNext_still rfl (by decide))) (.looked rfl rfl rfl))
        rfl .ready (.sampled rfl rfl rfl), rfl⟩
    obtain ⟨h', r', w', hc', hprefix⟩ :=
      ((monotone ((counting .eventually 2).budgeted (.ofMillis 40) 2) rfl .still .zero
        ⟨0, .zero, []⟩).2 rfl 1 (by decide) h r w hc).1
    exact ⟨h, r, w, h', r', w', hc, hlength, hc', hprefix⟩

end Verdicts

end PollAssert
