import PollAssert.Proofs.Run.Alike
import PollAssert.Proofs.Run.Cancellation
import PollAssert.Proofs.Run.Requests
import PollAssert.Proofs.Run.Tide

/-!
# Kindred runs: one assertion on two clocks

Two runs are **kindred** if they poll the same values for the same verdict and have come equally
far. They may have different budgets and take their time from different sources, so they may hold
different timers for their deadlines; how these have to be related is a parameter here (`Run.Kin`).

Two kindred runs that read the same time since their start and get the same timers for their sleeps
do the same on a step (`Kin.traced_of_sampling`, `Kin.traced_of_waiting`), as long as their budgets
have no say in it: the ruling on the sample is the same, or the timers of both deadlines have gone
off or neither has. One difference is left out of account. A source that has no way of its own to
wait for an instant starts a sleep for it, so the worlds are compared without the notices of sleeps
(`World.Level`).
-/

namespace PollAssert

variable {σ α β : Type}

/-! ### Level worlds -/

/-- The notices that are not of sleeps. -/
def Notice.besidesSleeps (notices : List Notice) : List Notice := notices.filter (·.slept?.isNone)

@[simp] theorem Notice.besidesSleeps_cons_slept (length : Duration) (notices : List Notice) :
    besidesSleeps (.slept length :: notices) = besidesSleeps notices := rfl

@[simp] theorem Notice.besidesSleeps_cons_logged (entry : LogEntry) (notices : List Notice) :
    besidesSleeps (.logged entry :: notices) = .logged entry :: besidesSleeps notices := rfl

/-- The worlds are the same but for the sleeps that have been started. -/
structure World.Level (w w' : World σ) : Prop where
  user : w.user = w'.user
  clock : w.clock = w'.clock
  notices : Notice.besidesSleeps w.notices = Notice.besidesSleeps w'.notices

namespace World

variable {w w' : World σ} {clock : Duration}

@[simp] theorem Level.refl (w : World σ) : Level w w := ⟨rfl, rfl, rfl⟩

/-- A tide carries level worlds to level worlds. -/
theorem Level.carry (hw : Level w w') (tide : Tide σ) (instant : Duration) :
    Level (tide.carry w instant) (tide.carry w' instant) := by
  refine ⟨?_, rfl, hw.notices⟩
  show (tide instant).elim w.user (· w.user) = (tide instant).elim w'.user (· w'.user)
  rw [hw.user]

/-- A token that is cancelled in the one is cancelled in the other. -/
theorem Level.isCancelled_eq {p p' : Plan σ α} (hw : Level w w') (htoken : p.token = p'.token) :
    p.isCancelled w = p'.isCancelled w' := by
  rw [Plan.isCancelled, Plan.isCancelled, htoken, hw.user]

/-- The worlds are level, and the clock stands at this instant. -/
structure LevelAt (instant : Duration) (w w' : World σ) : Prop extends Level w w' where
  at_clock : w.clock = instant

theorem Level.at (hw : Level w w') : LevelAt w.clock w w' := ⟨hw, rfl⟩

theorem LevelAt.at_clock' (hw : LevelAt clock w w') : w'.clock = clock :=
  hw.clock.symm.trans hw.at_clock

theorem LevelAt.log (hw : LevelAt clock w w') (entry : LogEntry) :
    LevelAt clock { w with notices := .logged entry :: w.notices }
      { w' with notices := .logged entry :: w'.notices } := by
  refine ⟨⟨hw.user, hw.clock, ?_⟩, hw.at_clock⟩
  rw [Notice.besidesSleeps_cons_logged, Notice.besidesSleeps_cons_logged, hw.notices]

theorem alike_log (clock : Duration) (entry : LogEntry) :
    Effect.Alike (LevelAt clock) Eq (Engine.log entry : Engine σ Unit) (Engine.log entry) :=
  fun _ _ hw ↦ .returned rfl (hw.log entry)

theorem alike_slept (clock length : Duration) :
    Effect.Alike (LevelAt clock) Eq (Engine.note (.slept length) : Engine σ Unit)
      (Engine.note (.slept length)) :=
  fun _ _ hw ↦ .returned rfl ⟨⟨hw.user, hw.clock, hw.notices⟩, hw.at_clock⟩

end World

/-! ### Kindred runs -/

/-- The two plans poll the same values for the same verdict. Budgets and sources of time may
differ. -/
structure Plan.Kin (p p' : Plan σ α) : Prop where
  mode : p.mode = p'.mode
  polling : p.polling = p'.polling
  token : p.token = p'.token
  source : p.source = p'.source
  matcher : p.matcher = p'.matcher
  desired : p.desired = p'.desired
  description : p.description = p'.description

/-- The two phases differ at most in the timers for the deadlines, which are related by `T` of the
tick and the two. -/
inductive Phase.Kin (T : Timer → Timer → Timer → Prop) : Phase → Phase → Prop
  | sampling : Phase.Kin T .sampling .sampling
  | waiting {tick : Timer} {deadline deadline' : Option Timer}
      (hdeadline : Option.Rel (T tick) deadline deadline') :
      Phase.Kin T (.waiting tick deadline) (.waiting tick deadline')

theorem Phase.Kin.eq_sampling {T : Timer → Timer → Timer → Prop} {phase : Phase}
    (h : Phase.Kin T .sampling phase) : phase = .sampling := by
  cases h
  rfl

theorem Phase.Kin.exists_waiting {T : Timer → Timer → Timer → Prop} {tick : Timer}
    {deadline : Option Timer} {phase : Phase} (h : Phase.Kin T (.waiting tick deadline) phase) :
    ∃ deadline', phase = .waiting tick deadline' ∧ Option.Rel (T tick) deadline deadline' := by
  cases h with
  | waiting hdeadline => exact ⟨_, rfl, hdeadline⟩

/-- The two runs have come equally far. -/
structure Run.Kin (T : Timer → Timer → Timer → Prop) (r r' : Run σ α) : Prop where
  plan : r.plan.Kin r'.plan
  samples : r.samples = r'.samples
  latest : r.latest = r'.latest
  requestedDelay : r.requestedDelay = r'.requestedDelay
  passes : r.passes = r'.passes
  phase : Phase.Kin T r.phase r'.phase

/-- The two runs stand equally after a step. -/
inductive Turn.Kin (T : Timer → Timer → Timer → Prop) : Turn σ α → Turn σ α → Prop
  | ready {r r' : Run σ α} (hr : Run.Kin T r r') : Turn.Kin T (.ready r) (.ready r')
  | pending {r r' : Run σ α} (hr : Run.Kin T r r') : Turn.Kin T (.pending r) (.pending r')
  | over {r r' : Run σ α} {ending : Option Ending} (hr : Run.Kin T r r') :
      Turn.Kin T (.over r ending) (.over r' ending)

/-- The same has happened on the two steps, and the runs stand equally after them. -/
def Turn.SameStep (T : Timer → Timer → Timer → Prop) (x x' : Run.Event α × Turn σ α) : Prop :=
  x.1 = x'.1 ∧ Turn.Kin T x.2 x'.2

/-- At this instant the two runs read the same time since their start, and get the same timers for
their sleeps. -/
structure Run.SameTime (clock : Duration) (r r' : Run σ α) : Prop where
  elapsed : ∀ view : View σ, view.clock = clock → r.elapsed view = r'.elapsed view
  sleep : ∀ (d : Duration) (view : View σ), view.clock = clock →
    r.plan.time.sleep d view = r'.plan.time.sleep d view

variable {T : Timer → Timer → Timer → Prop}

theorem Turn.Kin.run {turn turn' : Turn σ α} (hturn : Turn.Kin T turn turn') :
    Run.Kin T turn.run turn'.run := by
  cases hturn <;> assumption

theorem Turn.Kin.exists_run? {turn turn' : Turn σ α} (hturn : Turn.Kin T turn turn')
    {r : Run σ α} (hrun : turn.run? = some r) :
    ∃ r', turn'.run? = some r' ∧ Run.Kin T r r' := by
  rcases hturn with hr | hr | hr
  · obtain rfl := Option.some.inj hrun
    exact ⟨_, rfl, hr⟩
  · obtain rfl := Option.some.inj hrun
    exact ⟨_, rfl, hr⟩
  · cases hrun

theorem Turn.Kin.exists_run?_right {turn turn' : Turn σ α} (hturn : Turn.Kin T turn turn')
    {r' : Run σ α} (hrun : turn'.run? = some r') :
    ∃ r, turn.run? = some r ∧ Run.Kin T r r' := by
  rcases hturn with hr | hr | hr
  · obtain rfl := Option.some.inj hrun
    exact ⟨_, rfl, hr⟩
  · obtain rfl := Option.some.inj hrun
    exact ⟨_, rfl, hr⟩
  · cases hrun

theorem Turn.Kin.of_run? {turn turn' : Turn σ α} (hturn : Turn.Kin T turn turn') {r r' : Run σ α}
    (hrun : turn.run? = some r) (hrun' : turn'.run? = some r') : Run.Kin T r r' := by
  obtain ⟨r'', hrun'', hr⟩ := hturn.exists_run? hrun
  rw [hrun'] at hrun''
  exact Option.some.inj hrun'' ▸ hr

theorem Turn.Kin.eq_over {r : Run σ α} {ending : Option Ending} {turn' : Turn σ α}
    (hturn : Turn.Kin T (.over r ending) turn') : ∃ r', turn' = .over r' ending := by
  cases hturn
  exact ⟨_, rfl⟩

theorem Turn.Kin.eq_over_right {turn : Turn σ α} {r' : Run σ α} {ending : Option Ending}
    (hturn : Turn.Kin T turn (.over r' ending)) : ∃ r, turn = .over r ending := by
  cases hturn
  exact ⟨_, rfl⟩

namespace Run

variable {r r' : Run σ α} {clock : Duration}

namespace Kin

theorem start {p p' : Plan σ α} (hp : p.Kin p') (started started' : Duration) :
    Run.Kin T (.start p started) (.start p' started') :=
  ⟨hp, rfl, rfl, rfl, rfl, .sampling⟩

theorem snapshot_eq (hr : Run.Kin T r r') (ht : SameTime clock r r') {free : View σ}
    (hfree : free.clock = clock) (held : View σ) :
    r.snapshot free held = r'.snapshot free held := by
  rw [snapshot, snapshot, ht.elapsed free hfree, detail, detail, hr.latest, hr.samples,
    hr.plan.mode, hr.plan.desired, hr.plan.matcher, hr.plan.description]

theorem heldReport_eq (ht : SameTime clock r r') : r.heldReport clock = r'.heldReport clock := by
  funext room
  induction room with
  | zero => rfl
  | succ room ih => rw [heldReport, heldReport, ih, ht.elapsed _ rfl]

/-- The report of both is the same while they read the same time. -/
theorem report_eq (hr : Run.Kin T r r') (ht : SameTime clock r r') :
    r.report clock = r'.report clock := by
  funext room
  induction room with
  | zero => rfl
  | succ room ih => rw [report, report, ih, heldReport_eq ht, hr.snapshot_eq ht rfl]

/-- The message of both is the same. -/
theorem failureMessage_eq (hr : Run.Kin T r r') (ending : Ending) :
    r.failureMessage ending = r'.failureMessage ending := by
  rw [failureMessage, failureMessage, detail, detail, hr.latest, hr.plan.mode, hr.plan.desired,
    hr.plan.matcher, hr.plan.description]

theorem publish (hr : Run.Kin T r r') (s : Sample α) (capturedAt : Duration) :
    Run.Kin T (r.publish s capturedAt) (r'.publish s capturedAt) :=
  ⟨hr.plan, congrArg (· + 1) hr.samples, rfl, rfl, hr.passes, hr.phase⟩

/-- User code that both call does the same. -/
theorem alike_call (hr : Run.Kin T r r') (ht : SameTime clock r r') {act act' : Action σ β}
    (hact : ∀ view : View σ, view.clock = clock → act view = act' view) :
    Effect.Alike (World.LevelAt clock) Eq (r.call act) (r'.call act') := by
  intro w w' hw
  rw [r.call_apply, r'.call_apply, hw.at_clock, hw.at_clock', hr.report_eq ht, hw.user,
    hact _ rfl]
  rcases act' ⟨clock, some (r'.report clock)⟩ w'.user with ⟨p | b, user⟩
  · exact .halted ⟨⟨rfl, rfl, hw.notices⟩, rfl⟩
  · exact .returned rfl ⟨⟨rfl, rfl, hw.notices⟩, rfl⟩

theorem alike_elapsed (hr : Run.Kin T r r') (ht : SameTime clock r r') :
    Effect.Alike (World.LevelAt clock) Eq (r.call r.elapsed) (r'.call r'.elapsed) :=
  hr.alike_call ht ht.elapsed

/-! ### Sampling -/

theorem alike_observe (hr : Run.Kin T r r') (ht : SameTime clock r r') :
    Effect.Alike (World.LevelAt clock) Eq r.observe r'.observe := by
  rw [observe, observe, hr.plan.source, hr.plan.matcher]
  exact hr.alike_call ht fun _ _ ↦ rfl

theorem alike_record (hr : Run.Kin T r r') (ht : SameTime clock r r') (o : Observation α) :
    Effect.Alike (World.LevelAt clock) (fun r₁ r₁' ↦ ∃ capturedAt,
      r₁ = r.publish o.sample capturedAt ∧ r₁' = r'.publish o.sample capturedAt)
      (r.record o) (r'.record o) := by
  refine Run.alike_record (hr.alike_elapsed ht)
    (fun capturedAt ↦ (hr.publish o.sample capturedAt).alike_elapsed ⟨ht.elapsed, ht.sleep⟩)
    fun logged ↦ ?_
  rw [hr.plan.mode, hr.samples, hr.plan.desired]
  exact World.alike_log clock _

theorem alike_finish (hr : Run.Kin T r r') (ht : SameTime clock r r') (cause : Cause) :
    Effect.Alike (World.LevelAt clock) (Turn.Kin T) (r.finish cause) (r'.finish cause) := by
  refine (Run.alike_finish (hr.alike_elapsed ht) (World.alike_log clock) hr.plan.mode hr.samples
    cause).mono ?_
  rintro _ _ ⟨ending, rfl, rfl⟩
  exact .over hr

theorem alike_startWaiting (hr : Run.Kin T r r') (ht : SameTime clock r r') :
    Effect.Alike (World.LevelAt clock) (Run.Kin T) r.startWaiting r'.startWaiting := by
  have hinterval : r.interval = r'.interval := by
    rw [interval, interval, hr.requestedDelay, hr.plan.polling]
  have hused : Run.Kin T { r with requestedDelay := none } { r' with requestedDelay := none } :=
    ⟨hr.plan, hr.samples, hr.latest, rfl, hr.passes, hr.phase⟩
  have hsleep : Effect.Alike (World.LevelAt clock) Eq
      (({ r with requestedDelay := none } : Run σ α).sleep r.interval)
      (({ r' with requestedDelay := none } : Run σ α).sleep r'.interval) := by
    rw [hinterval]
    exact (World.alike_slept clock r'.interval).bind fun _ _ _ ↦
      hused.alike_call ⟨ht.elapsed, ht.sleep⟩ (ht.sleep r'.interval)
  refine hsleep.bind ?_
  rintro tick _ rfl
  exact .pure ⟨hr.plan, hr.samples, hr.latest, rfl, hr.passes, .waiting .none⟩

/-- After the same observation both go on alike, if they get the same ruling. -/
theorem alike_goBy (hr : Run.Kin T r r') (ht : SameTime clock r r') (o : Observation α)
    (hrule : r.plan.mode.rule r.plan.repeats r.passes (o.reading r.plan.desired) =
      r'.plan.mode.rule r'.plan.repeats r'.passes (o.reading r'.plan.desired)) :
    Effect.Alike (World.LevelAt clock) (Turn.Kin T) (r.goBy o) (r'.goBy o) := by
  refine Run.alike_goBy (hr.alike_record ht o) hrule (fun capturedAt cause ↦ ?_)
    fun capturedAt passes ↦ ?_
  · exact (hr.publish o.sample capturedAt).alike_finish ⟨ht.elapsed, ht.sleep⟩ cause
  · have hpublished := hr.publish o.sample capturedAt
    have hcounted : Run.Kin T { r.publish o.sample capturedAt with passes := passes }
        { r'.publish o.sample capturedAt with passes := passes } :=
      ⟨hpublished.plan, hpublished.samples, rfl, hpublished.requestedDelay, rfl, hpublished.phase⟩
    exact (hcounted.alike_startWaiting ⟨ht.elapsed, ht.sleep⟩).mono fun _ _ h ↦ .ready h

/-- **Both take the same sample and do the same about it**, if they ask for equally many. -/
theorem traced_of_sampling (hr : Run.Kin T r r') (ht : SameTime clock r r')
    (hphase : r.phase = .sampling) (hrepeats : r.plan.repeats = r'.plan.repeats) :
    Effect.Alike (World.LevelAt clock) (Turn.SameStep T) r.traced r'.traced := by
  have hphase' : r'.phase = .sampling := (hphase ▸ hr.phase).eq_sampling
  rw [Run.traced_of_sampling hphase, Run.traced_of_sampling hphase']
  refine (hr.alike_observe ht).bind ?_
  rintro o _ rfl
  refine (hr.alike_goBy ht o ?_).map fun _ _ h ↦ ⟨rfl, h⟩
  rw [hr.plan.mode, hrepeats, hr.passes, hr.plan.desired]

/-! ### Waiting -/

/-- **Both find the same and do the same about it**, if the timers of both deadlines have gone off
or neither has. A token that has been cancelled comes before them. -/
theorem traced_of_waiting (hr : Run.Kin T r r') (ht : SameTime clock r r') {tick : Timer}
    {deadline deadline' : Option Timer} (hphase : r.phase = .waiting tick deadline)
    (hphase' : r'.phase = .waiting tick deadline') {u u' : World σ}
    (hu : World.LevelAt clock u u')
    (htimers : r.plan.isCancelled u = false → ∃ timer timer' u₁ u₁',
      r.deadlineTimer deadline u = (.ok timer, u₁) ∧
        r'.deadlineTimer deadline' u' = (.ok timer', u₁') ∧ World.LevelAt clock u₁ u₁' ∧
        timer.isDue clock = timer'.isDue clock ∧
        (timer.isDue clock = false → T tick timer timer')) :
    SameEnd (World.LevelAt clock) (Turn.SameStep T) (r.traced u) (r'.traced u') := by
  have hcancelled : r.plan.isCancelled u = r'.plan.isCancelled u' :=
    hu.isCancelled_eq hr.plan.token
  -- what both do about what they have found
  have hheed : ∀ (wake : Option Wake) (found found' : Option Timer),
      (wake = none → Option.Rel (T tick) found found') →
        Effect.Alike (World.LevelAt clock) (Turn.SameStep T)
          ((Event.looked wake, ·) <$> r.heed tick wake found)
          ((Event.looked wake, ·) <$> r'.heed tick wake found') := by
    intro wake found found' hfound
    have hheed : Effect.Alike (World.LevelAt clock) (Turn.Kin T) (r.heed tick wake found)
        (r'.heed tick wake found') :=
      Run.alike_heed hr.plan.mode (hr.alike_finish ht)
        (fun hwake ↦ .pending ⟨hr.plan, hr.samples, hr.latest, hr.requestedDelay, hr.passes,
          .waiting (hfound hwake)⟩)
        (.ready ⟨hr.plan, hr.samples, hr.latest, hr.requestedDelay, hr.passes, .sampling⟩)
    exact hheed.map fun _ _ h ↦ ⟨rfl, h⟩
  rw [Run.traced_of_waiting hphase, Run.traced_of_waiting hphase']
  rcases hc : r.plan.isCancelled u with - | -
  · obtain ⟨timer, timer', u₁, u₁', htimer, htimer', hu₁, hdue, hT⟩ := htimers hc
    have hwake : Wake.at? tick timer u₁.clock = Wake.at? tick timer' u₁'.clock := by
      rw [hu₁.at_clock, hu₁.at_clock', Wake.at?, Wake.at?, hdue]
    rw [Effect.bind_of_ok (look_of_deadlineTimer tick hc htimer),
      Effect.bind_of_ok (look_of_deadlineTimer tick (hcancelled ▸ hc) htimer'), hwake]
    refine hheed _ _ _ (fun hnone ↦ .some (hT ?_)) _ _ hu₁
    have hnotDue := (Wake.at?_eq_none_iff.1 hnone).1
    rw [hu₁.at_clock'] at hnotDue
    rw [hdue, hnotDue]
  · rw [Effect.bind_of_ok (look_of_isCancelled tick deadline hc),
      Effect.bind_of_ok (look_of_isCancelled tick deadline' (hcancelled ▸ hc))]
    exact hheed (some .cancelled) _ _ (by rintro ⟨⟩) _ _ hu

end Kin

/-! ### One step for both -/

section Steps

variable {u u' v v' : World σ} {e : Event α} {turn turn' : Turn σ α}

/-- If both come to the same and the one takes a step, so does the other. -/
theorem Steps.of_sameEnd (h : SameEnd (World.LevelAt clock) (Turn.SameStep T) (r.traced u)
    (r'.traced u')) (hs : r.Steps u e turn v) :
    ∃ turn' v', r'.Steps u' e turn' v' ∧ Turn.Kin T turn turn' ∧ World.Level v v' := by
  rw [steps_iff_traced.1 hs] at h
  obtain ⟨⟨e', turn'⟩, v', hend, ⟨rfl, hturn⟩, hv⟩ := h.exists_ok
  exact ⟨turn', v', steps_iff_traced.2 hend, hturn, hv.toLevel⟩

theorem Steps.of_sameEnd_right (h : SameEnd (World.LevelAt clock) (Turn.SameStep T) (r.traced u)
    (r'.traced u')) (hs : r'.Steps u' e turn' v') :
    ∃ turn v, r.Steps u e turn v ∧ Turn.Kin T turn turn' ∧ World.Level v v' := by
  rw [steps_iff_traced.1 hs] at h
  obtain ⟨⟨e', turn⟩, v, hend, ⟨rfl, hturn⟩, hv⟩ := h.exists_ok_left
  exact ⟨turn, v, steps_iff_traced.2 hend, hturn, hv.toLevel⟩

/-- A sample of the one is a sample of the other. What both do about it is another matter. -/
theorem Kin.of_sampled (hr : Run.Kin T r r') (ht : SameTime clock r r')
    (hu : World.LevelAt clock u u') {o : Observation α} (hs : r.Steps u (.sampled o) turn v) :
    r'.phase = .sampling ∧ ∃ u₁ u₁', World.LevelAt clock u₁ u₁' ∧
      r.goBy o u₁ = (.ok turn, v) ∧ r'.observe u' = (.ok o, u₁') := by
  obtain ⟨hphase, u₁, ho, hgo⟩ := hs.goBy_eq
  have hphase' : r'.phase = .sampling := (hphase ▸ hr.phase).eq_sampling
  have hend := hr.alike_observe ht u u' hu
  rw [ho] at hend
  obtain ⟨_, u₁', ho', rfl, hu₁⟩ := hend.exists_ok
  exact ⟨hphase', u₁, u₁', hu₁, hgo, ho'⟩

end Steps

/-! ### Two runs together -/

/-- The two runs have the same history, and have come equally far in worlds that are level. -/
structure Together (T : Timer → Timer → Timer → Prop)
    (between : Turn σ α → World σ → World σ → Prop) (r₀ r₀' : Run σ α) (w₀ : World σ)
    (h : List (Event α)) (turn turn' : Turn σ α) (w w' : World σ) : Prop where
  course : Course between r₀ w₀ h turn w
  course' : Course between r₀' w₀ h turn' w'
  kin : Turn.Kin T turn turn'
  level : World.Level w w'

namespace Together

variable {between : Turn σ α → World σ → World σ → Prop} {r₀ r₀' : Run σ α}
  {w₀ w w' u u' v v' : World σ} {h : List (Event α)} {e : Event α}
  {turn turn' next next' : Turn σ α}

theorem start {p p' : Plan σ α} (hp : p.Kin p') (started started' : Duration) :
    Together T between (.start p started) (.start p' started') w₀ [] (.ready (.start p started))
      (.ready (.start p' started')) w₀ w₀ :=
  ⟨.start, .start, .ready (.start hp started started'), .refl w₀⟩

variable (hp : Together T between r₀ r₀' w₀ h turn turn' w w') (hrun : turn.run? = some r)
  (hrun' : turn'.run? = some r') (hbetween : between turn w u) (hbetween' : between turn' w' u')
  (hsame : SameEnd (World.LevelAt clock) (Turn.SameStep T) (r.traced u) (r'.traced u'))

include hp hrun hrun' hbetween hbetween' hsame

/-- The same step keeps the two together. -/
theorem concat (hsteps : r.Steps u e next v) :
    ∃ next' v', Together T between r₀ r₀' w₀ (h ++ [e]) next next' v v' := by
  obtain ⟨next', v', hsteps', hkin, hlevel⟩ := hsteps.of_sameEnd hsame
  exact ⟨next', v', hp.course.step hrun hbetween hsteps, hp.course'.step hrun' hbetween' hsteps',
    hkin, hlevel⟩

theorem concat_right (hsteps' : r'.Steps u' e next' v') :
    ∃ next v, Together T between r₀ r₀' w₀ (h ++ [e]) next next' v v' := by
  obtain ⟨next, v, hsteps, hkin, hlevel⟩ := hsteps'.of_sameEnd_right hsame
  exact ⟨next, v, hp.course.step hrun hbetween hsteps, hp.course'.step hrun' hbetween' hsteps',
    hkin, hlevel⟩

end Together

end Run

end PollAssert
