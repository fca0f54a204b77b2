import PollAssert.Proofs.Run.Cancellation

/-!
# A bounded budget bounds the run

On the runtime's clock a sleep that has any length at all ends in a later millisecond than it
started in, and a sample is only taken while the deadline lies ahead. So every sample but those that
ask to be tried again **at once** uses up one of the milliseconds of the time limit, whatever the
delays, and there are no more samples than milliseconds and such requests together.

`Paced` is the invariant behind this: how many whole milliseconds have gone by at least. Nothing is
assumed of the surroundings but that the clock is not turned back; in particular the token may be
cancelled at any moment. How many steps a run takes depends on how often it is looked at in vain.
Surroundings that are `Wakeful` look again only when there is something to be found.
-/

namespace PollAssert

open VirtualClock

variable {σ α : Type}

/-- How many of the samples ask to be tried again without any delay. -/
def retriesAtOnce (os : List (Observation α)) : Nat :=
  os.countP fun o ↦ decide (o.retryDelay? = some .zero)

theorem retriesAtOnce_concat (os : List (Observation α)) (o : Observation α) :
    retriesAtOnce (os ++ [o]) =
      retriesAtOnce os + if o.retryDelay? = some .zero then 1 else 0 := by
  simp [retriesAtOnce, List.countP_append, List.countP_singleton]

/-- There is no other way to have no delay at all, for the polling interval is some time. -/
theorem Plan.retryDelay?_of_delayAfter {p : Plan σ α} (hpolling : 0 < p.polling.nanos)
    {o : Observation α} (h : (p.delayAfter o).nanos = 0) : o.retryDelay? = some .zero := by
  rw [delayAfter] at h
  cases hdelay : o.retryDelay? with
  | none =>
    rw [hdelay, Option.getD_none] at h
    omega
  | some delay =>
    rw [hdelay, Option.getD_some] at h
    exact congrArg some (Duration.ext h)

namespace Run

variable {between : Turn σ α → World σ → World σ → Prop} {p : Plan σ α} {r : Run σ α}
  {started epoch : Duration} {w₀ w u v z : World σ} {h : List (Event α)} {turn turn' : Turn σ α}
  {os : List (Observation α)}

/-! ### Milliseconds that have gone by -/

/-- How a run stands that has taken the samples `os`: at least `n` whole milliseconds have gone by
at its next sample, and every sample has taken one of them or asked to be tried again at once. -/
inductive Paced (p : Plan σ α) (w₀ : World σ) (os : List (Observation α)) :
    Turn σ α → World σ → Prop
  /-- It is about to sample, before its deadline. -/
  | sampling {r : Run σ α} {w : World σ} {n : Nat} (hphase : r.phase = .sampling)
      (hclock : instantAfter w₀ n ≤ w.clock.nanos) (hlt : n < p.limitMillis)
      (hlength : os.length ≤ n + retriesAtOnce os) : Paced p w₀ os (.ready r) w
  /-- It waits. -/
  | waiting {turn : Turn σ α} {r : Run σ α} {w : World σ} {tick : Timer}
      {deadline : Option Timer} {n : Nat} (hrun : turn.run? = some r)
      (hphase : r.phase = .waiting tick deadline) (htick : tick.NotBefore (instantAfter w₀ n))
      (hle : n ≤ p.limitMillis) (hlength : os.length ≤ n + retriesAtOnce os) :
      Paced p w₀ os turn w
  /-- It is over. -/
  | ended {r : Run σ α} {ending : Option Ending} {w : World σ}
      (hlength : os.length ≤ p.limitMillis + retriesAtOnce os) :
      Paced p w₀ os (.over r ending) w

namespace Paced

theorem length_le (ht : Paced p w₀ os turn w) : os.length ≤ p.limitMillis + retriesAtOnce os := by
  cases ht with
  | sampling _ _ hlt hlength => omega
  | waiting _ _ _ hle hlength => omega
  | ended hlength => exact hlength

/-- A sample takes a millisecond if the delay after it is any time at all. -/
theorem of_sampled (hs : p.RunsOnClock epoch started w₀) (hpolling : 0 < p.polling.nanos)
    (ht : Paced p w₀ os turn w) (hrun : turn.run? = some r) (hplan : r.plan = p)
    (hle : w.clock ≤ u.clock) {o : Observation α} (hsteps : r.Steps u (.sampled o) turn' v) :
    Paced p w₀ (os ++ [o]) turn' v := by
  obtain ⟨hphase, u', hobserve, hgo⟩ := hsteps.goBy_eq
  have hclock' : u'.clock = u.clock :=
    (r.keeps_call_of_foreign (I := (World.clock · = u.clock)) (fun _ _ hw ↦ hw) _).of_ok rfl
      hobserve
  cases ht with
  | ended => cases hrun
  | waiting hrun' hphase' =>
    obtain rfl := Option.some.inj (hrun.symm.trans hrun')
    rw [hphase] at hphase'
    cases hphase'
  | @sampling _ _ n _ hclock hlt hlength =>
    have hretries := retriesAtOnce_concat os o
    have hlength' : (os ++ [o]).length = os.length + 1 := by simp
    cases hsteps.leads with
    | decided =>
      refine .ended ?_
      omega
    | waits =>
      have htick := phase_of_goBy (hplan ▸ hs.time) hgo
      rw [hplan, hclock'] at htick
      obtain ⟨m, hm⟩ := hs.exists_millis
      have hnow : (m + n) * nanosPerMilli ≤ u.clock.nanos := hm n ▸ hclock.trans hle
      have hbefore := Timer.notBefore_timerAfter (d := p.delayAfter o) hnow
      by_cases hzero : (p.delayAfter o).nanos = 0
      · rw [if_pos hzero, ← hm] at hbefore
        rw [if_pos (p.retryDelay?_of_delayAfter hpolling hzero)] at hretries
        exact .waiting rfl htick hbefore hlt.le (by omega)
      · rw [if_neg hzero, Nat.add_assoc, ← hm] at hbefore
        exact .waiting rfl htick hbefore hlt (by omega)

/-- A look lets the run sample only before the deadline, and only when the tick has gone off. -/
theorem of_looked (hs : p.RunsOnClock epoch started w₀) (ht : Paced p w₀ os turn w)
    (hc : Course between (.start p started) w₀ h turn w) (hrun : turn.run? = some r)
    {wake : Option Wake} (hsteps : r.Steps u (.looked wake) turn' v) : Paced p w₀ os turn' v := by
  obtain ⟨tick, deadline, hphase, hwake⟩ := hc.wake_of_looked hs.time hrun hsteps
  have hbound := ht.length_le
  cases ht with
  | ended => cases hrun
  | sampling hphase' =>
    obtain rfl := Option.some.inj hrun
    rw [hphase] at hphase'
    cases hphase'
  | @waiting _ _ _ _ _ n hrun' hphase' htick hle hlength =>
    obtain rfl := Option.some.inj (hrun.symm.trans hrun')
    obtain ⟨rfl, rfl⟩ := Phase.waiting.inj (hphase.symm.trans hphase')
    cases hsteps.leads with
    | woken => exact .ended hbound
    | pends hphase'' =>
      obtain ⟨rfl, -⟩ := Phase.waiting.inj (hphase.symm.trans hphase'')
      exact .waiting rfl rfl htick hle hlength
    | resumes hcause =>
      obtain rfl := Mode.causeOfWake?_eq_none_iff.1 hcause
      obtain hwake | hwake := hwake
      · cases hwake
      obtain ⟨hahead, hdue⟩ := Wake.at?_eq_tick_iff.1 hwake.symm
      rw [hs.wakeUp_eq, hs.isDue_deadline, decide_eq_false_iff_not] at hahead
      have hnow := htick u.clock hdue
      refine .sampling rfl (hsteps.clock_eq ▸ hnow) ?_ hlength
      refine Nat.lt_of_not_le fun hlimit ↦ hahead ?_
      exact (instantAfter_le_iff.2 hlimit).trans hnow

end Paced

/-- **Every course is paced**, if the clock is not turned back. -/
theorem Course.paced (hs : p.RunsOnClock epoch started w₀) (hpolling : 0 < p.polling.nanos)
    (hforward : ∀ turn w u, between turn w u → w.clock ≤ u.clock)
    (hc : Course between (.start p started) w₀ h turn w) :
    Paced p w₀ (transcript h).samples turn w := by
  induction hc with
  | start =>
    have hnow : instantAfter w₀ 0 ≤ w₀.clock.nanos := by rw [instantAfter]; omega
    exact .sampling rfl hnow (ceilMillis_pos hs.timeout_pos) (Nat.zero_le _)
  | @step h turn turn' r w u v e hc hrun hbetween hsteps ih =>
    have hplan : r.plan = p := hc.plan_eq hrun
    cases e with
    | sampled o =>
      rw [transcript_concat_sampled]
      exact ih.of_sampled hs hpolling hrun hplan (hforward _ _ _ hbetween) hsteps
    | looked wake =>
      rw [transcript_concat_looked]
      exact ih.of_looked hs hc hrun hsteps

/-! ### Looks -/

/-- A run that waits is looked at again when one of its timers has gone off or its token has been
cancelled, and not before. -/
def Wakeful (between : Turn σ α → World σ → World σ → Prop) : Prop :=
  ∀ r w u, between (.pending r) w u →
    r.nextTimer.isDue u.clock = true ∨ r.plan.isCancelled u = true

/-- How many looks are left of the last wait, in wakeful surroundings. -/
def looksLeft : Turn σ α → Nat
  | .ready r => if r.phase = .sampling then 0 else 2
  | .pending _ => 1
  | .over _ _ => 0

theorem looksLeft_le (turn : Turn σ α) : looksLeft turn ≤ 2 := by
  rcases turn with r | r | ⟨r, ending⟩
  · rw [looksLeft]
    split_ifs <;> decide
  · exact Nat.le_succ 1
  · exact Nat.zero_le 2

/-- In wakeful surroundings the second look at a wait finds what has ended it. -/
theorem Course.wake_ne_none (hwakeful : Wakeful between)
    (hc : Course between (.start p started) w₀ h (.pending r) w)
    (hbetween : between (.pending r) w u) {wake : Option Wake}
    (hsteps : r.Steps u (.looked wake) turn' v) : wake ≠ none := by
  rintro rfl
  obtain ⟨tick, timer, hphase⟩ := hc.phase_of_pending
  obtain ⟨tick', deadline, found, u', hphase', hlook, -⟩ := hsteps.heed_eq
  obtain ⟨rfl, rfl⟩ := Phase.waiting.inj (hphase.symm.trans hphase')
  obtain ⟨-, hwake, -⟩ | ⟨timer', -, htimer, hwake, -⟩ := of_look_eq_ok hlook
  · cases hwake
  obtain ⟨rfl, rfl⟩ := Effect.pure_eq_ok_iff.1 htimer
  obtain ⟨hdeadline, htick⟩ := Wake.at?_eq_none_iff.1 hwake.symm
  obtain hdue | hcancelled := hwakeful r w u hbetween
  · rw [nextTimer, hphase] at hdue
    change (tick.earlier timer).isDue u.clock = true at hdue
    rw [Timer.isDue_earlier, hdeadline, htick] at hdue
    cases hdue
  · have hwake := hsteps.cancelled_iff.2 hcancelled
    cases hwake

/-- In wakeful surroundings a sample and the looks after it are three steps at most. -/
theorem Course.length_le (hwakeful : Wakeful between)
    (hc : Course between (.start p started) w₀ h turn w) :
    h.length + looksLeft turn ≤ 3 * (transcript h).samples.length := by
  induction hc with
  | start => exact Nat.le_refl _
  | @step h turn turn' r w u v e hc hrun hbetween hsteps ih =>
    have hlength : (h ++ [e]).length = h.length + 1 := by simp
    cases e with
    | sampled o =>
      have hleft := looksLeft_le turn'
      have hsamples : (transcript (h ++ [.sampled o])).samples.length =
          (transcript h).samples.length + 1 := by
        rw [transcript_concat_sampled, List.length_append, List.length_singleton]
      omega
    | looked wake =>
      rw [transcript_concat_looked]
      have hwaits : r.phase ≠ .sampling := by
        obtain ⟨tick, deadline, -, -, hphase, -⟩ := hsteps.heed_eq
        rw [hphase]
        simp
      have hleft : looksLeft turn' + 1 ≤ looksLeft turn := by
        rcases turn with r' | r' | ⟨r', ending⟩
        · obtain rfl := Option.some.inj hrun
          rw [looksLeft, if_neg hwaits]
          cases hsteps.leads <;> simp [looksLeft]
        · obtain rfl := Option.some.inj hrun
          have hfound := hc.wake_ne_none hwakeful hbetween hsteps
          cases hsteps.leads with
          | pends => exact absurd rfl hfound
          | resumes | woken => simp [looksLeft]
        · cases hrun
      dsimp only
      omega

/-- In wakeful surroundings that let it go on, a run that goes on for fewer than so many samples
only comes to its end, unless user code halts. -/
theorem exists_over_of_samples_lt (hwakeful : Wakeful between) {I : σ → Prop} (hcalm : p.Calm I)
    (hw : I w₀.user) (hgo : LetsGoOn between (.start p started) w₀ I) (n : Nat)
    (hfewer : ∀ h turn w r, Course between (.start p started) w₀ h turn w → turn.run? = some r →
      (transcript h).samples.length < n) :
    ∃ h r ending w, Course between (.start p started) w₀ h (.over r ending) w := by
  obtain ⟨rest, last, z, ho, -, hend⟩ := Course.start.exists_onward hcalm hgo hw (3 * n)
  have hc : Course between (.start p started) w₀ rest last z := Course.start.trans_onward ho
  obtain ⟨r, ending, rfl⟩ | hlength := hend
  · exact ⟨rest, r, ending, z, hc⟩
  cases hrun : last.run? with
  | none =>
    obtain ⟨r, ending, rfl⟩ := Turn.exists_over_of_run? hrun
    exact ⟨rest, r, ending, z, hc⟩
  | some r =>
    -- too many steps for so few samples
    have hsamples := hfewer _ _ _ _ hc hrun
    have hsteps := hc.length_le hwakeful
    omega

/-- A run that waits for its timers waits for an instant that will come if the deadline will, and
not past that. -/
theorem Course.exists_nextTimer_le (htime : p.time = .runtime epoch) {limit : Duration}
    (hlimit : (p.wakeUp epoch started).due? = some limit)
    (hc : Course between (.start p started) w₀ h (.pending r) w) :
    ∃ instant, r.nextTimer.due? = some instant ∧ instant ≤ limit := by
  obtain ⟨tick, timer, hphase⟩ := hc.phase_of_pending
  obtain rfl := hc.timer_eq_wakeUp htime rfl hphase
  rw [nextTimer]
  rw [hphase]
  exact Timer.exists_earlier_le hlimit

theorem Course.exists_nextTimer (hs : p.RunsOnClock epoch started w₀)
    (hc : Course between (.start p started) w₀ h (.pending r) w) :
    ∃ instant, r.nextTimer.due? = some instant ∧
      instant.nanos ≤ instantAfter w₀ p.limitMillis := by
  obtain ⟨limit, hdue, hlimit, -⟩ := hs.exists_due
  rw [← hs.wakeUp_eq] at hdue
  obtain ⟨instant, hnext, hle⟩ := hc.exists_nextTimer_le hs.time hdue
  exact ⟨instant, hnext, hlimit ▸ hle⟩

/-! ### Every course -/

/-- What the budget of a run says of a course of it. -/
structure WithinBudget (between : Turn σ α → World σ → World σ → Prop) (p : Plan σ α)
    (started : Duration) (w₀ : World σ) (h : List (Event α)) (turn : Turn σ α) (w : World σ) :
    Prop where
  /-- There are no more samples than milliseconds in the time limit and requests to try again at
  once together. -/
  samples : (transcript h).samples.length ≤
    ceilMillis p.timeout.nanos + retriesAtOnce (transcript h).samples
  /-- A run that waits waits for an instant that will come. -/
  waits : ∀ r, turn = .pending r → ∃ instant, r.nextTimer.due? = some instant ∧
    instant.nanos ≤ instantAfter w₀ (ceilMillis p.timeout.nanos)
  /-- In wakeful surroundings there are no more than three steps a sample. -/
  steps : Wakeful between → h.length ≤
    3 * (ceilMillis p.timeout.nanos + retriesAtOnce (transcript h).samples)
  /-- In wakeful surroundings that let the run go on, and unless user code halts, it comes to its
  end, or else asks to be tried again at once more often than any number of times. -/
  ends : Wakeful between → ∀ I : σ → Prop, p.Calm I → I w.user →
    LetsGoOn between (.start p started) w₀ I → ∀ n, ∃ rest last z,
      Onward between turn w rest last z ∧
      ((∃ r ending, last = .over r ending) ∨ n < retriesAtOnce (transcript (h ++ rest)).samples)

/-- **A bounded budget bounds the run**, however small the polling interval is, whatever delays are
asked for, and whenever the token is cancelled. -/
theorem Course.withinBudget (hs : p.RunsOnClock epoch started w₀) (hpolling : 0 < p.polling.nanos)
    (hforward : ∀ turn w u, between turn w u → w.clock ≤ u.clock)
    (hc : Course between (.start p started) w₀ h turn w) :
    WithinBudget between p started w₀ h turn w := by
  have hsamples : ∀ {h turn w}, Course between (.start p started) w₀ h turn w →
      (transcript h).samples.length ≤
        ceilMillis p.timeout.nanos + retriesAtOnce (transcript h).samples :=
    fun hc ↦ (hc.paced hs hpolling hforward).length_le
  have hsteps : ∀ {h turn w}, Wakeful between → Course between (.start p started) w₀ h turn w →
      h.length ≤ 3 * (ceilMillis p.timeout.nanos + retriesAtOnce (transcript h).samples) := by
    intro h turn w hwakeful hc
    have hlength := hc.length_le hwakeful
    have hbound := hsamples hc
    omega
  refine ⟨hsamples hc, ?_, fun hwakeful ↦ hsteps hwakeful hc, ?_⟩
  · rintro r rfl
    exact hc.exists_nextTimer hs
  · intro hwakeful I hcalm hw hgo n
    -- a history that is too long for so few requests has more of them
    obtain ⟨rest, last, z, ho, -, hend⟩ :=
      hc.exists_onward hcalm hgo hw (3 * (ceilMillis p.timeout.nanos + n) + 1)
    refine ⟨rest, last, z, ho, hend.imp_right fun hlength ↦ ?_⟩
    have hbound := hsteps hwakeful (hc.trans_onward ho)
    rw [List.length_append, hlength] at hbound
    omega

/-- Nothing happens to the run, but that the clock runs on while it waits, until one of its timers
has gone off. -/
inductive ClockRuns : Turn σ α → World σ → World σ → Prop
  | ready {r : Run σ α} {w : World σ} : ClockRuns (.ready r) w w
  | pending {r : Run σ α} {w : World σ} (clock : Duration) (hle : w.clock ≤ clock)
      (hdue : r.nextTimer.isDue clock = true) : ClockRuns (.pending r) w { w with clock := clock }

theorem ClockRuns.clock_le (h : ClockRuns turn w u) : w.clock ≤ u.clock := by
  cases h with
  | ready => exact Nat.le_refl _
  | pending _ hle => exact hle

/-- On the clock's own a run can always go on: the clock need only run until the deadline. -/
theorem Course.exists_clockRuns (hs : p.RunsOnClock epoch started w₀)
    (hc : Course ClockRuns (.start p started) w₀ h turn w) (hrun : turn.run? = some r) :
    ∃ u, ClockRuns turn w u ∧ u.user = w.user := by
  rcases turn with r' | r' | ⟨r', ending⟩
  · exact ⟨w, .ready, rfl⟩
  · obtain ⟨instant, hnext, -⟩ := hc.exists_nextTimer hs
    -- the timer may have gone off already
    let clock := if w.clock ≤ instant then instant else w.clock
    have hle : w.clock ≤ clock ∧ instant ≤ clock := by
      by_cases hlate : w.clock ≤ instant
      · rw [show clock = instant from if_pos hlate]
        exact ⟨hlate, Nat.le_refl _⟩
      · rw [show clock = w.clock from if_neg hlate]
        exact ⟨Nat.le_refl _, Nat.le_of_not_le hlate⟩
    refine ⟨_, .pending clock hle.1 ?_, rfl⟩
    rw [Timer.isDue]
    rw [hnext]
    exact decide_eq_true hle.2
  · cases hrun

theorem wakeful_clockRuns : Wakeful (ClockRuns : Turn σ α → World σ → World σ → Prop) := by
  intro r w u h
  cases h with
  | pending _ _ hdue => exact .inl hdue

end Run

/-- A producer that asks to be tried again at once when it is called for the first time, polled
every nanosecond for two milliseconds. -/
def Plan.brisk : Plan Nat Nat where
  mode := .eventually
  timeout := .ofMillis 2
  polling := .ofNanos 1
  repeats := 1
  token := none
  source := .produced do
    modify (· + 1)
    let calls ← get
    return if calls = 1 then .error (.signal (.retry .zero)) else .ok calls
  matcher := .ofPure (· = 0) (fun _ ↦ "") fun _ ↦ ""
  desired := true
  description := .none
  time := .runtime .zero

theorem Plan.calm_brisk : brisk.Calm fun _ ↦ True where
  callbacks := ⟨Matcher.keeps_ofPure .., TimeSource.keeps_runtime .., .pure _⟩
  source := by
    refine .bind (.bind (fun _ _ _ _ ↦ trivial) fun _ ↦ ?_) fun result ↦ ?_
    · exact .bind (fun _ _ _ _ ↦ trivial) fun calls ↦ .pure _
    · cases result <;> exact .pure _

namespace Run

/-- Two milliseconds and one request come to three samples. -/
theorem withinBudget_brisk : ∃ h r w,
    Course ClockRuns (.start .brisk .zero) ⟨0, .zero, []⟩ h
      (.over r (some (.timedOut (.ofMillis 2)))) w ∧
    WithinBudget ClockRuns .brisk .zero ⟨0, .zero, []⟩ h
      (.over r (some (.timedOut (.ofMillis 2)))) w ∧
    ceilMillis Plan.brisk.timeout.nanos = 2 ∧ retriesAtOnce (transcript h).samples = 1 ∧
      (transcript h).samples.length = 3 ∧ h.length ≤ 9 ∧
    ∀ n, ∃ rest last z, Onward ClockRuns (.ready (.start .brisk .zero)) ⟨0, .zero, []⟩ rest last z ∧
      ((∃ r ending, last = .over r ending) ∨ n < retriesAtOnce (transcript rest).samples) := by
  obtain ⟨h, r, w, hc, hretries, hlength⟩ : ∃ h r w,
      Course ClockRuns (.start .brisk .zero) ⟨0, .zero, []⟩ h
        (.over r (some (.timedOut (.ofMillis 2)))) w ∧
      retriesAtOnce (transcript h).samples = 1 ∧ (transcript h).samples.length = 3 :=
    ⟨_, _, _, .step (.step (.step (.step (.step (.step (.step (.step .start
      rfl .ready (.sampled rfl rfl rfl)) rfl .ready (.looked rfl rfl rfl))
      rfl .ready (.sampled rfl rfl rfl)) rfl .ready (.looked rfl rfl rfl))
      rfl (.pending (.ofMillis 1) (by decide) rfl) (.looked rfl rfl rfl))
      rfl .ready (.sampled rfl rfl rfl)) rfl .ready (.looked rfl rfl rfl))
      rfl (.pending (.ofMillis 2) (by decide) rfl) (.looked rfl rfl rfl), rfl, rfl⟩
  have hs : Plan.brisk.RunsOnClock .zero .zero ⟨0, .zero, []⟩ :=
    ⟨rfl, Nat.le_refl _, rfl, ⟨0, rfl⟩, by decide, by decide⟩
  have hmillis : ceilMillis Plan.brisk.timeout.nanos = 2 := by decide
  have hbudget := hc.withinBudget hs (by decide) fun _ _ _ ↦ ClockRuns.clock_le
  refine ⟨h, r, w, hc, hbudget, hmillis, hretries, hlength, ?_, ?_⟩
  · have hsteps := hbudget.steps wakeful_clockRuns
    rwa [hmillis, hretries] at hsteps
  · refine (Course.start.withinBudget hs (by decide) fun _ _ _ ↦ ClockRuns.clock_le).ends
      wakeful_clockRuns _ Plan.calm_brisk trivial fun h turn w r hc hrun _ ↦ ?_
    obtain ⟨u, hu, -⟩ := hc.exists_clockRuns hs hrun
    exact ⟨u, hu, trivial⟩

end Run

end PollAssert
