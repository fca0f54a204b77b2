import PollAssert.Proofs.Run.Budget

/-!
# The schedule of a run on the virtual clock

The sample after some others is due when the sum of their delays, each rounded up to whole
milliseconds, has gone by (`Plan.dueAfter`). It is taken **exactly then if the time limit, rounded
up as well, lies later**; otherwise the run ends at its deadline. A tie goes to the deadline. This
is the schedule (`KeepsSchedule`), and it holds of every punctual course of a run that no sample
decides.

A run that is alone on the clock, which jumps to its timers (`Alone`), comes to its end unless user
code halts or asks without bound to be tried again at once.
-/

namespace PollAssert

open VirtualClock

variable {σ α : Type}

namespace Run

variable {p : Plan σ α} {epoch started : Duration} {w₀ w : World σ} {h : List (Event α)}
  {turn : Turn σ α}

/-! ### Courses on time -/

/-- **A punctual run is on time**, and so were its samples when they were taken. -/
theorem Course.onTime (hs : p.RunsOnClock epoch started w₀)
    (hc : Course Punctual (.start p started) w₀ h turn w) :
    OnTime p w₀ (transcript h) turn w ∧
      ∀ (i : Nat) (o : Observation α), (transcript h).samples[i]? = some o →
        o.clock.nanos = instantAfter w₀ (p.sleptAfter ((transcript h).samples.take i)) ∧
          p.sleptAfter ((transcript h).samples.take i) < p.limitMillis := by
  induction hc with
  | start =>
    refine ⟨.sampling rfl ?_ (ceilMillis_pos hs.timeout_pos), by rintro i o ⟨⟩⟩
    rw [instantAfter, transcript, p.sleptAfter_nil, Nat.zero_mul, Nat.add_zero]
  | @step h turn turn' r w u v e hc hrun hu hsteps ih =>
    have hplan : r.plan = p := hc.plan_eq hrun
    have hstarted : r.started = started := hc.started_eq hrun
    cases e with
    | looked wake =>
      rw [transcript_concat_looked]
      exact ⟨ih.1.of_looked hs hrun hplan hstarted hu hsteps, ih.2⟩
    | sampled o =>
      rw [transcript_concat_sampled]
      refine ⟨ih.1.of_sampled hs (hc.standing p.judges) hrun hplan hu hsteps, ?_⟩
      intro i o' ho'
      rcases Nat.lt_or_ge i (transcript h).samples.length with hlt | hge
      · rw [List.getElem?_append_left hlt] at ho'
        rw [List.take_append_of_le_length hlt.le]
        exact ih.2 i o' ho'
      · rw [List.getElem?_append_right hge] at ho'
        obtain ⟨hi, rfl⟩ := List.getElem?_eq_some_iff.1 ho'
        have hlast : i = (transcript h).samples.length := by
          rw [List.length_singleton] at hi
          omega
        subst hlast
        simpa using ih.1.clock_of_sampled hrun hu hsteps

end Run

/-! ### The schedule -/

/-- How a run ends with its deadline: timed out, or held, after the time limit rounded up. -/
def Plan.expiry (p : Plan σ α) : Option Ending :=
  match p.mode with
  | .eventually => some (.timedOut (.ofMillis p.limitMillis))
  | .consistently => none

theorem Plan.ending?_of_causeOfWake? {p : Plan σ α} {cause : Cause}
    (h : p.mode.causeOfWake? .deadline = some cause) :
    cause.ending? (.ofMillis p.limitMillis) = p.expiry := by
  rw [Plan.expiry]
  cases hmode : p.mode with
  | eventually | consistently =>
    rw [hmode] at h
    cases h
    rfl

namespace Run

variable {p : Plan σ α} {epoch started : Duration} {w₀ w : World σ} {h : List (Event α)}
  {turn : Turn σ α} {t : Transcript α}

/-- The schedule of a run that no sample decides. -/
structure KeepsSchedule (p : Plan σ α) (w₀ : World σ) (t : Transcript α) (turn : Turn σ α)
    (w : World σ) : Prop where
  /-- Every sample was taken when it was due, and that was before the deadline. -/
  taken : ∀ (i : Nat) (o : Observation α), t.samples[i]? = some o →
    o.clock.nanos = instantAfter w₀ (p.dueAfter (t.samples.take i)) ∧
      p.dueAfter (t.samples.take i) < p.limitMillis
  /-- No sample that is due before the deadline is left out: the clock has not passed it. -/
  waits : ∀ r, turn.run? = some r →
    w.clock.nanos ≤ instantAfter w₀ (min (p.dueAfter t.samples) p.limitMillis)
  /-- The run is over at its deadline, and the next sample was not due before. -/
  expires : ∀ r ending, turn = .over r ending →
    t.wakes.getLast? = some .deadline ∧ w.clock.nanos = instantAfter w₀ p.limitMillis ∧
      p.limitMillis ≤ p.dueAfter t.samples ∧ ending = p.expiry

/-- Without requests to try again the deadline tells how many samples there were. -/
theorem KeepsSchedule.length_eq (hk : KeepsSchedule p w₀ t turn w)
    (hs : p.RunsOnClock epoch started w₀) (hpolling : 0 < p.polling.nanos) {r : Run σ α}
    {ending : Option Ending} (hover : turn = .over r ending)
    (hretry : ∀ o ∈ t.samples, o.retryDelay? = none) :
    t.samples.length = (p.limitMillis + ceilMillis p.polling.nanos - 1) /
      ceilMillis p.polling.nanos := by
  have hlimit : 0 < p.limitMillis := ceilMillis_pos hs.timeout_pos
  have hinterval := ceilMillis_pos hpolling
  obtain ⟨-, -, hdue, -⟩ := hk.expires r ending hover
  rw [Plan.dueAfter_of_no_retry hretry] at hdue
  have hne : t.samples.length ≠ 0 := by
    intro hzero
    rw [hzero] at hdue
    omega
  obtain ⟨n, hn⟩ := Nat.exists_eq_succ_of_ne_zero hne
  -- the last sample was due before the deadline, and the next one is not
  have hlast := (hk.taken n _ (List.getElem?_eq_getElem (by omega))).2
  rw [Plan.dueAfter_of_no_retry fun o ho ↦ hretry o (List.mem_of_mem_take ho),
    List.length_take_of_le (by omega)] at hlast
  rw [hn, Nat.succ_mul] at hdue
  refine (Nat.div_eq_of_lt_le ?_ ?_).symm
  · rw [hn, Nat.succ_mul]
    omega
  · rw [hn, Nat.succ_mul, Nat.succ_mul]
    omega

/-- **A punctual run that no sample decides keeps its schedule**, whatever the requests to try
again. -/
theorem Course.keepsSchedule (hs : p.RunsOnClock epoch started w₀)
    (hc : Course Punctual (.start p started) w₀ h turn w)
    (hopen : (transcript h).OpenFor p.cause? (transcript h).samples.length)
    (hwakes : ∀ o ∈ (transcript h).samples, p.WakesAtTarget o) :
    KeepsSchedule p w₀ (transcript h) turn w := by
  obtain ⟨htime, htaken⟩ := hc.onTime hs
  have hdue : p.sleptAfter (transcript h).samples ≤ p.dueAfter (transcript h).samples :=
    Plan.sleptAfter_le _
  refine ⟨?_, ?_, ?_⟩
  · intro i o ho
    obtain ⟨hclock, hlt⟩ := htaken i o ho
    have heq := Plan.sleptAfter_eq (fun o ho ↦ hwakes o (List.mem_of_mem_take ho)) hlt
    rw [← heq]
    exact ⟨hclock, hlt⟩
  · intro r hrun
    cases htime with
    | decided | expired => cases hrun
    | sampling _ hclock hlt =>
      rw [hclock, instantAfter_le_iff]
      exact Nat.le_min.2 ⟨hdue, hlt.le⟩
    | waiting _ _ _ _ _ hle hle' =>
      rcases Nat.le_total (p.dueAfter (transcript h).samples) p.limitMillis with hmin | hmin
      · rw [Nat.min_eq_left hmin]
        exact hle.trans (instantAfter_le_iff.2 hdue)
      · rwa [Nat.min_eq_right hmin]
  · rintro r ending rfl
    cases htime with
    | decided hcause =>
      -- no sample decides
      exfalso
      rcases hlength : (transcript h).samples.length with - | n
      · rw [List.length_eq_zero_iff.1 hlength, p.cause?_nil] at hcause
        cases hcause
      · have hnone := hopen n (by omega)
        rw [List.take_of_length_le (by omega), hcause] at hnone
        cases hnone
    | waiting hrun => cases hrun
    | expired hwake hcause hclock hle =>
      exact ⟨hwake, hclock, hle.trans hdue, Plan.ending?_of_causeOfWake? hcause⟩

end Run

/-! ### Coming to the end -/

/-- While `I` holds of the user's state the token has not been cancelled. -/
def Plan.NeverCancelled (I : σ → Prop) (p : Plan σ α) : Prop :=
  ∀ token, p.token = some token → ∀ s, I s → token s = false

theorem Plan.NeverCancelled.isCancelled_eq_false {I : σ → Prop} {p : Plan σ α}
    (hp : p.NeverCancelled I) {w : World σ} (hw : I w.user) : p.isCancelled w = false := by
  rw [isCancelled]
  cases htoken : p.token with
  | none => rfl
  | some token => exact hp token htoken _ hw

namespace Run

variable {p : Plan σ α} {epoch started : Duration} {w₀ w u v : World σ} {h : List (Event α)}
  {turn : Turn σ α} {t : Transcript α} {r : Run σ α} {I : σ → Prop}

/-- The run is alone on the clock: nothing happens while it can go on, and when it waits the clock
jumps to what it waits for. Nobody cancels the token. -/
structure Alone (turn : Turn σ α) (w u : World σ) : Prop where
  ready : ∀ r, turn = .ready r → u = w
  pending : ∀ r, turn = .pending r →
    ∃ instant, r.nextTimer.due? = some instant ∧ u = { w with clock := instant }
  token : ∀ token, turn.run.plan.token = some token → token u.user = false

theorem Alone.punctual {u : World σ} (hu : Alone turn w u) : Punctual turn w u where
  ready r hturn := by rw [hu.ready r hturn]
  pending r instant hturn hdue := by
    obtain ⟨instant', hdue', rfl⟩ := hu.pending r hturn
    rw [hdue] at hdue'
    obtain rfl := Option.some.inj hdue'
    exact Nat.le_refl _
  token := hu.token

theorem alone_ready (hcancelled : r.plan.isCancelled w = false) : Alone (.ready r) w w where
  ready _ _ := rfl
  pending _ hturn := nomatch hturn
  token token hsome := by
    rw [Turn.run] at hsome
    rwa [Plan.isCancelled, hsome] at hcancelled

theorem alone_pending (hcancelled : r.plan.isCancelled w = false) {instant : Duration}
    (hdue : r.nextTimer.due? = some instant) :
    Alone (.pending r) w { w with clock := instant } where
  ready _ hturn := nomatch hturn
  pending := by
    rintro _ ⟨⟩
    exact ⟨instant, hdue, rfl⟩
  token token hsome := by
    rw [Turn.run] at hsome
    rwa [Plan.isCancelled, hsome] at hcancelled

/-- Nothing but the clock changes around a run that is alone. -/
theorem Alone.exists_clock (hu : Alone turn w u) (hrun : turn.run? = some r) :
    ∃ clock, u = { w with clock := clock } := by
  rcases turn with r' | r' | ⟨r', ending⟩
  · exact ⟨w.clock, hu.ready r' rfl⟩
  · obtain ⟨instant, -, rfl⟩ := hu.pending r' rfl
    exact ⟨instant, rfl⟩
  · cases hrun

theorem Alone.isCancelled_eq_false (hu : Alone turn w u) : turn.run.plan.isCancelled u = false := by
  rw [Plan.isCancelled]
  cases htoken : turn.run.plan.token with
  | none => rfl
  | some token => exact hu.token token htoken

theorem keeps_user_of_alone (turn : Turn σ α) (r : Run σ α) (w u : World σ)
    (hrun : turn.run? = some r) (hu : Alone turn w u) (hw : I w.user) : I u.user := by
  obtain ⟨clock, rfl⟩ := hu.exists_clock hrun
  exact hw

theorem wakeful_alone : Wakeful (Alone : Turn σ α → World σ → World σ → Prop) := by
  intro r w u hu
  obtain ⟨instant, hdue, rfl⟩ := hu.pending r rfl
  refine .inl ?_
  rw [Timer.isDue]
  rw [hdue]
  exact decide_eq_true (Nat.le_refl _)

/-- A run that is alone is not cancelled. -/
theorem Course.ne_cancelled_of_alone {ending : Option Ending}
    (hc : Course Alone (.start p started) w₀ h (.over r ending) w) (elapsed : Duration) :
    ending ≠ some (.cancelled elapsed) := by
  rintro rfl
  obtain ⟨u, ⟨h', turn', w', r', hc', -, hu, -⟩, hcancelled⟩ := hc.last_of_cancelled
  have hplan : turn'.run.plan = p := hc'.run_eq.1
  rw [← hplan, hu.isCancelled_eq_false] at hcancelled
  cases hcancelled

/-- The wait after the given samples has come to its end, and the run with it, or else the run is
about to sample, when the tick has gone off and before the deadline. -/
def Outwaits (p : Plan σ α) (started : Duration) (w₀ : World σ) (I : σ → Prop)
    (os : List (Observation α)) (tick : Timer) (deadline : Duration) : Prop :=
  (∃ h r ending w, Course Alone (.start p started) w₀ h (.over r ending) w) ∨
    ∃ h r w, Course Alone (.start p started) w₀ h (.ready r) w ∧ r.phase = .sampling ∧
      (transcript h).samples = os ∧ I w.user ∧ tick.isDue w.clock = true ∧ w.clock < deadline

theorem Course.outwaits_of_looked (htime : p.time = .runtime epoch) {limit : Duration}
    (hlimit : (p.wakeUp epoch started).due? = some limit)
    (hc : Course Alone (.start p started) w₀ h turn w) (hrun : turn.run? = some r)
    (hu : Alone turn w u) {tick : Timer} {deadline : Option Timer}
    (hphase : r.phase = .waiting tick deadline) {wake : Wake} {turn' : Turn σ α}
    (hsteps : r.Steps u (.looked (some wake)) turn' v) (hv : I v.user) :
    Outwaits p started w₀ I (transcript h).samples tick limit := by
  obtain ⟨tick', deadline', hphase', hwake⟩ := hc.wake_of_looked htime hrun hsteps
  obtain ⟨rfl, rfl⟩ := Phase.waiting.inj (hphase.symm.trans hphase')
  have hc' := hc.step hrun hu hsteps
  cases hsteps.leads with
  | woken => exact .inl ⟨_, _, _, v, hc'⟩
  | resumes hcause =>
    obtain rfl := Mode.causeOfWake?_eq_none_iff.1 hcause
    obtain ⟨hahead, htick⟩ := Wake.at?_eq_tick_iff.1 (hwake.resolve_left nofun).symm
    refine .inr ⟨_, _, v, hc', rfl, ?_, hv, hsteps.clock_eq ▸ htick, ?_⟩
    · rw [transcript_concat_looked]
    · rw [Timer.isDue] at hahead
      rw [hlimit] at hahead
      rw [hsteps.clock_eq]
      exact Nat.lt_of_not_le (of_decide_eq_false hahead)

section Calm

variable (htime : p.time = .runtime epoch) {limit : Duration}
  (hlimit : (p.wakeUp epoch started).due? = some limit) (hcalm : p.Calm I)
  (htoken : p.NeverCancelled I)

include htoken in
theorem Course.isCancelled_eq_false (hc : Course Alone (.start p started) w₀ h turn w)
    (hrun : turn.run? = some r) (hw : I w.user) : r.plan.isCancelled w = false := by
  rw [hc.plan_eq hrun]
  exact htoken.isCancelled_eq_false hw

include htime hlimit hcalm htoken

/-- The clock jumps, and the look finds what has ended the wait. -/
theorem Course.outwaits_of_pending (hc : Course Alone (.start p started) w₀ h (.pending r) w)
    {tick : Timer} {deadline : Option Timer} (hphase : r.phase = .waiting tick deadline)
    (hw : I w.user) : Outwaits p started w₀ I (transcript h).samples tick limit := by
  obtain ⟨instant, hnext, -⟩ := hc.exists_nextTimer_le htime hlimit
  have halone := alone_pending (hc.isCancelled_eq_false htoken rfl hw) hnext
  obtain ⟨e, turn, v, hsteps, hv⟩ := hc.exists_steps rfl hcalm (u := { w with clock := instant }) hw
  rcases e with o | - | wake
  · cases hphase.symm.trans hsteps.goBy_eq.1
  · exact absurd rfl (hc.wake_ne_none wakeful_alone halone hsteps)
  · exact hc.outwaits_of_looked htime hlimit rfl halone hphase hsteps hv

/-- The first look may find what has ended the wait. If not, the second one does. -/
theorem Course.outwaits (hc : Course Alone (.start p started) w₀ h (.ready r) w) {tick : Timer}
    {deadline : Option Timer} (hphase : r.phase = .waiting tick deadline) (hw : I w.user) :
    Outwaits p started w₀ I (transcript h).samples tick limit := by
  have halone := alone_ready (hc.isCancelled_eq_false htoken rfl hw)
  obtain ⟨e, turn, v, hsteps, hv⟩ := hc.exists_steps rfl hcalm hw
  rcases e with o | - | wake
  · cases hphase.symm.trans hsteps.goBy_eq.1
  · have hc' := hc.step rfl halone hsteps
    have hsamples := transcript_concat_looked h none
    cases hsteps.leads with
    | pends hphase' =>
      obtain ⟨rfl, -⟩ := Phase.waiting.inj (hphase.symm.trans hphase')
      have hend := hc'.outwaits_of_pending htime hlimit hcalm htoken rfl hv
      rwa [hsamples] at hend
  · exact hc.outwaits_of_looked htime hlimit rfl halone hphase hsteps hv

/-- Every sample brings the run nearer to its deadline, or asks to be tried again at once. -/
theorem Course.exists_over_of_sampling {m : Nat}
    (honce : ∀ h turn w, Course Alone (.start p started) w₀ h turn w →
      (transcript h).samples.countP p.isAtOnce ≤ m) (n : Nat)
    (hc : Course Alone (.start p started) w₀ h (.ready r) w) (hphase : r.phase = .sampling)
    (hw : I w.user) (hn : limit.nanos - w.clock.nanos +
      (m - (transcript h).samples.countP p.isAtOnce) < n) :
    ∃ h r ending w, Course Alone (.start p started) w₀ h (.over r ending) w := by
  induction n generalizing h r w with
  | zero => exact absurd hn (Nat.not_lt_zero _)
  | succ n ih =>
    have hplan : r.plan = p := hc.plan_eq rfl
    obtain ⟨e, turn, v, hsteps, hv⟩ := hc.exists_steps rfl hcalm hw
    have hc' := hc.step rfl (alone_ready (hc.isCancelled_eq_false htoken rfl hw)) hsteps
    rcases e with o | wake
    · obtain ⟨-, u, hobserve, hgo⟩ := hsteps.goBy_eq
      have hclock : u.clock = w.clock :=
        (r.keeps_call_of_foreign (I := (World.clock · = w.clock)) (fun _ _ hu ↦ hu) _).of_ok rfl
          hobserve
      have hfew := honce _ _ _ hc'
      rw [transcript_concat_sampled, List.countP_append, List.countP_singleton] at hfew
      cases hsteps.leads with
      | decided => exact ⟨_, _, _, _, hc'⟩
      | waits =>
        have htick := phase_of_goBy (hplan ▸ htime) hgo
        obtain hover | ⟨h', r', w', hc'', hphase', hsamples, hw', hdue, hlt⟩ :=
          hc'.outwaits htime hlimit hcalm htoken htick hv
        · exact hover
        have hslept := Timer.le_of_isDue_timerAfter hdue
        rw [hplan, hclock] at hslept
        refine ih hc'' hphase' hw' ?_
        rw [hsamples, transcript_concat_sampled, List.countP_append, List.countP_singleton]
        rw [Duration.lt_def] at hlt
        by_cases hatOnce : p.isAtOnce o = true
        · rw [if_pos hatOnce] at hfew ⊢
          omega
        · have hdelay : (p.delayAfter o).nanos ≠ 0 := fun hzero ↦ hatOnce (decide_eq_true hzero)
          have hlongest : 0 < longestSleep := by decide
          rw [if_neg hatOnce] at hfew ⊢
          omega
    · obtain ⟨tick, deadline, -, -, hphase', -⟩ := hsteps.heed_eq
      cases hphase.symm.trans hphase'

/-- A run whose deadline comes, and which asks at most `m` times to be tried again at once, comes to
its end. -/
theorem exists_over (hw₀ : I w₀.user) {m : Nat}
    (honce : ∀ h turn w, Course Alone (.start p started) w₀ h turn w →
      (transcript h).samples.countP p.isAtOnce ≤ m) :
    ∃ h r ending w, Course Alone (.start p started) w₀ h (.over r ending) w :=
  Course.exists_over_of_sampling htime hlimit hcalm htoken honce _ .start rfl hw₀
    (Nat.lt_succ_self _)

end Calm

end Run

/-! ### Uneventful runs -/

namespace Plan

variable {p : Plan σ α} {o : Observation α}

/-- A sample that does not decide the run and does not ask to be tried again: for `eventually` an
ordinary failure, for `consistently` one that passes, and neither of them settled. -/
def IsUneventful (p : Plan σ α) (o : Observation α) : Prop :=
  (match p.mode with
    | .eventually => o.sample.isOrdinaryFailure p.desired = true
    | .consistently => o.sample.passed p.desired = true) ∧ o.isSettled p.source = false

namespace IsUneventful

theorem signal?_eq (ho : p.IsUneventful o) : o.sample.signal? = none := by
  obtain ⟨hkind, -⟩ := ho
  cases hmode : p.mode with
  | eventually =>
    rw [hmode] at hkind
    exact Option.isNone_iff_eq_none.1 (Bool.and_eq_true_iff.1 hkind).2
  | consistently =>
    rw [hmode] at hkind
    obtain ⟨-, hsignal, -⟩ | ⟨hpassed, -⟩ | ⟨hpassed, -⟩ | ⟨hpassed, -⟩ := o.kind_cases p.desired
    · exact hsignal
    all_goals rw [hkind] at hpassed; cases hpassed

theorem retryDelay?_eq (ho : p.IsUneventful o) : o.retryDelay? = none := by
  rw [Observation.retryDelay?]
  rw [ho.signal?_eq]
  rfl

theorem cause?_eq (ho : p.IsUneventful o) (os : List (Observation α)) :
    p.cause? (os ++ [o]) = none := by
  have hstop : o.stopMessage? = none := by
    rw [Observation.stopMessage?]
    rw [ho.signal?_eq]
    rfl
  obtain ⟨hkind, hsettled⟩ := ho
  rw [Plan.cause?]
  cases hmode : p.mode with
  | eventually =>
    rw [hmode] at hkind
    have hpassed : o.sample.passed p.desired = false := by
      simpa using (Bool.and_eq_true_iff.1 hkind).1
    simp [eventuallyCause?, hpassed, hstop, hsettled]
  | consistently =>
    rw [hmode] at hkind
    have hpassed : o.sample.passed p.desired = true := hkind
    simp [consistentlyCause?, Sample.isOrdinaryFailure, hpassed, hstop, hsettled]

end IsUneventful

end Plan

namespace Run

variable {p : Plan σ α} {epoch started : Duration} {w₀ : World σ} {t : Transcript α}

theorem Transcript.openFor_of_uneventful (ht : ∀ o ∈ t.samples, p.IsUneventful o) :
    t.OpenFor p.cause? t.samples.length := by
  intro i hi
  rw [List.take_succ_eq_append_getElem hi]
  exact (ht _ (List.getElem_mem hi)).cause?_eq _

/-- **The schedule of a run on the virtual clock.** A punctual run that no sample decides keeps its
schedule. If it is alone on the clock and asks a bounded number of times to be tried again at once,
it comes to its end. If nothing happens in it at all, it ends at its deadline after as many samples
as polling intervals begin before that. -/
theorem keepsSchedule_of_runsOnClock (hs : p.RunsOnClock epoch started w₀) :
    (∀ h turn w, Course Punctual (.start p started) w₀ h turn w →
      (transcript h).OpenFor p.cause? (transcript h).samples.length →
      (∀ o ∈ (transcript h).samples, p.WakesAtTarget o) →
      KeepsSchedule p w₀ (transcript h) turn w) ∧
    (∀ I, p.Calm I → p.NeverCancelled I → I w₀.user →
      (∃ m, ∀ h turn w, Course Alone (.start p started) w₀ h turn w →
        (transcript h).samples.countP p.isAtOnce ≤ m) →
      ∃ h r ending w, Course Alone (.start p started) w₀ h (.over r ending) w) ∧
    (∀ I, p.Calm I → p.NeverCancelled I → I w₀.user → 0 < p.polling.nanos →
      p.polling.nanos ≤ longestSleep ∨ p.timeout.nanos ≤ longestSleep →
      (∀ h turn w, Course Alone (.start p started) w₀ h turn w →
        ∀ o ∈ (transcript h).samples, p.IsUneventful o) →
      ∃ h r w, Course Alone (.start p started) w₀ h (.over r p.expiry) w ∧
        w.clock.nanos = instantAfter w₀ (ceilMillis p.timeout.nanos) ∧
        r.samples = (ceilMillis p.timeout.nanos + ceilMillis p.polling.nanos - 1) /
          ceilMillis p.polling.nanos) := by
  obtain ⟨limit, hlimit, -, -⟩ := hs.exists_due
  rw [← hs.wakeUp_eq] at hlimit
  refine ⟨?_, ?_, ?_⟩
  · intro h turn w hc hopen hwakes
    exact hc.keepsSchedule hs hopen hwakes
  · rintro I hcalm htoken hw₀ ⟨m, honce⟩
    exact exists_over hs.time hlimit hcalm htoken hw₀ honce
  · intro I hcalm htoken hw₀ hpolling hwakes hdull
    have hdelay : ∀ o, p.IsUneventful o → p.delayAfter o = p.polling := fun o ho ↦ by
      rw [Plan.delayAfter, ho.retryDelay?_eq, Option.getD_none]
    have hnone : ∀ h turn w, Course Alone (.start p started) w₀ h turn w →
        (transcript h).samples.countP p.isAtOnce ≤ 0 := by
      intro h turn w hc
      rw [Nat.le_zero, List.countP_eq_zero]
      intro o ho honce
      rw [Plan.isAtOnce, hdelay o (hdull h turn w hc o ho)] at honce
      exact absurd (of_decide_eq_true honce) (Nat.ne_of_gt hpolling)
    obtain ⟨h, r, ending, w, hc⟩ := exists_over hs.time hlimit hcalm htoken hw₀ hnone
    have hall := hdull h _ w hc
    have hk := (hc.mono fun _ _ _ ↦ Alone.punctual).keepsSchedule hs
      (Transcript.openFor_of_uneventful hall) fun o ho ↦ by
        rwa [Plan.WakesAtTarget, hdelay o (hall o ho)]
    obtain ⟨-, hclock, -, rfl⟩ := hk.expires r ending rfl
    have hlength := hk.length_eq hs hpolling rfl fun o ho ↦ (hall o ho).retryDelay?_eq
    refine ⟨h, r, w, hc, hclock, ?_⟩
    exact hc.run_eq.2.2.trans ((Nat.zero_add _).trans hlength)

end Run

theorem Plan.calm_counting (mode : Mode) (least : Nat) :
    (counting mode least).Calm fun _ ↦ True where
  callbacks := callbacksKeep_counting mode least _ _
  source _ _ _ _ := trivial

/-- Every call of the producer passes if that takes no calls at all. -/
theorem Plan.isUneventful_counting {view : View Nat} {s t : Nat} {o : Observation Nat}
    (h : Observation.take (counting .consistently 0).source (counting .consistently 0).matcher
      view s = (.ok o, t)) : (counting .consistently 0).IsUneventful o := by
  obtain ⟨ho, -⟩ := Prod.mk.inj h
  rw [← Except.ok.inj ho]
  exact ⟨rfl, rfl⟩

namespace Run

/-- Two polling intervals of ten milliseconds begin within twenty. -/
theorem keepsSchedule_counting : ∃ h r w,
    Course Alone (.start (.counting .consistently 0) .zero) ⟨0, .zero, []⟩ h (.over r none) w ∧
      w.clock.nanos = 20 * nanosPerMilli ∧ r.samples = 2 := by
  have hs : (Plan.counting .consistently 0).RunsOnClock .zero .zero ⟨0, .zero, []⟩ :=
    ⟨rfl, Nat.le_refl _, rfl, ⟨0, rfl⟩, by decide, by decide⟩
  obtain ⟨-, -, hend⟩ := keepsSchedule_of_runsOnClock hs
  obtain ⟨h, r, w, hc, hclock, hsamples⟩ := hend (fun _ ↦ True) (Plan.calm_counting _ _)
    (fun _ hnone ↦ nomatch hnone) trivial (by decide) (.inl (by decide)) fun h turn w hc o ho ↦ by
      obtain ⟨view, s, t, htake⟩ := hc.exists_take ho
      exact Plan.isUneventful_counting htake
  exact ⟨h, r, w, hc, hclock, hsamples⟩

end Run

end PollAssert
