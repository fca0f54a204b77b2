import PollAssert.Proofs.Run.Alike
import PollAssert.Proofs.Run.Requests
import PollAssert.Proofs.Run.Schedule

/-!
# The two modes are dual

An `eventually` that wants one sample to pass and a `consistently` that wants the opposite verdict
are two views of the same run. What passes for the one fails for the other, so the sample that ends
the one in success ends the other in failure; what is bad news for the one, the end of the time or a
settled sample, is good news for the other. A request to stop and a cancellation fail both.

This is a statement about two runs that go **abreast**: they take their steps in turn, and between
two steps the surroundings treat them alike (`Abreast`). As long as nothing but verdicts and signals
come of the samples, the two take the same samples at the same times and start the same sleeps, and
each ends when the other does (`Plan.Dual.mirrored`).

The readings of the time are where the two differ: a run that fails tells the time since its start,
and reads it once more than a run that held. So after the end the user's states need not be related
any more, and nothing is said of them there.
-/

namespace PollAssert

variable {σ α β : Type}

/-! ### Worlds that are the same to both runs -/

/-- The worlds are the same but for the log. The user's states are related by `R`. -/
structure World.Akin (R : σ → σ → Prop) (w w' : World σ) : Prop where
  user : R w.user w'.user
  clock : w.clock = w'.clock
  sleeps : Notice.sleeps w.notices = Notice.sleeps w'.notices

namespace Engine

variable {R : σ → σ → Prop}

/-- What is written to the log does not matter. -/
theorem akin_log (entry entry' : LogEntry) :
    Effect.Alike (World.Akin R) Eq (log entry : Engine σ Unit) (log entry') := by
  intro w w' hw
  refine .returned rfl ⟨hw.user, hw.clock, ?_⟩
  rw [Notice.sleeps_cons_logged, Notice.sleeps_cons_logged, hw.sleeps]

end Engine

/-! ### Plans that are dual -/

/-- The two runs of these plans have come to the same, but for the count of passing samples. -/
structure Run.Counterpart (p p' : Plan σ α) (r r' : Run σ α) : Prop where
  plan : r.plan = p
  plan' : r'.plan = p'
  started : r.started = r'.started
  samples : r.samples = r'.samples
  latest : r.latest = r'.latest
  requestedDelay : r.requestedDelay = r'.requestedDelay
  phase : r.phase = r'.phase

/-- Called by runs that have come to the same, the two actions do the same. They may see different
reports. -/
def Plan.DoSame (R : σ → σ → Prop) (p p' : Plan σ α) (act act' : Action σ β) : Prop :=
  ∀ r r', Run.Counterpart p p' r r' →
    Effect.Alike (World.Akin R) Eq (r.call act) (r'.call act')

/-- One plan is to see one sample pass eventually, the other is to see the opposite consistently.
Otherwise they are the same: what they sample, what cancels them and where they take their time from
do the same in states that `R` relates. -/
structure Plan.Dual (R : σ → σ → Prop) (p p' : Plan σ α) : Prop where
  mode : p.mode = .eventually
  mode' : p'.mode = .consistently
  repeats : p.repeats = 1
  desired : p'.desired = !p.desired
  timeout : p.timeout = p'.timeout
  polling : p.polling = p'.polling
  /-- The token is cancelled for both or for neither. -/
  token : ∀ w w', World.Akin R w w' → p.isCancelled w = p'.isCancelled w'
  /-- The samples and the oracle's answers are the same. -/
  observe : p.DoSame R p' (Observation.take p.source p.matcher)
    (Observation.take p'.source p'.matcher)
  /-- The readings of the time are the same, and so are the timers. -/
  now : p.DoSame R p' p.time.now p'.time.now
  sleep : ∀ d, p.DoSame R p' (p.time.sleep d) (p'.time.sleep d)
  wait : Option.Rel (fun wait wait' ↦ ∀ d, p.DoSame R p' (wait d) (wait' d))
    p.time.sleepUntil? p'.time.sleepUntil?

/-- The sample came to a verdict, or to an error that carries a signal; and only a value that may
change is to be tried again. -/
structure Plan.IsPlain (p : Plan σ α) (o : Observation α) : Prop where
  verdict_or_signal : (∃ a matched, o.sample = .judged a matched) ∨ ∃ signal,
    o.sample.signal? = some signal
  isFixed_of_retry : ∀ delay, o.retryDelay? = some delay → p.source.isFixed = false

/-! ### Rules that are opposed -/

/-- What the two runs are over for if `e` is the end of both. -/
inductive Cause.Opposed : Run.Event α → Cause → Cause → Prop
  /-- The one has its sample, and the other one too many. -/
  | passes {o : Observation α} : Opposed (.sampled o) .held .failed
  /-- No sample will ever pass. -/
  | settles {o : Observation α} (hsettled : o.mayChange = some false) :
      Opposed (.sampled o) .noFutureChange .held
  | stops {o : Observation α} {message : String} :
      Opposed (.sampled o) (.stopped message) (.stopped message)
  /-- No sample has passed in time. -/
  | expires : Opposed (.looked (some .deadline)) .timedOut .held
  | cancelled : Opposed (.looked (some .cancelled)) .cancelled .cancelled

/-- A sample that carries a signal passes for neither. -/
theorem Sample.passed_of_signal? {s : Sample α} {signal : Signal} (h : s.signal? = some signal)
    (desired : Bool) : s.passed desired = false := by
  cases s with
  | judged a matched => cases h
  | unjudged | missed => rfl

namespace Plan.Dual

variable {R : σ → σ → Prop} {p p' : Plan σ α} (hd : Plan.Dual R p p')

include hd

/-- **The modes rule alike on every plain sample**: both let the run go on, or both end it. -/
theorem rule_cases {o : Observation α} (ho : p.IsPlain o) (hfits : o.Fits p.source)
    (passes passes' : Nat) :
    (∃ n n', p.mode.rule p.repeats passes (o.reading p.desired) = .goOn n ∧
        p'.mode.rule p'.repeats passes' (o.reading p'.desired) = .goOn n') ∨
      ∃ cause cause', p.mode.rule p.repeats passes (o.reading p.desired) = .over cause ∧
        p'.mode.rule p'.repeats passes' (o.reading p'.desired) = .over cause' ∧
        Cause.Opposed (.sampled o) cause cause' := by
  have hrule : ∀ reading, p.mode.rule p.repeats passes reading =
      Mode.ruleEventually 1 passes reading := by
    intro reading
    rw [hd.mode, hd.repeats, Mode.rule]
  have hrule' : ∀ reading, p'.mode.rule p'.repeats passes' reading =
      Mode.ruleConsistently passes' reading := by
    intro reading
    rw [hd.mode', Mode.rule]
  simp only [hrule, hrule', Mode.ruleEventually, Mode.ruleConsistently, Observation.reading,
    hd.desired]
  obtain ⟨a, matched, hsample⟩ | ⟨signal, hsignal⟩ := ho.verdict_or_signal
  · -- a verdict passes for one of the two
    have hpassed : o.sample.passed (!p.desired) = !o.sample.passed p.desired := by
      rw [hsample, Sample.passed, Sample.passed]
      cases matched <;> cases p.desired <;> rfl
    have hsteering : o.sample.steering = .goOn := by rw [hsample]; rfl
    rw [hpassed, hsteering]
    cases o.sample.passed p.desired with
    | true => exact .inr ⟨_, _, by simp, by simp, .passes⟩
    | false =>
      by_cases hsettled : o.mayChange = some false
      · exact .inr ⟨_, _, by simp [hsettled], by simp [hsettled], .settles hsettled⟩
      · exact .inl ⟨0, passes', by simp [hsettled], by simp [hsettled]⟩
  · rw [Sample.passed_of_signal? hsignal, Sample.passed_of_signal? hsignal]
    cases hrequest : signal.request with
    | stop message =>
      have hsteering : o.sample.steering = .stop message := by
        simp [Sample.steering, hsignal, hrequest]
      exact .inr ⟨.stopped message, _, by simp [hsteering], by simp [hsteering], .stops⟩
    | retry delay =>
      have hsteering : o.sample.steering = .retry delay := by
        simp [Sample.steering, hsignal, hrequest]
      -- the oracle is not asked of a value that may change
      have hmayChange : o.mayChange = none := by
        have hfixed := ho.isFixed_of_retry delay (by
          rw [Observation.retryDelay?, hsignal, Option.map_some, hrequest])
        rw [Observation.Fits, hfixed] at hfits
        simpa using hfits
      exact .inl ⟨passes, passes', by simp [hsteering, hmayChange], by simp [hsteering]⟩

/-- What ends a wait lets both runs sample, or ends both. -/
theorem causeOfWake?_cases (wake : Wake) :
    (p.mode.causeOfWake? wake = none ∧ p'.mode.causeOfWake? wake = none) ∨
      ∃ cause cause', p.mode.causeOfWake? wake = some cause ∧
        p'.mode.causeOfWake? wake = some cause' ∧
        Cause.Opposed (.looked (some wake) : Run.Event α) cause cause' := by
  rw [hd.mode, hd.mode']
  cases wake with
  | tick => exact .inl ⟨rfl, rfl⟩
  | deadline => exact .inr ⟨_, _, rfl, rfl, .expires⟩
  | cancelled => exact .inr ⟨_, _, rfl, rfl, .cancelled⟩

end Plan.Dual

/-! ### Runs that have come to the same -/

namespace Run

variable {R : σ → σ → Prop} {p p' : Plan σ α} {r r' : Run σ α}

namespace Counterpart

variable (hd : Plan.Dual R p p') (hr : Counterpart p p' r r')

include hr

theorem publish (s : Sample α) (capturedAt : Duration) :
    Counterpart p p' (r.publish s capturedAt) (r'.publish s capturedAt) :=
  ⟨hr.plan, hr.plan', hr.started, congrArg (· + 1) hr.samples, rfl, rfl, hr.phase⟩

include hd

theorem observe : Effect.Alike (World.Akin R) Eq r.observe r'.observe := by
  obtain rfl := hr.plan
  obtain rfl := hr.plan'
  exact hd.observe r r' hr

theorem waitsAlike : WaitsAlike (World.Akin R) r r' := by
  obtain rfl := hr.plan
  obtain rfl := hr.plan'
  have hslept : ∀ w w' length, World.Akin R w w' → World.Akin R
      { w with notices := .slept length :: w.notices }
      { w' with notices := .slept length :: w'.notices } := by
    intro w w' length hw
    refine ⟨hw.user, hw.clock, ?_⟩
    rw [Notice.sleeps_cons_slept, Notice.sleeps_cons_slept, hw.sleeps]
  exact {
    clock := fun _ _ hw ↦ hw.clock
    slept := hslept
    token := hd.token
    now := hd.now r r' hr
    sleep := fun d ↦ hd.sleep d r r' hr
    wait := optionRel_mono hd.wait fun _ _ hwait instant ↦ hwait instant r r' hr
    deadline := by rw [deadline?, deadline?, hr.started, hd.timeout] }

/-- The samples that are recorded are equally old. -/
theorem record (o : Observation α) :
    Effect.Alike (World.Akin R) (fun r₁ r₁' ↦ ∃ capturedAt,
      r₁ = r.publish o.sample capturedAt ∧ r₁' = r'.publish o.sample capturedAt)
      (r.record o) (r'.record o) := by
  refine alike_record ((hr.waitsAlike hd).elapsed hr.started) (fun capturedAt ↦ ?_)
    fun _ ↦ Engine.akin_log _ _
  have hpublished := hr.publish o.sample capturedAt
  exact (hpublished.waitsAlike hd).elapsed hpublished.started

theorem startWaiting :
    Effect.Alike (World.Akin R) (Counterpart p p') r.startWaiting r'.startWaiting := by
  have hinterval : r.interval = r'.interval := by
    rw [interval, interval, hr.requestedDelay, hr.plan, hr.plan', hd.polling]
  have hused : Counterpart p p' { r with requestedDelay := none }
      { r' with requestedDelay := none } :=
    ⟨hr.plan, hr.plan', hr.started, hr.samples, hr.latest, rfl, hr.phase⟩
  refine ((hused.waitsAlike hd).startWaiting hinterval).mono ?_
  rintro _ _ ⟨tick, rfl, rfl⟩
  exact ⟨hr.plan, hr.plan', hr.started, hr.samples, hr.latest, rfl, rfl⟩

/-- Two runs that end for opposed causes start no sleep any more, and tell the same time if they end
for the same cause. -/
theorem of_finish {e : Event α} {cause cause' : Cause} {turn turn' : Turn σ α} {w w' v v' : World σ}
    (hopposed : Cause.Opposed e cause cause') (hw : World.Akin R w w')
    (h : r.finish cause w = (.ok turn, v)) (h' : r'.finish cause' w' = (.ok turn', v')) :
    ∃ elapsed elapsed', turn = .over r (cause.ending? elapsed) ∧
      turn' = .over r' (cause'.ending? elapsed') ∧ (cause = cause' → elapsed = elapsed') ∧
      v.clock = v'.clock ∧ Notice.sleeps v.notices = Notice.sleeps v'.notices := by
  have hclock : v.clock = v'.clock :=
    ((keeps_finish (r.plan.spares_clock w.clock) cause).of_ok rfl h).trans <|
      hw.clock.trans ((keeps_finish (r'.plan.spares_clock w'.clock) cause').of_ok rfl h').symm
  have hsleeps : Notice.sleeps v.notices = Notice.sleeps v'.notices := by
    have hasks := asks_of_finish h
    have hasks' := asks_of_finish h'
    rw [World.Asks, List.append_nil] at hasks hasks'
    rw [hasks, hasks', hw.sleeps]
  obtain ⟨elapsed, -, w₁, -, rfl, hread, -⟩ := of_finish_eq_ok h
  obtain ⟨elapsed', -, w₁', -, rfl, hread', -⟩ := of_finish_eq_ok h'
  refine ⟨elapsed, elapsed', rfl, rfl, ?_, hclock, hsleeps⟩
  rintro rfl
  -- a run that held has an opponent that did not
  have hheld : cause ≠ .held := by
    rintro rfl
    cases hopposed
  rw [if_neg hheld] at hread hread'
  exact (((hr.waitsAlike hd).elapsed hr.started).of_ok hw hread hread').1

end Counterpart

/-! ### Runs that go abreast -/

/-- Two runs that take their steps in turn, with their histories. Whatever happens between two
steps, worlds that are the same to both runs stay so. -/
inductive Abreast (R : σ → σ → Prop) (r₀ : Run σ α) (w₀ : World σ) (r₀' : Run σ α)
    (w₀' : World σ) :
    List (Event α) → Turn σ α → World σ → List (Event α) → Turn σ α → World σ → Prop
  | start : Abreast R r₀ w₀ r₀' w₀' [] (.ready r₀) w₀ [] (.ready r₀') w₀'
  | step {h h' : List (Event α)} {turn turn' next next' : Turn σ α} {r r' : Run σ α}
      {w w' u u' v v' : World σ} {e e' : Event α}
      (ha : Abreast R r₀ w₀ r₀' w₀' h turn w h' turn' w')
      (hrun : turn.run? = some r) (hrun' : turn'.run? = some r')
      (hsame : World.Akin R w w' → World.Akin R u u')
      (hsteps : r.Steps u e next v) (hsteps' : r'.Steps u' e' next' v') :
      Abreast R r₀ w₀ r₀' w₀' (h ++ [e]) next v (h' ++ [e']) next' v'

/-- How the two runs stand after the history `h`: at the same point, or both over. -/
inductive Paired (R : σ → σ → Prop) (p p' : Plan σ α) (h : List (Event α)) :
    Turn σ α → World σ → Turn σ α → World σ → Prop
  | ready {r r' : Run σ α} {w w' : World σ} (hr : Counterpart p p' r r')
      (hw : World.Akin R w w') : Paired R p p' h (.ready r) w (.ready r') w'
  | pending {r r' : Run σ α} {w w' : World σ} (hr : Counterpart p p' r r')
      (hw : World.Akin R w w') : Paired R p p' h (.pending r) w (.pending r') w'
  | ended {r r' : Run σ α} {w w' : World σ} {e : Event α} {cause cause' : Cause}
      {elapsed elapsed' : Duration} (hlast : h.getLast? = some e)
      (hr : Counterpart p p' r r') (hopposed : Cause.Opposed e cause cause')
      (helapsed : cause = cause' → elapsed = elapsed') (hclock : w.clock = w'.clock)
      (hsleeps : Notice.sleeps w.notices = Notice.sleeps w'.notices) :
      Paired R p p' h (.over r (cause.ending? elapsed)) w (.over r' (cause'.ending? elapsed')) w'

section Pairs

variable {h h' : List (Event α)} {turn turn' : Turn σ α} {w w' u u' v v' : World σ} {e e' : Event α}

/-- Two runs that have come to the same meet with the same. -/
theorem Counterpart.event_eq (hd : Plan.Dual R p p') (hr : Counterpart p p' r r')
    (hu : World.Akin R u u') (hs : r.Steps u e turn v) (hs' : r'.Steps u' e' turn' v') :
    e' = e := by
  cases hs with
  | sampled hphase hobserve =>
    rw [hr.phase] at hphase
    cases hs' with
    | sampled _ hobserve' =>
      obtain ⟨rfl, -⟩ := (hr.observe hd).of_ok hu hobserve hobserve'
      rfl
    | looked hphase' => cases hphase.symm.trans hphase'
  | looked hphase hlook =>
    rw [hr.phase] at hphase
    cases hs' with
    | sampled hphase' => cases hphase.symm.trans hphase'
    | looked hphase' hlook' =>
      obtain ⟨rfl, rfl⟩ := Phase.waiting.inj (hphase.symm.trans hphase')
      obtain ⟨hwake, -⟩ := ((hr.waitsAlike hd).look _ _).of_ok hu hlook hlook'
      rw [(Prod.mk.inj hwake).1]

theorem Counterpart.paired_of_finish (hd : Plan.Dual R p p') (hr : Counterpart p p' r r')
    (hw : World.Akin R w w') {cause cause' : Cause} (hopposed : Cause.Opposed e cause cause')
    (hf : r.finish cause w = (.ok turn, v)) (hf' : r'.finish cause' w' = (.ok turn', v')) :
    Paired R p p' (h ++ [e]) turn v turn' v' := by
  obtain ⟨elapsed, elapsed', rfl, rfl, helapsed, hclock, hsleeps⟩ :=
    hr.of_finish hd hopposed hw hf hf'
  exact .ended List.getLast?_concat hr hopposed helapsed hclock hsleeps

/-- A sample leaves the two runs waiting, or ends both. -/
theorem Counterpart.paired_of_sampled (hd : Plan.Dual R p p') (hr : Counterpart p p' r r')
    (hu : World.Akin R u u') {o : Observation α} (ho : p.IsPlain o)
    (hs : r.Steps u (.sampled o) turn v) (hs' : r'.Steps u' (.sampled o) turn' v') :
    Paired R p p' (h ++ [.sampled o]) turn v turn' v' := by
  have hfits := hr.plan ▸ hs.fits.1
  obtain ⟨-, u₁, hobserve, hgo⟩ := hs.goBy_eq
  obtain ⟨-, u₁', hobserve', hgo'⟩ := hs'.goBy_eq
  obtain ⟨r₁, w₁, hrecord, hrest⟩ := of_goBy_eq_ok hgo
  obtain ⟨r₁', w₁', hrecord', hrest'⟩ := of_goBy_eq_ok hgo'
  obtain ⟨-, hu₁⟩ := (hr.observe hd).of_ok hu hobserve hobserve'
  obtain ⟨⟨capturedAt, rfl, rfl⟩, hw₁⟩ := (hr.record hd o).of_ok hu₁ hrecord hrecord'
  have hr₁ := hr.publish o.sample capturedAt
  rw [hr.plan] at hrest
  rw [hr.plan'] at hrest'
  obtain ⟨n, n', hrule, hrule'⟩ | ⟨cause, cause', hrule, hrule', hopposed⟩ :=
    hd.rule_cases ho hfits r.passes r'.passes
  · rw [hrule] at hrest
    rw [hrule'] at hrest'
    obtain ⟨r₂, hwait, rfl⟩ := hrest
    obtain ⟨r₂', hwait', rfl⟩ := hrest'
    have hcounted : Counterpart p p' { r.publish o.sample capturedAt with passes := n }
        { r'.publish o.sample capturedAt with passes := n' } :=
      ⟨hr₁.plan, hr₁.plan', hr₁.started, hr₁.samples, hr₁.latest, hr₁.requestedDelay, hr₁.phase⟩
    obtain ⟨hr₂, hv⟩ := (hcounted.startWaiting hd).of_ok hw₁ hwait hwait'
    exact .ready hr₂ hv
  · rw [hrule] at hrest
    rw [hrule'] at hrest'
    exact hr₁.paired_of_finish hd hw₁ hopposed hrest hrest'

/-- A look leaves the two runs waiting or lets both sample, or ends both. -/
theorem Counterpart.paired_of_looked (hd : Plan.Dual R p p') (hr : Counterpart p p' r r')
    (hu : World.Akin R u u') {wake : Option Wake} (hs : r.Steps u (.looked wake) turn v)
    (hs' : r'.Steps u' (.looked wake) turn' v') :
    Paired R p p' (h ++ [.looked wake]) turn v turn' v' := by
  obtain ⟨tick, deadline, found, w, hphase, hlook, hheed⟩ := hs.heed_eq
  obtain ⟨tick', deadline', found', w', hphase', hlook', hheed'⟩ := hs'.heed_eq
  obtain ⟨rfl, rfl⟩ := Phase.waiting.inj (hphase.symm.trans (hr.phase.trans hphase'))
  obtain ⟨hfound, hw⟩ := ((hr.waitsAlike hd).look tick deadline).of_ok hu hlook hlook'
  obtain rfl := (Prod.mk.inj hfound).2
  cases wake with
  | none =>
    obtain ⟨rfl, rfl⟩ := Effect.pure_eq_ok_iff.1 hheed
    obtain ⟨rfl, rfl⟩ := Effect.pure_eq_ok_iff.1 hheed'
    exact .pending ⟨hr.plan, hr.plan', hr.started, hr.samples, hr.latest, hr.requestedDelay, rfl⟩ hw
  | some wake =>
    rw [heed_some, hr.plan] at hheed
    rw [heed_some, hr.plan'] at hheed'
    obtain ⟨hcause, hcause'⟩ | ⟨cause, cause', hcause, hcause', hopposed⟩ :=
      hd.causeOfWake?_cases wake
    · rw [hcause] at hheed
      rw [hcause'] at hheed'
      obtain ⟨rfl, rfl⟩ := Effect.pure_eq_ok_iff.1 hheed
      obtain ⟨rfl, rfl⟩ := Effect.pure_eq_ok_iff.1 hheed'
      exact .ready ⟨rfl, rfl, hr.started, hr.samples, hr.latest, hr.requestedDelay, rfl⟩ hw
    · rw [hcause] at hheed
      rw [hcause'] at hheed'
      exact hr.paired_of_finish hd hw hopposed hheed hheed'

/-- **One step of two runs that have come to the same.** -/
theorem Counterpart.paired_of_steps (hd : Plan.Dual R p p') (hr : Counterpart p p' r r')
    (hu : World.Akin R u u') (hplain : ∀ o, e = .sampled o → p.IsPlain o)
    (hs : r.Steps u e turn v) (hs' : r'.Steps u' e turn' v') :
    Paired R p p' (h ++ [e]) turn v turn' v' := by
  cases e with
  | sampled o => exact hr.paired_of_sampled hd hu (hplain o rfl) hs hs'
  | looked wake => exact hr.paired_of_looked hd hu hs hs'

namespace Paired

/-- Runs that stand together go on together. -/
theorem of_run? (hp : Paired R p p' h turn w turn' w') (hrun : turn.run? = some r)
    (hrun' : turn'.run? = some r') : Counterpart p p' r r' ∧ World.Akin R w w' := by
  cases hp with
  | ready hr hw | pending hr hw =>
    obtain rfl := Option.some.inj hrun
    obtain rfl := Option.some.inj hrun'
    exact ⟨hr, hw⟩
  | ended => cases hrun

/-- Each is over if the other is. -/
theorem run?_eq_none_iff (hp : Paired R p p' h turn w turn' w') :
    turn.run? = none ↔ turn'.run? = none := by
  cases hp with
  | ready | pending => simp [Turn.run?]
  | ended => simp [Turn.run?]

theorem exists_run?_right (hp : Paired R p p' h turn w turn' w') (hrun : turn.run? = some r) :
    ∃ r', turn'.run? = some r' ∧ Counterpart p p' r r' := by
  cases hp with
  | ready hr | pending hr =>
    obtain rfl := Option.some.inj hrun
    exact ⟨_, rfl, hr⟩
  | ended => cases hrun

theorem exists_run?_left (hp : Paired R p p' h turn w turn' w') (hrun' : turn'.run? = some r') :
    ∃ r, turn.run? = some r ∧ Counterpart p p' r r' := by
  cases hp with
  | ready hr | pending hr =>
    obtain rfl := Option.some.inj hrun'
    exact ⟨_, rfl, hr⟩
  | ended => cases hrun'

end Paired

/-- **Two runs that go abreast stay together**, if their samples are plain. -/
theorem Abreast.paired (hd : Plan.Dual R p p') {w₀ w₀' : World σ} (hw₀ : World.Akin R w₀ w₀')
    {started : Duration}
    (ha : Abreast R (.start p started) w₀ (.start p' started) w₀' h turn w h' turn' w')
    (hplain : ∀ o ∈ (transcript h).samples, p.IsPlain o) :
    h' = h ∧ Paired R p p' h turn w turn' w' := by
  induction ha with
  | start => exact ⟨rfl, .ready ⟨rfl, rfl, rfl, rfl, rfl, rfl, rfl⟩ hw₀⟩
  | step _ hrun hrun' hsame hsteps hsteps' ih =>
    obtain ⟨rfl, hpaired⟩ := ih fun o ho ↦ hplain o (mem_samples_concat.2 (.inl ho))
    obtain ⟨hr, hw⟩ := hpaired.of_run? hrun hrun'
    obtain rfl := hr.event_eq hd (hsame hw) hsteps hsteps'
    refine ⟨rfl, hr.paired_of_steps hd (hsame hw) ?_ hsteps hsteps'⟩
    exact fun o ho ↦ hplain o (mem_samples_concat.2 (.inr ho))

section Following

variable {w₀ w₀' : World σ} {started : Duration} {between : Turn σ α → World σ → World σ → Prop}
  {I : σ → Prop}

/-- **What the one run does the other can do as well**, unless user code halts. -/
theorem Course.exists_abreast (hd : Plan.Dual R p p') (hw₀ : World.Akin R w₀ w₀')
    (hcalm : p'.Calm I) (hfollow : ∀ turn w u, between turn w u → ∃ s', R u.user s' ∧ I s')
    (hc : Course between (.start p started) w₀ h turn w)
    (hplain : ∀ o ∈ (transcript h).samples, p.IsPlain o) :
    ∃ turn' w', Abreast R (.start p started) w₀ (.start p' started) w₀' h turn w h turn' w' := by
  induction hc with
  | start => exact ⟨_, _, .start⟩
  | @step h turn next r w u v e _ hrun hbetween hsteps ih =>
    have hearlier : ∀ o ∈ (transcript h).samples, p.IsPlain o :=
      fun o ho ↦ hplain o (mem_samples_concat.2 (.inl ho))
    obtain ⟨turn', w', ha⟩ := ih hearlier
    obtain ⟨-, hpaired⟩ := ha.paired hd hw₀ hearlier
    obtain ⟨r', hrun', hr⟩ := hpaired.exists_run?_right hrun
    -- the surroundings do to the other world what they have done to this one
    obtain ⟨s', hs', hI⟩ := hfollow _ _ _ hbetween
    have hu : World.Akin R u { u with user := s' } := ⟨hs', rfl, rfl⟩
    obtain ⟨next', v', hstep', -⟩ :=
      exists_step_eq_ok (w := { u with user := s' }) (hr.plan' ▸ hcalm) hI
    obtain ⟨e', hsteps'⟩ := Run.exists_steps hstep'
    obtain rfl := hr.event_eq hd hu hsteps hsteps'
    exact ⟨next', v', ha.step hrun hrun' (fun _ ↦ hu) hsteps hsteps'⟩

/-- **What the other run does the one can do as well**, unless user code halts. -/
theorem Course.exists_abreast_of_opposite (hd : Plan.Dual R p p') (hw₀ : World.Akin R w₀ w₀')
    (hcalm : p.Calm I) (hfollow : ∀ turn w u, between turn w u → ∃ s, R s u.user ∧ I s)
    (hc : Course between (.start p' started) w₀' h turn' w')
    (hplain : ∀ o ∈ (transcript h).samples, p.IsPlain o) :
    ∃ turn w, Abreast R (.start p started) w₀ (.start p' started) w₀' h turn w h turn' w' := by
  induction hc with
  | start => exact ⟨_, _, .start⟩
  | @step h turn' next' r' w' u' v' e' _ hrun' hbetween hsteps' ih =>
    have hearlier : ∀ o ∈ (transcript h).samples, p.IsPlain o :=
      fun o ho ↦ hplain o (mem_samples_concat.2 (.inl ho))
    obtain ⟨turn, w, ha⟩ := ih hearlier
    obtain ⟨-, hpaired⟩ := ha.paired hd hw₀ hearlier
    obtain ⟨r, hrun, hr⟩ := hpaired.exists_run?_left hrun'
    obtain ⟨s, hs, hI⟩ := hfollow _ _ _ hbetween
    have hu : World.Akin R { u' with user := s } u' := ⟨hs, rfl, rfl⟩
    obtain ⟨next, v, hstep, -⟩ :=
      exists_step_eq_ok (w := { u' with user := s }) (hr.plan ▸ hcalm) hI
    obtain ⟨e, hsteps⟩ := Run.exists_steps hstep
    obtain rfl := hr.event_eq hd hu hsteps hsteps'
    exact ⟨next, v, ha.step hrun hrun' (fun _ ↦ hu) hsteps hsteps'⟩

end Following

end Pairs

/-! ### Endings that are opposed -/

/-- How the ending of the one run, after the history `h`, corresponds to the ending of the other. -/
structure OppositeEnds (h : List (Event α)) (ending ending' : Option Ending) : Prop where
  /-- The one held if the other failed, at the sample that was taken last. -/
  held : ending = none ↔ ∃ elapsed, ending' = some (.failed elapsed)
  last_of_held : ending = none → ∃ o, h.getLast? = some (.sampled o)
  /-- The one ran out of time if the other held at its deadline. -/
  timedOut : (∃ elapsed, ending = some (.timedOut elapsed)) ↔
    ending' = none ∧ h.getLast? = some (.looked (some .deadline))
  /-- The one ran out of hope if the other held early, on a settled sample. -/
  noFutureChange : (∃ elapsed, ending = some (.noFutureChange elapsed)) ↔
    ending' = none ∧ ∃ o, h.getLast? = some (.sampled o) ∧ o.mayChange = some false
  cancelled : ∀ elapsed, ending = some (.cancelled elapsed) ↔ ending' = some (.cancelled elapsed)
  stopped : ∀ message elapsed,
    ending = some (.stopped message elapsed) ↔ ending' = some (.stopped message elapsed)

theorem Paired.oppositeEnds {h : List (Event α)} {ending ending' : Option Ending} {w w' : World σ}
    (hp : Paired R p p' h (.over r ending) w (.over r' ending') w') :
    OppositeEnds h ending ending' := by
  cases hp with
  | ended hlast _ hopposed helapsed =>
    cases hopposed with
    | passes | expires => constructor <;> simp [Cause.ending?, hlast]
    | settles hsettled => constructor <;> simp [Cause.ending?, hlast, hsettled]
    | stops | cancelled =>
      obtain rfl := helapsed rfl
      constructor <;> simp [Cause.ending?]

/-- What two runs have in common that have gone abreast through the history `h`. -/
structure Mirrored (h : List (Event α)) (turn : Turn σ α) (w : World σ) (turn' : Turn σ α)
    (w' : World σ) : Prop where
  /-- They stand at the same instant. -/
  clock : w.clock = w'.clock
  /-- They have started the same sleeps. -/
  sleeps : Notice.sleeps w.notices = Notice.sleeps w'.notices
  /-- They have taken as many samples, and their latest ones are the same and as old. -/
  samples : turn.run.samples = turn'.run.samples
  latest : turn.run.latest = turn'.run.latest
  /-- Each is over if the other is. -/
  over_iff : turn.run? = none ↔ turn'.run? = none
  /-- Their endings correspond. -/
  ends : ∀ r r' ending ending', turn = .over r ending → turn' = .over r' ending' →
    OppositeEnds h ending ending'

theorem Paired.mirror {h : List (Event α)} {turn turn' : Turn σ α} {w w' : World σ}
    (hp : Paired R p p' h turn w turn' w') : Mirrored h turn w turn' w' := by
  have hover := hp.run?_eq_none_iff
  have hends : ∀ r r' ending ending', turn = .over r ending → turn' = .over r' ending' →
      OppositeEnds h ending ending' := by
    rintro r r' ending ending' rfl rfl
    exact hp.oppositeEnds
  cases hp with
  | ready hr hw | pending hr hw =>
    exact ⟨hw.clock, hw.sleeps, hr.samples, hr.latest, hover, hends⟩
  | ended _ hr _ _ hclock hsleeps => exact ⟨hclock, hsleeps, hr.samples, hr.latest, hover, hends⟩

end Run

/-- **The two modes are dual.** Let two runs of dual plans go abreast, and let nothing but plain
samples come of it. Then they meet with the same, sample by sample and wait by wait and at the same
instants, each is over when the other is, and their endings correspond one to one. Every course of
the one is matched by a course of the other in this way, unless user code halts. -/
theorem Plan.Dual.mirrored {R : σ → σ → Prop} {p p' : Plan σ α} (hd : Plan.Dual R p p')
    {w₀ w₀' : World σ} (hw₀ : World.Akin R w₀ w₀') (started : Duration) :
    (∀ h turn w h' turn' w',
      Run.Abreast R (.start p started) w₀ (.start p' started) w₀' h turn w h' turn' w' →
      (∀ o ∈ (Run.transcript h).samples, p.IsPlain o) →
      h' = h ∧ Run.Mirrored h turn w turn' w') ∧
    (∀ between (I : σ → Prop) h turn w, p'.Calm I →
      (∀ turn w u, between turn w u → ∃ s', R u.user s' ∧ I s') →
      Run.Course between (.start p started) w₀ h turn w →
      (∀ o ∈ (Run.transcript h).samples, p.IsPlain o) → ∃ turn' w',
        Run.Abreast R (.start p started) w₀ (.start p' started) w₀' h turn w h turn' w') ∧
    (∀ between (I : σ → Prop) h turn' w', p.Calm I →
      (∀ turn' w' u', between turn' w' u' → ∃ s, R s u'.user ∧ I s) →
      Run.Course between (.start p' started) w₀' h turn' w' →
      (∀ o ∈ (Run.transcript h).samples, p.IsPlain o) → ∃ turn w,
        Run.Abreast R (.start p started) w₀ (.start p' started) w₀' h turn w h turn' w') := by
  refine ⟨?_, ?_, ?_⟩
  · intro h turn w h' turn' w' ha hplain
    obtain ⟨rfl, hpaired⟩ := ha.paired hd hw₀ hplain
    exact ⟨rfl, hpaired.mirror⟩
  · intro between I h turn w hcalm hfollow hc hplain
    exact hc.exists_abreast hd hw₀ hcalm hfollow hplain
  · intro between I h turn' w' hcalm hfollow hc hplain
    exact hc.exists_abreast_of_opposite hd hw₀ hcalm hfollow hplain

/-! ### The opposite of a plan -/

/-- The plan that is to see the opposite verdict consistently. -/
def Plan.opposite (p : Plan σ α) : Plan σ α :=
  { p with mode := .consistently, desired := !p.desired }

theorem Plan.Calm.opposite {I : σ → Prop} {p : Plan σ α} (hp : p.Calm I) : p.opposite.Calm I :=
  ⟨⟨hp.callbacks.matcher, hp.callbacks.time, hp.callbacks.description⟩, hp.source⟩

/-- An assertion that is asked for the opposite in the other mode has the opposite plan. -/
theorem Assertion.plan_opposite {a : Assertion σ α} {m : Matcher σ α} {desired : Bool}
    {description : Description σ} {p : Plan σ α} (h : a.plan m desired description = .ok p) :
    ({ a with mode := .consistently } : Assertion σ α).plan m (!desired) description =
      .ok p.opposite := by
  rw [Assertion.plan] at h ⊢
  obtain ⟨timeout, htimeout, h⟩ := except_bind_eq_ok_iff.1 h
  obtain ⟨polling, hpolling, h⟩ := except_bind_eq_ok_iff.1 h
  obtain ⟨repeats, hrepeats, h⟩ := except_bind_eq_ok_iff.1 h
  obtain ⟨source, hsource, h⟩ := except_bind_eq_ok_iff.1 h
  cases h
  have hresolve : a.subject.resolve .consistently a.token = .ok source := by
    generalize a.subject = subject at hsource ⊢
    generalize a.token = token at hsource ⊢
    cases subject with
    | fixed | produced | checked => exact hsource
    | checkedWithToken => cases token <;> trivial
    | returnsNothing => cases hsource
  dsimp only
  rw [htimeout, hpolling, hrepeats, hresolve]
  rfl

/-- The action does not ask for the report. -/
def Action.IgnoresReport (act : Action σ β) : Prop :=
  ∀ clock report report', act ⟨clock, report⟩ = act ⟨clock, report'⟩

/-- What does not ask for the report does the same for all runs. -/
theorem Plan.doSame_of_ignoresReport {act : Action σ β} (hact : Action.IgnoresReport act)
    (p p' : Plan σ α) : p.DoSame Eq p' act act := by
  intro r r' _ w w' hw
  rw [Run.call_apply, Run.call_apply, hw.user, hw.clock]
  rw [hact _ (some (r.report w'.clock)) (some (r'.report w'.clock))]
  rcases act ⟨w'.clock, some (r'.report w'.clock)⟩ w'.user with ⟨halt | b, s⟩
  · exact .halted ⟨rfl, rfl, hw.sleeps⟩
  · exact .returned rfl ⟨rfl, rfl, hw.sleeps⟩

/-- **A plan is dual to its opposite** if its user code does not look at the reports, where the two
runs give themselves away. -/
theorem Plan.dual_opposite {p : Plan σ α} (hmode : p.mode = .eventually) (hrepeats : p.repeats = 1)
    (hobserve : Action.IgnoresReport (Observation.take p.source p.matcher))
    (hnow : Action.IgnoresReport p.time.now)
    (hsleep : ∀ d, Action.IgnoresReport (p.time.sleep d))
    (hwait : ∀ wait, p.time.sleepUntil? = some wait → ∀ d, Action.IgnoresReport (wait d)) :
    Plan.Dual Eq p p.opposite where
  mode := hmode
  mode' := rfl
  repeats := hrepeats
  desired := rfl
  timeout := rfl
  polling := rfl
  token w w' hw := by
    show p.token.elim false (· w.user) = p.token.elim false (· w'.user)
    rw [hw.user]
  observe := doSame_of_ignoresReport hobserve _ _
  now := doSame_of_ignoresReport hnow _ _
  sleep d := doSame_of_ignoresReport (hsleep d) _ _
  wait := by
    show Option.Rel _ p.time.sleepUntil? p.time.sleepUntil?
    cases htime : p.time.sleepUntil? with
    | none => exact .none
    | some wait => exact .some fun d ↦ doSame_of_ignoresReport (hwait wait htime d) _ _

/-- All that comes of the producer is verdicts. -/
theorem Plan.isPlain_counting {mode : Mode} {least : Nat} {view : View Nat} {s t : Nat}
    {o : Observation Nat} (h : Observation.take (counting mode least).source
      (counting mode least).matcher view s = (.ok o, t)) : (counting mode least).IsPlain o := by
  obtain ⟨ho, -⟩ := Prod.mk.inj h
  rw [← Except.ok.inj ho]
  exact ⟨.inl ⟨_, _, rfl⟩, fun _ _ ↦ rfl⟩

/-- The second call of the producer passes, which is one too many for the opposite. -/
theorem Run.mirrored_counting : ∃ h r w r' w' elapsed,
    Abreast Eq (.start (.counting .eventually 2) .zero) ⟨0, .zero, []⟩
      (.start (Plan.counting .eventually 2).opposite .zero) ⟨0, .zero, []⟩
      h (.over r none) w h (.over r' (some (.failed elapsed))) w' ∧
      r'.samples = 2 ∧ w'.clock = .ofMillis 10 ∧
      Notice.sleeps w'.notices = [.ofMillis 10] := by
  obtain ⟨h, r, w, hc, hsamples, hclock, hsleeps⟩ : ∃ h r w,
      Course clockMoves (.start (.counting .eventually 2) .zero) ⟨0, .zero, []⟩ h (.over r none) w ∧
        r.samples = 2 ∧ w.clock = .ofMillis 10 ∧ Notice.sleeps w.notices = [.ofMillis 10] :=
    ⟨_, _, _, .step (.step (.step (.step .start rfl ⟨.zero, rfl⟩ (.sampled rfl rfl rfl))
      rfl ⟨.zero, rfl⟩ (.looked rfl rfl rfl)) rfl ⟨.ofMillis 10, rfl⟩ (.looked rfl rfl rfl))
      rfl ⟨.ofMillis 10, rfl⟩ (.sampled rfl rfl rfl), rfl, rfl, rfl⟩
  have hplain : ∀ o ∈ (transcript h).samples, (Plan.counting .eventually 2).IsPlain o := by
    intro o ho
    obtain ⟨view, s, t, htake⟩ := hc.exists_take ho
    exact Plan.isPlain_counting htake
  have hd : Plan.Dual Eq (.counting .eventually 2) (Plan.counting .eventually 2).opposite :=
    Plan.dual_opposite rfl rfl (fun _ _ _ ↦ rfl) (fun _ _ _ ↦ rfl) (fun _ _ _ _ ↦ rfl)
      (by rintro wait ⟨⟩ d _ _ _; rfl)
  have hw₀ : World.Akin Eq (⟨0, .zero, []⟩ : World Nat) ⟨0, .zero, []⟩ := ⟨rfl, rfl, rfl⟩
  obtain ⟨hmirrored, hfollows, -⟩ := hd.mirrored hw₀ .zero
  obtain ⟨turn', w', ha⟩ := hfollows _ _ _ _ _ (Plan.calm_counting .eventually 2).opposite
    (fun _ _ u _ ↦ ⟨u.user, rfl, trivial⟩) hc hplain
  obtain ⟨-, hm⟩ := hmirrored _ _ _ _ _ _ ha hplain
  obtain ⟨r', ending', rfl⟩ := Turn.exists_over_of_run? (hm.over_iff.1 rfl)
  obtain ⟨elapsed, rfl⟩ := (hm.ends r r' none ending' rfl rfl).held.1 rfl
  exact ⟨h, r, w, r', w', elapsed, ha, hm.samples.symm.trans hsamples, hm.clock.symm.trans hclock,
    hm.sleeps.symm.trans hsleeps⟩

end PollAssert
