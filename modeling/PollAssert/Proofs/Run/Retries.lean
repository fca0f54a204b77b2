import PollAssert.Proofs.Run.Budget

/-!
# Requests to try again decide nothing

A sample that asks to be tried again has two effects: it sets the delay before the next sample, and
it puts off what that sample may bring. Beyond this it counts for nothing. It neither passes nor
fails, and the passing samples before it and after it are still in a row.

To state this without the clock, take a run that has no deadline and no token and whose source is
not fixed (`Plan.OpenEnded`). Nothing ends it but its samples, so how it stands can be told from
them alone: the rules of its mode are applied to one sample after the other (`Mode.verdict`), and
the run is over with the first sample for which they say so (`Run.Ruled`). The rules pass over
requests to try again, wherever these occur. So of two such runs, the one of which takes the samples
that the other one takes but for the requests, both come to the same end and with the same sample
(`Run.retries_neutral`).
-/

namespace PollAssert

variable {σ σ' α : Type}

/-! ### The rules, one sample after the other -/

namespace Sample

/-- Does the sample ask to be tried again? -/
def asksAgain (s : Sample α) : Bool :=
  match s.steering with
  | .retry _ => true
  | _ => false

/-- What a run uses of the sample if its source is not fixed. -/
def unsettled (desired : Bool) (s : Sample α) : Reading := ⟨s.passed desired, false, s.steering⟩

/-- The samples but for those that ask to be tried again. -/
def withoutRetries (ss : List (Sample α)) : List (Sample α) := ss.filter (!·.asksAgain)

theorem passed_of_asksAgain {s : Sample α} (h : s.asksAgain = true) (desired : Bool) :
    s.passed desired = false := by
  cases s with
  | judged a matched => cases h
  | unjudged | missed => rfl

end Sample

theorem Observation.reading_of_fits {source : Source σ α} {o : Observation α}
    (hfits : o.Fits source) (hfree : source.isFixed = false) (desired : Bool) :
    o.reading desired = o.sample.unsettled desired := by
  rw [Fits, hfree, Bool.false_and, Option.isSome_eq_false_iff, Option.isNone_iff_eq_none] at hfits
  rw [reading, hfits]
  rfl

namespace Mode

variable (mode : Mode) (repeats : Nat) (desired : Bool)

/-- What follows from one more sample. A run that is over stays so. -/
def ruleOn (ruling : Ruling) (s : Sample α) : Ruling :=
  match ruling with
  | .goOn passes => mode.rule repeats passes (s.unsettled desired)
  | .over cause => .over cause

/-- What follows from all the samples, if the source is not fixed. -/
def verdict (ss : List (Sample α)) : Ruling := ss.foldl (mode.ruleOn repeats desired) (.goOn 0)

theorem verdict_concat (ss : List (Sample α)) (s : Sample α) :
    mode.verdict repeats desired (ss ++ [s]) =
      mode.ruleOn repeats desired (mode.verdict repeats desired ss) s :=
  List.foldl_concat _ _ _ _

variable {mode repeats desired}

/-- What the samples have decided the later ones do not change. -/
theorem verdict_of_prefix {ss ss' : List (Sample α)} {cause : Cause} (hfirst : ss <+: ss')
    (h : mode.verdict repeats desired ss = .over cause) :
    mode.verdict repeats desired ss' = .over cause := by
  obtain ⟨rest, rfl⟩ := hfirst
  induction rest using List.reverseRecOn with
  | nil => rwa [List.append_nil]
  | append_singleton rest s ih => rw [← List.append_assoc, verdict_concat, ih, ruleOn]

/-- **A request to try again neither passes nor fails**, and leaves the counter as it is. -/
theorem ruleOn_of_asksAgain {s : Sample α} (h : s.asksAgain = true) (ruling : Ruling) :
    mode.ruleOn repeats desired ruling s = ruling := by
  rcases ruling with passes | cause
  · have hpassed := s.passed_of_asksAgain h desired
    rw [Sample.asksAgain] at h
    rw [ruleOn, Sample.unsettled, hpassed]
    cases hsteering : s.steering with
    | goOn | stop => rw [hsteering] at h; cases h
    | retry delay => cases mode <;> rfl
  · rfl

/-- **Requests to try again make no difference to the verdict**, wherever and however often they
occur. -/
theorem verdict_withoutRetries (ss : List (Sample α)) :
    mode.verdict repeats desired (Sample.withoutRetries ss) = mode.verdict repeats desired ss := by
  have hskip : (fun (ruling : Ruling) (s : Sample α) ↦
      if (!s.asksAgain) = true then mode.ruleOn repeats desired ruling s else ruling) =
      mode.ruleOn repeats desired := by
    funext ruling s
    cases hagain : s.asksAgain with
    | false => rfl
    | true => exact (ruleOn_of_asksAgain hagain ruling).symm
  rw [verdict, Sample.withoutRetries, List.foldl_filter, hskip, verdict]

end Mode

/-! ### Runs that only their samples end -/

/-- Nothing ends a run with this plan that starts at the given reading but its samples: it has no
token and no deadline, for that is not representable. Nor is its source fixed. -/
structure Plan.OpenEnded (p : Plan σ α) (started : Duration) : Prop where
  source : p.source.isFixed = false
  token : p.token = none
  deadline : started.checkedAdd? p.timeout = none

/-- The two plans judge samples by the same rules. -/
structure Plan.SameRules (p : Plan σ α) (p' : Plan σ' α) : Prop where
  mode : p.mode = p'.mode
  repeats : p.repeats = p'.repeats
  desired : p.desired = p'.desired

/-- What follows from all the samples. -/
def Plan.verdict (p : Plan σ α) (ss : List (Sample α)) : Ruling :=
  p.mode.verdict p.repeats p.desired ss

theorem Plan.SameRules.verdict_eq {p : Plan σ α} {p' : Plan σ' α} (h : p.SameRules p')
    (ss : List (Sample α)) : p.verdict ss = p'.verdict ss := by
  rw [verdict, verdict, h.mode, h.repeats, h.desired]

namespace Run

/-- The samples of a history. -/
def taken (h : List (Event α)) : List (Sample α) := (transcript h).samples.map Observation.sample

theorem taken_concat (h : List (Event α)) (e : Event α) :
    taken (h ++ [e]) = taken h ++ e.sample?.toList := map_sample_concat h e

theorem length_taken (h : List (Event α)) : (taken h).length = (transcript h).samples.length :=
  List.length_map _

/-- A run that has taken the given samples stands as the verdict on them says: it goes on, with its
counter, or the last of them has ended it. -/
inductive Ruled (p : Plan σ α) (ss : List (Sample α)) : Turn σ α → Prop
  | goesOn {turn : Turn σ α} {r : Run σ α} (hrun : turn.run? = some r)
      (hverdict : p.verdict ss = .goOn r.passes) : Ruled p ss turn
  | ended {r : Run σ α} {before : List (Sample α)} {last : Sample α} {passes : Nat} {cause : Cause}
      {elapsed : Duration} (hlast : ss = before ++ [last])
      (hbefore : p.verdict before = .goOn passes) (hverdict : p.verdict ss = .over cause) :
      Ruled p ss (.over r (cause.ending? elapsed))

variable {between : Turn σ α → World σ → World σ → Prop} {p : Plan σ α} {started : Duration}
  {r : Run σ α} {w₀ w u v : World σ} {h : List (Event α)} {turn turn' : Turn σ α}

/-- The samples say that the run goes on, if it does. -/
theorem Ruled.verdict_of_run? {ss : List (Sample α)} (h : Ruled p ss turn)
    (hrun : turn.run? = some r) : p.verdict ss = .goOn r.passes := by
  cases h with
  | goesOn hrun' hverdict => rwa [Option.some.inj (hrun.symm.trans hrun')]
  | ended => cases hrun

/-- The deadline's timer that is started never goes off. -/
theorem deadlineTimer_eq_never {timer : Timer} (hp : p.OpenEnded started) (hplan : r.plan = p)
    (hstarted : r.started = started) (h : r.deadlineTimer none u = (.ok timer, v)) :
    timer = .never := by
  have hnone : r.deadline? = none := by rw [deadline?, hplan, hstarted, hp.deadline]
  rw [deadlineTimer, sleepUntilDeadline, hnone] at h
  exact (Effect.pure_eq_ok_iff.1 h).1.symm

/-- Nothing ends a wait but the tick. -/
theorem Course.wake_eq_tick (hp : p.OpenEnded started)
    (hc : Course between (.start p started) w₀ h turn w) (hrun : turn.run? = some r) {wake : Wake}
    (hsteps : r.Steps u (.looked (some wake)) turn' v) : wake = .tick := by
  have hplan : r.plan = p := hc.plan_eq hrun
  obtain ⟨tick, deadline, found, u', hphase, hlook, -⟩ := hsteps.heed_eq
  obtain ⟨hcancelled, -⟩ | ⟨timer, -, htimer, hwake, -⟩ := of_look_eq_ok hlook
  · rw [isCancelled_eq_ok_iff, Plan.isCancelled, hplan, hp.token] at hcancelled
    cases hcancelled
  · have hnever : timer = .never :=
      hc.of_deadlineTimer (· = .never) (deadlineTimer_eq_never hp) hrun hphase htimer
    rw [hnever, Wake.at?, Timer.isDue_never, if_neg Bool.false_ne_true] at hwake
    split_ifs at hwake
    exact Option.some.inj hwake

/-- **A run that only its samples end stands as they say.** -/
theorem Course.ruled (hp : p.OpenEnded started)
    (hc : Course between (.start p started) w₀ h turn w) : Ruled p (taken h) turn := by
  induction hc with
  | start => exact .goesOn rfl rfl
  | @step h turn turn' r w u v e hc hrun hbetween hsteps ih =>
    have hplan : r.plan = p := hc.plan_eq hrun
    have hverdict : p.verdict (taken h) = .goOn r.passes := ih.verdict_of_run? hrun
    rw [taken_concat]
    cases e with
    | sampled o =>
      have hreading := Observation.reading_of_fits hsteps.fits.1 (hplan ▸ hp.source) p.desired
      have hnext : p.verdict (taken h ++ [o.sample]) =
          p.mode.rule p.repeats r.passes (o.reading p.desired) := by
        rw [hreading, Plan.verdict, Mode.verdict_concat, ← Plan.verdict, hverdict, Mode.ruleOn]
      cases hsteps.leads with
      | waits hrule => exact .goesOn rfl (hnext.trans (hplan ▸ hrule))
      | decided hrule => exact .ended rfl hverdict (hnext.trans (hplan ▸ hrule))
    | looked wake =>
      rw [Event.sample?, Option.toList_none, List.append_nil]
      cases hsteps.leads with
      | pends => exact .goesOn rfl hverdict
      | resumes => exact .goesOn rfl hverdict
      | woken hcause =>
        rw [hc.wake_eq_tick hp hrun hsteps, Mode.causeOfWake?_eq_none_iff.2 rfl] at hcause
        cases hcause

/-! ### Two runs -/

/-- How two runs stand alike: both go on with as many passing samples in a row, or both are over for
the same cause, be it at different times. -/
inductive AtOne : Turn σ α → Turn σ' α → Prop
  | goOn {turn : Turn σ α} {turn' : Turn σ' α} {r : Run σ α} {r' : Run σ' α}
      (hrun : turn.run? = some r) (hrun' : turn'.run? = some r') (hpasses : r.passes = r'.passes) :
      AtOne turn turn'
  | ended {r : Run σ α} {r' : Run σ' α} {cause : Cause} {elapsed elapsed' : Duration} :
      AtOne (.over r (cause.ending? elapsed)) (.over r' (cause.ending? elapsed'))

namespace Ruled

variable {p' : Plan σ' α} {ss ss' : List (Sample α)} {turn₂ : Turn σ' α}
  {r' : Run σ' α} {ending ending' : Option Ending}

/-- The samples have a last one if the run is over, and it is that one that says so. -/
theorem exists_last (h : Ruled p ss (.over r ending)) :
    ∃ before last passes cause, ss = before ++ [last] ∧ p.verdict before = .goOn passes ∧
      p.verdict ss = .over cause := by
  generalize hturn : Turn.over r ending = turn at h
  cases h with
  | goesOn hrun =>
    subst hturn
    cases hrun
  | ended hlast hbefore hverdict => exact ⟨_, _, _, _, hlast, hbefore, hverdict⟩

/-- Without the requests to try again the samples say the same. -/
theorem withoutRetries (h : Ruled p ss turn) : Ruled p (Sample.withoutRetries ss) turn := by
  have hsame : ∀ ss : List (Sample α), p.verdict (Sample.withoutRetries ss) = p.verdict ss :=
    Mode.verdict_withoutRetries
  cases h with
  | goesOn hrun hverdict => exact .goesOn hrun ((hsame ss).trans hverdict)
  | @ended r before last passes cause elapsed hlast hbefore hverdict =>
    -- the last sample has ended the run, so it is none of the requests
    have hcounts : last.asksAgain = false := by
      by_contra hagain
      rw [hlast, Plan.verdict, Mode.verdict_concat, Mode.ruleOn_of_asksAgain
        (Bool.not_eq_false _ ▸ hagain)] at hverdict
      cases hbefore.symm.trans hverdict
    have hkept : Sample.withoutRetries ss = Sample.withoutRetries before ++ [last] := by
      rw [hlast, Sample.withoutRetries, List.filter_append, List.filter_singleton, hcounts]
      rfl
    exact .ended hkept ((hsame before).trans hbefore) ((hsame ss).trans hverdict)

/-- Runs whose samples say the same stand alike. -/
theorem atOne (h : Ruled p ss turn) (h' : Ruled p' ss' turn₂)
    (hsame : p.verdict ss = p'.verdict ss') : AtOne turn turn₂ := by
  cases h with
  | goesOn hrun hverdict =>
    rw [hverdict] at hsame
    cases h' with
    | goesOn hrun' hverdict' =>
      exact .goOn hrun hrun' (Ruling.goOn.inj (hsame.trans hverdict'))
    | ended _ _ hverdict' => cases hsame.trans hverdict'
  | ended _ _ hverdict =>
    rw [hverdict] at hsame
    cases h' with
    | goesOn _ hverdict' => cases hsame.trans hverdict'
    | ended _ _ hverdict' =>
      obtain rfl := Ruling.over.inj (hsame.trans hverdict')
      exact .ended

/-- No fewer samples than those of a run that is over decide it. -/
theorem eq_of_prefix {cause : Cause} (h : Ruled p ss (.over r ending)) (hfirst : ss' <+: ss)
    (hverdict : p.verdict ss' = .over cause) : ss' = ss := by
  obtain ⟨before, last, passes, -, rfl, hbefore, -⟩ := h.exists_last
  rcases List.prefix_concat_iff.1 hfirst with heq | hfewer
  · exact heq
  · cases hbefore.symm.trans (Mode.verdict_of_prefix hfewer hverdict)

/-- Of two runs with the same rules that are over, neither has taken more samples than the other
one, if it has taken those of the other one first. -/
theorem samples_eq (hrules : p.SameRules p') (h : Ruled p ss (.over r ending))
    (h' : Ruled p' ss' (.over r' ending')) (hcomparable : ss' <+: ss ∨ ss <+: ss') : ss' = ss := by
  obtain ⟨-, -, -, cause, -, -, hverdict⟩ := h.exists_last
  obtain ⟨-, -, -, cause', -, -, hverdict'⟩ := h'.exists_last
  rcases hcomparable with hfirst | hfirst
  · exact h.eq_of_prefix hfirst ((hrules.verdict_eq ss').trans hverdict')
  · exact (h'.eq_of_prefix hfirst ((hrules.verdict_eq ss).symm.trans hverdict)).symm

/-- A run that goes on has not taken all samples of one with the same rules that is over. -/
theorem length_lt (hrules : p.SameRules p') (h : Ruled p ss (.over r ending))
    (h' : Ruled p' ss' turn₂) (hrun : turn₂.run? = some r')
    (hcomparable : ss' <+: ss ∨ ss <+: ss') : ss'.length < ss.length := by
  obtain ⟨-, -, -, cause, -, -, hverdict⟩ := h.exists_last
  have hgoesOn : p.verdict ss' = .goOn r'.passes :=
    (hrules.verdict_eq ss').trans (h'.verdict_of_run? hrun)
  rcases hcomparable with hfirst | hfirst
  · refine Nat.lt_of_le_of_ne hfirst.length_le fun hlength ↦ ?_
    rw [hfirst.eq_of_length hlength, hverdict] at hgoesOn
    cases hgoesOn
  · cases hgoesOn.symm.trans (Mode.verdict_of_prefix hfirst hverdict)

end Ruled

/-- The run takes its samples from the given ones, one after the other, until there are no more of
them. -/
def TakesFrom (between : Turn σ α → World σ → World σ → Prop) (r₀ : Run σ α) (w₀ : World σ)
    (stream : List (Sample α)) : Prop :=
  ∀ h turn w, Course between r₀ w₀ h turn w → taken h <+: stream ∨ stream <+: taken h

/-- What becomes of a run that takes the samples of a run that is over but for those of them that
ask to be tried again. -/
structure Follows (between' : Turn σ' α → World σ' → World σ' → Prop) (p' : Plan σ' α)
    (started' : Duration) (w₀' : World σ') (kept : List (Sample α)) (last : Turn σ α) : Prop where
  /-- While it goes on there are samples left for it. -/
  goesOn : ∀ h' turn' w' r', Course between' (.start p' started') w₀' h' turn' w' →
    turn'.run? = some r' → (taken h').length < kept.length
  /-- When it is over it has taken them all, and ends as the other one does. -/
  ends : ∀ h' r' ending' w',
    Course between' (.start p' started') w₀' h' (.over r' ending') w' →
      taken h' = kept ∧ AtOne last (.over r' ending')
  /-- In wakeful surroundings that let it go on it does come to its end, unless user code halts. -/
  terminates : Wakeful between' → ∀ I : σ' → Prop, p'.Calm I → I w₀'.user →
    LetsGoOn between' (.start p' started') w₀' I → ∃ h' r' ending' w',
      Course between' (.start p' started') w₀' h' (.over r' ending') w'

variable {p' : Plan σ' α} {started' : Duration}

/-- **Requests to try again are neutral**, wherever and however often they occur. Take two runs with
the same rules that nothing ends but their samples. When they have taken the same samples but for
such requests they stand alike, with as many passing samples in a row. And when the one is over, the
other one, if it takes the same samples but for such requests, comes to the same end, after all of
them. -/
theorem retries_neutral (hp : p.OpenEnded started) (hp' : p'.OpenEnded started')
    (hrules : p.SameRules p') :
    (∀ between between' w₀ w₀' h turn w h' turn' w',
      Course between (.start p started) w₀ h turn w →
      Course between' (.start p' started') w₀' h' turn' w' →
      Sample.withoutRetries (taken h') = Sample.withoutRetries (taken h) → AtOne turn turn') ∧
    ∀ between w₀ h r ending w, Course between (.start p started) w₀ h (.over r ending) w →
      ∀ between' w₀',
        TakesFrom between' (.start p' started') w₀' (Sample.withoutRetries (taken h)) →
        Follows between' p' started' w₀' (Sample.withoutRetries (taken h)) (.over r ending) := by
  refine ⟨?_, ?_⟩
  · intro between between' w₀ w₀' h turn w h' turn' w' hc hc' hsame
    refine (hc.ruled hp).withoutRetries.atOne (hc'.ruled hp').withoutRetries ?_
    rw [hsame, hrules.verdict_eq]
  intro between w₀ h r ending w hc between' w₀' htakes
  have hruled := (hc.ruled hp).withoutRetries
  have hfewer : ∀ h' turn' w' r', Course between' (.start p' started') w₀' h' turn' w' →
      turn'.run? = some r' → (taken h').length < (Sample.withoutRetries (taken h)).length := by
    intro h' turn' w' r' hc' hrun
    exact hruled.length_lt hrules (hc'.ruled hp') hrun (htakes _ _ _ hc')
  refine ⟨hfewer, ?_, ?_⟩
  · intro h' r' ending' w' hc'
    have heq := hruled.samples_eq hrules (hc'.ruled hp') (htakes _ _ _ hc')
    refine ⟨heq, hruled.atOne (hc'.ruled hp') ?_⟩
    rw [heq, hrules.verdict_eq]
  · intro hwakeful I hcalm hw hgo
    refine exists_over_of_samples_lt hwakeful hcalm hw hgo
      (Sample.withoutRetries (taken h)).length fun h' turn' w' r' hc' hrun ↦ ?_
    exact length_taken h' ▸ hfewer _ _ _ _ hc' hrun

end Run

/-- A producer that asks twice to be tried again after five milliseconds, and then has a value. Its
assertion has no end of time. -/
def Plan.hesitant : Plan Nat Nat where
  mode := .eventually
  timeout := .greatest
  polling := .ofMillis 10
  repeats := 1
  token := none
  source := .produced do
    modify (· + 1)
    let calls ← get
    return if calls ≤ 2 then .error (.signal (.retry (.ofMillis 5))) else .ok calls
  matcher := .ofPure (2 < ·) (fun _ ↦ "") fun _ ↦ ""
  desired := true
  description := .none
  time := .runtime .zero

/-- A producer that has the value at once. -/
def Plan.prompt : Plan Nat Nat := { hesitant with source := .produced (pure (.ok 3)) }

theorem Plan.calm_prompt : prompt.Calm fun _ ↦ True where
  callbacks := ⟨Matcher.keeps_ofPure .., TimeSource.keeps_runtime .., .pure _⟩
  source := .bind (.pure _) fun result ↦ by cases result <;> exact .pure _

namespace Run

/-- Every sample of `prompt` has the value. -/
theorem Course.taken_prompt {between : Turn Nat Nat → World Nat → World Nat → Prop}
    {started : Duration} {w₀ w : World Nat} {h : List (Event Nat)} {turn : Turn Nat Nat}
    (hc : Course between (.start .prompt started) w₀ h turn w) :
    ∀ s ∈ taken h, s = .judged 3 true := by
  intro s hs
  obtain ⟨o, ho, rfl⟩ := List.mem_map.1 hs
  obtain ⟨view, t, t', htake⟩ := hc.exists_take ho
  exact congrArg Observation.sample (Except.ok.inj (Prod.mk.inj htake).1).symm

theorem takesFrom_prompt (between : Turn Nat Nat → World Nat → World Nat → Prop)
    (started : Duration) (w₀ : World Nat) :
    TakesFrom between (.start .prompt started) w₀ [.judged 3 true] := by
  intro h turn w hc
  have hall := hc.taken_prompt
  cases htaken : taken h with
  | nil => exact .inl List.nil_prefix
  | cons s ss =>
    obtain rfl := hall s (htaken ▸ List.mem_cons_self)
    exact .inr ⟨ss, rfl⟩

/-- The one asks twice to be tried again, and both hold, after one sample besides. -/
theorem retries_neutral_hesitant : ∃ h r w h' r' ending' w',
    Course ClockRuns (.start .hesitant (.ofMillis 1)) ⟨0, .ofMillis 1, []⟩ h (.over r none) w ∧
    (taken h).length = 3 ∧
    Course ClockRuns (.start .prompt (.ofMillis 1)) ⟨0, .ofMillis 1, []⟩ h' (.over r' ending') w' ∧
    taken h' = [.judged 3 true] ∧ AtOne (.over r none) (.over r' ending') := by
  obtain ⟨h, r, w, hc, hlength, hkept⟩ : ∃ h r w,
      Course ClockRuns (.start .hesitant (.ofMillis 1)) ⟨0, .ofMillis 1, []⟩ h (.over r none) w ∧
      (taken h).length = 3 ∧ Sample.withoutRetries (taken h) = [.judged 3 true] :=
    ⟨_, _, _, .step (.step (.step (.step (.step (.step (.step .start
      rfl .ready (.sampled rfl rfl rfl)) rfl .ready (.looked rfl rfl rfl))
      rfl (.pending (.ofMillis 6) (by decide) rfl) (.looked rfl rfl rfl))
      rfl .ready (.sampled rfl rfl rfl)) rfl .ready (.looked rfl rfl rfl))
      rfl (.pending (.ofMillis 11) (by decide) rfl) (.looked rfl rfl rfl))
      rfl .ready (.sampled rfl rfl rfl), rfl, rfl⟩
  have hdeadline : (Duration.ofMillis 1).checkedAdd? .greatest = none :=
    Duration.checkedAdd?_eq_none_iff.2 (by decide)
  have hopen : Plan.hesitant.OpenEnded (.ofMillis 1) := ⟨rfl, rfl, hdeadline⟩
  have hopen' : Plan.prompt.OpenEnded (.ofMillis 1) := ⟨rfl, rfl, hdeadline⟩
  obtain ⟨-, hfollows⟩ := retries_neutral hopen hopen' ⟨rfl, rfl, rfl⟩
  obtain ⟨hgoesOn, hends, hterminates⟩ :=
    hkept ▸ hfollows _ _ _ _ _ _ hc _ _ (hkept ▸ takesFrom_prompt _ _ _)
  have hgo : LetsGoOn ClockRuns (.start .prompt (.ofMillis 1)) ⟨0, .ofMillis 1, []⟩
      fun _ ↦ True := by
    intro h' turn' w' r' hc' hrun _
    rcases turn' with r' | r' | ⟨r', ending'⟩
    · exact ⟨w', .ready, trivial⟩
    · -- a run that waits has taken the one sample there is
      have hfewer : (taken h').length < 1 := hgoesOn _ _ _ _ hc' hrun
      have hlooks : h'.length + 1 ≤ 3 * (transcript h').samples.length :=
        hc'.length_le wakeful_clockRuns
      rw [length_taken] at hfewer
      omega
    · cases hrun
  obtain ⟨h', r', ending', w', hc'⟩ :=
    hterminates wakeful_clockRuns _ Plan.calm_prompt trivial hgo
  obtain ⟨htaken, halike⟩ := hends _ _ _ _ hc'
  exact ⟨h, r, w, h', r', ending', w', hc, hlength, hc', htaken, halike⟩

end Run

end PollAssert
