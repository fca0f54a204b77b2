import PollAssert.Proofs.Run.Standing
import Mathlib.Data.List.DropRight

/-!
# The semantics of the two modes

What a run comes to, in terms of all the samples that it took and of what ended the waits between
them. Samples come in four kinds: a sample passes, or asks to stop, or asks to be tried again, or is
an **ordinary failure**.

`eventually` holds at the first passing sample by which enough samples have passed since the last
ordinary failure; neither passing samples before that failure nor requests to try again matter.
`consistently` fails at the first ordinary failure. A request to stop ends both, and so does a
settled sample that cannot be followed by anything else; see `eventuallyCause?` and
`consistentlyCause?` for the order in which these count.

The two main results hold in **every** surrounding, for the world may change between two steps
as it likes.
-/

namespace PollAssert

variable {σ α : Type}

/-! ### Kinds of samples -/

/-- An ordinary failure: the sample does not pass and carries no signal. -/
def Sample.isOrdinaryFailure (desired : Bool) (s : Sample α) : Bool :=
  !s.passed desired && s.signal?.isNone

namespace Observation

/-- The message of a sample that asks to stop. -/
def stopMessage? (o : Observation α) : Option String :=
  match o.sample.signal?.map Signal.request with
  | some (.stop message) => some message
  | _ => none

/-- The delay of a sample that asks to be tried again. -/
def retryDelay? (o : Observation α) : Option Duration :=
  match o.sample.signal?.map Signal.request with
  | some (.retry delay) => some delay
  | _ => none

/-- The value is fixed, there is one, and the oracle says that judging it again changes nothing. -/
def isSettled (source : Source σ α) (o : Observation α) : Bool :=
  source.isFixed && o.sample.value?.isSome && o.mayChange == some false

/-- The four kinds of samples, by what the rules are told of them. -/
theorem kind_cases (desired : Bool) (o : Observation α) :
    (o.sample.passed desired = true ∧ o.sample.signal? = none ∧ o.sample.steering = .goOn) ∨
    (o.sample.passed desired = false ∧ o.sample.signal? = none ∧ o.sample.steering = .goOn) ∨
    (o.sample.passed desired = false ∧ ∃ signal message, o.sample.signal? = some signal ∧
      signal.request = .stop message ∧ o.sample.steering = .stop message) ∨
    (o.sample.passed desired = false ∧ ∃ signal delay, o.sample.signal? = some signal ∧
      signal.request = .retry delay ∧ o.sample.steering = .retry delay) := by
  cases hpassed : o.sample.passed desired with
  | true =>
    have hsignal : o.sample.signal? = none := by
      generalize o.sample = s at hpassed ⊢
      cases s with
      | judged a matched => rfl
      | unjudged a fault => cases hpassed
      | missed mishap => cases hpassed
    exact .inl ⟨rfl, hsignal, by rw [Sample.steering, hsignal]⟩
  | false =>
    refine .inr ?_
    cases hsignal : o.sample.signal? with
    | none => exact .inl ⟨rfl, rfl, by rw [Sample.steering, hsignal]⟩
    | some signal =>
      refine .inr ?_
      cases hrequest : signal.request with
      | stop message =>
        exact .inl ⟨rfl, signal, message, rfl, hrequest, by
          rw [Sample.steering, hsignal]; simp only [hrequest]⟩
      | retry delay =>
        exact .inr ⟨rfl, signal, delay, rfl, hrequest, by
          rw [Sample.steering, hsignal]; simp only [hrequest]⟩

/-- The oracle is asked of nothing but fixed values, so its answer settles the sample. -/
theorem Fits.isSettled_eq {source : Source σ α} {o : Observation α} (h : o.Fits source) :
    o.isSettled source = (o.mayChange == some false) := by
  rw [Fits] at h
  rw [isSettled]
  rw [← h]
  rcases o.mayChange with - | - | - <;> rfl

end Observation

/-! ### Eventually -/

/-- The number of passing samples since the last ordinary failure. -/
def passesSinceFailure (desired : Bool) (os : List (Observation α)) : Nat :=
  (os.rtakeWhile fun o ↦ !o.sample.isOrdinaryFailure desired).countP fun o ↦ o.sample.passed desired

theorem passesSinceFailure_concat (desired : Bool) (os : List (Observation α))
    (o : Observation α) :
    passesSinceFailure desired (os ++ [o]) =
      if o.sample.isOrdinaryFailure desired then 0
      else if o.sample.passed desired then passesSinceFailure desired os + 1
      else passesSinceFailure desired os := by
  rw [passesSinceFailure]
  rw [List.rtakeWhile_concat]
  cases hfailure : o.sample.isOrdinaryFailure desired with
  | true => rfl
  | false =>
    rw [if_pos (by rfl), List.countP_append, List.countP_singleton]
    cases o.sample.passed desired <;> rfl

/-- Why the last of the given samples ends an `eventually`, if it does. -/
def Plan.eventuallyCause? (p : Plan σ α) (os : List (Observation α)) : Option Cause :=
  os.getLast?.bind fun o ↦
    if o.sample.passed p.desired ∧ p.repeats ≤ passesSinceFailure p.desired os then some .held
    else match o.stopMessage? with
      | some message => some (.stopped message)
      | none =>
        if ¬ o.sample.passed p.desired ∧ o.isSettled p.source then some .noFutureChange else none

/-- Why the end of a wait ends an `eventually`, if it does. -/
def Wake.eventuallyCause? : Wake → Option Cause
  | .tick => none
  | .deadline => some .timedOut
  | .cancelled => some .cancelled

theorem Plan.judges_of_eventually {p : Plan σ α} (hmode : p.mode = .eventually) :
    p.Judges (passesSinceFailure p.desired) p.eventuallyCause? where
  count_nil := rfl
  rule_concat os o hfits := by
    rw [hmode]
    show Mode.ruleEventually p.repeats _ (o.reading p.desired) = _
    rw [Mode.ruleEventually, Plan.eventuallyCause?, Observation.reading]
    rw [List.getLast?_concat, Option.bind_some, passesSinceFailure_concat, hfits.isSettled_eq]
    rw [Sample.isOrdinaryFailure, Observation.stopMessage?]
    -- one case for each kind of sample: the two sides ask the same questions in another order
    obtain ⟨hpassed, hsignal, hsteering⟩ | ⟨hpassed, hsignal, hsteering⟩ |
      ⟨hpassed, signal, message, hsignal, hrequest, hsteering⟩ |
      ⟨hpassed, signal, delay, hsignal, hrequest, hsteering⟩ := o.kind_cases p.desired
    · simp only [hpassed, hsignal]
      by_cases hheld : p.repeats ≤ passesSinceFailure p.desired os + 1 <;> simp [hheld]
    · cases hsettled : o.mayChange == some false <;> simp [hpassed, hsignal, hsteering]
    · simp [hpassed, hsignal, hsteering, hrequest]
    · cases hsettled : o.mayChange == some false <;>
        simp [hpassed, hsignal, hsteering, hrequest]

namespace Run

variable {between : Turn σ α → World σ → World σ → Prop} {p : Plan σ α} {started : Duration}
  {w₀ w : World σ} {h : List (Event α)} {turn : Turn σ α}

/-- **The semantics of `eventually`.** Whatever happens between its steps, the run is over at the
first sample that has a cause: it passes and enough samples have passed since the last ordinary
failure; it asks to stop; it is a settled sample that does not pass; or the wait after it ends with
the deadline or a cancellation. Until then it can go on, unless user code halts, and the source is
called once a sample. -/
theorem Course.eventually_endsAtFirst (hmode : p.mode = .eventually)
    (hc : Course between (.start p started) w₀ h turn w) :
    EndsAtFirst ((transcript h).causeAt p.eventuallyCause? Wake.eventuallyCause?)
        (transcript h) turn ∧
      turn.run.samples = (transcript h).samples.length ∧
      (∀ I : σ → Prop, p.Calm I → ∀ r, turn.run? = some r → ∀ u : World σ, I u.user →
        ∃ e turn' v, r.Steps u e turn' v ∧ I v.user) ∧
      (∀ calls : σ → Nat, p.source.Adds calls →
        (∀ n, p.CallbacksKeep (calls · = n) (calls · = n)) →
        (∀ turn w u, between turn w u → calls u.user = calls w.user) →
        calls w.user = calls w₀.user + (transcript h).samples.length) := by
  have hwake : p.mode.causeOfWake? = Wake.eventuallyCause? := by
    rw [hmode]
    funext wake
    cases wake <;> rfl
  refine ⟨?_, ?_, ?_, ?_⟩
  · rw [← hwake]
    exact (hc.standing (Plan.judges_of_eventually hmode)).endsAtFirst
  · exact hc.run_eq.2.2.trans (Nat.zero_add _)
  · intro I hcalm r hrun u hu
    exact hc.exists_steps hrun hcalm hu
  · intro calls hsource hcallbacks hbetween
    exact hc.calls_eq hsource hcallbacks hbetween

end Run

/-- A producer that counts its calls, judged by whether the count has come to `least`. -/
def Plan.counting (mode : Mode) (least : Nat) : Plan Nat Nat where
  mode := mode
  timeout := .ofMillis 20
  polling := .ofMillis 10
  repeats := 1
  token := none
  source := .produced do
    modify (· + 1)
    return .ok (← get)
  matcher := .ofPure (least ≤ ·) (fun _ ↦ "") fun _ ↦ ""
  desired := true
  description := .none
  time := .runtime .zero

theorem Plan.adds_counting (mode : Mode) (least : Nat) : (counting mode least).source.Adds id :=
  fun _ _ _ ↦ rfl

theorem Plan.callbacksKeep_counting (mode : Mode) (least : Nat) (I E : Nat → Prop) :
    (counting mode least).CallbacksKeep I E where
  matcher := Matcher.keeps_ofPure ..
  time := TimeSource.keeps_runtime ..
  description := .pure _

namespace Run

/-- Between the steps the clock may move, and nothing else happens. -/
def clockMoves (_ : Turn σ α) (w u : World σ) : Prop := ∃ clock, u = { w with clock := clock }

/-- The second call of the producer passes, after a tick. -/
theorem eventually_endsAtFirst_counting : ∃ h turn w,
    Course clockMoves (.start (.counting .eventually 2) .zero) ⟨0, .zero, []⟩ h turn w ∧
      EndsAtFirst ((transcript h).causeAt (Plan.counting .eventually 2).eventuallyCause?
        Wake.eventuallyCause?) (transcript h) turn ∧
      turn.run.samples = 2 ∧ w.user = 2 := by
  obtain ⟨h, turn, w, hc, hlength⟩ : ∃ h turn w,
      Course clockMoves (.start (.counting .eventually 2) .zero) ⟨0, .zero, []⟩ h turn w ∧
        (transcript h).samples.length = 2 :=
    ⟨_, _, _, .step (.step (.step (.step .start rfl ⟨.zero, rfl⟩ (.sampled rfl rfl rfl))
      rfl ⟨.zero, rfl⟩ (.looked rfl rfl rfl)) rfl ⟨.ofMillis 10, rfl⟩ (.looked rfl rfl rfl))
      rfl ⟨.ofMillis 10, rfl⟩ (.sampled rfl rfl rfl), rfl⟩
  obtain ⟨hends, hsamples, -, hcalls⟩ := hc.eventually_endsAtFirst rfl
  have hbetween : ∀ (turn : Turn Nat Nat) (w u : World Nat), clockMoves turn w u →
      id u.user = id w.user := by
    rintro turn w u ⟨clock, rfl⟩
    rfl
  refine ⟨h, turn, w, hc, hends, hsamples.trans hlength, ?_⟩
  exact (hcalls id (Plan.adds_counting _ _) (fun n ↦ Plan.callbacksKeep_counting _ _ _ _)
    hbetween).trans (by rw [hlength]; rfl)

end Run

/-! ### Consistently -/

/-- Why a sample ends a `consistently`, if it does. -/
def Plan.consistentlyCause? (p : Plan σ α) (o : Observation α) : Option Cause :=
  match o.stopMessage? with
  | some message => some (.stopped message)
  | none =>
    if o.sample.isOrdinaryFailure p.desired then some .failed
    else if o.sample.passed p.desired ∧ o.isSettled p.source then some .held
    else none

/-- Why the end of a wait ends a `consistently`, if it does. -/
def Wake.consistentlyCause? : Wake → Option Cause
  | .tick => none
  | .deadline => some .held
  | .cancelled => some .cancelled

/-- Only the last sample matters, and the counter is never used. -/
theorem Plan.judges_of_consistently {p : Plan σ α} (hmode : p.mode = .consistently) :
    p.Judges (fun _ ↦ 0) fun os ↦ os.getLast?.bind p.consistentlyCause? where
  count_nil := rfl
  rule_concat os o hfits := by
    rw [hmode]
    show Mode.ruleConsistently _ (o.reading p.desired) = _
    rw [Mode.ruleConsistently, List.getLast?_concat, Option.bind_some]
    rw [Plan.consistentlyCause?, Observation.reading, hfits.isSettled_eq]
    rw [Sample.isOrdinaryFailure, Observation.stopMessage?]
    obtain ⟨hpassed, hsignal, hsteering⟩ | ⟨hpassed, hsignal, hsteering⟩ |
      ⟨hpassed, signal, message, hsignal, hrequest, hsteering⟩ |
      ⟨hpassed, signal, delay, hsignal, hrequest, hsteering⟩ := o.kind_cases p.desired
    · cases hsettled : o.mayChange == some false <;> simp [hpassed, hsignal, hsteering]
    · simp [hpassed, hsignal, hsteering]
    · simp [hsignal, hsteering, hrequest]
    · simp [hpassed, hsignal, hsteering, hrequest]

/-- A request to try again decides nothing, even if it is settled. -/
theorem Plan.consistentlyCause?_of_retry {p : Plan σ α} {o : Observation α} {delay : Duration}
    (h : o.retryDelay? = some delay) : p.consistentlyCause? o = none := by
  rw [Observation.retryDelay?] at h
  rw [consistentlyCause?, Sample.isOrdinaryFailure, Observation.stopMessage?]
  obtain ⟨hpassed, hsignal, -⟩ | ⟨hpassed, hsignal, -⟩ |
    ⟨hpassed, signal, message, hsignal, hrequest, -⟩ |
    ⟨hpassed, signal, delay, hsignal, hrequest, -⟩ := o.kind_cases p.desired
  · rw [hsignal] at h
    cases h
  · rw [hsignal] at h
    cases h
  · rw [hsignal, Option.map_some, hrequest] at h
    cases h
  · simp [hpassed, hsignal, hrequest]

/-- A sample that does not fail a `consistently` is no ordinary failure and does not ask to stop. -/
theorem Plan.not_failing_of_consistentlyCause? {p : Plan σ α} {o : Observation α}
    (h : p.consistentlyCause? o = none ∨ p.consistentlyCause? o = some .held) :
    o.sample.isOrdinaryFailure p.desired = false ∧ o.stopMessage? = none := by
  rw [consistentlyCause?] at h
  cases hstop : o.stopMessage? with
  | some message =>
    rw [hstop] at h
    rcases h with h | h <;> cases h
  | none =>
    cases hfailure : o.sample.isOrdinaryFailure p.desired with
    | true =>
      rw [hstop, hfailure] at h
      rcases h with h | h <;> cases h
    | false => exact ⟨rfl, rfl⟩

/-- A sample by which a `consistently` holds passes and is settled. -/
theorem Plan.passed_of_consistentlyCause?_eq_held {p : Plan σ α} {o : Observation α}
    (h : p.consistentlyCause? o = some .held) :
    o.sample.passed p.desired = true ∧ o.isSettled p.source = true := by
  rw [consistentlyCause?] at h
  split at h
  · cases h
  · split_ifs at h with hfailure hsettled
    · cases h
    · exact hsettled

/-- Only a run that held is over without an ending. -/
theorem Cause.ending?_eq_none_iff {cause : Cause} {elapsed : Duration} :
    cause.ending? elapsed = none ↔ cause = .held := by
  cases cause <;> simp [Cause.ending?]

/-- An ending tells the time after which the run was over. -/
theorem Cause.elapsed?_of_ending? {cause : Cause} {elapsed : Duration} {ending : Ending}
    (h : cause.ending? elapsed = some ending) : ending.elapsed? = some elapsed := by
  cases cause <;> cases h <;> rfl

namespace Run

variable {between : Turn σ α → World σ → World σ → Prop} {p : Plan σ α} {started : Duration}
  {w₀ w : World σ} {h : List (Event α)} {turn : Turn σ α}

/-- Why a `consistently` is over at a sample: for what that sample is, or for what ended the wait
after it. -/
theorem Transcript.causeAt_getLast? {cause? : Observation α → Option Cause}
    {ofWake : Wake → Option Cause} {t : Transcript α} {i : Nat} {o : Observation α}
    (ho : t.samples[i]? = some o) :
    t.causeAt (fun os ↦ os.getLast?.bind cause?) ofWake i =
      (cause? o).or (t.wakes[i]?.bind ofWake) := by
  obtain ⟨hi, -⟩ := List.getElem?_eq_some_iff.1 ho
  rw [causeAt]
  rw [if_pos hi]
  show ((t.samples.take (i + 1)).getLast?.bind cause?).or _ = _
  rw [List.getLast?_take, if_neg (Nat.succ_ne_zero i), Nat.add_sub_cancel, ho, Option.some_or,
    Option.bind_some]

/-- What a run that held tells of its samples and of its end. -/
theorem EndsAtFirst.of_held {t : Transcript α} {r : Run σ α}
    (ht : EndsAtFirst (t.causeAt (fun os ↦ os.getLast?.bind p.consistentlyCause?)
      Wake.consistentlyCause?) t (.over r none)) :
    (∀ o ∈ t.samples, o.sample.isOrdinaryFailure p.desired = false ∧ o.stopMessage? = none) ∧
      ∃ n o, t.samples.length = n + 1 ∧ t.samples[n]? = some o ∧
        (t.wakes[n]? = some .deadline ∨
          o.sample.passed p.desired = true ∧ o.isSettled p.source = true) := by
  obtain ⟨n, cause, elapsed, hlength, hbefore, hlast, hending⟩ := ht
  obtain rfl := Cause.ending?_eq_none_iff.1 hending.symm
  have hcauses : ∀ (i : Nat) (o : Observation α), t.samples[i]? = some o →
      p.consistentlyCause? o = none ∨ p.consistentlyCause? o = some .held := by
    intro i o ho
    obtain ⟨hi, -⟩ := List.getElem?_eq_some_iff.1 ho
    rcases Nat.lt_succ_iff_lt_or_eq.1 (hlength ▸ hi) with hlt | rfl
    · have hnone := hbefore i hlt
      rw [t.causeAt_getLast? ho, Option.or_eq_none_iff] at hnone
      exact .inl hnone.1
    · rw [t.causeAt_getLast? ho, Option.or_eq_some_iff] at hlast
      rcases hlast with hheld | ⟨hnone, -⟩
      · exact .inr hheld
      · exact .inl hnone
  refine ⟨?_, ?_⟩
  · intro o ho
    obtain ⟨i, hi⟩ := List.mem_iff_getElem?.1 ho
    exact Plan.not_failing_of_consistentlyCause? (hcauses i o hi)
  · have hn : n < t.samples.length := by omega
    refine ⟨n, t.samples[n], hlength, List.getElem?_eq_getElem hn, ?_⟩
    rw [t.causeAt_getLast? (List.getElem?_eq_getElem hn), Option.or_eq_some_iff] at hlast
    rcases hlast with hheld | ⟨-, hwake⟩
    · exact .inr (Plan.passed_of_consistentlyCause?_eq_held hheld)
    · obtain ⟨wake, hget, hcause⟩ := Option.bind_eq_some_iff.1 hwake
      cases wake with
      | deadline => exact .inl hget
      | tick | cancelled => cases hcause

/-- **The semantics of `consistently`.** Whatever happens between its steps, the run is over at the
first sample that has a cause: it asks to stop; it is an ordinary failure; it passes and is settled;
or the wait after it ends with the deadline, by which the run holds, or with a cancellation. Until
then it can go on, unless user code halts. A run that held took no failing sample at all and either
waited for its deadline or ended on a settled sample that passes. At a sample that asks to be tried
again only the wait after it can decide. -/
theorem Course.consistently_endsAtFirst (hmode : p.mode = .consistently)
    (hc : Course between (.start p started) w₀ h turn w) :
    EndsAtFirst ((transcript h).causeAt (fun os ↦ os.getLast?.bind p.consistentlyCause?)
        Wake.consistentlyCause?) (transcript h) turn ∧
      turn.run.samples = (transcript h).samples.length ∧
      (∀ I : σ → Prop, p.Calm I → ∀ r, turn.run? = some r → ∀ u : World σ, I u.user →
        ∃ e turn' v, r.Steps u e turn' v ∧ I v.user) ∧
      (∀ r, turn = .over r none →
        (∀ o ∈ (transcript h).samples,
          o.sample.isOrdinaryFailure p.desired = false ∧ o.stopMessage? = none) ∧
        ∃ n o, (transcript h).samples.length = n + 1 ∧ (transcript h).samples[n]? = some o ∧
          ((transcript h).wakes[n]? = some .deadline ∨
            o.sample.passed p.desired = true ∧ o.isSettled p.source = true)) ∧
      (∀ (i : Nat) (o : Observation α) (delay : Duration), (transcript h).samples[i]? = some o →
        o.retryDelay? = some delay →
        (transcript h).causeAt (fun os ↦ os.getLast?.bind p.consistentlyCause?)
          Wake.consistentlyCause? i = (transcript h).wakes[i]?.bind Wake.consistentlyCause?) := by
  have hwake : p.mode.causeOfWake? = Wake.consistentlyCause? := by
    rw [hmode]
    funext wake
    cases wake <;> rfl
  have hends : EndsAtFirst ((transcript h).causeAt
      (fun os ↦ os.getLast?.bind p.consistentlyCause?) Wake.consistentlyCause?)
      (transcript h) turn := by
    rw [← hwake]
    exact (hc.standing (Plan.judges_of_consistently hmode)).endsAtFirst
  refine ⟨hends, hc.run_eq.2.2.trans (Nat.zero_add _), ?_, ?_, ?_⟩
  · intro I hcalm r hrun u hu
    exact hc.exists_steps hrun hcalm hu
  · rintro r rfl
    exact hends.of_held
  · intro i o delay ho hdelay
    rw [Transcript.causeAt_getLast? ho, Plan.consistentlyCause?_of_retry hdelay, Option.none_or]

/-- Every call passes, and the deadline comes with the second tick. -/
theorem consistently_endsAtFirst_counting : ∃ h turn w,
    Course clockMoves (.start (.counting .consistently 1) .zero) ⟨0, .zero, []⟩ h turn w ∧
      EndsAtFirst ((transcript h).causeAt
        (fun os ↦ os.getLast?.bind (Plan.counting .consistently 1).consistentlyCause?)
        Wake.consistentlyCause?) (transcript h) turn ∧
      turn.run.samples = 2 ∧ (transcript h).wakes = [.tick, .deadline] := by
  obtain ⟨h, turn, w, hc, hlength, hwakes⟩ : ∃ h turn w,
      Course clockMoves (.start (.counting .consistently 1) .zero) ⟨0, .zero, []⟩ h turn w ∧
        (transcript h).samples.length = 2 ∧ (transcript h).wakes = [.tick, .deadline] :=
    ⟨_, _, _, .step (.step (.step (.step .start rfl ⟨.zero, rfl⟩ (.sampled rfl rfl rfl))
      rfl ⟨.ofMillis 10, rfl⟩ (.looked rfl rfl rfl)) rfl ⟨.ofMillis 10, rfl⟩
      (.sampled rfl rfl rfl)) rfl ⟨.ofMillis 20, rfl⟩ (.looked rfl rfl rfl), rfl, rfl⟩
  obtain ⟨hends, hsamples, -⟩ := hc.consistently_endsAtFirst rfl
  exact ⟨h, turn, w, hc, hends, hsamples.trans hlength, hwakes⟩

end Run

/-! ### Both modes at once -/

namespace Plan

variable (p : Plan σ α)

/-- What a run counts of the samples so far. -/
def count (os : List (Observation α)) : Nat :=
  match p.mode with
  | .eventually => passesSinceFailure p.desired os
  | .consistently => 0

/-- Why the last of the given samples ends a run, if it does. -/
def cause? (os : List (Observation α)) : Option Cause :=
  match p.mode with
  | .eventually => p.eventuallyCause? os
  | .consistently => os.getLast?.bind p.consistentlyCause?

theorem cause?_nil : p.cause? [] = none := by
  rw [cause?]
  cases p.mode <;> rfl

theorem judges : p.Judges p.count p.cause? := by
  cases hmode : p.mode with
  | eventually =>
    have h := judges_of_eventually hmode
    have hcount : p.count = passesSinceFailure p.desired := by
      funext os
      rw [count, hmode]
    have hcause : p.cause? = p.eventuallyCause? := by
      funext os
      rw [cause?, hmode]
    rwa [hcount, hcause]
  | consistently =>
    have h := judges_of_consistently hmode
    have hcount : p.count = fun _ ↦ 0 := by
      funext os
      rw [count, hmode]
    have hcause : p.cause? = fun os ↦ os.getLast?.bind p.consistentlyCause? := by
      funext os
      rw [cause?, hmode]
    rwa [hcount, hcause]

/-- A passing sample ends a run for no other cause than that it held. -/
theorem eq_held_of_cause? {p : Plan σ α} {os : List (Observation α)} {o : Observation α}
    {cause : Cause} (hlast : os.getLast? = some o) (hpassed : o.sample.passed p.desired = true)
    (hcause : p.cause? os = some cause) : cause = .held := by
  have hsignal : o.sample.signal? = none := by
    obtain ⟨-, hsignal, -⟩ | ⟨hnot, -⟩ | ⟨hnot, -⟩ | ⟨hnot, -⟩ := o.kind_cases p.desired
    · exact hsignal
    all_goals
      rw [hpassed] at hnot
      cases hnot
  have hstop : o.stopMessage? = none := by rw [Observation.stopMessage?, hsignal, Option.map_none]
  have hordinary : o.sample.isOrdinaryFailure p.desired = false := by
    rw [Sample.isOrdinaryFailure, hpassed]
    rfl
  rw [cause?] at hcause
  cases hmode : p.mode with
  | eventually =>
    rw [hmode] at hcause
    dsimp only at hcause
    rw [eventuallyCause?, hlast, Option.bind_some, hstop, hpassed] at hcause
    by_cases henough : p.repeats ≤ passesSinceFailure p.desired os
    · rw [if_pos ⟨rfl, henough⟩] at hcause
      exact (Option.some.inj hcause).symm
    · rw [if_neg fun h ↦ henough h.2] at hcause
      cases hcause
  | consistently =>
    rw [hmode] at hcause
    dsimp only at hcause
    rw [hlast, Option.bind_some, consistentlyCause?, hstop, hordinary] at hcause
    by_cases hsettled : o.isSettled p.source = true
    · rw [if_neg Bool.false_ne_true, if_pos ⟨hpassed, hsettled⟩] at hcause
      exact (Option.some.inj hcause).symm
    · rw [if_neg Bool.false_ne_true, if_neg fun h ↦ hsettled h.2] at hcause
      cases hcause

/-- An `eventually` holds at nothing but a passing sample. -/
theorem passed_of_cause?_eq_held {p : Plan σ α} {os : List (Observation α)} {o : Observation α}
    (hmode : p.mode = .eventually) (hlast : os.getLast? = some o)
    (hcause : p.cause? os = some .held) : o.sample.passed p.desired = true := by
  rw [cause?, hmode] at hcause
  dsimp only at hcause
  rw [eventuallyCause?, hlast, Option.bind_some] at hcause
  by_contra hpassed
  rw [if_neg fun h ↦ hpassed h.1] at hcause
  cases hstop : o.stopMessage? with
  | some message =>
    rw [hstop] at hcause
    cases hcause
  | none =>
    rw [hstop] at hcause
    dsimp only at hcause
    split_ifs at hcause
    cases hcause

end Plan

end PollAssert
