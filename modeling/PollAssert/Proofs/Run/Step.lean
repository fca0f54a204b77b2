import PollAssert.Proofs.Effects
import PollAssert.Run.Basic

/-!
# What one step of a run does

A step either takes a sample or looks at what the run waits for.

Taking a sample begins with an `Observation`: the sample, the answer of the matcher's oracle if the
oracle was asked, and the instant. This is the part of the step that calls the code under test; the
rest (`Run.goBy`) publishes the sample, writes the log and does what the mode's ruling says.
`sampleStep_eq` cuts the step there.

`of_goBy_eq_ok` and `of_waitStep_eq_ok` say everything that the two kinds of step can lead to. The
frame lemmas at the end say what the rest of a step leaves alone: whatever readings of the time,
sleeps and notices do not touch.
-/

namespace PollAssert

variable {σ α β γ : Type}

/-- What ends a wait at an instant. The deadline goes before the tick. -/
def Wake.at? (tick deadline : Timer) (clock : Duration) : Option Wake :=
  if deadline.isDue clock then some .deadline
  else if tick.isDue clock then some .tick
  else none

/-! ### Observations -/

/-- Judge what the source gave. -/
def Sample.ofResult (m : Matcher σ α) : Except Mishap α → Action σ (Sample α)
  | .error mishap => return .missed mishap
  | .ok a => do
    match ← m.judge a with
    | .ok matched => return .judged a matched
    | .error fault => return .unjudged a fault

theorem Sample.take_eq (source : Source σ α) (m : Matcher σ α) :
    Sample.take source m = source.take >>= Sample.ofResult m := by
  rw [Sample.take]
  congr 1

/-- What the matcher's oracle says of a sample, if it is the judgement of a fixed value. -/
def Sample.askOracle (source : Source σ α) (m : Matcher σ α) (s : Sample α) :
    Action σ (Option Bool) :=
  match source.isFixed, s.value? with
  | true, some a => some <$> m.mayChange a
  | _, _ => pure none

/-- Either the oracle was asked, or nothing was done. -/
theorem Sample.of_askOracle_eq_ok {source : Source σ α} {m : Matcher σ α} {s : Sample α}
    {answer : Option Bool} {view : View σ} {u v : σ}
    (h : s.askOracle source m view u = (.ok answer, v)) :
    (∃ a b, m.mayChange a view u = (.ok b, v) ∧ answer = some b) ∨ (answer = none ∧ v = u) := by
  rw [Sample.askOracle] at h
  generalize source.isFixed = fixed at h
  generalize s.value? = value at h
  cases fixed with
  | false =>
    obtain ⟨rfl, rfl⟩ := Effect.pure_eq_ok_iff.1 h
    exact .inr ⟨rfl, rfl⟩
  | true =>
    cases value with
    | none =>
      obtain ⟨rfl, rfl⟩ := Effect.pure_eq_ok_iff.1 h
      exact .inr ⟨rfl, rfl⟩
    | some a =>
      obtain ⟨b, hb, rfl⟩ := Effect.map_eq_ok_iff.1 h
      exact .inl ⟨a, b, hb, rfl⟩

theorem Sample.isSome_of_askOracle_eq_ok {source : Source σ α} {m : Matcher σ α} {s : Sample α}
    {answer : Option Bool} {view : View σ} {u v : σ}
    (h : s.askOracle source m view u = (.ok answer, v)) :
    answer.isSome = (source.isFixed && s.value?.isSome) := by
  rw [Sample.askOracle] at h
  generalize source.isFixed = fixed at h ⊢
  generalize s.value? = value at h ⊢
  cases fixed with
  | false =>
    obtain ⟨rfl, -⟩ := Effect.pure_eq_ok_iff.1 h
    rfl
  | true =>
    cases value with
    | none =>
      obtain ⟨rfl, -⟩ := Effect.pure_eq_ok_iff.1 h
      rfl
    | some a =>
      obtain ⟨b, -, rfl⟩ := Effect.map_eq_ok_iff.1 h
      rfl

/-- A sample is settled if the oracle was asked and ruled out a change. -/
theorem Sample.isSettled_eq (source : Source σ α) (m : Matcher σ α) (s : Sample α) :
    s.isSettled source m = (· == some false) <$> s.askOracle source m := by
  rw [Sample.isSettled, Sample.askOracle]
  rcases source.isFixed with - | -
  · rfl
  · rcases s.value? with - | a
    · rfl
    · show (!·) <$> m.mayChange a = (· == some false) <$> (some <$> m.mayChange a)
      rw [Functor.map_map]
      congr 1
      funext b
      cases b <;> rfl

/-- A sample, with what else came of taking it. -/
structure Observation (α : Type) where
  /-- The sample. -/
  sample : Sample α
  /-- Whether the matcher's oracle allows for a change, if it was asked. -/
  mayChange : Option Bool
  /-- The instant of the runtime's clock. -/
  clock : Duration

namespace Observation

/-- Take a sample and put it to the oracle. -/
def take (source : Source σ α) (m : Matcher σ α) : Action σ (Observation α) := do
  let sample ← Sample.take source m
  let mayChange ← sample.askOracle source m
  return ⟨sample, mayChange, ← Action.clock⟩

/-- Judge what the source gave, and put the sample to the oracle. -/
def ofResult (source : Source σ α) (m : Matcher σ α) (result : Except Mishap α) :
    Action σ (Observation α) := do
  let sample ← Sample.ofResult m result
  let mayChange ← sample.askOracle source m
  return ⟨sample, mayChange, ← Action.clock⟩

/-- The source is called once, and first. -/
theorem take_eq (source : Source σ α) (m : Matcher σ α) :
    take source m = source.take >>= ofResult source m := by
  rw [take, Sample.take_eq, bind_assoc]
  rfl

theorem of_ofResult_eq_ok {source : Source σ α} {m : Matcher σ α} {result : Except Mishap α}
    {o : Observation α} {view : View σ} {s t : σ}
    (h : ofResult source m result view s = (.ok o, t)) :
    ∃ u, Sample.ofResult m result view s = (.ok o.sample, u) := by
  obtain ⟨sample, s₁, hsample, hrest⟩ := Effect.bind_eq_ok_iff.1 h
  obtain ⟨mayChange, s₂, -, hrest⟩ := Effect.bind_eq_ok_iff.1 hrest
  obtain ⟨rfl, -⟩ := Effect.pure_eq_ok_iff.1 hrest
  exact ⟨s₁, hsample⟩

/-- What the run uses of the observation. -/
def reading (desired : Bool) (o : Observation α) : Reading :=
  ⟨o.sample.passed desired, o.mayChange == some false, o.sample.steering⟩

/-- The oracle was asked if the sample is the judgement of a fixed value, and not otherwise. -/
def Fits (source : Source σ α) (o : Observation α) : Prop :=
  o.mayChange.isSome = (source.isFixed && o.sample.value?.isSome)

theorem of_take_eq_ok {source : Source σ α} {m : Matcher σ α} {o : Observation α} {view : View σ}
    {s t : σ} (h : take source m view s = (.ok o, t)) : o.Fits source ∧ o.clock = view.clock := by
  obtain ⟨sample, s₁, -, hrest⟩ := Effect.bind_eq_ok_iff.1 h
  obtain ⟨mayChange, s₂, hask, hrest⟩ := Effect.bind_eq_ok_iff.1 hrest
  obtain ⟨rfl, -⟩ := Effect.pure_eq_ok_iff.1 hrest
  exact ⟨Sample.isSome_of_askOracle_eq_ok hask, rfl⟩

end Observation

/-- Has the token of the plan been cancelled? -/
def Plan.isCancelled (p : Plan σ α) (w : World σ) : Bool := p.token.elim false (· w.user)

namespace Run

variable (r : Run σ α)

theorem call_apply (act : Action σ β) (w : World σ) :
    r.call act w =
      ((act ⟨w.clock, some (r.report w.clock)⟩ w.user).1,
        { w with user := (act ⟨w.clock, some (r.report w.clock)⟩ w.user).2 }) := rfl

theorem call_pure (b : β) : r.call (pure b) = pure b := rfl

/-- Two calls one after the other see the same surroundings. -/
theorem call_bind (act : Action σ β) (f : β → Action σ γ) :
    r.call (act >>= f) = r.call act >>= fun b ↦ r.call (f b) := by
  funext w
  rcases h : act ⟨w.clock, some (r.report w.clock)⟩ w.user with ⟨p | b, user⟩
  · have hcall : r.call act w = (.error p, { w with user := user }) := by rw [r.call_apply, h]
    rw [Effect.bind_of_error hcall, r.call_apply]
    rw [show (act >>= f) ⟨w.clock, some (r.report w.clock)⟩ w.user = _ from
      Effect.bind_of_error h _]
  · have hcall : r.call act w = (.ok b, { w with user := user }) := by rw [r.call_apply, h]
    rw [Effect.bind_of_ok hcall, r.call_apply, r.call_apply]
    rw [show (act >>= f) ⟨w.clock, some (r.report w.clock)⟩ w.user = _ from
      Effect.bind_of_ok h _]

theorem call_map (act : Action σ β) (f : β → γ) : r.call (f <$> act) = f <$> r.call act := by
  rw [map_eq_pure_bind, map_eq_pure_bind, call_bind]
  rfl

/-- The time since the start is a reading less the start. -/
theorem elapsed_apply (view : View σ) :
    r.elapsed view = (fun now ↦ now.saturatingSub r.started) <$> r.plan.time.now view := rfl

theorem call_elapsed_eq :
    r.call r.elapsed = (fun now ↦ now.saturatingSub r.started) <$> r.call r.plan.time.now := by
  rw [← call_map]
  rfl

/-- Take a sample and put it to the oracle, in the course of the run. -/
def observe : Engine σ (Observation α) := r.call (Observation.take r.plan.source r.plan.matcher)

/-- Publish the sample of an observation and log it. -/
def record (o : Observation α) : Engine σ (Run σ α) := do
  let r' := r.publish o.sample (← r.call r.elapsed)
  Engine.log (.sampled r'.plan.mode r'.samples (← r'.call r'.elapsed)
    (o.sample.passed r.plan.desired))
  return r'

/-- Go on after an observation: record it, and do what the mode's ruling says. -/
def goBy (o : Observation α) : Engine σ (Turn σ α) := do
  let r' ← r.record o
  match r'.plan.mode.rule r'.plan.repeats r'.passes (o.reading r.plan.desired) with
  | .over cause => r'.finish cause
  | .goOn passes => .ready <$> ({ r' with passes := passes } : Run σ α).startWaiting

theorem takeSample_eq :
    r.takeSample = do
      let o ← r.observe
      return (← r.record o, o.reading r.plan.desired) := by
  simp only [takeSample, observe, record, Observation.take, call_bind, call_pure,
    Sample.isSettled_eq, call_map, bind_assoc, pure_bind, bind_map_left]
  rfl

theorem sampleStep_eq : r.sampleStep = r.observe >>= r.goBy := by
  simp only [sampleStep, takeSample_eq, bind_assoc, pure_bind]
  rfl

/-! ### What a sample can lead to -/

variable {r}

theorem of_record_eq_ok {o : Observation α} {r' : Run σ α} {w v : World σ}
    (h : r.record o w = (.ok r', v)) :
    ∃ capturedAt logged w₁ w₂, r.call r.elapsed w = (.ok capturedAt, w₁) ∧
      r' = r.publish o.sample capturedAt ∧ r'.call r'.elapsed w₁ = (.ok logged, w₂) ∧
      v = { w₂ with notices := .logged (.sampled r.plan.mode (r.samples + 1) logged
        (o.sample.passed r.plan.desired)) :: w₂.notices } := by
  obtain ⟨capturedAt, w₁, h₁, hrest⟩ := Effect.bind_eq_ok_iff.1 h
  obtain ⟨logged, w₂, h₂, hrest⟩ := Effect.bind_eq_ok_iff.1 hrest
  obtain ⟨_, w₃, h₃, hrest⟩ := Effect.bind_eq_ok_iff.1 hrest
  obtain ⟨rfl, rfl⟩ := Effect.pure_eq_ok_iff.1 hrest
  obtain ⟨-, rfl⟩ := Prod.mk.inj h₃
  exact ⟨capturedAt, logged, w₁, w₂, h₁, rfl, h₂, rfl⟩

/-- The elapsed time in the ending is read before the one in the log, and only if the run failed. -/
theorem of_finish_eq_ok {cause : Cause} {turn : Turn σ α} {w v : World σ}
    (h : r.finish cause w = (.ok turn, v)) :
    ∃ elapsed logged w₁ w₂, turn = .over r (cause.ending? elapsed) ∧
      (if cause = .held then w₁ = w else r.call r.elapsed w = (.ok elapsed, w₁)) ∧
      r.call r.elapsed w₁ = (.ok logged, w₂) ∧
      v = { w₂ with notices := .logged (match cause.ending? elapsed with
        | none => .held r.plan.mode r.samples logged
        | some ending => .failed r.plan.mode r.samples logged ending) :: w₂.notices } := by
  -- a run that held has no ending to read the time for
  by_cases hheld : cause = .held
  · subst hheld
    have heq : r.finish .held = (do
        let logged ← r.call r.elapsed
        Engine.log (.held r.plan.mode r.samples logged)
        return .over r none) := rfl
    rw [heq] at h
    obtain ⟨logged, w₂, h₂, hrest⟩ := Effect.bind_eq_ok_iff.1 h
    obtain ⟨_, w₃, h₃, hrest⟩ := Effect.bind_eq_ok_iff.1 hrest
    obtain ⟨rfl, rfl⟩ := Effect.pure_eq_ok_iff.1 hrest
    obtain ⟨-, rfl⟩ := Prod.mk.inj h₃
    exact ⟨logged, logged, w, w₂, rfl, by rw [if_pos rfl], h₂, rfl⟩
  · have heq : r.finish cause = (do
        let elapsed ← r.call r.elapsed
        let logged ← r.call r.elapsed
        Engine.log (match cause.ending? elapsed with
          | none => .held r.plan.mode r.samples logged
          | some ending => .failed r.plan.mode r.samples logged ending)
        return .over r (cause.ending? elapsed)) := by
      cases cause <;> first | exact absurd rfl hheld | exact bind_map_left _ _ _
    rw [heq] at h
    obtain ⟨elapsed, w₁, h₁, hrest⟩ := Effect.bind_eq_ok_iff.1 h
    obtain ⟨logged, w₂, h₂, hrest⟩ := Effect.bind_eq_ok_iff.1 hrest
    obtain ⟨_, w₃, h₃, hrest⟩ := Effect.bind_eq_ok_iff.1 hrest
    obtain ⟨rfl, rfl⟩ := Effect.pure_eq_ok_iff.1 hrest
    obtain ⟨-, rfl⟩ := Prod.mk.inj h₃
    exact ⟨elapsed, logged, w₁, w₂, rfl, by rwa [if_neg hheld], h₂, rfl⟩

/-- The tick's sleep starts when the delay that the sample asked for has been taken. -/
theorem of_startWaiting_eq_ok {r' : Run σ α} {w v : World σ}
    (h : r.startWaiting w = (.ok r', v)) :
    ∃ tick, ({ r with requestedDelay := none } : Run σ α).call (r.plan.time.sleep r.interval)
        { w with notices := .slept r.interval :: w.notices } = (.ok tick, v) ∧
      r' = { r with requestedDelay := none, phase := .waiting tick none } := by
  obtain ⟨tick, w₁, h₁, hrest⟩ := Effect.bind_eq_ok_iff.1 h
  obtain ⟨_, w₂, h₂, h₁⟩ := Effect.bind_eq_ok_iff.1 h₁
  obtain ⟨rfl, rfl⟩ := Effect.pure_eq_ok_iff.1 hrest
  obtain ⟨-, rfl⟩ := Prod.mk.inj h₂
  exact ⟨tick, h₁, rfl⟩

theorem of_goBy_eq_ok {o : Observation α} {turn : Turn σ α} {w v : World σ}
    (h : r.goBy o w = (.ok turn, v)) :
    ∃ r' w₁, r.record o w = (.ok r', w₁) ∧
      match r.plan.mode.rule r.plan.repeats r.passes (o.reading r.plan.desired) with
      | .over cause => r'.finish cause w₁ = (.ok turn, v)
      | .goOn passes => ∃ r'', ({ r' with passes := passes } : Run σ α).startWaiting w₁ =
          (.ok r'', v) ∧ turn = .ready r'' := by
  obtain ⟨r', w₁, h₁, hrest⟩ := Effect.bind_eq_ok_iff.1 h
  refine ⟨r', w₁, h₁, ?_⟩
  obtain ⟨capturedAt, -, -, -, -, rfl, -⟩ := of_record_eq_ok h₁
  change (match r.plan.mode.rule r.plan.repeats r.passes (o.reading r.plan.desired) with
    | .over cause => _
    | .goOn passes => _ : Engine σ (Turn σ α)) w₁ = _ at hrest
  generalize r.plan.mode.rule r.plan.repeats r.passes (o.reading r.plan.desired) = ruling at hrest ⊢
  rcases ruling with passes | cause
  · obtain ⟨r'', hwait, rfl⟩ := Effect.map_eq_ok_iff.1 hrest
    exact ⟨r'', hwait, rfl⟩
  · exact hrest

/-- Where the run stands after a sample: over for the cause of the ruling, or waiting. -/
theorem turn_of_goBy {o : Observation α} {turn : Turn σ α} {w v : World σ}
    (h : r.goBy o w = (.ok turn, v)) :
    ∃ capturedAt, match r.plan.mode.rule r.plan.repeats r.passes (o.reading r.plan.desired) with
      | .over cause => ∃ elapsed,
        turn = .over (r.publish o.sample capturedAt) (cause.ending? elapsed)
      | .goOn passes => ∃ tick, turn = .ready { r.publish o.sample capturedAt with
          passes := passes, requestedDelay := none, phase := .waiting tick none } := by
  obtain ⟨r', w₁, h₁, hrest⟩ := of_goBy_eq_ok h
  obtain ⟨capturedAt, -, -, -, -, rfl, -⟩ := of_record_eq_ok h₁
  refine ⟨capturedAt, ?_⟩
  generalize r.plan.mode.rule r.plan.repeats r.passes (o.reading r.plan.desired) = ruling at hrest ⊢
  rcases ruling with passes | cause
  · obtain ⟨r'', hwait, rfl⟩ := hrest
    obtain ⟨tick, -, rfl⟩ := of_startWaiting_eq_ok hwait
    exact ⟨tick, rfl⟩
  · obtain ⟨elapsed, -, -, -, rfl, -⟩ := of_finish_eq_ok hrest
    exact ⟨elapsed, rfl⟩

/-! ### What a look can lead to -/

variable (r)

/-- The deadline's timer: the one that has been started, or a new one. -/
def deadlineTimer (deadline : Option Timer) : Engine σ Timer :=
  match deadline with
  | some timer => pure timer
  | none => r.sleepUntilDeadline

theorem look_eq (tick : Timer) (deadline : Option Timer) :
    r.look tick deadline = do
      if ← r.isCancelled then return (some .cancelled, deadline)
      let timer ← r.deadlineTimer deadline
      return (Wake.at? tick timer (← Engine.clock), some timer) := by
  -- the two comparisons, the deadline's first, are those of `Wake.at?`
  have hcompare : ∀ timer : Timer, (do
        let clock ← Engine.clock
        if timer.isDue clock then return (some .deadline, some timer)
        if tick.isDue clock then return (some .tick, some timer)
        return (none, some timer) : Engine σ (Option Wake × Option Timer)) =
      (do return (Wake.at? tick timer (← Engine.clock), some timer)) := by
    intro timer
    congr 1
    funext clock
    by_cases hdeadline : timer.isDue clock = true
    · simp [Wake.at?, hdeadline]
    · by_cases htick : tick.isDue clock = true <;> simp [Wake.at?, hdeadline, htick]
  rw [look]
  congr 1
  funext b
  cases b with
  | true => rfl
  | false =>
    cases deadline with
    | none => exact congrArg (r.sleepUntilDeadline >>= ·) (funext hcompare)
    | some timer => exact hcompare timer

theorem isCancelled_apply (w : World σ) :
    r.isCancelled w = (.ok (r.plan.token.elim false (· w.user)), w) := by
  rw [isCancelled]
  cases r.plan.token <;> rfl

theorem isCancelled_eq_ok_iff {r : Run σ α} {w : World σ} {b : Bool} :
    r.isCancelled w = (.ok b, w) ↔ r.plan.isCancelled w = b := by
  rw [isCancelled_apply]
  simp [Plan.isCancelled]

/-- A look that finds the token cancelled gets no further. -/
theorem look_of_isCancelled {r : Run σ α} {w : World σ} (tick : Timer) (deadline : Option Timer)
    (h : r.plan.isCancelled w = true) :
    r.look tick deadline w = (.ok (some .cancelled, deadline), w) := by
  rw [look_eq, Effect.bind_of_ok (isCancelled_eq_ok_iff.2 h)]
  rfl

/-- Another look starts the deadline's timer and compares the timers with the clock. -/
theorem look_of_deadlineTimer {r : Run σ α} {w v : World σ} {deadline : Option Timer}
    {timer : Timer} (tick : Timer) (h : r.plan.isCancelled w = false)
    (htimer : r.deadlineTimer deadline w = (.ok timer, v)) :
    r.look tick deadline w = (.ok (Wake.at? tick timer v.clock, some timer), v) := by
  rw [look_eq, Effect.bind_of_ok (isCancelled_eq_ok_iff.2 h)]
  exact Effect.bind_of_ok htimer _

/-- Do what follows from what a look found. -/
def heed (tick : Timer) (wake : Option Wake) (found : Option Timer) : Engine σ (Turn σ α) :=
  match wake with
  | none => return .pending { r with phase := .waiting tick found }
  | some wake =>
    match r.plan.mode.causeOfWake? wake with
    | some cause => r.finish cause
    | none => return .ready { r with phase := .sampling }

theorem heed_some (tick : Timer) (wake : Wake) (found : Option Timer) :
    r.heed tick (some wake) found = match r.plan.mode.causeOfWake? wake with
      | some cause => r.finish cause
      | none => return .ready { r with phase := .sampling } := rfl

theorem waitStep_eq (tick : Timer) (deadline : Option Timer) :
    r.waitStep tick deadline =
      r.look tick deadline >>= fun looked ↦ r.heed tick looked.1 looked.2 := by
  rw [waitStep]
  congr 1
  funext looked
  rcases looked with ⟨- | wake, found⟩ <;> rfl

variable {r}

/-- A look that finds the token cancelled gets no further; another one starts the deadline's timer
and compares the timers with the clock. -/
theorem of_look_eq_ok {tick : Timer} {deadline found : Option Timer} {wake : Option Wake}
    {w v : World σ} (h : r.look tick deadline w = (.ok (wake, found), v)) :
    (r.isCancelled w = (.ok true, w) ∧ wake = some .cancelled ∧ found = deadline ∧ v = w) ∨
      ∃ timer, r.isCancelled w = (.ok false, w) ∧ r.deadlineTimer deadline w = (.ok timer, v) ∧
        wake = Wake.at? tick timer v.clock ∧ found = some timer := by
  rw [look_eq] at h
  obtain ⟨cancelled, w₁, h₁, hrest⟩ := Effect.bind_eq_ok_iff.1 h
  obtain rfl : w = w₁ := by
    rw [isCancelled_apply] at h₁
    exact (Prod.mk.inj h₁).2
  cases cancelled with
  | true =>
    obtain ⟨hwake, rfl⟩ := Effect.pure_eq_ok_iff.1 hrest
    obtain ⟨rfl, rfl⟩ := Prod.mk.inj hwake
    exact .inl ⟨h₁, rfl, rfl, rfl⟩
  | false =>
    obtain ⟨timer, w₂, h₂, hrest⟩ := Effect.bind_eq_ok_iff.1 hrest
    obtain ⟨hwake, rfl⟩ := Effect.pure_eq_ok_iff.1 hrest
    obtain ⟨rfl, rfl⟩ := Prod.mk.inj hwake
    exact .inr ⟨timer, h₁, h₂, rfl, rfl⟩

end Run

end PollAssert
