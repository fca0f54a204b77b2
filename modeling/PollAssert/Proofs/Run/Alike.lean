import PollAssert.Proofs.Alike
import PollAssert.Proofs.Run.Course

/-!
# Runs that do alike

Two runs do alike step by step if their plans are alike (`Plan.Alike`) and they stand alike
(`Run.Alike`). Besides the relation `R` of the user's states there is a relation `S` of samples
here, for two runs may judge what they sample in different ways and still come to the same. What is
asked of `S` is that samples related by it pass alike, ask for the same, and are explained alike.

What a run does with an observation is to record it and to go by the mode's ruling. So the steps of
two runs are alike as soon as **their observations and the rulings on these are** (`Alike.goBy`),
and all the rest follows from the plans. How a run waits needs less than that the plans are alike:
it is enough that the token and the source of time give the same answers (`WaitsAlike`).
-/

namespace PollAssert

variable {σ α α' β β' : Type}

/-- The two sources of time do alike. -/
structure TimeSource.Alike (R : σ → σ → Prop) (t t' : TimeSource σ) : Prop where
  now : Action.Alike R Eq t.now t'.now
  sleep : ∀ d, Action.Alike R Eq (t.sleep d) (t'.sleep d)
  wait : Option.Rel (fun wait wait' ↦ ∀ d, Action.Alike R Eq (wait d) (wait' d)) t.sleepUntil?
    t'.sleepUntil?

/-- A source of time does like itself, if nothing but equality counts. -/
protected theorem TimeSource.Alike.refl (t : TimeSource σ) : TimeSource.Alike Eq t t where
  now := .refl _
  sleep _ := .refl _
  wait := by
    cases t.sleepUntil? with
    | none => exact .none
    | some wait => exact .some fun d ↦ .refl (wait d)

/-- The runtime's clock does like itself, whatever counts: it does not look at the user's state. -/
theorem TimeSource.alike_runtime (R : σ → σ → Prop) (epoch : Duration) :
    TimeSource.Alike R (.runtime epoch) (.runtime epoch) where
  now := Action.Alike.clock.bind fun clock clock' h ↦ .pure (by rw [h])
  sleep d := Action.Alike.clock.bind fun clock clock' h ↦ .pure (by rw [h])
  wait := .some fun _ ↦ .pure rfl

/-- The two plans differ in nothing that can be told from what they do with samples that `S` relates
in states that `R` relates. How they come to their samples is another matter. -/
structure Plan.Alike (R : σ → σ → Prop) (S : Sample α → Sample α' → Prop) (p : Plan σ α)
    (p' : Plan σ α') : Prop where
  mode : p.mode = p'.mode
  timeout : p.timeout = p'.timeout
  polling : p.polling = p'.polling
  repeats : p.repeats = p'.repeats
  token : ∀ s s', R s s' → p.token.elim false (· s) = p'.token.elim false (· s')
  time : TimeSource.Alike R p.time p'.time
  description : Action.Alike R Eq p.description.render p'.description.render
  detail : ∀ s s', S s s' → Action.Alike R Eq (s.detail p.mode p.desired p.matcher)
    (s'.detail p'.mode p'.desired p'.matcher)
  passed : ∀ s s', S s s' → s.passed p.desired = s'.passed p'.desired
  steering : ∀ s s', S s s' → s.steering = s'.steering

/-- The latest samples are related and as old as each other. -/
def Published.Alike (S : Sample α → Sample α' → Prop) (l : Published α) (l' : Published α') :
    Prop :=
  S l.sample l'.sample ∧ l.capturedAt = l'.capturedAt

/-- The two runs have plans that are alike, and stand alike. -/
structure Run.Alike (R : σ → σ → Prop) (S : Sample α → Sample α' → Prop) (r : Run σ α)
    (r' : Run σ α') : Prop where
  plan : Plan.Alike R S r.plan r'.plan
  started : r.started = r'.started
  samples : r.samples = r'.samples
  latest : Option.Rel (Published.Alike S) r.latest r'.latest
  requestedDelay : r.requestedDelay = r'.requestedDelay
  passes : r.passes = r'.passes
  phase : r.phase = r'.phase

/-- The two runs stand alike after a step. -/
inductive Turn.Alike (R : σ → σ → Prop) (S : Sample α → Sample α' → Prop) :
    Turn σ α → Turn σ α' → Prop
  | ready {r : Run σ α} {r' : Run σ α'} (hr : Run.Alike R S r r') :
      Turn.Alike R S (.ready r) (.ready r')
  | pending {r : Run σ α} {r' : Run σ α'} (hr : Run.Alike R S r r') :
      Turn.Alike R S (.pending r) (.pending r')
  | over {r : Run σ α} {r' : Run σ α'} {ending : Option Ending} (hr : Run.Alike R S r r') :
      Turn.Alike R S (.over r ending) (.over r' ending)

/-- If the one run goes on, the other does. -/
theorem Turn.Alike.exists_run? {R : σ → σ → Prop} {S : Sample α → Sample α' → Prop}
    {turn : Turn σ α} {turn' : Turn σ α'} (hturn : Turn.Alike R S turn turn') {r : Run σ α}
    (hrun : turn.run? = some r) : ∃ r', turn'.run? = some r' ∧ Run.Alike R S r r' := by
  rcases hturn with hr | hr | hr
  · obtain rfl := Option.some.inj hrun
    exact ⟨_, rfl, hr⟩
  · obtain rfl := Option.some.inj hrun
    exact ⟨_, rfl, hr⟩
  · cases hrun

namespace Run

/-! ### Waiting alike -/

/-- Whatever the two runs wait for they find out alike: the questions that they put to their token
and to their source of time have the same answers, in worlds that `W` relates and that stay so. -/
structure WaitsAlike (W : World σ → World σ → Prop) (r : Run σ α) (r' : Run σ α') : Prop where
  clock : ∀ w w', W w w' → w.clock = w'.clock
  slept : ∀ w w' length, W w w' → W { w with notices := .slept length :: w.notices }
    { w' with notices := .slept length :: w'.notices }
  token : ∀ w w', W w w' → r.plan.isCancelled w = r'.plan.isCancelled w'
  now : Effect.Alike W Eq (r.call r.plan.time.now) (r'.call r'.plan.time.now)
  sleep : ∀ d, Effect.Alike W Eq (r.call (r.plan.time.sleep d)) (r'.call (r'.plan.time.sleep d))
  wait : Option.Rel
    (fun wait wait' ↦ ∀ d, Effect.Alike W Eq (r.call (wait d)) (r'.call (wait' d)))
    r.plan.time.sleepUntil? r'.plan.time.sleepUntil?
  deadline : r.deadline? = r'.deadline?

namespace WaitsAlike

variable {W : World σ → World σ → Prop} {r : Run σ α} {r' : Run σ α'}

theorem elapsed (hr : WaitsAlike W r r') (hstarted : r.started = r'.started) :
    Effect.Alike W Eq (r.call r.elapsed) (r'.call r'.elapsed) := by
  rw [call_elapsed_eq, call_elapsed_eq, hstarted]
  exact hr.now.map fun now now' h ↦ by rw [h]

theorem startSleep (hr : WaitsAlike W r r') (length : Duration) :
    Effect.Alike W Eq (r.sleep length) (r'.sleep length) := by
  have hnote : Effect.Alike W Eq (Engine.note (.slept length)) (Engine.note (.slept length)) :=
    fun w w' hw ↦ .returned rfl (hr.slept w w' length hw)
  exact hnote.bind fun _ _ _ ↦ hr.sleep length

theorem startWaiting
    (hr : WaitsAlike W { r with requestedDelay := none } { r' with requestedDelay := none })
    (hinterval : r.interval = r'.interval) :
    Effect.Alike W (fun r₁ r₁' ↦ ∃ tick,
      r₁ = { r with requestedDelay := none, phase := .waiting tick none } ∧
        r₁' = { r' with requestedDelay := none, phase := .waiting tick none })
      r.startWaiting r'.startWaiting := by
  rw [Run.startWaiting, Run.startWaiting, hinterval]
  refine (hr.startSleep r'.interval).bind ?_
  rintro tick _ rfl
  exact .pure ⟨tick, rfl, rfl⟩

theorem sleepUntil (hr : WaitsAlike W r r') (instant : Duration) :
    Effect.Alike W Eq (r.sleepUntil instant) (r'.sleepUntil instant) := by
  have hwait := hr.wait
  rw [Run.sleepUntil, Run.sleepUntil]
  generalize r.plan.time.sleepUntil? = wait at hwait ⊢
  generalize r'.plan.time.sleepUntil? = wait' at hwait ⊢
  cases hwait with
  | some hwait => exact hwait instant
  | none =>
    refine hr.now.bind ?_
    rintro now _ rfl
    cases TimeSource.remaining? now instant with
    | none => exact .pure rfl
    | some length => exact hr.startSleep length

theorem deadlineTimer (hr : WaitsAlike W r r') (deadline : Option Timer) :
    Effect.Alike W Eq (r.deadlineTimer deadline) (r'.deadlineTimer deadline) := by
  cases deadline with
  | some timer => exact .pure rfl
  | none =>
    rw [Run.deadlineTimer, Run.deadlineTimer, sleepUntilDeadline, sleepUntilDeadline, hr.deadline]
    cases r'.deadline? with
    | none => exact .pure rfl
    | some deadline => exact hr.sleepUntil deadline

theorem isCancelled (hr : WaitsAlike W r r') :
    Effect.Alike W Eq r.isCancelled r'.isCancelled := by
  intro w w' hw
  rw [isCancelled_apply, isCancelled_apply]
  exact .returned (hr.token w w' hw) hw

theorem look (hr : WaitsAlike W r r') (tick : Timer) (deadline : Option Timer) :
    Effect.Alike W Eq (r.look tick deadline) (r'.look tick deadline) := by
  rw [look_eq, look_eq]
  refine hr.isCancelled.bind ?_
  rintro cancelled _ rfl
  cases cancelled with
  | true => exact .pure rfl
  | false =>
    refine (hr.deadlineTimer deadline).bind ?_
    rintro timer _ rfl
    have hclock : Effect.Alike W Eq (Engine.clock : Engine σ Duration) Engine.clock :=
      fun w w' hw ↦ .returned (hr.clock w w' hw) hw
    refine hclock.bind ?_
    rintro clock _ rfl
    exact .pure rfl

end WaitsAlike

/-! ### Recording and finishing alike -/

section Telling

variable {W : World σ → World σ → Prop} {r : Run σ α} {r' : Run σ α'}

/-- Two runs that read the time alike record their samples alike. -/
theorem alike_record {o : Observation α} {o' : Observation α'}
    (helapsed : Effect.Alike W Eq (r.call r.elapsed) (r'.call r'.elapsed))
    (hpublished : ∀ capturedAt, Effect.Alike W Eq
      ((r.publish o.sample capturedAt).call (r.publish o.sample capturedAt).elapsed)
      ((r'.publish o'.sample capturedAt).call (r'.publish o'.sample capturedAt).elapsed))
    (hlog : ∀ logged, Effect.Alike W Eq
      (Engine.log (.sampled r.plan.mode (r.samples + 1) logged (o.sample.passed r.plan.desired)))
      (Engine.log (.sampled r'.plan.mode (r'.samples + 1) logged
        (o'.sample.passed r'.plan.desired)))) :
    Effect.Alike W (fun r₁ r₁' ↦ ∃ capturedAt, r₁ = r.publish o.sample capturedAt ∧
      r₁' = r'.publish o'.sample capturedAt) (r.record o) (r'.record o') := by
  refine helapsed.bind ?_
  rintro capturedAt _ rfl
  refine (hpublished capturedAt).bind ?_
  rintro logged _ rfl
  exact (hlog logged).bind fun _ _ _ ↦ .pure ⟨capturedAt, rfl, rfl⟩

/-- Two runs that read the time alike end alike. -/
theorem alike_finish (helapsed : Effect.Alike W Eq (r.call r.elapsed) (r'.call r'.elapsed))
    (hlog : ∀ entry, Effect.Alike W Eq (Engine.log entry) (Engine.log entry))
    (hmode : r.plan.mode = r'.plan.mode) (hsamples : r.samples = r'.samples) (cause : Cause) :
    Effect.Alike W (fun (turn : Turn σ α) (turn' : Turn σ α') ↦
        ∃ ending, turn = .over r ending ∧ turn' = .over r' ending)
      (r.finish cause) (r'.finish cause) := by
  have hend : ∀ (ending : Option Ending) (entry : Duration → LogEntry),
      Effect.Alike W (fun (turn : Turn σ α) (turn' : Turn σ α') ↦
          ∃ ending, turn = .over r ending ∧ turn' = .over r' ending)
        (r.call r.elapsed >>= fun elapsed ↦
          Engine.log (entry elapsed) >>= fun _ ↦ pure (Turn.over r ending))
        (r'.call r'.elapsed >>= fun elapsed ↦
          Engine.log (entry elapsed) >>= fun _ ↦ pure (Turn.over r' ending)) := by
    intro ending entry
    refine helapsed.bind ?_
    rintro elapsed _ rfl
    exact (hlog _).bind fun _ _ _ ↦ .pure ⟨ending, rfl, rfl⟩
  have hread : Effect.Alike W Eq ((fun elapsed ↦ cause.ending? elapsed) <$> r.call r.elapsed)
      ((fun elapsed ↦ cause.ending? elapsed) <$> r'.call r'.elapsed) :=
    helapsed.map fun _ _ h ↦ congrArg cause.ending? h
  cases cause with
  | held =>
    refine (Effect.Alike.pure rfl).bind ?_
    rintro ending _ rfl
    rw [hmode, hsamples]
    exact hend ending _
  | _ =>
    refine hread.bind ?_
    rintro ending _ rfl
    rw [hmode, hsamples]
    exact hend ending _

/-- Two runs that record alike and get the same ruling go on alike. -/
theorem alike_goBy {Q : Turn σ α → Turn σ α' → Prop} {o : Observation α} {o' : Observation α'}
    (hrecord : Effect.Alike W (fun r₁ r₁' ↦ ∃ capturedAt, r₁ = r.publish o.sample capturedAt ∧
      r₁' = r'.publish o'.sample capturedAt) (r.record o) (r'.record o'))
    (hrule : r.plan.mode.rule r.plan.repeats r.passes (o.reading r.plan.desired) =
      r'.plan.mode.rule r'.plan.repeats r'.passes (o'.reading r'.plan.desired))
    (hfinish : ∀ capturedAt cause, Effect.Alike W Q
      ((r.publish o.sample capturedAt).finish cause)
      ((r'.publish o'.sample capturedAt).finish cause))
    (hwait : ∀ capturedAt passes, Effect.Alike W (fun r₁ r₁' ↦ Q (.ready r₁) (.ready r₁'))
      ({ r.publish o.sample capturedAt with passes := passes } : Run σ α).startWaiting
      ({ r'.publish o'.sample capturedAt with passes := passes } : Run σ α').startWaiting) :
    Effect.Alike W Q (r.goBy o) (r'.goBy o') := by
  refine hrecord.bind ?_
  rintro _ _ ⟨capturedAt, rfl, rfl⟩
  obtain ⟨ruling, hruling, hruling'⟩ : ∃ ruling,
      (r.publish o.sample capturedAt).plan.mode.rule
        (r.publish o.sample capturedAt).plan.repeats (r.publish o.sample capturedAt).passes
        (o.reading r.plan.desired) = ruling ∧
      (r'.publish o'.sample capturedAt).plan.mode.rule
        (r'.publish o'.sample capturedAt).plan.repeats (r'.publish o'.sample capturedAt).passes
        (o'.reading r'.plan.desired) = ruling := ⟨_, hrule, rfl⟩
  rw [hruling, hruling']
  rcases ruling with passes | cause
  · exact (hwait capturedAt passes).map fun _ _ h ↦ h
  · exact hfinish capturedAt cause

/-- Two runs that end alike heed alike what a look found. -/
theorem alike_heed {Q : Turn σ α → Turn σ α' → Prop} {tick : Timer} {wake : Option Wake}
    {found found' : Option Timer} (hmode : r.plan.mode = r'.plan.mode)
    (hfinish : ∀ cause, Effect.Alike W Q (r.finish cause) (r'.finish cause))
    (hpending : wake = none → Q (.pending { r with phase := .waiting tick found })
      (.pending { r' with phase := .waiting tick found' }))
    (hready : Q (.ready { r with phase := .sampling }) (.ready { r' with phase := .sampling })) :
    Effect.Alike W Q (r.heed tick wake found) (r'.heed tick wake found') := by
  cases wake with
  | none => exact .pure (hpending rfl)
  | some wake =>
    rw [heed_some, heed_some, hmode]
    cases r'.plan.mode.causeOfWake? wake with
    | some cause => exact hfinish cause
    | none => exact .pure hready

end Telling

variable {R : σ → σ → Prop} {S : Sample α → Sample α' → Prop} {r : Run σ α} {r' : Run σ α'}

/-! ### Reports -/

namespace Alike

theorem start {p : Plan σ α} {p' : Plan σ α'} (hp : Plan.Alike R S p p') (started : Duration) :
    Run.Alike R S (.start p started) (.start p' started) where
  plan := hp
  started := rfl
  samples := rfl
  latest := .none
  requestedDelay := rfl
  passes := rfl
  phase := rfl

theorem elapsed (hr : Run.Alike R S r r') : Action.Alike R Eq r.elapsed r'.elapsed :=
  hr.plan.time.now.bind fun now now' hnow ↦ .pure (by rw [hnow, hr.started])

theorem detail (hr : Run.Alike R S r r') : Action.Alike R Eq r.detail r'.detail := by
  have hlatest := hr.latest
  rw [Run.detail, Run.detail]
  generalize r.latest = latest at hlatest ⊢
  generalize r'.latest = latest' at hlatest ⊢
  cases hlatest with
  | none => exact .pure rfl
  | some hsample => exact hr.plan.detail _ _ hsample.1

theorem compose {d d' : Description σ} (hd : Action.Alike R Eq d.render d'.render)
    (header detail : String) :
    Action.Alike R Eq (d.compose header detail) (d'.compose header detail) := by
  refine hd.bind ?_
  rintro shown _ rfl
  cases shown <;> exact .pure rfl

theorem snapshot (hr : Run.Alike R S r r') {free free' held held' : View σ}
    (hfree : View.Alike R free free') (hheld : View.Alike R held held') :
    Effect.Alike R Eq (r.snapshot free held) (r'.snapshot free' held') := by
  refine (hr.elapsed _ _ hfree).bind ?_
  rintro elapsed _ rfl
  refine (hr.detail _ _ hheld).bind ?_
  rintro detail _ rfl
  rw [hr.plan.mode, hr.samples]
  exact compose hr.plan.description _ _ _ _ hfree

theorem heldReport (hr : Run.Alike R S r r') (clock : Duration) (room : Nat) :
    Effect.Alike R Eq (r.heldReport clock room) (r'.heldReport clock room) := by
  induction room with
  | zero => exact .halt _
  | succ room ih =>
    have hinside : View.Alike R ⟨clock, some fun _ ↦ r.heldReport clock room⟩
        ⟨clock, some fun _ ↦ r'.heldReport clock room⟩ := ⟨rfl, .some fun _ ↦ ih⟩
    exact (hr.elapsed _ _ hinside).bind fun _ _ _ ↦ .halt _

/-- **Runs that stand alike are reported on alike**, and so are they inside their reports. -/
theorem report (hr : Run.Alike R S r r') (clock : Duration) (room : Nat) :
    Effect.Alike R Eq (r.report clock room) (r'.report clock room) := by
  induction room with
  | zero => exact .halt _
  | succ room ih =>
    exact hr.snapshot ⟨rfl, .some fun _ ↦ ih⟩ ⟨rfl, .some fun _ ↦ hr.heldReport clock room⟩

theorem failureMessage (hr : Run.Alike R S r r') (ending : Ending) :
    Action.Alike R Eq (r.failureMessage ending) (r'.failureMessage ending) := by
  refine hr.detail.bind ?_
  rintro detail _ rfl
  exact compose hr.plan.description _ _

theorem call (hr : Run.Alike R S r r') {Q : β → β' → Prop} {act : Action σ β}
    {act' : Action σ β'} (ha : Action.Alike R Q act act') :
    Engine.Alike R Q (r.call act) (r'.call act') := by
  refine Engine.alike_clock.bind ?_
  rintro clock _ rfl
  exact Engine.alike_call (.some (hr.report clock)) ha

/-! ### Sampling -/

theorem publish (hr : Run.Alike R S r r') {s : Sample α} {s' : Sample α'} (hs : S s s')
    (capturedAt : Duration) :
    Run.Alike R S (r.publish s capturedAt) (r'.publish s' capturedAt) where
  plan := hr.plan
  started := hr.started
  samples := congrArg (· + 1) hr.samples
  latest := .some ⟨hs, rfl⟩
  requestedDelay := by
    rw [Run.publish, Run.publish]
    dsimp only
    rw [hr.plan.steering s s' hs]
  passes := hr.passes
  phase := hr.phase

/-- The samples that are recorded are equally old. -/
theorem record (hr : Run.Alike R S r r') {o : Observation α} {o' : Observation α'}
    (hs : S o.sample o'.sample) :
    Engine.Alike R (fun r₁ r₁' ↦ ∃ capturedAt, r₁ = r.publish o.sample capturedAt ∧
      r₁' = r'.publish o'.sample capturedAt) (r.record o) (r'.record o') := by
  refine alike_record (hr.call hr.elapsed) (fun capturedAt ↦ ?_) fun logged ↦ ?_
  · exact (hr.publish hs capturedAt).call (hr.publish hs capturedAt).elapsed
  · rw [hr.plan.mode, hr.samples, hr.plan.passed _ _ hs]
    exact Engine.alike_note _

/-! ### Waiting -/

theorem waitsAlike (hr : Run.Alike R S r r') : WaitsAlike (World.Alike R) r r' where
  clock _ _ hw := hw.clock
  slept w w' length hw := by
    obtain ⟨huser, hclock, hnotices⟩ := hw
    exact ⟨huser, hclock, congrArg (Notice.slept length :: ·) hnotices⟩
  token _ _ hw := hr.plan.token _ _ hw.user
  now := hr.call hr.plan.time.now
  sleep d := hr.call (hr.plan.time.sleep d)
  wait := optionRel_mono hr.plan.time.wait fun _ _ hwait instant ↦ hr.call (hwait instant)
  deadline := by rw [deadline?, deadline?, hr.started, hr.plan.timeout]

theorem startWaiting (hr : Run.Alike R S r r') :
    Engine.Alike R (Run.Alike R S) r.startWaiting r'.startWaiting := by
  have hinterval : r.interval = r'.interval := by
    rw [interval, interval, hr.requestedDelay, hr.plan.polling]
  have hused : Run.Alike R S { r with requestedDelay := none } { r' with requestedDelay := none } :=
    ⟨hr.plan, hr.started, hr.samples, hr.latest, rfl, hr.passes, hr.phase⟩
  refine (hused.waitsAlike.startWaiting hinterval).mono ?_
  rintro _ _ ⟨tick, rfl, rfl⟩
  exact ⟨hr.plan, hr.started, hr.samples, hr.latest, rfl, hr.passes, rfl⟩

theorem look (hr : Run.Alike R S r r') (tick : Timer) (deadline : Option Timer) :
    Engine.Alike R Eq (r.look tick deadline) (r'.look tick deadline) :=
  hr.waitsAlike.look tick deadline

/-! ### Steps -/

theorem finish (hr : Run.Alike R S r r') (cause : Cause) :
    Engine.Alike R (Turn.Alike R S) (r.finish cause) (r'.finish cause) := by
  refine (alike_finish (hr.call hr.elapsed) (fun _ ↦ Engine.alike_note _) hr.plan.mode hr.samples
    cause).mono ?_
  rintro _ _ ⟨ending, rfl, rfl⟩
  exact .over hr

theorem heed (hr : Run.Alike R S r r') (tick : Timer) (wake : Option Wake) (found : Option Timer) :
    Engine.Alike R (Turn.Alike R S) (r.heed tick wake found) (r'.heed tick wake found) :=
  alike_heed hr.plan.mode hr.finish
    (fun _ ↦ .pending
      ⟨hr.plan, hr.started, hr.samples, hr.latest, hr.requestedDelay, hr.passes, rfl⟩)
    (.ready ⟨hr.plan, hr.started, hr.samples, hr.latest, hr.requestedDelay, hr.passes, rfl⟩)

theorem waitStep (hr : Run.Alike R S r r') (tick : Timer) (deadline : Option Timer) :
    Engine.Alike R (Turn.Alike R S) (r.waitStep tick deadline) (r'.waitStep tick deadline) := by
  rw [waitStep_eq, waitStep_eq]
  refine (hr.look tick deadline).bind ?_
  rintro ⟨wake, found⟩ _ rfl
  exact hr.heed tick wake found

/-- **After samples that are related the two runs go on alike**, if the mode's rulings are the
same. -/
theorem goBy (hr : Run.Alike R S r r') {o : Observation α} {o' : Observation α'}
    (hs : S o.sample o'.sample)
    (hrule : r.plan.mode.rule r.plan.repeats r.passes (o.reading r.plan.desired) =
      r'.plan.mode.rule r'.plan.repeats r'.passes (o'.reading r'.plan.desired)) :
    Engine.Alike R (Turn.Alike R S) (r.goBy o) (r'.goBy o') := by
  refine alike_goBy (hr.record hs) hrule (fun capturedAt ↦ (hr.publish hs capturedAt).finish)
    fun capturedAt passes ↦ ?_
  have hpublished := hr.publish hs capturedAt
  have hcounted : Run.Alike R S { r.publish o.sample capturedAt with passes := passes }
      { r'.publish o'.sample capturedAt with passes := passes } :=
    ⟨hpublished.plan, hpublished.started, hpublished.samples, hpublished.latest,
      hpublished.requestedDelay, rfl, hpublished.phase⟩
  exact hcounted.startWaiting.mono fun _ _ h ↦ .ready h

/-- The rulings are the same if the oracles say the same. -/
theorem rule_eq (hr : Run.Alike R S r r') {o : Observation α} {o' : Observation α'}
    (hs : S o.sample o'.sample)
    (hsettled : (o.mayChange == some false) = (o'.mayChange == some false)) :
    r.plan.mode.rule r.plan.repeats r.passes (o.reading r.plan.desired) =
      r'.plan.mode.rule r'.plan.repeats r'.passes (o'.reading r'.plan.desired) := by
  rw [Observation.reading, Observation.reading, hsettled, hr.plan.passed _ _ hs,
    hr.plan.steering _ _ hs, hr.plan.mode, hr.plan.repeats, hr.passes]

/-- **The steps of two runs are alike if their observations are**: related samples, of which the
oracles say the same. -/
theorem step_of_observe (hr : Run.Alike R S r r')
    (ho : Engine.Alike R (fun o o' ↦ S o.sample o'.sample ∧ o.mayChange = o'.mayChange) r.observe
      r'.observe) : Engine.Alike R (Turn.Alike R S) r.step r'.step := by
  rw [Run.step, Run.step, hr.phase]
  cases r'.phase with
  | waiting tick deadline => exact hr.waitStep tick deadline
  | sampling =>
    dsimp only
    rw [sampleStep_eq, sampleStep_eq]
    refine ho.bind ?_
    rintro o o' ⟨hs, hmayChange⟩
    exact hr.goBy hs (hr.rule_eq hs (by rw [hmayChange]))

/-- The steps are alike if the sources and matchers come to observations that are. -/
theorem step (hr : Run.Alike R S r r')
    (ho : Action.Alike R (fun o o' ↦ S o.sample o'.sample ∧ o.mayChange = o'.mayChange)
      (Observation.take r.plan.source r.plan.matcher)
      (Observation.take r'.plan.source r'.plan.matcher)) :
    Engine.Alike R (Turn.Alike R S) r.step r'.step := hr.step_of_observe (hr.call ho)

end Alike

end Run

end PollAssert
