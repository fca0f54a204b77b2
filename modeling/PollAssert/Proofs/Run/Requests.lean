import PollAssert.Proofs.Flight.Handover
import PollAssert.Proofs.Run.OnTime

/-!
# What a run asks of its source of time

A source of time that has no way of its own to wait for an instant may give whatever readings it
likes: they may jump forward or backward between two calls. All that a run asks of such a source is
a list of sleeps, and the list is known.

Every sample that the run goes on from begins a `Wait`. A wait asks for one sleep at once, its
**tick**, for the delay that this sample asked for or else for the polling interval. When it is
first looked at it settles what becomes of its limit (`Limit`), by one reading at most, and asks for
one more sleep if the deadline lies ahead of that reading. Later looks ask for nothing.

`Waits` is the list of waits that goes with a course, one constructor for each thing that can
happen. Instants and differences are stated in exact numbers of nanoseconds there, so that a
difference cut off at zero or a sum cut off at the limit would not satisfy it.
-/

namespace PollAssert

variable {σ α β : Type}

/-! ### Sleeps among the notices -/

namespace Notice

/-- The length of the sleep that was started, if the notice is of one. -/
def slept? : Notice → Option Duration
  | .slept length => some length
  | _ => none

/-- The sleeps that were started, oldest first. The notices are newest first. -/
def sleeps (notices : List Notice) : List Duration := (notices.filterMap slept?).reverse

@[simp] theorem sleeps_cons_slept (length : Duration) (notices : List Notice) :
    sleeps (.slept length :: notices) = sleeps notices ++ [length] := by
  simp [sleeps, slept?]

@[simp] theorem sleeps_cons_logged (entry : LogEntry) (notices : List Notice) :
    sleeps (.logged entry :: notices) = sleeps notices := by
  rw [sleeps, List.filterMap_cons_none rfl, sleeps]

end Notice

/-- From `u` to `v` the library has started these sleeps. -/
def World.Asks (ds : List Duration) (u v : World σ) : Prop :=
  Notice.sleeps v.notices = Notice.sleeps u.notices ++ ds

namespace World.Asks

variable {ds es : List Duration} {u v w : World σ}

theorem of_notices_eq (h : v.notices = u.notices) : World.Asks [] u v := by
  rw [Asks]
  rw [h, List.append_nil]

theorem trans (h : World.Asks ds u v) (h' : World.Asks es v w) : World.Asks (ds ++ es) u w := by
  rw [Asks] at *
  rw [h', h, List.append_assoc]

end World.Asks

namespace Run

variable {r r' : Run σ α} {u v : World σ} {turn : Turn σ α} {o : Observation α}

/-- User code starts no sleeps of the library's. -/
theorem asks_of_call {act : Action σ β} {b : β} (h : r.call act u = (.ok b, v)) :
    World.Asks [] u v := by
  obtain ⟨user, -, rfl⟩ := Engine.call_eq_ok_iff.1 h
  exact .of_notices_eq rfl

theorem asks_of_record (h : r.record o u = (.ok r', v)) : World.Asks [] u v := by
  obtain ⟨capturedAt, logged, w₁, w₂, h₁, -, h₂, rfl⟩ := of_record_eq_ok h
  have hasks := (asks_of_call h₁).trans (asks_of_call h₂)
  simpa [World.Asks] using hasks

theorem asks_of_finish {cause : Cause} (h : r.finish cause u = (.ok turn, v)) :
    World.Asks [] u v := by
  obtain ⟨elapsed, logged, w₁, w₂, -, h₁, h₂, rfl⟩ := of_finish_eq_ok h
  have hread : World.Asks [] u w₁ := by
    by_cases hheld : cause = .held
    · rw [if_pos hheld] at h₁
      exact .of_notices_eq (by rw [h₁])
    · rw [if_neg hheld] at h₁
      exact asks_of_call h₁
  have hasks := hread.trans (asks_of_call h₂)
  simpa [World.Asks] using hasks

theorem asks_of_sleep {length : Duration} {timer : Timer} (h : r.sleep length u = (.ok timer, v)) :
    World.Asks [length] u v := by
  obtain ⟨_, w₁, hnote, hcall⟩ := Effect.bind_eq_ok_iff.1 h
  obtain ⟨-, rfl⟩ := Prod.mk.inj hnote
  have hasks := asks_of_call hcall
  simpa [World.Asks] using hasks

theorem asks_of_startWaiting (h : r.startWaiting u = (.ok r', v)) :
    World.Asks [r.interval] u v := by
  obtain ⟨timer, hcall, -⟩ := of_startWaiting_eq_ok h
  have hasks := asks_of_call hcall
  simpa [World.Asks] using hasks

/-- A sample that the run goes on from asks for the tick, and no other sample asks for anything. -/
theorem Steps.asks_of_sampled (h : r.Steps u (.sampled o) turn v) :
    (∃ r' tick, turn = .ready r' ∧ r'.phase = .waiting tick none ∧ r'.requestedDelay = none ∧
      World.Asks [r.plan.delayAfter o] u v) ∨
    ∃ r' ending, turn = .over r' ending ∧ World.Asks [] u v := by
  obtain ⟨-, w₁, hobserve, hgo⟩ := h.goBy_eq
  obtain ⟨r', w₂, hrecord, hrest⟩ := of_goBy_eq_ok hgo
  have hasks : World.Asks [] u w₂ := (asks_of_call hobserve).trans (asks_of_record hrecord)
  obtain ⟨capturedAt, -, -, -, -, rfl, -⟩ := of_record_eq_ok hrecord
  generalize r.plan.mode.rule r.plan.repeats r.passes (o.reading r.plan.desired) = ruling at hrest
  rcases ruling with passes | cause
  · obtain ⟨r'', hwait, rfl⟩ := hrest
    have htick := asks_of_startWaiting hwait
    obtain ⟨tick, -, rfl⟩ := of_startWaiting_eq_ok hwait
    -- the count of passes does not matter to the length of the tick
    have hinterval : ({ r.publish o.sample capturedAt with passes := passes } : Run σ α).interval =
        r.plan.delayAfter o := interval_publish r o capturedAt
    rw [hinterval] at htick
    exact .inl ⟨_, tick, rfl, rfl, rfl, hasks.trans htick⟩
  · have hend := asks_of_finish hrest
    obtain ⟨elapsed, -, -, -, rfl, -⟩ := of_finish_eq_ok hrest
    exact .inr ⟨_, _, rfl, hasks.trans hend⟩

/-! ### The limit of a wait -/

/-- What has become of the limit of a wait when it was first looked at. -/
inductive Limit where
  /-- The token had been cancelled, so nobody asked for the limit. -/
  | cancelled
  /-- There is none, for the instant of the deadline is not representable. -/
  | missing
  /-- The reading had reached the deadline. -/
  | reached (now : Duration)
  /-- The deadline lay ahead of the reading, by the given rest. -/
  | ahead (now rest : Duration)

/-- The sleeps that are started for the limit. -/
def Limit.sleeps : Limit → List Duration
  | .ahead _ rest => [rest]
  | _ => []

/-- In the world `u` the run finds out about the limit of its wait, and what has ended the wait. The
deadline is the start of the run plus its time limit, whatever the time is by now. -/
inductive Finds (r : Run σ α) (u : World σ) : Limit → Option Wake → Prop
  /-- The token has been cancelled, and nothing else counts. -/
  | cancelled (htoken : r.plan.isCancelled u = true) : Finds r u .cancelled (some .cancelled)
  /-- The deadline is not representable, and will not end the wait. -/
  | missing {wake : Option Wake} (htoken : r.plan.isCancelled u = false)
      (hlimit : nanosLimit < r.started.nanos + r.plan.timeout.nanos)
      (hwake : wake = none ∨ wake = some .tick) : Finds r u .missing wake
  /-- The deadline has been reached, and ends the wait at once. -/
  | reached {now : Duration} {v : World σ} (htoken : r.plan.isCancelled u = false)
      (hnow : r.call r.plan.time.now u = (.ok now, v))
      (hle : r.started.nanos + r.plan.timeout.nanos ≤ now.nanos) :
      Finds r u (.reached now) (some .deadline)
  /-- The deadline lies ahead, by the exact difference of the two instants. -/
  | ahead {now rest : Duration} {wake : Option Wake} {v : World σ}
      (htoken : r.plan.isCancelled u = false) (hnow : r.call r.plan.time.now u = (.ok now, v))
      (hlimit : r.started.nanos + r.plan.timeout.nanos ≤ nanosLimit) (hrest : 0 < rest.nanos)
      (hsum : now.nanos + rest.nanos = r.started.nanos + r.plan.timeout.nanos) :
      Finds r u (.ahead now rest) wake

/-- How the deadline's timer is started on a source that does not know how to wait for an instant:
the deadline is compared with one reading, and the difference is slept. -/
theorem of_deadlineTimer_provided (htime : r.plan.time.sleepUntil? = none) {timer : Timer}
    (h : r.deadlineTimer none u = (.ok timer, v)) :
    (nanosLimit < r.started.nanos + r.plan.timeout.nanos ∧ timer = .never ∧ v = u) ∨
      ∃ now w, r.call r.plan.time.now u = (.ok now, w) ∧
        ((r.started.nanos + r.plan.timeout.nanos ≤ now.nanos ∧ timer = .elapsed ∧ v = w) ∨
          ∃ rest, r.started.nanos + r.plan.timeout.nanos ≤ nanosLimit ∧ 0 < rest.nanos ∧
            now.nanos + rest.nanos = r.started.nanos + r.plan.timeout.nanos ∧
            r.sleep rest w = (.ok timer, v)) := by
  rw [deadlineTimer, sleepUntilDeadline] at h
  cases hdeadline : r.deadline? with
  | none =>
    rw [hdeadline] at h
    obtain ⟨rfl, rfl⟩ := Effect.pure_eq_ok_iff.1 h
    exact .inl ⟨Duration.checkedAdd?_eq_none_iff.1 hdeadline, rfl, rfl⟩
  | some deadline =>
    have hnanos : deadline.nanos = r.started.nanos + r.plan.timeout.nanos :=
      Duration.nanos_of_checkedAdd? hdeadline
    rw [hdeadline] at h
    dsimp only at h
    rw [sleepUntil, htime] at h
    obtain ⟨now, w, hnow, hrest⟩ := Effect.bind_eq_ok_iff.1 h
    refine .inr ⟨now, w, hnow, ?_⟩
    rw [← hnanos]
    rw [TimeSource.remaining?] at hrest
    by_cases hle : deadline ≤ now
    · rw [if_pos hle] at hrest
      obtain ⟨rfl, rfl⟩ := Effect.pure_eq_ok_iff.1 hrest
      exact .inl ⟨hle, rfl, rfl⟩
    · rw [if_neg hle] at hrest
      rw [Duration.le_def] at hle
      refine .inr ⟨_, deadline.nanos_le, ?_, ?_, hrest⟩
      · rw [Duration.nanos_saturatingSub]
        omega
      · rw [Duration.nanos_saturatingSub]
        omega

/-- What is done about a look starts no sleep. -/
theorem asks_of_heed {tick : Timer} {wake : Option Wake} {found : Option Timer}
    (h : r.heed tick wake found u = (.ok turn, v)) : World.Asks [] u v := by
  cases wake with
  | none =>
    obtain ⟨-, rfl⟩ := Effect.pure_eq_ok_iff.1 h
    exact .of_notices_eq rfl
  | some wake =>
    rw [heed_some] at h
    cases hcause : r.plan.mode.causeOfWake? wake with
    | some cause =>
      rw [hcause] at h
      exact asks_of_finish h
    | none =>
      rw [hcause] at h
      obtain ⟨-, rfl⟩ := Effect.pure_eq_ok_iff.1 h
      exact .of_notices_eq rfl

/-- The first look at a wait settles its limit and asks for the sleep that goes with it. -/
theorem Steps.finds_of_looked (htime : r.plan.time.sleepUntil? = none) {tick : Timer}
    (hphase : r.phase = .waiting tick none) {wake : Option Wake}
    (h : r.Steps u (.looked wake) turn v) :
    ∃ limit, r.Finds u limit wake ∧ World.Asks limit.sleeps u v := by
  obtain ⟨tick', deadline, found, w₁, hphase', hlook, hheed⟩ := h.heed_eq
  obtain ⟨rfl, rfl⟩ := Phase.waiting.inj (hphase.symm.trans hphase')
  have hafter := asks_of_heed hheed
  obtain ⟨htoken, rfl, -, rfl⟩ | ⟨timer, htoken, htimer, hwake, -⟩ := of_look_eq_ok hlook
  · exact ⟨.cancelled, .cancelled (isCancelled_eq_ok_iff.1 htoken), hafter⟩
  · have hcancelled := isCancelled_eq_ok_iff.1 htoken
    obtain ⟨hlimit, rfl, rfl⟩ | ⟨now, w, hnow, ⟨hle, rfl, rfl⟩ |
      ⟨rest, hlimit, hrest, hsum, hsleep⟩⟩ := of_deadlineTimer_provided htime htimer
    · refine ⟨.missing, .missing hcancelled hlimit ?_, hafter⟩
      rw [hwake, Wake.at?]
      cases tick.isDue w₁.clock <;> simp
    · have hdue : Wake.at? tick .elapsed w₁.clock = some .deadline := by
        rw [Wake.at?]
        rw [Timer.isDue_elapsed, if_pos rfl]
      rw [hwake, hdue]
      exact ⟨.reached now, .reached hcancelled hnow hle, (asks_of_call hnow).trans hafter⟩
    · have hasks := ((asks_of_call hnow).trans (asks_of_sleep hsleep)).trans hafter
      exact ⟨.ahead now rest, .ahead hcancelled hnow hlimit hrest hsum, hasks⟩

/-- Another look at a wait asks for nothing. -/
theorem Steps.asks_of_looked {tick timer : Timer} (hphase : r.phase = .waiting tick (some timer))
    {wake : Option Wake} (h : r.Steps u (.looked wake) turn v) : World.Asks [] u v := by
  obtain ⟨tick', deadline, found, w₁, hphase', hlook, hheed⟩ := h.heed_eq
  obtain ⟨rfl, rfl⟩ := Phase.waiting.inj (hphase.symm.trans hphase')
  have hafter := asks_of_heed hheed
  obtain ⟨-, -, -, rfl⟩ | ⟨timer', -, htimer, -⟩ := of_look_eq_ok hlook
  · exact hafter
  · obtain ⟨-, rfl⟩ := Effect.pure_eq_ok_iff.1 htimer
    exact hafter

/-- After a look the run is about to sample, or waits with the deadline's timer started. -/
theorem Steps.run_of_looked {wake : Option Wake} (h : r.Steps u (.looked wake) turn v)
    (hrun : turn.run? = some r') : r'.requestedDelay = r.requestedDelay ∧
      (r'.phase = .sampling ∨ ∃ tick timer, r'.phase = .waiting tick (some timer)) := by
  cases h.leads with
  | woken => cases hrun
  | pends =>
    obtain rfl := Option.some.inj hrun
    exact ⟨rfl, .inr ⟨_, _, rfl⟩⟩
  | resumes =>
    obtain rfl := Option.some.inj hrun
    exact ⟨rfl, .inl rfl⟩

/-! ### The waits of a course -/

/-- A wait, as far as it has got. -/
structure Wait where
  /-- The length of its tick. -/
  tick : Duration
  /-- What has become of its limit, once it has been looked at. -/
  limit? : Option Limit

/-- The sleeps that a wait has started. -/
def Wait.sleeps (x : Wait) : List Duration := x.tick :: x.limit?.elim [] Limit.sleeps

/-- The waits that go with a course, and the sleeps that are started on each step. -/
inductive Waits (between : Turn σ α → World σ → World σ → Prop) (r₀ : Run σ α) (w₀ : World σ) :
    List (Event α) → Turn σ α → World σ → List Wait → Prop
  | start : Waits between r₀ w₀ [] (.ready r₀) w₀ []
  /-- A sample begins a wait, with the delay that it asked for. -/
  | begins {h : List (Event α)} {turn : Turn σ α} {r r' : Run σ α} {w u v : World σ}
      {xs : List Wait} {o : Observation α} (hx : Waits between r₀ w₀ h turn w xs)
      (hrun : turn.run? = some r) (hbetween : between turn w u)
      (hsteps : r.Steps u (.sampled o) (.ready r') v)
      (hasks : World.Asks [r₀.plan.delayAfter o] u v) :
      Waits between r₀ w₀ (h ++ [.sampled o]) (.ready r') v
        (xs ++ [⟨r₀.plan.delayAfter o, none⟩])
  /-- A sample ends the run. -/
  | decides {h : List (Event α)} {turn : Turn σ α} {r r' : Run σ α} {ending : Option Ending}
      {w u v : World σ} {xs : List Wait} {o : Observation α}
      (hx : Waits between r₀ w₀ h turn w xs) (hrun : turn.run? = some r)
      (hbetween : between turn w u) (hsteps : r.Steps u (.sampled o) (.over r' ending) v)
      (hasks : World.Asks [] u v) :
      Waits between r₀ w₀ (h ++ [.sampled o]) (.over r' ending) v xs
  /-- A wait is looked at for the first time. -/
  | looks {h : List (Event α)} {turn turn' : Turn σ α} {r : Run σ α} {w u v : World σ}
      {xs : List Wait} {tick : Duration} {limit : Limit} {wake : Option Wake}
      (hx : Waits between r₀ w₀ h turn w (xs ++ [⟨tick, none⟩])) (hrun : turn.run? = some r)
      (hbetween : between turn w u) (hsteps : r.Steps u (.looked wake) turn' v)
      (hfinds : r.Finds u limit wake) (hasks : World.Asks limit.sleeps u v) :
      Waits between r₀ w₀ (h ++ [.looked wake]) turn' v (xs ++ [⟨tick, some limit⟩])
  /-- A wait is looked at once more. -/
  | looksAgain {h : List (Event α)} {turn turn' : Turn σ α} {r : Run σ α} {w u v : World σ}
      {xs : List Wait} {tick : Duration} {limit : Limit} {wake : Option Wake}
      (hx : Waits between r₀ w₀ h turn w (xs ++ [⟨tick, some limit⟩])) (hrun : turn.run? = some r)
      (hbetween : between turn w u) (hsteps : r.Steps u (.looked wake) turn' v)
      (hasks : World.Asks [] u v) :
      Waits between r₀ w₀ (h ++ [.looked wake]) turn' v (xs ++ [⟨tick, some limit⟩])

namespace Waits

variable {between : Turn σ α → World σ → World σ → Prop} {r₀ : Run σ α} {w₀ w : World σ}
  {h : List (Event α)} {xs : List Wait}

/-- Every sample has begun a wait with the delay after it, but for one that ended the run. -/
theorem ticks (hx : Waits between r₀ w₀ h turn w xs) :
    xs.map Wait.tick = (transcript h).samples.map r₀.plan.delayAfter ∨
      ∃ os last, (transcript h).samples = os ++ [last] ∧ turn.run? = none ∧
        xs.map Wait.tick = os.map r₀.plan.delayAfter := by
  have hgoesOn : ∀ {h : List (Event α)} {turn : Turn σ α} {r : Run σ α} {ticks : List Duration},
      turn.run? = some r →
      (ticks = (transcript h).samples.map r₀.plan.delayAfter ∨
        ∃ os last, (transcript h).samples = os ++ [last] ∧ turn.run? = none ∧
          ticks = os.map r₀.plan.delayAfter) →
      ticks = (transcript h).samples.map r₀.plan.delayAfter := by
    rintro h turn r ticks hrun (hticks | ⟨os, last, -, hover, -⟩)
    · exact hticks
    · rw [hover] at hrun
      cases hrun
  induction hx with
  | start => exact .inl rfl
  | begins _ hrun _ _ _ ih =>
    rw [transcript_concat_sampled, List.map_append, List.map_append, hgoesOn hrun ih]
    exact .inl rfl
  | decides _ hrun _ _ _ ih =>
    rw [transcript_concat_sampled]
    exact .inr ⟨_, _, rfl, rfl, hgoesOn hrun ih⟩
  | looks _ hrun _ _ _ _ ih | looksAgain _ hrun _ _ _ ih =>
    rw [transcript_concat_looked, ← hgoesOn hrun ih]
    exact .inl (by simp)

/-- In surroundings that start no sleeps of their own all the sleeps are those of the waits. -/
theorem asks (hbetween : ∀ turn w u, between turn w u → World.Asks [] w u)
    (hx : Waits between r₀ w₀ h turn w xs) : World.Asks (xs.flatMap Wait.sleeps) w₀ w := by
  induction hx with
  | start => exact .of_notices_eq rfl
  | begins _ _ hb _ hasks ih | decides _ _ hb _ hasks ih | looks _ _ hb _ _ hasks ih
  | looksAgain _ _ hb _ hasks ih =>
    simpa [Wait.sleeps] using (ih.trans (hbetween _ _ _ hb)).trans hasks

end Waits

section Provided

variable {between : Turn σ α → World σ → World σ → Prop} {r₀ : Run σ α} {w₀ w : World σ}
  {h : List (Event α)} {xs : List Wait}

/-- What the run knows of its last wait: whether its limit has been looked at. Nothing is left of
the delay that the last sample asked for, for the wait after it has taken it. -/
structure Knows (r : Run σ α) (xs : List Wait) : Prop where
  consumed : r.requestedDelay = none
  fresh : ∀ tick, r.phase = .waiting tick none → ∃ ys length, xs = ys ++ [⟨length, none⟩]
  settled : ∀ tick timer, r.phase = .waiting tick (some timer) →
    ∃ ys length limit, xs = ys ++ [⟨length, some limit⟩]

/-- A look that was not the last one leaves a wait whose limit has been looked at. -/
theorem Steps.knows {wake : Option Wake} {ys : List Wait} {length : Duration} {limit : Limit}
    (h : r.Steps u (.looked wake) turn v) (hr : r.requestedDelay = none)
    (hrun : turn.run? = some r') : r'.Knows (ys ++ [⟨length, some limit⟩]) := by
  obtain ⟨hdelay, hphase⟩ := h.run_of_looked hrun
  refine ⟨hdelay.trans hr, ?_, fun _ _ _ ↦ ⟨ys, length, limit, rfl⟩⟩
  intro tick hfresh
  rw [hfresh] at hphase
  obtain hphase | ⟨tick', timer, hphase⟩ := hphase
  · cases hphase
  · cases hphase

/-- Every course has its waits. -/
theorem Course.exists_waits (htime : r₀.plan.time.sleepUntil? = none)
    (hdelay : r₀.requestedDelay = none) (hphase : r₀.phase = .sampling)
    (hc : Course between r₀ w₀ h turn w) :
    ∃ xs, Waits between r₀ w₀ h turn w xs ∧ ∀ r, turn.run? = some r → r.Knows xs := by
  induction hc with
  | start =>
    refine ⟨[], .start, ?_⟩
    rintro r ⟨⟩
    constructor
    · exact hdelay
    · intro tick hwaiting
      rw [hphase] at hwaiting
      cases hwaiting
    · intro tick timer hwaiting
      rw [hphase] at hwaiting
      cases hwaiting
  | @step h turn turn' r w u v e hc hrun hbetween hsteps ih =>
    obtain ⟨xs, hx, hknows⟩ := ih
    have hr := hknows r hrun
    have hplan : r.plan = r₀.plan := hc.plan_eq hrun
    cases e with
    | sampled o =>
      obtain ⟨r', tick, rfl, hwaiting, htaken, hasks⟩ | ⟨r', ending, rfl, hasks⟩ :=
        hsteps.asks_of_sampled
      · refine ⟨_, hx.begins hrun hbetween hsteps (hplan ▸ hasks), ?_⟩
        rintro _ ⟨⟩
        refine ⟨htaken, fun _ _ ↦ ⟨_, _, rfl⟩, ?_⟩
        intro tick' timer hsettled
        rw [hwaiting] at hsettled
        cases hsettled
      · exact ⟨xs, hx.decides hrun hbetween hsteps hasks, by rintro _ ⟨⟩⟩
    | looked wake =>
      obtain ⟨tick, deadline, -, -, hwaiting, -⟩ := hsteps.heed_eq
      cases deadline with
      | none =>
        obtain ⟨ys, length, rfl⟩ := hr.fresh tick hwaiting
        obtain ⟨limit, hfinds, hasks⟩ := hsteps.finds_of_looked (hplan ▸ htime) hwaiting
        refine ⟨_, hx.looks hrun hbetween hsteps hfinds hasks, ?_⟩
        exact fun r' hrun' ↦ hsteps.knows hr.consumed hrun'
      | some timer =>
        obtain ⟨ys, length, limit, rfl⟩ := hr.settled tick timer hwaiting
        refine ⟨_, hx.looksAgain hrun hbetween hsteps (hsteps.asks_of_looked hwaiting), ?_⟩
        exact fun r' hrun' ↦ hsteps.knows hr.consumed hrun'

/-! ### The time since the start -/

/-- The time since the start is the exact difference to a reading, or zero if the source has gone
backward. -/
theorem of_elapsed_eq_ok {elapsed : Duration} (h : r.call r.elapsed u = (.ok elapsed, v)) :
    ∃ now, r.call r.plan.time.now u = (.ok now, v) ∧
      elapsed.nanos = now.nanos - r.started.nanos := by
  rw [call_elapsed_eq] at h
  obtain ⟨now, hnow, rfl⟩ := Effect.map_eq_ok_iff.1 h
  exact ⟨now, hnow, Duration.nanos_saturatingSub _ _⟩

/-- What ends a run leaves it as it is. -/
theorem run_of_finish {cause : Cause} {ending : Option Ending}
    (h : r.finish cause u = (.ok (.over r' ending), v)) : r' = r := by
  obtain ⟨elapsed, -, -, -, hturn, -⟩ := of_finish_eq_ok h
  exact (Turn.over.inj hturn).1

theorem finish_of_goBy {ending : Option Ending} (h : r.goBy o u = (.ok (.over r' ending), v)) :
    ∃ cause w₁, r'.finish cause w₁ = (.ok (.over r' ending), v) := by
  obtain ⟨r'', w₁, -, hrest⟩ := of_goBy_eq_ok h
  generalize r.plan.mode.rule r.plan.repeats r.passes (o.reading r.plan.desired) = ruling at hrest
  rcases ruling with passes | cause
  · obtain ⟨_, -, hturn⟩ := hrest
    cases hturn
  · obtain rfl := run_of_finish hrest
    exact ⟨cause, w₁, hrest⟩

theorem finish_of_heed {tick : Timer} {wake : Option Wake} {found : Option Timer}
    {ending : Option Ending} (h : r.heed tick wake found u = (.ok (.over r' ending), v)) :
    ∃ cause w₁, r'.finish cause w₁ = (.ok (.over r' ending), v) := by
  cases wake with
  | none => cases (Effect.pure_eq_ok_iff.1 h).1
  | some wake =>
    rw [heed_some] at h
    cases hcause : r.plan.mode.causeOfWake? wake with
    | none =>
      rw [hcause] at h
      cases (Effect.pure_eq_ok_iff.1 h).1
    | some cause =>
      rw [hcause] at h
      obtain rfl := run_of_finish h
      exact ⟨cause, u, h⟩

/-- A run is over when it has finished. -/
theorem Steps.finish_of_over {e : Event α} {ending : Option Ending}
    (h : r.Steps u e (.over r' ending) v) :
    ∃ cause w₁, r'.finish cause w₁ = (.ok (.over r' ending), v) := by
  cases e with
  | sampled o =>
    obtain ⟨-, w₁, -, hgo⟩ := h.goBy_eq
    exact finish_of_goBy hgo
  | looked wake =>
    obtain ⟨tick, deadline, found, w₁, -, -, hheed⟩ := h.heed_eq
    exact finish_of_heed hheed

/-- A step by which a run fails tells the time since its start, read when it ends. -/
theorem Steps.elapsed_of_over {e : Event α} {ending : Ending}
    (h : r.Steps u e (.over r' (some ending)) v) :
    ∃ elapsed w₁ w₂, ending.elapsed? = some elapsed ∧ w₁.clock = v.clock ∧
      r'.call r'.elapsed w₁ = (.ok elapsed, w₂) := by
  obtain ⟨cause, w₁, hfinish⟩ := h.finish_of_over
  have hclock : v.clock = w₁.clock :=
    (keeps_finish (r'.plan.spares_clock w₁.clock) cause).of_ok rfl hfinish
  obtain ⟨elapsed, -, w₂, -, hover, hread, -⟩ := of_finish_eq_ok hfinish
  have hending : cause.ending? elapsed = some ending := (Turn.over.inj hover).2.symm
  have hcause : cause ≠ .held := by
    rintro rfl
    cases hending
  rw [if_neg hcause] at hread
  exact ⟨elapsed, w₁, w₂, Cause.elapsed?_of_ending? hending, hclock.symm, hread⟩

/-- A run that failed tells the time since its start. -/
theorem Course.elapsed_of_over {r₀ r : Run σ α} {ending : Ending}
    (hc : Course between r₀ w₀ h (.over r (some ending)) w) :
    ∃ elapsed u v, ending.elapsed? = some elapsed ∧ r.call r.elapsed u = (.ok elapsed, v) := by
  generalize hturn : Turn.over r (some ending) = turn at hc
  cases hc with
  | start => cases hturn
  | step hc' hrun hbetween hsteps =>
    subst hturn
    obtain ⟨elapsed, w₁, w₂, helapsed, -, hread⟩ := hsteps.elapsed_of_over
    exact ⟨elapsed, w₁, w₂, helapsed, hread⟩

/-- All that a run has asked of a source that does not know how to wait for an instant, and what it
tells of the time. -/
structure Accounted (between : Turn σ α → World σ → World σ → Prop) (r₀ : Run σ α) (w₀ : World σ)
    (h : List (Event α)) (turn : Turn σ α) (w : World σ) (xs : List Wait) : Prop where
  /-- The waits of the run, step by step. -/
  waits : Waits between r₀ w₀ h turn w xs
  /-- Every sample has begun a wait with the delay after it, but for one that ended the run. -/
  ticks : xs.map Wait.tick = (transcript h).samples.map r₀.plan.delayAfter ∨
    ∃ os last, (transcript h).samples = os ++ [last] ∧ turn.run? = none ∧
      xs.map Wait.tick = os.map r₀.plan.delayAfter
  /-- Nothing is left of a delay once its wait has begun. -/
  consumed : ∀ r, turn.run? = some r → r.requestedDelay = none
  /-- The start and the time limit stay, and the deadline with them. -/
  fixed : turn.run.started = r₀.started ∧ turn.run.plan = r₀.plan
  /-- A wait that the deadline or a cancellation has ended is the last. -/
  ends : ∀ h' wake, h = h' ++ [.looked (some wake)] → wake ≠ .tick → turn.run? = none
  /-- If nobody else starts sleeps, all of them are those of the waits, in order. -/
  asks : (∀ turn w u, between turn w u → World.Asks [] w u) →
    World.Asks (xs.flatMap Wait.sleeps) w₀ w
  /-- The time since the start is zero if the source has gone back behind the start. -/
  elapsed : ∀ elapsed u v, turn.run.call turn.run.elapsed u = (.ok elapsed, v) →
    ∃ now, turn.run.call r₀.plan.time.now u = (.ok now, v) ∧
      elapsed.nanos = now.nanos - r₀.started.nanos
  /-- This is the time that a failure tells. -/
  told : ∀ r ending, turn = .over r (some ending) →
    ∃ elapsed u v, ending.elapsed? = some elapsed ∧ r.call r.elapsed u = (.ok elapsed, v)
  /-- The run can go on, unless user code halts. -/
  goesOn : ∀ I : σ → Prop, r₀.plan.Calm I → ∀ r, turn.run? = some r → ∀ u : World σ, I u.user →
    ∃ e turn' v, r.Steps u e turn' v ∧ I v.user

/-- What ends a wait other than a tick ends the run. -/
theorem Course.run?_of_woken (hc : Course between r₀ w₀ h turn w) {h' : List (Event α)}
    {wake : Wake} (hlast : h = h' ++ [.looked (some wake)]) (hwake : wake ≠ .tick) :
    turn.run? = none := by
  cases hc with
  | start => simp at hlast
  | step _ hrun _ hsteps =>
    obtain ⟨rfl, hevent⟩ := List.append_inj' hlast rfl
    obtain rfl := List.singleton_inj.1 hevent
    cases hsteps.leads with
    | resumes hcause => exact absurd (Mode.causeOfWake?_eq_none_iff.1 hcause) hwake
    | woken => rfl

/-- **A run asks for nothing but the sleeps of its waits**, whatever the readings of its source. -/
theorem Course.exists_accounted (htime : r₀.plan.time.sleepUntil? = none)
    (hstart : r₀ = .start r₀.plan r₀.started) (hc : Course between r₀ w₀ h turn w) :
    ∃ xs, Accounted between r₀ w₀ h turn w xs := by
  obtain ⟨xs, hx, hknows⟩ := hc.exists_waits htime (by rw [hstart]; rfl) (by rw [hstart]; rfl)
  obtain ⟨hplan, hstarted, -⟩ := hc.run_eq
  refine ⟨xs, hx, hx.ticks, fun r hrun ↦ (hknows r hrun).consumed, ⟨hstarted, hplan⟩, ?_,
    fun hb ↦ hx.asks hb, ?_, ?_, fun I hcalm r hrun u hu ↦ hc.exists_steps hrun hcalm hu⟩
  · exact fun h' wake hlast hwake ↦ hc.run?_of_woken hlast hwake
  · intro elapsed u v hread
    rw [← hplan, ← hstarted]
    exact of_elapsed_eq_ok hread
  · rintro r ending rfl
    exact hc.elapsed_of_over

end Provided

end Run

/-! ### Flights -/

/-- A flight that takes off has read the time once, and its run starts at that reading. -/
theorem Flight.of_takeOff_eq_polling {a a' : Assertion σ α} {m : Matcher σ α} {desired : Bool}
    {description : Description σ} {handler : Handler σ} {r : Run σ α} {w w₀ : World σ}
    (h : takeOff a m desired description w = (.ok (.polling a' handler r), w₀)) :
    Engine.call none a.bench.time.now w = (.ok r.started, w₀) ∧
      a.plan m desired description = .ok r.plan ∧ r = .start r.plan r.started := by
  obtain ⟨handler', w₁, hrequire, h⟩ := Effect.bind_eq_ok_iff.1 h
  obtain ⟨started, w₂, hnow, h⟩ := Effect.bind_eq_ok_iff.1 h
  have hworld : w₁ = w := by
    rw [Bench.requireHandler] at hrequire
    generalize a.bench.handler = found at hrequire
    rcases found with - | found
    · cases hrequire
    · exact (Effect.pure_eq_ok_iff.1 hrequire).2.symm
  cases hplan : a.plan m desired description with
  | error cause =>
    rw [hplan] at h
    obtain ⟨_, w₃, -, h⟩ := Effect.bind_eq_ok_iff.1 h
    obtain ⟨_, w₄, -, h⟩ := Effect.bind_eq_ok_iff.1 h
    cases h
  | ok plan =>
    rw [hplan] at h
    obtain ⟨hpolling, rfl⟩ := Effect.pure_eq_ok_iff.1 h
    obtain ⟨-, -, rfl⟩ := Flight.polling.inj hpolling
    exact ⟨hworld ▸ hnow, rfl, rfl⟩

/-- **What an assertion asks of its source of time.** An assertion whose source does not know how to
wait for an instant reads the time once and starts a run there. Whatever the source says from then
on, the run asks for the sleeps of its waits and for nothing else. -/
theorem Flight.accounted_of_takeOff {a a' : Assertion σ α} {m : Matcher σ α} {desired : Bool}
    {description : Description σ} {handler : Handler σ} {r : Run σ α} {w w₀ : World σ}
    (htime : a.bench.time.sleepUntil? = none)
    (h : takeOff a m desired description w = (.ok (.polling a' handler r), w₀)) :
    Engine.call none a.bench.time.now w = (.ok r.started, w₀) ∧
      a.plan m desired description = .ok r.plan ∧
      ∀ between h turn v, Run.Course between r w₀ h turn v →
        ∃ xs, Run.Accounted between r w₀ h turn v xs := by
  obtain ⟨hnow, hplan, hstart⟩ := of_takeOff_eq_polling h
  refine ⟨hnow, hplan, fun between h turn v hc ↦ hc.exists_accounted ?_ hstart⟩
  rw [(Assertion.of_plan_eq_ok hplan).2.1]
  exact htime

/-- A source of time that gives the readings it is told to give. -/
def TimeSource.told : TimeSource (List Duration) where
  now := modifyGet fun readings ↦ (readings.headD .zero, readings.tail)
  sleep d := do return VirtualClock.timerAfter (← Action.clock) d

/-- An assertion that never holds, and asks for a delay when few readings are left. -/
def Assertion.erratic : Assertion (List Duration) Nat :=
  let producer : Action (List Duration) (Except Fault Nat) := do
    return if (← get).length ≤ 5 then .error (.signal (.retry (.ofMillis 7))) else .ok 0
  let bench : Bench (List Duration) := ⟨some fun _ ↦ pure (), {}, .told⟩
  (make bench .eventually (.produced producer) "erratic").withTimeout (.ofMillis 20)

/-- The source goes backward after the start, then past the deadline, and backward again. The first
wait sleeps for the polling interval and until the deadline, the second one for the delay only. -/
theorem Flight.accounted_of_takeOff_erratic : ∃ handler r w₀ h r' w xs,
    takeOff .erratic (.ofPure (· = 1) (fun _ ↦ "") fun _ ↦ "") true .none
        ⟨[40, 38, 90, 38, 30, 30, 75, 30, 30].map .ofMillis, .zero, []⟩ =
      (.ok (.polling .erratic handler r), w₀) ∧
    r.started = .ofMillis 40 ∧
    Run.Course Run.clockMoves r w₀ h (.over r' (some (.timedOut .zero))) w ∧
    Run.Accounted Run.clockMoves r w₀ h (.over r' (some (.timedOut .zero))) w xs ∧
    xs.flatMap Run.Wait.sleeps = [.ofMillis 10, .ofMillis 22, .ofMillis 7] := by
  obtain ⟨handler, r, w₀, htake, hstarted, h, r', w, hc, hsleeps⟩ : ∃ handler r w₀,
      takeOff .erratic (.ofPure (· = 1) (fun _ ↦ "") fun _ ↦ "") true .none
          ⟨[40, 38, 90, 38, 30, 30, 75, 30, 30].map .ofMillis, .zero, []⟩ =
        (.ok (.polling .erratic handler r), w₀) ∧ r.started = .ofMillis 40 ∧ ∃ h r' w,
      Run.Course Run.clockMoves r w₀ h (.over r' (some (.timedOut .zero))) w ∧
        World.Asks [.ofMillis 10, .ofMillis 22, .ofMillis 7] w₀ w :=
    ⟨_, _, _, rfl, rfl, _, _, _,
      .step (.step (.step (.step (.step .start rfl ⟨.zero, rfl⟩ (.sampled rfl rfl rfl))
        rfl ⟨.zero, rfl⟩ (.looked rfl rfl rfl)) rfl ⟨.ofMillis 10, rfl⟩ (.looked rfl rfl rfl))
        rfl ⟨.ofMillis 10, rfl⟩ (.sampled rfl rfl rfl)) rfl ⟨.ofMillis 10, rfl⟩
        (.looked rfl rfl rfl), rfl⟩
  obtain ⟨-, -, hall⟩ := accounted_of_takeOff rfl htake
  obtain ⟨xs, hx⟩ := hall _ _ _ _ hc
  have hquiet : ∀ (turn : Turn (List Duration) Nat) (w u : World (List Duration)),
      Run.clockMoves turn w u → World.Asks [] w u := by
    rintro turn w u ⟨clock, rfl⟩
    exact .of_notices_eq rfl
  refine ⟨handler, r, w₀, h, r', w, xs, htake, hstarted, hc, hx, ?_⟩
  exact List.append_cancel_left ((hx.asks hquiet).symm.trans hsleeps)

end PollAssert
