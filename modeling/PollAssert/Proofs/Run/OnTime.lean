import PollAssert.Proofs.Run.Semantics
import PollAssert.Proofs.Time.Timers
import Mathlib.Algebra.GroupWithZero.Nat

/-!
# Keeping time on the virtual clock

A run on the runtime's own clock starts at a whole millisecond, and the clock moves only while the
run waits, never past the instant that it waits for (`Punctual`). Then the clock stands at a whole
millisecond at every sample: every delay counts rounded up to them. `OnTime` is the invariant of
such a run. It says where the clock stands in terms of the delays of the samples so far, and that
the deadline has not gone by unless the run is over.

A sleep of more than thirty years is cut short, so the invariant counts what the delays come to **as
sleeps** (`Plan.sleptAfter`). Before the deadline this is the sum of the delays themselves
(`Plan.sleptAfter_eq`).
-/

namespace PollAssert

open VirtualClock

variable {σ α : Type}

/-! ### Delays -/

namespace Plan

variable (p : Plan σ α)

/-- The delay between a sample and the next one. -/
def delayAfter (o : Observation α) : Duration := o.retryDelay?.getD p.polling

/-- The next sample is due at once: there is no delay at all. -/
def isAtOnce (o : Observation α) : Bool := decide ((p.delayAfter o).nanos = 0)

/-- How many milliseconds after the start the sample after the given ones is due. -/
def dueAfter (os : List (Observation α)) : Nat :=
  (os.map fun o ↦ ceilMillis (p.delayAfter o).nanos).sum

/-- How many milliseconds the sleeps after the given samples take. -/
def sleptAfter (os : List (Observation α)) : Nat :=
  (os.map fun o ↦ sleepMillis (p.delayAfter o)).sum

theorem dueAfter_nil : p.dueAfter [] = 0 := rfl

theorem sleptAfter_nil : p.sleptAfter [] = 0 := rfl

theorem dueAfter_cons (o : Observation α) (os : List (Observation α)) :
    p.dueAfter (o :: os) = ceilMillis (p.delayAfter o).nanos + p.dueAfter os := by
  rw [dueAfter, List.map_cons, List.sum_cons, dueAfter]

theorem sleptAfter_cons (o : Observation α) (os : List (Observation α)) :
    p.sleptAfter (o :: os) = sleepMillis (p.delayAfter o) + p.sleptAfter os := by
  rw [sleptAfter, List.map_cons, List.sum_cons, sleptAfter]

theorem sleptAfter_concat (os : List (Observation α)) (o : Observation α) :
    p.sleptAfter (os ++ [o]) = p.sleptAfter os + sleepMillis (p.delayAfter o) := by
  rw [sleptAfter, List.map_append, List.sum_append, List.map_singleton, List.sum_singleton,
    sleptAfter]

/-- The deadline of a run, in milliseconds after its start. -/
def limitMillis : Nat := ceilMillis p.timeout.nanos

/-- Sleeping for the delay after the sample wakes at its target, as far as the run can tell: the
delay, or all the time that the run has, is not too long for a sleep. -/
def WakesAtTarget (o : Observation α) : Prop :=
  (p.delayAfter o).nanos ≤ longestSleep ∨ p.timeout.nanos ≤ longestSleep

variable {p}

/-- Without requests to try again every delay is the polling interval. -/
theorem dueAfter_of_no_retry {os : List (Observation α)}
    (hretry : ∀ o ∈ os, o.retryDelay? = none) :
    p.dueAfter os = os.length * ceilMillis p.polling.nanos := by
  induction os with
  | nil => rw [dueAfter_nil, List.length_nil, Nat.zero_mul]
  | cons o os ih =>
    have htail := ih fun o' ho' ↦ hretry o' (List.mem_cons_of_mem o ho')
    have hhead : p.delayAfter o = p.polling := by
      rw [delayAfter, hretry o (List.mem_cons_self ..), Option.getD_none]
    rw [dueAfter_cons, htail, hhead, List.length_cons, Nat.succ_mul, Nat.add_comm]

/-- No sleep is longer than the delay that was asked for. -/
theorem sleptAfter_le (os : List (Observation α)) : p.sleptAfter os ≤ p.dueAfter os := by
  induction os with
  | nil => rw [sleptAfter_nil, dueAfter_nil]
  | cons o os ih =>
    rw [sleptAfter_cons, dueAfter_cons]
    exact Nat.add_le_add (sleepMillis_le _) ih

/-- Before the deadline the sleeps take as long as was asked for. -/
theorem sleptAfter_eq {os : List (Observation α)} (hwakes : ∀ o ∈ os, p.WakesAtTarget o)
    (hlt : p.sleptAfter os < p.limitMillis) : p.sleptAfter os = p.dueAfter os := by
  induction os with
  | nil => rw [sleptAfter_nil, dueAfter_nil]
  | cons o os ih =>
    rw [sleptAfter_cons] at hlt ⊢
    rw [dueAfter_cons]
    have htail := ih (fun o' ho' ↦ hwakes o' (List.mem_cons_of_mem o ho')) (by omega)
    have hhead : sleepMillis (p.delayAfter o) = ceilMillis (p.delayAfter o).nanos := by
      by_cases hle : (p.delayAfter o).nanos ≤ longestSleep
      · exact sleepMillis_of_le hle
      · have hlimit := (hwakes o (List.mem_cons_self ..)).resolve_left hle
        -- a sleep that is cut short would have lasted past the deadline
        have hpast : p.limitMillis ≤ ceilMillis longestSleep := ceilMillis_mono hlimit
        rw [sleepMillis_of_ge (Nat.le_of_not_le hle)] at hlt
        omega
    rw [htail, hhead]

end Plan

/-! ### The setting -/

/-- A run with this plan, started in the world `w₀`, takes its time from the runtime's clock, which
stands at a whole millisecond and can represent the deadline. -/
structure Plan.RunsOnClock (p : Plan σ α) (epoch started : Duration) (w₀ : World σ) : Prop where
  time : p.time = .runtime epoch
  epoch_le : epoch ≤ w₀.clock
  started_eq : started = w₀.clock.saturatingSub epoch
  whole : nanosPerMilli ∣ w₀.clock.nanos
  timeout_pos : 0 < p.timeout.nanos
  timeout_lt : w₀.clock.nanos + p.timeout.nanos < horizon

/-- On the runtime's clock this is the timer that ends a run: it goes off at the deadline, or never
if the deadline is not representable. -/
def Plan.wakeUp (p : Plan σ α) (epoch started : Duration) : Timer :=
  match started.checkedAdd? p.timeout with
  | some deadline => timerAt (epoch.nanos + deadline.nanos)
  | none => .never

/-- A deadline that the clock can reach counts from the start, however the source counts. -/
theorem Plan.wakeUp_eq_timerAt (p : Plan σ α) {epoch clock : Duration} (hepoch : epoch ≤ clock)
    (hlt : clock.nanos + p.timeout.nanos < horizon) :
    p.wakeUp epoch (clock.saturatingSub epoch) = timerAt (clock.nanos + p.timeout.nanos) := by
  have hlimit : horizon ≤ nanosLimit := by decide
  rw [Duration.le_def] at hepoch
  rw [wakeUp]
  cases hsum : (clock.saturatingSub epoch).checkedAdd? p.timeout with
  | none =>
    rw [Duration.checkedAdd?_eq_none_iff, Duration.nanos_saturatingSub] at hsum
    omega
  | some d =>
    have hd := Duration.nanos_of_checkedAdd? hsum
    rw [Duration.nanos_saturatingSub] at hd
    exact congrArg timerAt (by omega)

/-- The clock stands still while the run can go on, and does not move past the instant that a
waiting run waits for. Nobody cancels the token. Everything else is free. -/
structure Run.Punctual (turn : Turn σ α) (w u : World σ) : Prop where
  ready : ∀ r, turn = .ready r → u.clock = w.clock
  pending : ∀ r instant, turn = .pending r → r.nextTimer.due? = some instant → u.clock ≤ instant
  token : ∀ token, turn.run.plan.token = some token → token u.user = false

namespace Run

/-! ### The runtime's clock as a source of time -/

section Runtime

variable {r : Run σ α} {epoch : Duration}

theorem call_elapsed_runtime (htime : r.plan.time = .runtime epoch) (w : World σ) :
    r.call r.elapsed w = (.ok ((w.clock.saturatingSub epoch).saturatingSub r.started), w) := by
  rw [elapsed]
  rw [htime]
  rfl

theorem call_sleep_runtime (htime : r.plan.time = .runtime epoch) (d : Duration) (w : World σ) :
    r.call (r.plan.time.sleep d) w = (.ok (timerAfter w.clock d), w) := by
  rw [htime]
  rfl

theorem deadlineTimer_runtime (htime : r.plan.time = .runtime epoch) {deadline : Duration}
    (hdeadline : r.deadline? = some deadline) (w : World σ) :
    r.deadlineTimer none w = (.ok (timerAt (epoch.nanos + deadline.nanos)), w) := by
  rw [deadlineTimer, sleepUntilDeadline]
  rw [hdeadline]
  show r.sleepUntil deadline w = _
  rw [sleepUntil, htime]
  rfl

/-- On the runtime's clock every look has the same timer for the deadline. -/
theorem deadlineTimer_eq_wakeUp {p : Plan σ α} {started : Duration} (hplan : r.plan = p)
    (hstarted : r.started = started) (htime : p.time = .runtime epoch) {deadline : Option Timer}
    (hdeadline : ∀ timer, deadline = some timer → timer = p.wakeUp epoch started) (u : World σ) :
    r.deadlineTimer deadline u = (.ok (p.wakeUp epoch started), u) := by
  subst hplan hstarted
  cases deadline with
  | some timer =>
    rw [hdeadline timer rfl]
    rfl
  | none =>
    rw [Plan.wakeUp]
    cases hsum : r.deadline? with
    | some d =>
      rw [show r.started.checkedAdd? r.plan.timeout = some d from hsum]
      exact deadlineTimer_runtime htime hsum u
    | none =>
      rw [show r.started.checkedAdd? r.plan.timeout = none from hsum]
      rw [deadlineTimer, sleepUntilDeadline]
      rw [hsum]
      rfl

theorem of_finish_runtime (htime : r.plan.time = .runtime epoch) {cause : Cause}
    {turn : Turn σ α} {w v : World σ} (h : r.finish cause w = (.ok turn, v)) :
    turn = .over r
      (cause.ending? ((w.clock.saturatingSub epoch).saturatingSub r.started)) := by
  obtain ⟨elapsed, -, w₁, -, rfl, hread, -⟩ := of_finish_eq_ok h
  by_cases hheld : cause = .held
  · rw [hheld]
    rfl
  · rw [if_neg hheld, call_elapsed_runtime htime] at hread
    rw [Except.ok.inj (Prod.mk.inj hread).1]

theorem of_startWaiting_runtime {r' : Run σ α} (htime : r.plan.time = .runtime epoch)
    {w v : World σ} (h : r.startWaiting w = (.ok r', v)) :
    r' = { r with
      requestedDelay := none, phase := .waiting (timerAfter w.clock r.interval) none } := by
  obtain ⟨tick, hsleep, rfl⟩ := of_startWaiting_eq_ok h
  rw [call_sleep_runtime (r := { r with requestedDelay := none }) htime] at hsleep
  obtain ⟨htick, -⟩ := Prod.mk.inj hsleep
  rw [← Except.ok.inj htick]

/-- The interval after a sample is the delay that it asked for, or the plan's. -/
theorem interval_publish (r : Run σ α) (o : Observation α) (capturedAt : Duration) :
    (r.publish o.sample capturedAt).interval = r.plan.delayAfter o := by
  rw [interval, publish, Plan.delayAfter, Observation.retryDelay?, Sample.steering]
  rcases o.sample.signal? with - | signal
  · rfl
  · rcases h : signal.request with message | delay <;> simp [h]

/-- The tick of the wait after a sample. -/
theorem phase_of_goBy (htime : r.plan.time = .runtime epoch) {o : Observation α} {w v : World σ}
    {r' : Run σ α} (h : r.goBy o w = (.ok (.ready r'), v)) :
    r'.phase = .waiting (timerAfter w.clock (r.plan.delayAfter o)) none := by
  obtain ⟨r₁, w₁, hrecord, hrest⟩ := of_goBy_eq_ok h
  have hclock : w₁.clock = w.clock :=
    (keeps_record (r.plan.spares_clock w.clock) o).of_ok rfl hrecord
  obtain ⟨capturedAt, -, -, -, -, rfl, -⟩ := of_record_eq_ok hrecord
  generalize r.plan.mode.rule r.plan.repeats r.passes (o.reading r.plan.desired) = ruling at hrest
  rcases ruling with passes | cause
  · obtain ⟨r₂, hwait, hturn⟩ := hrest
    cases hturn
    obtain rfl := of_startWaiting_runtime
      (r := { r.publish o.sample capturedAt with passes := passes }) htime hwait
    rw [← interval_publish r o capturedAt, ← hclock]
    rfl
  · obtain ⟨elapsed, -, -, -, hturn, -⟩ := of_finish_eq_ok hrest
    cases hturn

/-- The tick of the wait after a sample that was taken at a whole millisecond. -/
theorem strikes_of_goBy (htime : r.plan.time = .runtime epoch) {o : Observation α} {w v : World σ}
    {r' : Run σ α} {n : Nat} (hwhole : w.clock.nanos = n * nanosPerMilli)
    (h : r.goBy o w = (.ok (.ready r'), v)) :
    ∃ tick, r'.phase = .waiting tick none ∧
      tick.Strikes ((n + sleepMillis (r.plan.delayAfter o)) * nanosPerMilli) :=
  ⟨_, phase_of_goBy htime h, Timer.strikes_timerAfter hwhole _⟩

end Runtime

/-! ### On time -/

variable {p : Plan σ α} {epoch started : Duration} {w₀ w u v : World σ} {t : Transcript α}
  {turn turn' : Turn σ α} {r : Run σ α}

/-- The instant so many milliseconds after the start, in nanoseconds. -/
def instantAfter (w₀ : World σ) (millis : Nat) : Nat := w₀.clock.nanos + millis * nanosPerMilli

theorem instantAfter_le_iff {a b : Nat} :
    instantAfter w₀ a ≤ instantAfter w₀ b ↔ a ≤ b := by
  simp only [instantAfter, nanosPerMilli]
  omega

/-- How a run on the virtual clock stands, in a world that is as its transcript tells. -/
inductive OnTime (p : Plan σ α) (w₀ : World σ) (t : Transcript α) : Turn σ α → World σ → Prop
  /-- It samples when the sleeps after all its samples are over, which is before its deadline. -/
  | sampling {r : Run σ α} {w : World σ} (hphase : r.phase = .sampling)
      (hclock : w.clock.nanos = instantAfter w₀ (p.sleptAfter t.samples))
      (hlt : p.sleptAfter t.samples < p.limitMillis) : OnTime p w₀ t (.ready r) w
  /-- It waits for that instant and for the deadline, and neither has gone by. -/
  | waiting {turn : Turn σ α} {r : Run σ α} {w : World σ} {tick : Timer} {deadline : Option Timer}
      (hrun : turn.run? = some r) (hphase : r.phase = .waiting tick deadline)
      (htick : tick.Strikes (instantAfter w₀ (p.sleptAfter t.samples)))
      (hdeadline : ∀ timer, deadline = some timer →
        timer = timerAt (w₀.clock.nanos + p.timeout.nanos))
      (hpending : ∀ r, turn = .pending r → deadline.isSome = true)
      (hle : w.clock.nanos ≤ instantAfter w₀ (p.sleptAfter t.samples))
      (hle' : w.clock.nanos ≤ instantAfter w₀ p.limitMillis) : OnTime p w₀ t turn w
  /-- A sample has ended it. -/
  | decided {r : Run σ α} {ending : Option Ending} {w : World σ} {cause : Cause}
      (hcause : p.cause? t.samples = some cause) : OnTime p w₀ t (.over r ending) w
  /-- The deadline has ended it, at the deadline. -/
  | expired {r : Run σ α} {cause : Cause} {w : World σ}
      (hwake : t.wakes.getLast? = some .deadline)
      (hcause : p.mode.causeOfWake? .deadline = some cause)
      (hclock : w.clock.nanos = instantAfter w₀ p.limitMillis)
      (hle : p.limitMillis ≤ p.sleptAfter t.samples) :
      OnTime p w₀ t (.over r (cause.ending? (.ofMillis p.limitMillis))) w

end Run

namespace Plan.RunsOnClock

open Run

variable {p : Plan σ α} {epoch started : Duration} {w₀ w u : World σ} {t : Transcript α}
  {turn : Turn σ α} {r : Run σ α} {tick : Timer} {deadline : Option Timer}

/-- The clock at the start, in milliseconds. -/
theorem exists_millis (hs : p.RunsOnClock epoch started w₀) :
    ∃ n, ∀ millis, instantAfter w₀ millis = (n + millis) * nanosPerMilli := by
  obtain ⟨n, hn⟩ := hs.whole
  refine ⟨n, fun millis ↦ ?_⟩
  rw [instantAfter, hn, Nat.add_mul, Nat.mul_comm]

/-- The deadline's timer goes off, at the time limit rounded up. -/
theorem exists_due (hs : p.RunsOnClock epoch started w₀) :
    ∃ instant, (timerAt (w₀.clock.nanos + p.timeout.nanos)).due? = some instant ∧
      instant.nanos = instantAfter w₀ p.limitMillis ∧ instant.nanos ≤ horizon := by
  have hstrikes := Timer.strikes_timerAt (w₀.clock.nanos + p.timeout.nanos)
  have hle := ceilMillis_mul_le_horizon hs.timeout_lt
  have hmillis : ceilMillis (w₀.clock.nanos + p.timeout.nanos) * nanosPerMilli =
      instantAfter w₀ p.limitMillis := by
    obtain ⟨n, hn⟩ := hs.whole
    rw [instantAfter, limitMillis, hn, Nat.mul_comm nanosPerMilli n, ceilMillis_add, Nat.add_mul]
  have hdue : (timerAt (w₀.clock.nanos + p.timeout.nanos)).due? =
      some (.ofMillis (ceilMillis (w₀.clock.nanos + p.timeout.nanos))) := by
    rw [timerAt, if_pos hs.timeout_lt]
  have hnanos := Duration.nanos_ofMillis_of_le hle
  exact ⟨_, hdue, hnanos.trans hmillis, hnanos ▸ hle⟩

/-- The time limit counts from the start, so the deadline's timer goes off that much later. -/
theorem wakeUp_eq (hs : p.RunsOnClock epoch started w₀) :
    p.wakeUp epoch started = timerAt (w₀.clock.nanos + p.timeout.nanos) := by
  rw [hs.started_eq, p.wakeUp_eq_timerAt hs.epoch_le hs.timeout_lt]

/-- At every look the deadline's timer is that one. -/
theorem deadlineTimer_eq (hs : p.RunsOnClock epoch started w₀) (hplan : r.plan = p)
    (hstarted : r.started = started) (hdeadline : ∀ timer, deadline = some timer →
      timer = timerAt (w₀.clock.nanos + p.timeout.nanos)) (u : World σ) :
    r.deadlineTimer deadline u = (.ok (timerAt (w₀.clock.nanos + p.timeout.nanos)), u) := by
  rw [← hs.wakeUp_eq] at hdeadline ⊢
  exact deadlineTimer_eq_wakeUp hplan hstarted hs.time hdeadline u

/-- At the deadline the time limit, rounded up, has elapsed. -/
theorem elapsed_eq (hs : p.RunsOnClock epoch started w₀) (hstarted : r.started = started)
    {clock : Duration} (hclock : clock.nanos = instantAfter w₀ p.limitMillis) :
    (clock.saturatingSub epoch).saturatingSub r.started = .ofMillis p.limitMillis := by
  obtain ⟨b, -, hb, hhorizon⟩ := hs.exists_due
  rw [hb] at hhorizon
  have hepoch := hs.epoch_le
  rw [Duration.le_def] at hepoch
  rw [instantAfter] at hclock hhorizon
  refine Duration.ext ?_
  rw [Duration.nanos_ofMillis_of_le (by omega), Duration.nanos_saturatingSub,
    Duration.nanos_saturatingSub, hstarted, hs.started_eq, Duration.nanos_saturatingSub, hclock]
  omega

/-- It has gone off when the clock has come to the time limit, rounded up. -/
theorem isDue_deadline (hs : p.RunsOnClock epoch started w₀) (clock : Duration) :
    (timerAt (w₀.clock.nanos + p.timeout.nanos)).isDue clock =
      decide (instantAfter w₀ p.limitMillis ≤ clock.nanos) := by
  obtain ⟨instant, hdue, hinstant, -⟩ := hs.exists_due
  rw [Timer.isDue]
  rw [hdue, ← hinstant]
  rfl

/-- A run that waits for the deadline as well waits for the first of the two instants. -/
theorem exists_nextTimer (hs : p.RunsOnClock epoch started w₀) {n : Nat}
    (hphase : r.phase = .waiting tick (some (timerAt (w₀.clock.nanos + p.timeout.nanos))))
    (htick : tick.Strikes n) :
    ∃ instant, r.nextTimer.due? = some instant ∧
      instant.nanos = min n (instantAfter w₀ p.limitMillis) := by
  obtain ⟨b, hdue, hb, hhorizon⟩ := hs.exists_due
  obtain ⟨instant, hnext, hmin⟩ := htick.exists_earlier hdue hhorizon
  refine ⟨instant, ?_, hb ▸ hmin⟩
  rw [nextTimer]
  rw [hphase]
  exact hnext

/-- However the clock moves while the run waits, it moves past neither of the two instants. -/
theorem le_of_punctual (hs : p.RunsOnClock epoch started w₀) {n : Nat}
    (hrun : turn.run? = some r) (hphase : r.phase = .waiting tick deadline) (htick : tick.Strikes n)
    (hdeadline : ∀ timer, deadline = some timer →
      timer = timerAt (w₀.clock.nanos + p.timeout.nanos))
    (hpending : ∀ r, turn = .pending r → deadline.isSome = true) (hle : w.clock.nanos ≤ n)
    (hle' : w.clock.nanos ≤ instantAfter w₀ p.limitMillis) (hu : Punctual turn w u) :
    u.clock.nanos ≤ n ∧ u.clock.nanos ≤ instantAfter w₀ p.limitMillis := by
  rcases turn with r' | r' | ⟨r', ending⟩
  · rw [hu.ready r' rfl]
    exact ⟨hle, hle'⟩
  · obtain rfl := Option.some.inj hrun
    obtain ⟨timer, rfl⟩ := Option.isSome_iff_exists.1 (hpending r' rfl)
    obtain rfl := hdeadline timer rfl
    obtain ⟨instant, hnext, hmin⟩ := hs.exists_nextTimer hphase htick
    have hclock := hu.pending r' instant rfl hnext
    rw [Duration.le_def, hmin] at hclock
    omega
  · cases hrun

end Plan.RunsOnClock

namespace Run

variable {p : Plan σ α} {epoch started : Duration} {w₀ w u v : World σ} {t : Transcript α}
  {turn turn' : Turn σ α} {r : Run σ α}

theorem Steps.clock_eq {e : Event α} (h : r.Steps u e turn v) : v.clock = u.clock :=
  (r.keeps_clock_step u.clock).of_ok rfl h.step_eq

namespace OnTime

/-- A sample is taken at its instant, before the deadline. -/
theorem clock_of_sampled (ht : OnTime p w₀ t turn w) (hrun : turn.run? = some r)
    (hu : Punctual turn w u) {o : Observation α} (hsteps : r.Steps u (.sampled o) turn' v) :
    o.clock.nanos = instantAfter w₀ (p.sleptAfter t.samples) ∧
      p.sleptAfter t.samples < p.limitMillis := by
  obtain ⟨hphase, -⟩ := hsteps.goBy_eq
  rw [hsteps.fits.2]
  cases ht with
  | decided | expired => cases hrun
  | waiting hrun' hphase' =>
    obtain rfl := Option.some.inj (hrun.symm.trans hrun')
    rw [hphase] at hphase'
    cases hphase'
  | @sampling r' _ _ hclock hlt =>
    rw [hu.ready r' rfl]
    exact ⟨hclock, hlt⟩

/-- After a sample the run is over or waits for the next one. -/
theorem of_sampled (hs : p.RunsOnClock epoch started w₀) (ht : OnTime p w₀ t turn w)
    (hstanding : Standing p p.count p.cause? t turn) (hrun : turn.run? = some r)
    (hplan : r.plan = p) (hu : Punctual turn w u) {o : Observation α}
    (hsteps : r.Steps u (.sampled o) turn' v) :
    OnTime p w₀ ⟨t.samples ++ [o], t.wakes⟩ turn' v := by
  obtain ⟨n, hn⟩ := hs.exists_millis
  obtain ⟨hclock, hlt⟩ := ht.clock_of_sampled hrun hu hsteps
  obtain ⟨-, u', ho, hgo⟩ := hsteps.goBy_eq
  -- neither observing nor recording takes time, so the wait starts when the sample was taken
  have hclock' : u'.clock = u.clock :=
    (r.keeps_call_of_foreign (I := (World.clock · = u.clock)) (fun _ _ hw ↦ hw) _).of_ok rfl ho
  rw [hsteps.fits.2, ← hclock', hn] at hclock
  obtain ⟨capturedAt, hturn⟩ := hstanding.turn_of_sampled p.judges hrun hplan hsteps
  rcases hcause : p.cause? (t.samples ++ [o]) with - | cause
  · rw [hcause] at hturn
    obtain ⟨tick, rfl⟩ := hturn
    obtain ⟨tick', hphase, hstrikes⟩ := strikes_of_goBy (hplan ▸ hs.time) hclock hgo
    rw [hplan, Nat.add_assoc, ← p.sleptAfter_concat, ← hn] at hstrikes
    have hv : v.clock.nanos = instantAfter w₀ (p.sleptAfter t.samples) := by
      rw [hsteps.clock_eq, ← hclock', hclock, hn]
    refine .waiting rfl hphase hstrikes (by rintro _ ⟨⟩) (by rintro _ ⟨⟩) ?_ ?_
    · rw [hv, instantAfter_le_iff, p.sleptAfter_concat]
      exact Nat.le_add_right _ _
    · rw [hv, instantAfter_le_iff]
      exact hlt.le
  · rw [hcause] at hturn
    obtain ⟨elapsed, rfl⟩ := hturn
    exact .decided hcause

/-- What a look of a waiting run finds that keeps its time. -/
theorem look_eq_ok (hs : p.RunsOnClock epoch started w₀) (hplan : r.plan = p)
    (hstarted : r.started = started) {tick : Timer} {deadline : Option Timer}
    (hdeadline : ∀ timer, deadline = some timer →
      timer = timerAt (w₀.clock.nanos + p.timeout.nanos))
    (htoken : ∀ token, p.token = some token → token u.user = false) :
    r.look tick deadline u =
      (.ok (Wake.at? tick (timerAt (w₀.clock.nanos + p.timeout.nanos)) u.clock,
        some (timerAt (w₀.clock.nanos + p.timeout.nanos))), u) := by
  have hcancelled : r.isCancelled u = (.ok false, u) := by
    rw [isCancelled_apply, hplan]
    rcases htok : p.token with - | token
    · rfl
    · rw [Option.elim_some, htoken token htok]
  rw [look_eq, Effect.bind_of_ok hcancelled]
  exact Effect.bind_of_ok (hs.deadlineTimer_eq hplan hstarted hdeadline u) _

/-- What ends the wait of a run that keeps its time: the deadline if the sleeps last until it,
otherwise the tick when they are over. -/
theorem at?_eq (hs : p.RunsOnClock epoch started w₀) {tick : Timer} {n : Nat} {clock : Duration}
    (htick : tick.Strikes (instantAfter w₀ n)) (hle : clock.nanos ≤ instantAfter w₀ n)
    (hle' : clock.nanos ≤ instantAfter w₀ p.limitMillis) :
    (Wake.at? tick (timerAt (w₀.clock.nanos + p.timeout.nanos)) clock = some .deadline ∧
        clock.nanos = instantAfter w₀ p.limitMillis ∧ p.limitMillis ≤ n) ∨
      (Wake.at? tick (timerAt (w₀.clock.nanos + p.timeout.nanos)) clock = some .tick ∧
        clock.nanos = instantAfter w₀ n ∧ n < p.limitMillis) ∨
      (Wake.at? tick (timerAt (w₀.clock.nanos + p.timeout.nanos)) clock = none ∧
        clock.nanos < instantAfter w₀ n ∧ clock.nanos < instantAfter w₀ p.limitMillis) := by
  obtain ⟨instant, hdue, hinstant, hhorizon⟩ := hs.exists_due
  rw [Wake.at?]
  rw [hs.isDue_deadline]
  -- the deadline is compared first, so a tie goes to it
  by_cases hover : instantAfter w₀ p.limitMillis ≤ clock.nanos
  · refine .inl ⟨by rw [decide_eq_true hover, if_pos rfl], Nat.le_antisymm hle' hover, ?_⟩
    exact instantAfter_le_iff.1 (hover.trans hle)
  · rw [decide_eq_false hover, if_neg Bool.false_ne_true]
    have hbelow : clock.nanos < horizon := by omega
    rw [htick.isDue_eq hbelow]
    by_cases hdone : instantAfter w₀ n ≤ clock.nanos
    · refine .inr (.inl ⟨by rw [decide_eq_true hdone, if_pos rfl], Nat.le_antisymm hle hdone, ?_⟩)
      refine Nat.lt_of_not_le fun hlimit ↦ hover ?_
      exact (instantAfter_le_iff.2 hlimit).trans hdone
    · refine .inr (.inr ⟨by rw [decide_eq_false hdone, if_neg Bool.false_ne_true], ?_, ?_⟩)
      · exact Nat.lt_of_not_le hdone
      · exact Nat.lt_of_not_le hover

/-- After a look the run still waits, is about to sample, or is over at its deadline. -/
theorem of_looked (hs : p.RunsOnClock epoch started w₀) (ht : OnTime p w₀ t turn w)
    (hrun : turn.run? = some r) (hplan : r.plan = p) (hstarted : r.started = started)
    (hu : Punctual turn w u) {wake : Option Wake} (hsteps : r.Steps u (.looked wake) turn' v) :
    OnTime p w₀ ⟨t.samples, t.wakes ++ wake.toList⟩ turn' v := by
  obtain ⟨tick, deadline, found, u', hphase, hlook, hheed⟩ := hsteps.heed_eq
  cases ht with
  | decided | expired => cases hrun
  | sampling hphase' =>
    obtain rfl := Option.some.inj hrun
    rw [hphase] at hphase'
    cases hphase'
  | waiting hrun' hphase' htick hdeadline hpending hle hle' =>
    obtain rfl := Option.some.inj (hrun.symm.trans hrun')
    obtain ⟨rfl, rfl⟩ := Phase.waiting.inj (hphase.symm.trans hphase')
    obtain ⟨hclock, hclock'⟩ :=
      hs.le_of_punctual hrun hphase htick hdeadline hpending hle hle' hu
    have htoken : ∀ token, p.token = some token → token u.user = false := fun token htoken ↦
      hu.token token (by rw [Turn.run_of_run? hrun, hplan, htoken])
    rw [look_eq_ok hs hplan hstarted hdeadline htoken] at hlook
    obtain ⟨hfound, rfl⟩ := Prod.mk.inj hlook
    obtain ⟨rfl, rfl⟩ := Prod.mk.inj (Except.ok.inj hfound)
    have hv := hsteps.clock_eq
    obtain ⟨hwake, hnow, hlimit⟩ | ⟨hwake, hnow, hlt⟩ | ⟨hwake, hlt, hlt'⟩ :=
      at?_eq hs htick hclock hclock'
    · rw [hwake] at hheed ⊢
      rw [heed_some] at hheed
      rcases hcause : r.plan.mode.causeOfWake? .deadline with - | cause
      · cases Mode.causeOfWake?_eq_none_iff.1 hcause
      · rw [hcause] at hheed
        obtain rfl := of_finish_runtime (hplan ▸ hs.time) hheed
        rw [hs.elapsed_eq hstarted hnow]
        exact .expired (by simp) (hplan ▸ hcause) (hv ▸ hnow) hlimit
    · rw [hwake] at hheed ⊢
      rw [heed_some] at hheed
      rw [Mode.causeOfWake?_eq_none_iff.2 rfl] at hheed
      obtain ⟨rfl, -⟩ := Effect.pure_eq_ok_iff.1 hheed
      exact .sampling rfl (hv ▸ hnow) hlt
    · rw [hwake] at hheed ⊢
      obtain ⟨rfl, -⟩ := Effect.pure_eq_ok_iff.1 hheed
      refine .waiting rfl rfl htick (by rintro timer ⟨⟩; rfl) (fun _ _ ↦ rfl) ?_ ?_
      · exact hv ▸ hlt.le
      · exact hv ▸ hlt'.le

end OnTime

end Run

end PollAssert
