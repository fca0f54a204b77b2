import PollAssert.Proofs.Run.Kindred
import PollAssert.Proofs.Time.Shift

/-!
# Runs do not depend on the epoch

Two assertions that differ only in their sources of time: the one takes it from the runtime's clock,
the other from a source that is a fixed length ahead and has no way of its own to wait for the
deadline (`TimeSource.shifted`). In the same tide both runs take the same samples at the same
instants, end alike, and tell the same about themselves (`Plan.epoch_irrelevant`).

The deadline is a fixed instant for the first run, while the second one works out at every wait what
is left until then. Both are before their deadline whenever a wait begins (`Run.InTime`), so what is
left is slept, and the timers of the two deadlines go off together, unless the sleep is cut short.
Even then a run does not notice as long as the next sample is due before (`Timer.Concur`). So each
wait has to be for something that a sleep lasts to (`Plan.SleepsThrough`). A run for which this
fails is decided too early on the source that is ahead (`TimeSource.waitUntil_shifted_early`).
-/

namespace PollAssert

open VirtualClock

variable {σ α : Type}

/-! ### Waiting for a tick and for something else -/

namespace Tide.IsNext

variable {tide : Tide σ} {tick timer timer' : Timer} {now instant : Duration}

/-- What is waited for has not gone off before. -/
theorem isDue_eq_false (h : tide.IsNext (tick.earlier timer) now instant)
    (hidle : tick.isDue now = false) : ∀ s < instant, tick.isDue s = false := by
  refine fun s hs ↦ Bool.eq_false_iff.2 fun hdue ↦ ?_
  by_cases hle : s ≤ now
  · rw [Timer.isDue_mono hle hdue] at hidle
    cases hidle
  · have hbefore := h.le s (Nat.lt_of_not_le hle)
      (.inr (by rw [Timer.isDue_earlier, hdue, Bool.true_or]))
    exact Nat.not_le.2 hs hbefore

/-- Timers that agree until the tick are waited for alike together with it. -/
theorem of_concur (h : tide.IsNext (tick.earlier timer) now instant)
    (hidle : tick.isDue now = false) (hconcur : tick.Concur timer timer') :
    tide.IsNext (tick.earlier timer') now instant := by
  have hsame : ∀ t ≤ instant,
      (tick.earlier timer').isDue t = (tick.earlier timer).isDue t := by
    intro t ht
    have hbefore : ∀ s < t, tick.isDue s = false :=
      fun s hs ↦ h.isDue_eq_false hidle s (Nat.lt_of_lt_of_le hs ht)
    rw [Timer.isDue_earlier, Timer.isDue_earlier, hconcur t hbefore]
  refine h.of_le (fun t _ ht hdue ↦ hsame t ht ▸ hdue) (h.isDue.imp_right fun hdue ↦ ?_)
  rw [hsame instant (Nat.le_refl _)]
  exact hdue

end Tide.IsNext

/-! ### The setting -/

/-- The plan on a source of time that is ahead of the runtime's clock. -/
def Plan.shifted (p : Plan σ α) (epoch ahead : Duration) : Plan σ α :=
  { p with time := .shifted epoch ahead }

theorem Plan.kin_shifted (p : Plan σ α) (epoch ahead : Duration) :
    p.Kin (p.shifted epoch ahead) := ⟨rfl, rfl, rfl, rfl, rfl, rfl, rfl⟩

/-- A run with this plan starts in the world `w₀` on the runtime's clock, and so does one on a clock
that is ahead of it. The deadline is representable for both or for neither. -/
structure Plan.RunsOnBoth (p : Plan σ α) (epoch ahead started started' : Duration) (w₀ : World σ) :
    Prop where
  time : p.time = .runtime epoch
  timeout_pos : 0 < p.timeout.nanos
  epoch_le : epoch ≤ w₀.clock
  readable : Readable epoch ahead w₀.clock
  started_eq : started = w₀.clock.saturatingSub epoch
  started_eq' : started' = TimeSource.reading epoch ahead w₀.clock
  deadline : (started.checkedAdd? p.timeout).isSome = (started'.checkedAdd? p.timeout).isSome

/-- Every wait of the history is for something that a sleep lasts to: for the deadline, or for the
next sample. -/
def Plan.SleepsThrough (p : Plan σ α) (started : Duration) (h : List (Run.Event α)) : Prop :=
  started.checkedAdd? p.timeout = none ∨ p.timeout.nanos ≤ longestSleep ∨
    ∀ o ∈ (Run.transcript h).samples, (p.delayAfter o).nanos + nanosPerMilli ≤ longestSleep

theorem Plan.RunsOnBoth.nanos_started' {p : Plan σ α} {epoch ahead started started' : Duration}
    {w₀ : World σ} (hs : p.RunsOnBoth epoch ahead started started' w₀) :
    started'.nanos = started.nanos + ahead.nanos := by
  rw [hs.started_eq', TimeSource.nanos_reading hs.readable, hs.started_eq]
  rfl

/-- Both deadlines are representable, the one ahead of the other, or neither is. -/
theorem Plan.RunsOnBoth.deadlines {p : Plan σ α} {epoch ahead started started' : Duration}
    {w₀ : World σ} (hs : p.RunsOnBoth epoch ahead started started' w₀) :
    (started.checkedAdd? p.timeout = none ∧ started'.checkedAdd? p.timeout = none) ∨
      ∃ limit limit', started.checkedAdd? p.timeout = some limit ∧
        started'.checkedAdd? p.timeout = some limit' ∧
        limit'.nanos = limit.nanos + ahead.nanos ∧
        epoch.nanos + limit.nanos = w₀.clock.nanos + p.timeout.nanos := by
  have hrepresentable := hs.deadline
  rcases hsum : started.checkedAdd? p.timeout with - | limit
  · rw [hsum] at hrepresentable
    exact .inl ⟨rfl, Option.not_isSome_iff_eq_none.1 (Bool.eq_false_iff.1 hrepresentable.symm)⟩
  · rw [hsum] at hrepresentable
    obtain ⟨limit', hsum'⟩ := Option.isSome_iff_exists.1 hrepresentable.symm
    have hnanos := Duration.nanos_of_checkedAdd? hsum
    have hnanos' := Duration.nanos_of_checkedAdd? hsum'
    have hahead := hs.nanos_started'
    have hepoch := Duration.le_def.1 hs.epoch_le
    have hstarted : started.nanos = w₀.clock.nanos - epoch.nanos := by rw [hs.started_eq]; rfl
    exact .inr ⟨limit, limit', rfl, hsum', by omega, by omega⟩

namespace Run

/-- The surroundings are a tide, and the clock stays where both sources can tell where it stands. -/
def OnReadableTide (tide : Tide σ) (epoch ahead : Duration) (turn : Turn σ α) (w u : World σ) :
    Prop :=
  OnTide tide turn w u ∧ Readable epoch ahead u.clock

theorem OnReadableTide.ready {tide : Tide σ} {epoch ahead : Duration} {r : Run σ α} {w : World σ}
    (hclock : Readable epoch ahead w.clock) :
    OnReadableTide tide epoch ahead (.ready r) w w := ⟨.ready, hclock⟩

theorem OnReadableTide.pending {tide : Tide σ} {epoch ahead instant : Duration} {r : Run σ α}
    {w : World σ} (hnext : tide.IsNext r.nextTimer w.clock instant)
    (hclock : Readable epoch ahead instant) :
    OnReadableTide tide epoch ahead (.pending r) w (tide.carry w instant) :=
  ⟨.pending hnext, hclock⟩

/-- How a run on the runtime's clock stands with its deadline, after the transcript. -/
inductive InTime (p : Plan σ α) (w₀ : World σ) (t : Transcript α) : Turn σ α → World σ → Prop
  /-- It samples before its deadline. -/
  | sampling {r : Run σ α} {w : World σ} (hphase : r.phase = .sampling)
      (hlt : w.clock.nanos < w₀.clock.nanos + p.timeout.nanos) : InTime p w₀ t (.ready r) w
  /-- It begins to wait before its deadline, for as long as one of its samples says. -/
  | waiting {r : Run σ α} {w : World σ} {o : Observation α} (hmem : o ∈ t.samples)
      (hphase : r.phase = .waiting (timerAfter w.clock (p.delayAfter o)) none)
      (hlt : w.clock.nanos < w₀.clock.nanos + p.timeout.nanos) : InTime p w₀ t (.ready r) w
  /-- It waits. -/
  | pending {r : Run σ α} {w : World σ} {target : Nat} {deadline : Option Timer}
      (hphase : r.phase = .waiting (timerAt target) deadline) : InTime p w₀ t (.pending r) w
  /-- It is over. -/
  | ended {r : Run σ α} {ending : Option Ending} {w : World σ} : InTime p w₀ t (.over r ending) w

section

variable {p : Plan σ α} {epoch ahead started started' : Duration} {tide : Tide σ}
  {w₀ w w' u u' v v' : World σ} {h : List (Event α)} {e : Event α}
  {turn turn' next next' : Turn σ α} {r r' : Run σ α} {tick : Timer} {deadline : Option Timer}
  (hs : p.RunsOnBoth epoch ahead started started' w₀)

/-! ### Before the deadline -/

/-- A run that samples can go on at once. -/
theorem Course.turn_eq_ready {between : Turn σ α → World σ → World σ → Prop} {r₀ : Run σ α}
    (hc : Course between r₀ w₀ h turn w) (hrun : turn.run? = some r)
    (hphase : r.phase = .sampling) : turn = .ready r := by
  rcases turn with r' | r' | ⟨r', ending⟩
  · rw [Option.some.inj hrun]
  · obtain rfl := Option.some.inj hrun
    obtain ⟨tick, timer, hwaiting⟩ := hc.phase_of_pending
    rw [hphase] at hwaiting
    cases hwaiting
  · cases hrun

/-- Along a course in a tide the clock does not go back. -/
theorem Course.clock_le
    (hc : Course (OnReadableTide tide epoch ahead) (.start p started) w₀ h turn w) :
    w₀.clock ≤ w.clock := by
  induction hc with
  | start => exact Nat.le_refl _
  | step hc hrun hbetween hsteps ih =>
    rw [hsteps.clock_eq]
    exact Nat.le_trans ih hbetween.1.clock_le

/-- A tick is the timer for an instant. -/
theorem InTime.exists_target {t : Transcript α} (htime : InTime p w₀ t turn w)
    (hrun : turn.run? = some r) (hphase : r.phase = .waiting tick deadline) :
    ∃ target, tick = timerAt target := by
  cases htime with
  | ended => cases hrun
  | sampling hsampling =>
    obtain rfl := Option.some.inj hrun
    rw [hsampling] at hphase
    cases hphase
  | waiting hmem hwaiting =>
    obtain rfl := Option.some.inj hrun
    obtain ⟨rfl, -⟩ := Phase.waiting.inj (hwaiting.symm.trans hphase)
    exact ⟨_, rfl⟩
  | pending hwaiting =>
    obtain rfl := Option.some.inj hrun
    obtain ⟨rfl, -⟩ := Phase.waiting.inj (hwaiting.symm.trans hphase)
    exact ⟨_, rfl⟩

/-- A run that is about to wait has not started its deadline's timer. -/
theorem InTime.exists_delay {t : Transcript α} (htime : InTime p w₀ t (.ready r) w)
    (hphase : r.phase = .waiting tick deadline) :
    deadline = none ∧ w.clock.nanos < w₀.clock.nanos + p.timeout.nanos ∧
      ∃ o ∈ t.samples, tick = timerAfter w.clock (p.delayAfter o) := by
  cases htime with
  | sampling hsampling =>
    rw [hsampling] at hphase
    cases hphase
  | waiting hmem hwaiting hlt =>
    obtain ⟨rfl, rfl⟩ := Phase.waiting.inj (hwaiting.symm.trans hphase)
    exact ⟨rfl, hlt, _, hmem, rfl⟩

include hs

/-- The deadline is as far from the start as the time limit says. -/
theorem wakeUp_eq : p.wakeUp epoch started = timerAt (w₀.clock.nanos + p.timeout.nanos) := by
  rw [Plan.wakeUp]
  obtain ⟨hsum, -⟩ | ⟨limit, -, hsum, -, -, htarget⟩ := hs.deadlines
  · -- a deadline that is not representable is past the horizon
    have hpast := Duration.checkedAdd?_eq_none_iff.1 hsum
    have hstarted : started.nanos = w₀.clock.nanos - epoch.nanos := by rw [hs.started_eq]; rfl
    have hlimit : horizon ≤ nanosLimit := by decide
    rw [hsum]
    exact (if_neg (by omega)).symm
  · rw [hsum]
    exact congrArg timerAt htarget

/-- A tick wakes a run at a whole millisecond. -/
theorem InTime.dvd_of_tick
    (hc : Course (OnReadableTide tide epoch ahead) (.start p started) w₀ h turn w)
    (htime : InTime p w₀ (transcript h) turn w) (hrun : turn.run? = some r)
    (hbetween : OnTide tide turn w u) (hphase : r.phase = .waiting tick deadline)
    (htick : tick.isDue u.clock = true) : nanosPerMilli ∣ u.clock.nanos := by
  cases htime with
  | ended => cases hrun
  | sampling hsampling =>
    obtain rfl := Option.some.inj hrun
    rw [hsampling] at hphase
    cases hphase
  | waiting hmem hwaiting =>
    obtain rfl := Option.some.inj hrun
    obtain ⟨rfl, -⟩ := Phase.waiting.inj (hwaiting.symm.trans hphase)
    cases hbetween
    -- the tick's sleep has only just begun
    refine Timer.dvd_of_isDue_timerAt htick fun s hlt ↦ Timer.isDue_timerAt_eq_false ?_
    exact Nat.lt_of_lt_of_le hlt (Nat.le_add_right _ _)
  | pending hwaiting =>
    obtain rfl := Option.some.inj hrun
    obtain ⟨rfl, rfl⟩ := Phase.waiting.inj (hwaiting.symm.trans hphase)
    obtain ⟨tick, hidlePhase, hidle, -⟩ := hc.idle_of_pending hs.time
    obtain ⟨rfl, rfl⟩ := Phase.waiting.inj (hphase.symm.trans hidlePhase)
    cases hbetween with | pending hnext
    rw [nextTimer, hphase] at hnext
    exact Timer.dvd_of_isDue_timerAt htick (hnext.isDue_eq_false hidle)

/-- After a sample a run begins to wait, or is over. -/
theorem InTime.of_sampled {o : Observation α}
    (hc : Course (OnReadableTide tide epoch ahead) (.start p started) w₀ h turn w)
    (htime : InTime p w₀ (transcript h) turn w) (hrun : turn.run? = some r)
    (hbetween : OnReadableTide tide epoch ahead turn w u)
    (hsteps : r.Steps u (.sampled o) next v) :
    InTime p w₀ (transcript (h ++ [.sampled o])) next v := by
  have hplan : r.plan = p := hc.plan_eq hrun
  obtain ⟨hphase, u₁, -, hgo⟩ := hsteps.goBy_eq
  obtain rfl := hc.turn_eq_ready hrun hphase
  obtain ⟨hready, -⟩ := hbetween
  cases hready
  have hlt : v.clock.nanos < w₀.clock.nanos + p.timeout.nanos := by
    rw [hsteps.clock_eq]
    cases htime <;> assumption
  obtain ⟨-, capturedAt, hturn⟩ := hsteps.turn_of_sampled
  split at hturn
  · obtain ⟨elapsed, rfl⟩ := hturn
    exact .ended
  · obtain ⟨tick, rfl⟩ := hturn
    have hmem : o ∈ (transcript (h ++ [.sampled o])).samples := mem_samples_concat.2 (.inr rfl)
    have hkept := keeps_goBy (r.plan.spares_clock u₁.clock) o
    have hwait := phase_of_goBy (hplan ▸ hs.time) hgo
    rw [← hkept.of_ok rfl hgo, hplan] at hwait
    exact .waiting hmem hwait hlt

/-- After a look a run waits, is about to sample before its deadline, or is over. -/
theorem InTime.of_looked {t : Transcript α} {wake : Option Wake}
    (hc : Course (OnReadableTide tide epoch ahead) (.start p started) w₀ h turn w)
    (htime : InTime p w₀ (transcript h) turn w) (hrun : turn.run? = some r)
    (hbetween : OnReadableTide tide epoch ahead turn w u)
    (hsteps : r.Steps u (.looked wake) next v) : InTime p w₀ t next v := by
  obtain ⟨tick, timer, found, hphase, hwake, hheed⟩ := hc.heed_of_looked hs.time hrun hsteps
  rcases wake with - | wake
  · obtain ⟨rfl, -⟩ := Effect.pure_eq_ok_iff.1 hheed
    obtain ⟨target, rfl⟩ := htime.exists_target hrun hphase
    exact .pending rfl
  rw [heed_some] at hheed
  rcases hcause : r.plan.mode.causeOfWake? wake with - | cause
  · -- a tick that comes before the deadline
    obtain rfl := Mode.causeOfWake?_eq_none_iff.1 hcause
    rw [hcause] at hheed
    obtain ⟨rfl, rfl⟩ := Effect.pure_eq_ok_iff.1 hheed
    obtain ⟨hnot, htick⟩ := Wake.at?_eq_tick_iff.1 (hwake.resolve_left nofun).symm
    rw [wakeUp_eq hs] at hnot
    have hwhole := htime.dvd_of_tick hs hc hrun hbetween.1 hphase htick
    refine .sampling rfl (Nat.lt_of_not_le fun hle ↦ ?_)
    rw [Timer.isDue_timerAt_of_whole hwhole hbetween.2.lt_horizon hle] at hnot
    cases hnot
  · rw [hcause] at hheed
    obtain ⟨elapsed, -, -, -, rfl, -⟩ := of_finish_eq_ok hheed
    exact .ended

/-- **Whenever a run can go on, it is before its deadline**, and the tick that it waits for was set
by one of its samples. -/
theorem Course.inTime
    (hc : Course (OnReadableTide tide epoch ahead) (.start p started) w₀ h turn w) :
    InTime p w₀ (transcript h) turn w := by
  induction hc with
  | start => exact .sampling rfl (Nat.lt_add_of_pos_right hs.timeout_pos)
  | @step h turn next r w u v e hc hrun hbetween hsteps ih =>
    cases e with
    | sampled o => exact ih.of_sampled hs hc hrun hbetween hsteps
    | looked wake => exact ih.of_looked hs hc hrun hbetween hsteps

end

/-! ### The source that is ahead -/

section Shifted

variable {p : Plan σ α} {epoch ahead clock deadline deadline' : Duration} {w : World σ}
  {r r' : Run σ α}

/-- Two runs that started together tell the same time, the one on the runtime's clock and the other
on one that is ahead. -/
theorem sameTime_shifted (htime : r.plan.time = .runtime epoch)
    (htime' : r'.plan.time = .shifted epoch ahead)
    (hstarted : r'.started.nanos = r.started.nanos + ahead.nanos)
    (hclock : Readable epoch ahead clock) : SameTime clock r r' where
  elapsed := by
    rintro view rfl
    have hreading := TimeSource.nanos_reading hclock
    have hsame : (view.clock.saturatingSub epoch).saturatingSub r.started =
        (TimeSource.reading epoch ahead view.clock).saturatingSub r'.started := by
      refine Duration.ext ?_
      rw [Duration.nanos_saturatingSub, Duration.nanos_saturatingSub,
        Duration.nanos_saturatingSub, hreading, hstarted]
      omega
    rw [elapsed, elapsed, htime, htime']
    exact congrArg (fun d ↦ (pure d : Effect σ Duration)) hsame
  sleep d view _ := by
    rw [htime, htime']
    rfl

/-- Before its deadline a run on the source that is ahead sleeps for what is left. -/
theorem deadlineTimer_shifted (htime : r.plan.time = .shifted epoch ahead)
    (hclock : Readable epoch ahead w.clock) (hepoch : epoch ≤ w.clock)
    (hdeadline : r.deadline? = some deadline')
    (hnanos : deadline'.nanos = deadline.nanos + ahead.nanos)
    (hlt : w.clock.nanos < epoch.nanos + deadline.nanos) :
    ∃ left, r.deadlineTimer none w =
      (.ok (timerAt (w.clock.nanos +
          min (epoch.nanos + deadline.nanos - w.clock.nanos) longestSleep)),
        { w with notices := .slept left :: w.notices }) := by
  obtain ⟨hreached, -⟩ | ⟨-, left, hsome, hleft⟩ :=
    TimeSource.remaining?_reading hclock hepoch hnanos
  · exact absurd hlt (Nat.not_lt.2 hreached)
  refine ⟨left, ?_⟩
  have hread : r.call (TimeSource.shifted epoch ahead).now w =
      (.ok (TimeSource.reading epoch ahead w.clock), w) := rfl
  rw [deadlineTimer, sleepUntilDeadline, hdeadline]
  show r.sleepUntil deadline' w = _
  rw [sleepUntil, htime]
  show (r.call (TimeSource.shifted epoch ahead).now >>= _) w = _
  rw [Effect.bind_of_ok hread, hsome]
  show r.sleep left w = _
  rw [sleep, htime, ← hleft]
  rfl

end Shifted

/-! ### Two runs in step -/

/-- The run on the runtime's clock and the one on the source that is ahead have come equally far. -/
abbrev InStep (tide : Tide σ) (p : Plan σ α) (epoch ahead started started' : Duration)
    (w₀ : World σ) : List (Event α) → Turn σ α → Turn σ α → World σ → World σ → Prop :=
  Together Timer.Concur (OnReadableTide tide epoch ahead) (.start p started)
    (.start (p.shifted epoch ahead) started') w₀

namespace InStep

variable {p : Plan σ α} {epoch ahead started started' : Duration} {tide : Tide σ}
  {w₀ w w' u u' v v' : World σ} {h : List (Event α)} {e : Event α}
  {turn turn' next next' : Turn σ α} {r r' : Run σ α}
  (hs : p.RunsOnBoth epoch ahead started started' w₀)
  (ha : InStep tide p epoch ahead started started' w₀ h turn turn' w w')

include hs ha

/-- **When a wait begins both start timers for their deadlines that concur**, and that have not gone
off yet. -/
theorem exists_deadlineTimer (hsleeps : p.SleepsThrough started h) {tick : Timer}
    {deadline : Option Timer} (hturn : turn = .ready r) (hrun' : turn'.run? = some r')
    (hclock : Readable epoch ahead w.clock) (hu : World.Level w u')
    (hphase : r.phase = .waiting tick deadline) :
    ∃ timer timer' v', r.deadlineTimer none w = (.ok timer, w) ∧
      r'.deadlineTimer none u' = (.ok timer', v') ∧ World.LevelAt w.clock w v' ∧
      timer.isDue w.clock = timer'.isDue w.clock ∧ Timer.Concur tick timer timer' := by
  subst hturn
  have hplan' : r'.plan = p.shifted epoch ahead := ha.course'.plan_eq hrun'
  have hstarted' : r'.started = started' := ha.course'.started_eq hrun'
  have hle := Duration.le_def.1 ha.course.clock_le
  obtain ⟨rfl, hlt, o, ho, rfl⟩ := (ha.course.inTime hs).exists_delay hphase
  have htimer := ha.course.deadlineTimer_eq hs.time rfl hphase w
  have hdeadline' : r'.deadline? = started'.checkedAdd? p.timeout := by
    rw [deadline?, hstarted', hplan']
    rfl
  obtain ⟨hsum, hnone⟩ | ⟨limit, limit', hsum, hlimit', hahead, htarget⟩ := hs.deadlines
  · -- neither has a deadline
    have hnever : p.wakeUp epoch started = .never := by rw [Plan.wakeUp, hsum]
    have htimer' : r'.deadlineTimer none u' = (.ok .never, u') := by
      rw [deadlineTimer, sleepUntilDeadline, hdeadline', hnone]
      rfl
    rw [hnever] at htimer
    exact ⟨_, _, u', htimer, htimer', hu.at, rfl, .refl _ _⟩
  · have hbrief : w₀.clock.nanos + p.timeout.nanos - w.clock.nanos ≤ longestSleep ∨
        (p.delayAfter o).nanos + nanosPerMilli ≤ longestSleep := by
      obtain hnone | hlimit | hdelays := hsleeps
      · rw [hsum] at hnone
        cases hnone
      · exact .inl (by omega)
      · exact .inr (hdelays o ho)
    have hbefore : u'.clock.nanos < epoch.nanos + limit.nanos := by
      rw [← hu.clock]
      omega
    obtain ⟨left, htimer'⟩ := deadlineTimer_shifted (congrArg Plan.time hplan')
      (hu.clock ▸ hclock) (hu.clock ▸ Nat.le_trans hs.epoch_le ha.course.clock_le)
      (hdeadline'.trans hlimit') hahead hbefore
    rw [htarget, ← hu.clock] at htimer'
    rw [wakeUp_eq hs] at htimer
    refine ⟨_, _, _, htimer, htimer', ⟨⟨hu.user, rfl, hu.notices⟩, rfl⟩, ?_,
      Timer.concur_capped hlt hbrief⟩
    have hlongest : 0 < longestSleep := by decide
    rw [Timer.isDue_timerAt_eq_false hlt, Timer.isDue_timerAt_eq_false (by omega)]

/-- A run that waits has a timer for its deadline, and so has the other one. -/
theorem exists_timers (hturn : turn = .pending r) (hrun' : turn'.run? = some r') :
    ∃ tick timer timer', r.phase = .waiting tick (some timer) ∧
      r'.phase = .waiting tick (some timer') ∧ tick.isDue w.clock = false ∧
      Timer.Concur tick timer timer' := by
  subst hturn
  obtain ⟨tick, hphase, hidle, -⟩ := ha.course.idle_of_pending hs.time
  have hr := ha.kin.of_run? rfl hrun'
  obtain ⟨deadline', hphase', hdeadline⟩ := (hphase ▸ hr.phase).exists_waiting
  cases hdeadline with | some hconcur
  exact ⟨tick, _, _, hphase, hphase', hidle, hconcur⟩

/-- So both wait for the same instant. -/
theorem isNext_iff {instant : Duration} (hturn : turn = .pending r) (hturn' : turn' = .pending r') :
    tide.IsNext r.nextTimer w.clock instant ↔ tide.IsNext r'.nextTimer w'.clock instant := by
  obtain ⟨tick, timer, timer', hphase, hphase', hidle, hconcur⟩ :=
    ha.exists_timers hs hturn (congrArg Turn.run? hturn')
  rw [nextTimer, nextTimer, hphase, hphase', ← ha.level.clock]
  exact ⟨fun h ↦ h.of_concur hidle hconcur, fun h ↦ h.of_concur hidle hconcur.symm⟩

/-- **What may happen between two steps of the one may happen between those of the other.** -/
theorem exists_between (hrun : turn.run? = some r)
    (hbetween : OnReadableTide tide epoch ahead turn w u) :
    ∃ u', OnReadableTide tide epoch ahead turn' w' u' ∧ World.Level u u' := by
  obtain ⟨htide, hclock⟩ := hbetween
  have hkin := ha.kin
  rcases htide with - | @⟨r₁, _, instant, hnext⟩
  · cases hkin
    exact ⟨w', .ready (ha.level.clock ▸ hclock), ha.level⟩
  · cases hkin
    exact ⟨tide.carry w' instant,
      OnReadableTide.pending ((ha.isNext_iff hs rfl rfl).1 hnext) hclock,
      ha.level.carry tide instant⟩

theorem exists_between_right (hrun' : turn'.run? = some r')
    (hbetween' : OnReadableTide tide epoch ahead turn' w' u') :
    ∃ u, OnReadableTide tide epoch ahead turn w u ∧ World.Level u u' := by
  obtain ⟨htide, hclock⟩ := hbetween'
  have hkin := ha.kin
  rcases htide with - | @⟨r₁', _, instant, hnext'⟩
  · cases hkin
    exact ⟨w, .ready (ha.level.clock ▸ hclock), ha.level⟩
  · cases hkin
    exact ⟨tide.carry w instant,
      OnReadableTide.pending ((ha.isNext_iff hs rfl rfl).2 hnext') hclock,
      ha.level.carry tide instant⟩

theorem sameTime {clock : Duration} (hrun : turn.run? = some r) (hrun' : turn'.run? = some r')
    (hclock : Readable epoch ahead clock) : SameTime clock r r' := by
  have hplan : r.plan = p := ha.course.plan_eq hrun
  have hplan' : r'.plan = p.shifted epoch ahead := ha.course'.plan_eq hrun'
  have hstarted : r.started = started := ha.course.started_eq hrun
  have hstarted' : r'.started = started' := ha.course'.started_eq hrun'
  refine sameTime_shifted (hplan ▸ hs.time) (congrArg Plan.time hplan') ?_ hclock
  rw [hstarted, hstarted', hs.nanos_started']

/-- **Both take the same step.** -/
theorem step_alike (hsleeps : p.SleepsThrough started h) (hrun : turn.run? = some r)
    (hrun' : turn'.run? = some r') (hbetween : OnReadableTide tide epoch ahead turn w u)
    (hu : World.Level u u') :
    SameEnd (World.LevelAt u.clock) (Turn.SameStep Timer.Concur) (r.traced u) (r'.traced u') := by
  have hr := ha.kin.of_run? hrun hrun'
  have ht := ha.sameTime hs hrun hrun' hbetween.2
  rcases hphase : r.phase with - | ⟨tick, deadline⟩
  · refine hr.traced_of_sampling ht hphase ?_ _ _ hu.at
    rw [ha.course.plan_eq hrun, ha.course'.plan_eq hrun']
    rfl
  · obtain ⟨deadline', hphase', hdeadline⟩ := (hphase ▸ hr.phase).exists_waiting
    refine hr.traced_of_waiting ht hphase hphase' hu.at fun _ ↦ ?_
    obtain ⟨htide, hclock⟩ := hbetween
    rcases htide with - | @⟨r₁, _, instant, hnext⟩
    · obtain rfl := Option.some.inj hrun
      obtain ⟨rfl, -⟩ := (ha.course.inTime hs).exists_delay hphase
      cases hdeadline
      obtain ⟨timer, timer', v', htimer, htimer', hv', hdue, hconcur⟩ :=
        ha.exists_deadlineTimer hs hsleeps rfl hrun' hclock hu hphase
      exact ⟨timer, timer', w, v', htimer, htimer', hv', hdue, fun _ ↦ hconcur⟩
    · obtain rfl := Option.some.inj hrun
      obtain ⟨tick', timer, timer', hwaiting, hwaiting', hidle, hconcur⟩ :=
        ha.exists_timers hs rfl hrun'
      obtain ⟨rfl, rfl⟩ := Phase.waiting.inj (hphase.symm.trans hwaiting)
      obtain ⟨-, rfl⟩ := Phase.waiting.inj (hphase'.symm.trans hwaiting')
      rw [nextTimer, hphase] at hnext
      exact ⟨timer, timer', _, u', rfl, rfl, hu.at, hconcur _ (hnext.isDue_eq_false hidle),
        fun _ ↦ hconcur⟩

end InStep

/-! ### Whole runs -/

section Runs

variable {p : Plan σ α} {epoch ahead started started' : Duration} {tide : Tide σ}
  {w₀ w w' : World σ} {h : List (Event α)} {turn turn' : Turn σ α}

theorem sleepsThrough_of_append {rest : List (Event α)}
    (hsleeps : p.SleepsThrough started (h ++ rest)) : p.SleepsThrough started h := by
  refine hsleeps.imp_right (Or.imp_right fun hdelays o ho ↦ hdelays o ?_)
  rw [transcript_append_samples]
  exact List.mem_append_left _ ho

variable (hs : p.RunsOnBoth epoch ahead started started' w₀)

include hs

/-- **Every history of the run on the runtime's clock is one of the run that is ahead.** -/
theorem Course.exists_inStep
    (hc : Course (OnReadableTide tide epoch ahead) (.start p started) w₀ h turn w)
    (hsleeps : p.SleepsThrough started h) :
    ∃ turn' w', InStep tide p epoch ahead started started' w₀ h turn turn' w w' := by
  induction hc with
  | start => exact ⟨_, _, .start (p.kin_shifted epoch ahead) started started'⟩
  | @step h turn next r w u v e hc hrun hbetween hsteps ih =>
    have hbefore := sleepsThrough_of_append hsleeps
    obtain ⟨turn', w', ha⟩ := ih hbefore
    obtain ⟨r', hrun', -⟩ := ha.kin.exists_run? hrun
    obtain ⟨u', hbetween', hu⟩ := ha.exists_between hs hrun hbetween
    exact ha.concat hrun hrun' hbetween hbetween'
      (ha.step_alike hs hbefore hrun hrun' hbetween hu) hsteps

/-- **Every history of the run that is ahead is one of the run on the runtime's clock.** -/
theorem Course.exists_inStep_right
    (hc' : Course (OnReadableTide tide epoch ahead) (.start (p.shifted epoch ahead) started') w₀ h
      turn' w') (hsleeps : p.SleepsThrough started h) :
    ∃ turn w, InStep tide p epoch ahead started started' w₀ h turn turn' w w' := by
  induction hc' with
  | start => exact ⟨_, _, .start (p.kin_shifted epoch ahead) started started'⟩
  | @step h turn' next' r' w' u' v' e hc' hrun' hbetween' hsteps' ih =>
    have hbefore := sleepsThrough_of_append hsleeps
    obtain ⟨turn, w, ha⟩ := ih hbefore
    obtain ⟨r, hrun, -⟩ := ha.kin.exists_run?_right hrun'
    obtain ⟨u, hbetween, hu⟩ := ha.exists_between_right hs hrun' hbetween'
    exact ha.concat_right hrun hrun' hbetween hbetween'
      (ha.step_alike hs hbefore hrun hrun' hbetween hu) hsteps'

end Runs

/-- What can be seen of the two runs is the same: their reports at every instant, the message if
they fail, and what a next step comes to, a halt included. -/
structure SeemAlike (tide : Tide σ) (epoch ahead : Duration) (turn turn' : Turn σ α)
    (w w' : World σ) : Prop where
  report : ∀ r r' clock, turn.run? = some r → turn'.run? = some r' → Readable epoch ahead clock →
    r.report clock = r'.report clock
  message : ∀ ending, turn.run.failureMessage ending = turn'.run.failureMessage ending
  next : ∀ r u, turn.run? = some r → OnReadableTide tide epoch ahead turn w u →
    ∃ r' u', turn'.run? = some r' ∧ OnReadableTide tide epoch ahead turn' w' u' ∧
      SameEnd (World.LevelAt u.clock) (Turn.SameStep Timer.Concur) (r.traced u) (r'.traced u')
  next_right : ∀ r' u', turn'.run? = some r' → OnReadableTide tide epoch ahead turn' w' u' →
    ∃ r u, turn.run? = some r ∧ OnReadableTide tide epoch ahead turn w u ∧
      SameEnd (World.LevelAt u.clock) (Turn.SameStep Timer.Concur) (r.traced u) (r'.traced u')

theorem InStep.seemAlike {p : Plan σ α} {epoch ahead started started' : Duration} {tide : Tide σ}
    {w₀ w w' : World σ} {h : List (Event α)} {turn turn' : Turn σ α}
    (hs : p.RunsOnBoth epoch ahead started started' w₀)
    (ha : InStep tide p epoch ahead started started' w₀ h turn turn' w w')
    (hsleeps : p.SleepsThrough started h) : SeemAlike tide epoch ahead turn turn' w w' where
  report r r' clock hrun hrun' hclock :=
    (ha.kin.of_run? hrun hrun').report_eq (ha.sameTime hs hrun hrun' hclock)
  message ending := ha.kin.run.failureMessage_eq ending
  next r u hrun hbetween := by
    obtain ⟨r', hrun', -⟩ := ha.kin.exists_run? hrun
    obtain ⟨u', hbetween', hu⟩ := ha.exists_between hs hrun hbetween
    exact ⟨r', u', hrun', hbetween', ha.step_alike hs hsleeps hrun hrun' hbetween hu⟩
  next_right r' u' hrun' hbetween' := by
    obtain ⟨r, hrun, -⟩ := ha.kin.exists_run?_right hrun'
    obtain ⟨u, hbetween, hu⟩ := ha.exists_between_right hs hrun' hbetween'
    exact ⟨r, u, hrun, hbetween, ha.step_alike hs hsleeps hrun hrun' hbetween hu⟩

end Run

/-! ### The epoch does not matter -/

section Irrelevant

open Run

/-- The run on the runtime's clock and the one on the source that is ahead have the same histories,
which includes the samples and the instants at which they were taken. After each of them they have
come equally far, ended alike if they are over, have left the same log and the same user's state,
and nothing that can be seen of them differs. -/
structure Plan.SameRuns (p : Plan σ α) (tide : Tide σ) (epoch ahead started started' : Duration)
    (w₀ : World σ) : Prop where
  forth : ∀ h turn w, p.SleepsThrough started h →
    Course (OnReadableTide tide epoch ahead) (.start p started) w₀ h turn w →
      ∃ turn' w', InStep tide p epoch ahead started started' w₀ h turn turn' w w' ∧
        SeemAlike tide epoch ahead turn turn' w w'
  back : ∀ h turn' w', p.SleepsThrough started h →
    Course (OnReadableTide tide epoch ahead) (.start (p.shifted epoch ahead) started') w₀ h turn'
        w' →
      ∃ turn w, InStep tide p epoch ahead started started' w₀ h turn turn' w w' ∧
        SeemAlike tide epoch ahead turn turn' w w'

/-- **Neither the epoch nor the way to wait for the deadline matters**, to a run whose waits are for
something that a sleep lasts to, and to who waits for an instant no further away than that. -/
theorem Plan.epoch_irrelevant {p : Plan σ α} {epoch ahead started started' : Duration}
    {w₀ : World σ} (hs : p.RunsOnBoth epoch ahead started started' w₀) (tide : Tide σ) :
    p.SameRuns tide epoch ahead started started' w₀ ∧ TimeSource.WaitsLike epoch ahead σ := by
  refine ⟨⟨fun h turn w hsleeps hc ↦ ?_, fun h turn' w' hsleeps hc' ↦ ?_⟩,
    TimeSource.waitsLike epoch ahead σ⟩
  · obtain ⟨turn', w', ha⟩ := hc.exists_inStep hs hsleeps
    exact ⟨turn', w', ha, ha.seemAlike hs hsleeps⟩
  · obtain ⟨turn, w, ha⟩ := hc'.exists_inStep_right hs hsleeps
    exact ⟨turn, w, ha, ha.seemAlike hs hsleeps⟩

/-- A counting plan with a time limit that is longer than a sleep can be. -/
def Plan.farsighted : Plan Nat Nat :=
  { counting .eventually 2 with timeout := .ofSeconds 1000000000 }

/-- A run of that plan holds at its second sample, and so it does on a clock that is seven seconds
ahead. -/
theorem Plan.epoch_irrelevant_farsighted :
    ∃ h r w r' w',
      Course (OnReadableTide .still .zero (.ofSeconds 7)) (.start farsighted .zero) ⟨0, .zero, []⟩ h
        (.over r none) w ∧
      Course (OnReadableTide .still .zero (.ofSeconds 7))
        (.start (farsighted.shifted .zero (.ofSeconds 7)) (.ofSeconds 7)) ⟨0, .zero, []⟩ h
        (.over r' none) w' ∧
      w'.clock = w.clock ∧ (transcript h).samples.length = 2 := by
  have hs : farsighted.RunsOnBoth .zero (.ofSeconds 7) .zero (.ofSeconds 7) ⟨0, .zero, []⟩ :=
    ⟨rfl, by decide, by decide, ⟨by decide, by decide⟩, by decide, by decide, by decide⟩
  obtain ⟨h, r, w, hc, hlength, hsleeps⟩ : ∃ h r w,
      Course (OnReadableTide .still .zero (.ofSeconds 7)) (.start farsighted .zero) ⟨0, .zero, []⟩ h
        (.over r none) w ∧ (transcript h).samples.length = 2 ∧ farsighted.SleepsThrough .zero h :=
    ⟨_, _, _, .step (.step (.step (.step .start
      rfl (.ready ⟨by decide, by decide⟩) (.sampled rfl rfl rfl))
      rfl (.ready ⟨by decide, by decide⟩) (.looked rfl rfl rfl))
      rfl (.pending (Tide.isNext_still rfl (by decide)) ⟨by decide, by decide⟩)
        (.looked rfl rfl rfl))
      rfl (.ready ⟨by decide, by decide⟩) (.sampled rfl rfl rfl), rfl,
      .inr (.inr (List.forall_mem_cons.2 ⟨by decide, List.forall_mem_singleton.2 (by decide)⟩))⟩
  obtain ⟨turn', w', ha, -⟩ := (epoch_irrelevant hs .still).1.forth h _ w hsleeps hc
  obtain ⟨r', rfl⟩ := ha.kin.eq_over
  exact ⟨h, r, w, r', w', hc, ha.course', ha.level.clock.symm, hlength⟩

/-- A source that is not even ahead waits for an instant in a thousand million seconds, but is woken
after thirty years. The runtime's clock waits until then. -/
theorem TimeSource.waitUntil_shifted_early :
    ∃ timer timer' : Timer,
      (runtime .zero : TimeSource Unit).waitUntil (.ofSeconds 1000000000) ⟨.zero, none⟩ () =
        (.ok timer, ()) ∧
      (shifted .zero .zero : TimeSource Unit).waitUntil (.ofSeconds 1000000000) ⟨.zero, none⟩ () =
        (.ok timer', ()) ∧
      timer'.isDue (.ofSeconds 946080000) = true ∧ timer.isDue (.ofSeconds 946080000) = false ∧
      timer.isDue (.ofSeconds 1000000000) = true :=
  ⟨_, _, rfl, rfl, by decide, by decide, by decide⟩

end Irrelevant

end PollAssert
