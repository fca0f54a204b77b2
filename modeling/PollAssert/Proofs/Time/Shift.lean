import PollAssert.Proofs.Time.Timers

/-!
# Two ways to wait for an instant

The runtime's clock has a way of its own to wait for an instant. A source that has none compares the
instant with a reading and sleeps for what is left. `TimeSource.shifted` is such a source: it is a
fixed length ahead of the runtime's clock and sleeps on it.

Both ways come to timers that go off at the same instants (`TimeSource.WaitsLike`), with two
reservations. A sleep lasts thirty years at most, so the second way is early if more is left than
that. And a timer of the runtime's clock goes off at whole milliseconds only: at an instant between
two of them a deadline that has been reached in the same millisecond is due in the second way, but
not yet in the first.

In a run a deadline is waited for together with a tick, and only the first of the two counts. It is
enough then that two timers agree **until the tick** (`Timer.Concur`), and they do even when the
deadline is far away, if the tick comes before a sleep would be cut short (`Timer.concur_capped`).
-/

namespace PollAssert

open VirtualClock

variable {σ : Type}

/-! ### Timers that agree until a tick -/

namespace Timer

variable {tick timer timer' : Timer}

/-- As long as the tick has not gone off, one of the two timers has gone off exactly if the other
has. -/
def Concur (tick timer timer' : Timer) : Prop :=
  ∀ t, (∀ s < t, tick.isDue s = false) → timer.isDue t = timer'.isDue t

protected theorem Concur.refl (tick timer : Timer) : Concur tick timer timer := fun _ _ ↦ rfl

protected theorem Concur.symm (h : Concur tick timer timer') : Concur tick timer' timer :=
  fun t ht ↦ (h t ht).symm

/-- A timer for a later target has not gone off. -/
theorem isDue_timerAt_eq_false {target : Nat} {clock : Duration} (h : clock.nanos < target) :
    (timerAt target).isDue clock = false := by
  refine Bool.eq_false_iff.2 fun hdue ↦ ?_
  have hle := (isDue_timerAt_iff.1 hdue).2
  have hceil := le_ceilMillis target
  omega

/-- At a whole millisecond a timer whose target has been reached has gone off. -/
theorem isDue_timerAt_of_whole {target : Nat} {clock : Duration}
    (hwhole : nanosPerMilli ∣ clock.nanos) (hclock : clock.nanos < horizon)
    (h : target ≤ clock.nanos) : (timerAt target).isDue clock = true := by
  obtain ⟨n, hn⟩ := hwhole
  rw [Nat.mul_comm] at hn
  have hceil : ceilMillis target ≤ n := by
    rw [← ceilMillis_mul n, ← hn]
    exact ceilMillis_mono h
  refine isDue_timerAt_iff.2 ⟨Nat.lt_of_le_of_lt h hclock, ?_⟩
  rw [hn]
  exact Nat.mul_le_mul_right _ hceil

/-- A timer goes off at a whole millisecond: at the first instant at which it has gone off the clock
stands at one. -/
theorem dvd_of_isDue_timerAt {target : Nat} {clock : Duration}
    (hdue : (timerAt target).isDue clock = true)
    (hfirst : ∀ s < clock, (timerAt target).isDue s = false) : nanosPerMilli ∣ clock.nanos := by
  obtain ⟨hlt, hle⟩ := isDue_timerAt_iff.1 hdue
  have hnanos := Duration.nanos_ofMillis_of_le (ceilMillis_mul_le_horizon hlt)
  have hgoesOff : (timerAt target).isDue (.ofMillis (ceilMillis target)) = true :=
    isDue_timerAt_iff.2 ⟨hlt, Nat.le_of_eq hnanos.symm⟩
  have hge : ¬ Duration.ofMillis (ceilMillis target) < clock := fun h ↦ by
    rw [hfirst _ h] at hgoesOff
    cases hgoesOff
  rw [Duration.lt_def, hnanos] at hge
  have heq : clock.nanos = ceilMillis target * nanosPerMilli := by omega
  exact ⟨ceilMillis target, heq.trans (Nat.mul_comm _ _)⟩

/-- **A sleep for what is left concurs with the timer for the instant**, if what is left is not too
long for a sleep, or the tick comes before the sleep would be cut short. -/
theorem concur_capped {clock d : Duration} {target : Nat} (hlt : clock.nanos < target)
    (hbrief : target - clock.nanos ≤ longestSleep ∨ d.nanos + nanosPerMilli ≤ longestSleep) :
    Concur (timerAfter clock d) (timerAt target)
      (timerAt (clock.nanos + min (target - clock.nanos) longestSleep)) := by
  by_cases hnear : target - clock.nanos ≤ longestSleep
  · rw [Nat.min_eq_left hnear, Nat.add_sub_cancel' (Nat.le_of_lt hlt)]
    exact .refl _ _
  have hd := hbrief.resolve_left hnear
  rw [Nat.min_eq_right (Nat.le_of_not_le hnear), timerAfter_of_le (by omega)]
  -- both go off after the tick, so neither has gone off until then
  have hlate : ∀ far, clock.nanos + longestSleep ≤ far → ∀ t : Duration,
      (∀ s < t, (timerAt (clock.nanos + d.nanos)).isDue s = false) →
        (timerAt far).isDue t = false := by
    intro far hfar t hfirst
    refine Bool.eq_false_iff.2 fun hdue ↦ ?_
    obtain ⟨hhorizon, hle⟩ := isDue_timerAt_iff.1 hdue
    have htick : clock.nanos + d.nanos < horizon := by omega
    have hnanos := Duration.nanos_ofMillis_of_le (ceilMillis_mul_le_horizon htick)
    have hround := ceilMillis_lt (clock.nanos + d.nanos)
    have hround' := le_ceilMillis far
    have hbefore : Duration.ofMillis (ceilMillis (clock.nanos + d.nanos)) < t := by
      rw [Duration.lt_def, hnanos]
      omega
    have hgoesOff := isDue_timerAt_iff.2 ⟨htick, Nat.le_of_eq hnanos.symm⟩
    rw [hfirst _ hbefore] at hgoesOff
    cases hgoesOff
  intro t hfirst
  rw [hlate target (by omega) t hfirst, hlate _ (Nat.le_refl _) t hfirst]

end Timer

/-! ### The two sources -/

/-- The runtime's clock can stand at the instant, and a source that is `ahead` of it can tell. -/
structure Readable (epoch ahead clock : Duration) : Prop where
  lt_horizon : clock.nanos < horizon
  representable : clock.nanos - epoch.nanos + ahead.nanos ≤ nanosLimit

namespace TimeSource

variable {epoch ahead deadline deadline' : Duration} {view : View σ} {s : σ}

/-- A source that is ahead of the runtime's clock, counted from its epoch, by a fixed length. It
sleeps on that clock and has no way of its own to wait for an instant. -/
def shifted (epoch ahead : Duration) : TimeSource σ where
  now := do return ((← Action.clock).saturatingSub epoch).saturatingAdd ahead
  sleep d := do return timerAfter (← Action.clock) d

/-- A clock that is ahead by a part of the user's state is such a source if that part is fixed. -/
theorem ahead_const (length : Duration) :
    (TimeSource.ahead fun _ ↦ length : TimeSource σ) = shifted .zero length := rfl

/-- What the source reads. -/
def reading (epoch ahead clock : Duration) : Duration :=
  (clock.saturatingSub epoch).saturatingAdd ahead

/-- A source without a way of its own does not wait for an instant that is reached. -/
theorem waitUntil_of_remaining?_eq_none {t : TimeSource σ} {now : Duration} {s' : σ}
    (hway : t.sleepUntil? = none) (hnow : t.now view s = (.ok now, s'))
    (hnone : remaining? now deadline = none) :
    t.waitUntil deadline view s = (.ok .elapsed, s') := by
  rw [waitUntil, hway]
  show (t.now view >>= _) s = _
  rw [Effect.bind_of_ok hnow]
  dsimp only
  rw [hnone]
  rfl

/-- For any other instant it sleeps for what is left. -/
theorem waitUntil_of_remaining?_eq_some {t : TimeSource σ} {now length : Duration} {s' : σ}
    (hway : t.sleepUntil? = none) (hnow : t.now view s = (.ok now, s'))
    (hsome : remaining? now deadline = some length) :
    t.waitUntil deadline view s = t.sleep length view s' := by
  rw [waitUntil, hway]
  show (t.now view >>= _) s = _
  rw [Effect.bind_of_ok hnow]
  dsimp only
  rw [hsome]

theorem nanos_reading {clock : Duration} (h : Readable epoch ahead clock) :
    (reading epoch ahead clock).nanos = clock.nanos - epoch.nanos + ahead.nanos :=
  Nat.min_eq_left h.representable

/-- What is left until an instant is the same on both clocks. -/
theorem remaining?_reading {clock : Duration} (h : Readable epoch ahead clock)
    (hepoch : epoch ≤ clock)
    (hdeadline : deadline'.nanos = deadline.nanos + ahead.nanos) :
    (epoch.nanos + deadline.nanos ≤ clock.nanos ∧
        remaining? (reading epoch ahead clock) deadline' = none) ∨
      clock.nanos < epoch.nanos + deadline.nanos ∧
        ∃ left, remaining? (reading epoch ahead clock) deadline' = some left ∧
          left.nanos = epoch.nanos + deadline.nanos - clock.nanos := by
  have hreading := nanos_reading h
  rw [Duration.le_def] at hepoch
  rw [remaining?]
  by_cases hreached : deadline' ≤ reading epoch ahead clock
  · rw [if_pos hreached]
    rw [Duration.le_def, hreading, hdeadline] at hreached
    exact .inl ⟨by omega, rfl⟩
  · rw [if_neg hreached]
    rw [Duration.le_def, hreading, hdeadline] at hreached
    refine .inr ⟨by omega, _, rfl, ?_⟩
    rw [Duration.nanos_saturatingSub, hreading, hdeadline]
    omega

/-- Both sources, asked to wait for the same instant, come to timers that have gone off at the same
instants from now on, and have gone off now if the instant has been reached. This is asked of the
instants that a sleep can last to, and at whole milliseconds or before the instant. -/
def WaitsLike (epoch ahead : Duration) (σ : Type) : Prop :=
  ∀ (deadline deadline' : Duration) (view : View σ) (s : σ),
    Readable epoch ahead view.clock → epoch ≤ view.clock →
    deadline.checkedAdd? ahead = some deadline' →
    epoch.nanos + deadline.nanos ≤ view.clock.nanos + longestSleep →
    nanosPerMilli ∣ view.clock.nanos ∨ view.clock.nanos < epoch.nanos + deadline.nanos →
      ∃ timer timer' : Timer,
        (runtime epoch).waitUntil deadline view s = (.ok timer, s) ∧
        (shifted epoch ahead).waitUntil deadline' view s = (.ok timer', s) ∧
        (∀ t, view.clock ≤ t → timer.isDue t = timer'.isDue t) ∧
        (deadline' ≤ reading epoch ahead view.clock →
          timer.isDue view.clock = true ∧ timer'.isDue view.clock = true)

theorem waitsLike (epoch ahead : Duration) (σ : Type) : WaitsLike epoch ahead σ := by
  intro deadline deadline' view s hreadable hepoch hdeadline hnear hwhole
  have hnanos := Duration.nanos_of_checkedAdd? hdeadline
  have hreading := nanos_reading hreadable
  obtain ⟨hreached, hnone⟩ | ⟨hlt, left, hsome, hleft⟩ :=
    remaining?_reading hreadable hepoch hnanos
  · have hshifted : (shifted epoch ahead).waitUntil deadline' view s = (.ok .elapsed, s) :=
      waitUntil_of_remaining?_eq_none rfl rfl hnone
    have hdue := Timer.isDue_timerAt_of_whole (hwhole.resolve_right (Nat.not_lt.2 hreached))
      hreadable.lt_horizon hreached
    refine ⟨_, _, rfl, hshifted, fun t ht ↦ ?_, fun _ ↦ ⟨hdue, Timer.isDue_elapsed _⟩⟩
    rw [Timer.isDue_elapsed, Timer.isDue_mono ht hdue]
  · have hshifted : (shifted epoch ahead).waitUntil deadline' view s =
        (.ok (timerAfter view.clock left), s) :=
      waitUntil_of_remaining?_eq_some rfl rfl hsome
    -- what is left is slept, so both wait for the same target
    have htarget : timerAfter view.clock left = timerAt (epoch.nanos + deadline.nanos) := by
      rw [timerAfter_of_le (by omega), hleft, Nat.add_sub_cancel' (Nat.le_of_lt hlt)]
    refine ⟨_, _, rfl, hshifted, fun t _ ↦ by rw [htarget], fun hreached ↦ ?_⟩
    rw [Duration.le_def, hreading, hnanos] at hreached
    rw [Duration.le_def] at hepoch
    omega

end TimeSource

end PollAssert
