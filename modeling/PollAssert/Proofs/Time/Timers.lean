import PollAssert.Time.Source

/-!
# When the timers of the virtual clock go off

On a clock that stands at a whole millisecond everything is a matter of whole milliseconds: a timer
goes off after its length **rounded up** to them. `t.Strikes n` says that `t` goes off at `n`
nanoseconds. A timer that never goes off strikes past the clock's horizon, where no clock can stand,
so that the two kinds of timers need not be told apart below it (`Strikes.isDue_eq`).
-/

namespace PollAssert

namespace VirtualClock

theorem ceilMillis_add (n nanos : Nat) :
    ceilMillis (n * nanosPerMilli + nanos) = n + ceilMillis nanos := by
  simp only [ceilMillis, nanosPerMilli]
  omega

theorem ceilMillis_mono {a b : Nat} (h : a ≤ b) : ceilMillis a ≤ ceilMillis b := by
  simp only [ceilMillis, nanosPerMilli]
  omega

theorem ceilMillis_pos {nanos : Nat} (h : 0 < nanos) : 0 < ceilMillis nanos := by
  rw [ceilMillis, nanosPerMilli]
  omega

/-- The horizon is a whole number of milliseconds, so rounding does not pass it. -/
theorem ceilMillis_mul_le_horizon {target : Nat} (h : target < horizon) :
    ceilMillis target * nanosPerMilli ≤ horizon := by
  have hwhole : horizon = 9223372036854775808000 * nanosPerMilli := by decide
  rw [hwhole] at h ⊢
  refine Nat.mul_le_mul_right _ ?_
  calc ceilMillis target ≤ ceilMillis (9223372036854775808000 * nanosPerMilli) :=
        ceilMillis_mono (Nat.le_of_lt h)
    _ = 9223372036854775808000 := ceilMillis_mul _

/-- How many milliseconds a sleep takes that starts at a whole one. -/
def sleepMillis (d : Duration) : Nat := ceilMillis (min d.nanos longestSleep)

theorem sleepMillis_le (d : Duration) : sleepMillis d ≤ ceilMillis d.nanos := by
  rw [sleepMillis]
  exact ceilMillis_mono (Nat.min_le_left _ _)

theorem sleepMillis_of_le {d : Duration} (h : d.nanos ≤ longestSleep) :
    sleepMillis d = ceilMillis d.nanos := by
  rw [sleepMillis, Nat.min_eq_left h]

theorem sleepMillis_of_ge {d : Duration} (h : longestSleep ≤ d.nanos) :
    sleepMillis d = ceilMillis longestSleep := by
  rw [sleepMillis, Nat.min_eq_right h]

end VirtualClock

/-- A whole number of milliseconds below the horizon is representable. -/
theorem Duration.nanos_ofMillis_of_le {n : Nat} (h : n * nanosPerMilli ≤ VirtualClock.horizon) :
    (ofMillis n).nanos = n * nanosPerMilli := by
  have hlimit : VirtualClock.horizon ≤ nanosLimit := by decide
  exact Nat.min_eq_left (Nat.le_trans h hlimit)

namespace Timer

open VirtualClock

variable {s t : Timer} {n : Nat}

/-- The timer goes off at `n` nanoseconds, or never if no clock can stand there. -/
def Strikes (t : Timer) (n : Nat) : Prop :=
  match t.due? with
  | some instant => instant.nanos = n
  | none => horizon ≤ n

theorem Strikes.isDue_eq {clock : Duration} (h : t.Strikes n) (hclock : clock.nanos < horizon) :
    t.isDue clock = decide (n ≤ clock.nanos) := by
  rw [Strikes] at h
  rw [isDue]
  generalize t.due? = due at h ⊢
  rcases due with - | instant
  · exact (decide_eq_false (Nat.not_le.2 (Nat.lt_of_lt_of_le hclock h))).symm
  · rw [← h]
    rfl

/-- Of a timer that strikes and one that goes off, the first is one that goes off. -/
theorem Strikes.exists_earlier {b : Duration} (hs : s.Strikes n) (ht : t.due? = some b)
    (hb : b.nanos ≤ horizon) :
    ∃ instant, (s.earlier t).due? = some instant ∧ instant.nanos = min n b.nanos := by
  rw [Strikes] at hs
  rw [earlier]
  rw [ht]
  generalize hdue : s.due? = due at hs
  cases due with
  | none => exact ⟨b, ht, (Nat.min_eq_right (Nat.le_trans hb hs)).symm⟩
  | some a =>
    subst hs
    by_cases hlt : b < a
    · have hmin := Nat.min_eq_right (Nat.le_of_lt (Duration.lt_def.1 hlt))
      exact ⟨b, by simp only [if_pos hlt, ht], hmin.symm⟩
    · have hmin := Nat.min_eq_left (Nat.not_lt.1 hlt)
      exact ⟨a, by simp only [if_neg hlt, hdue], hmin.symm⟩

theorem strikes_timerAt (target : Nat) :
    (timerAt target).Strikes (ceilMillis target * nanosPerMilli) := by
  rw [timerAt]
  by_cases h : target < horizon
  · rw [if_pos h]
    exact Duration.nanos_ofMillis_of_le (ceilMillis_mul_le_horizon h)
  · rw [if_neg h]
    exact Nat.le_trans (Nat.not_lt.1 h) (le_ceilMillis target)

theorem isDue_timerAt_iff {target : Nat} {clock : Duration} :
    (timerAt target).isDue clock = true ↔
      target < horizon ∧ ceilMillis target * nanosPerMilli ≤ clock.nanos := by
  rw [timerAt]
  by_cases h : target < horizon
  · rw [if_pos h, isDue, decide_eq_true_eq, Duration.le_def,
      Duration.nanos_ofMillis_of_le (ceilMillis_mul_le_horizon h)]
    exact ⟨fun hle ↦ ⟨h, hle⟩, And.right⟩
  · rw [if_neg h, isDue_never]
    exact ⟨fun hdue ↦ absurd hdue Bool.false_ne_true, fun hlt ↦ absurd hlt.1 h⟩

/-- The timer for an earlier target goes off no later. -/
theorem isDue_timerAt_of_le {a b : Nat} {clock : Duration} (hab : a ≤ b)
    (h : (timerAt b).isDue clock = true) : (timerAt a).isDue clock = true := by
  obtain ⟨hlt, hle⟩ := isDue_timerAt_iff.1 h
  have hmillis : ceilMillis a * nanosPerMilli ≤ ceilMillis b * nanosPerMilli :=
    Nat.mul_le_mul_right _ (ceilMillis_mono hab)
  exact isDue_timerAt_iff.2 ⟨Nat.lt_of_le_of_lt hab hlt, Nat.le_trans hmillis hle⟩

/-- A sleep that starts at a whole millisecond ends at one. -/
theorem strikes_timerAfter {clock : Duration} (hclock : clock.nanos = n * nanosPerMilli)
    (d : Duration) : (timerAfter clock d).Strikes ((n + sleepMillis d) * nanosPerMilli) := by
  have h := strikes_timerAt (clock.nanos + min d.nanos longestSleep)
  rw [hclock, ceilMillis_add] at h
  rw [timerAfter, sleepMillis]
  rwa [hclock]

/-! ### Timers from below -/

/-- The timer does not go off before `n` nanoseconds. -/
def NotBefore (t : Timer) (n : Nat) : Prop := ∀ clock, t.isDue clock = true → n ≤ clock.nanos

theorem notBefore_timerAt (target : Nat) :
    (timerAt target).NotBefore (ceilMillis target * nanosPerMilli) :=
  fun _ hdue ↦ (isDue_timerAt_iff.1 hdue).2

/-- A sleep that starts in some millisecond ends in a later one, unless it is no sleep at all. -/
theorem notBefore_timerAfter {clock d : Duration} (hclock : n * nanosPerMilli ≤ clock.nanos) :
    (timerAfter clock d).NotBefore ((if d.nanos = 0 then n else n + 1) * nanosPerMilli) := by
  have hlongest : 0 < longestSleep := by decide
  have htarget : clock.nanos + min d.nanos longestSleep =
      n * nanosPerMilli + (clock.nanos - n * nanosPerMilli + min d.nanos longestSleep) := by
    omega
  have hceil : (if d.nanos = 0 then n else n + 1) ≤
      ceilMillis (clock.nanos + min d.nanos longestSleep) := by
    rw [htarget, ceilMillis_add]
    by_cases hzero : d.nanos = 0
    · rw [if_pos hzero]
      exact Nat.le_add_right _ _
    · rw [if_neg hzero]
      exact Nat.add_le_add_left (ceilMillis_pos (by omega)) n
  intro due hdue
  exact Nat.le_trans (Nat.mul_le_mul_right _ hceil) (notBefore_timerAt _ due hdue)

/-- A sleep lasts as long as it was asked to, or as long as a sleep can. -/
theorem le_of_isDue_timerAfter {clock d due : Duration}
    (h : (timerAfter clock d).isDue due = true) :
    clock.nanos + min d.nanos longestSleep ≤ due.nanos :=
  Nat.le_trans (le_ceilMillis _) (isDue_timerAt_iff.1 h).2

/-- The first of two timers has gone off exactly if one of them has. -/
theorem isDue_earlier (clock : Duration) :
    (s.earlier t).isDue clock = (s.isDue clock || t.isDue clock) := by
  rw [earlier]
  rcases s with ⟨- | a⟩
  · rfl
  rcases t with ⟨- | b⟩
  · exact (Bool.or_false _).symm
  by_cases hlt : b < a
  · have himp : a ≤ clock → b ≤ clock := Nat.le_trans (Nat.le_of_lt (Duration.lt_def.1 hlt))
    simp only [if_pos hlt, isDue]
    by_cases hb : b ≤ clock
    · simp [hb]
    · simp [hb, mt himp hb]
  · have himp : b ≤ clock → a ≤ clock := Nat.le_trans (Nat.not_lt.1 hlt)
    simp only [if_neg hlt, isDue]
    by_cases ha : a ≤ clock
    · simp [ha]
    · simp [ha, mt himp ha]

/-- The first of two timers goes off no later than the second of them. -/
theorem exists_earlier_le {b : Duration} (ht : t.due? = some b) :
    ∃ instant, (s.earlier t).due? = some instant ∧ instant ≤ b := by
  rcases s with ⟨- | a⟩
  · exact ⟨b, ht, Nat.le_refl _⟩
  rcases t with ⟨- | b'⟩
  · cases ht
  obtain rfl := Option.some.inj ht
  rw [earlier]
  by_cases hlt : b' < a
  · exact ⟨b', by simp only [if_pos hlt], Nat.le_refl _⟩
  · exact ⟨a, by simp only [if_neg hlt], Nat.not_lt.1 hlt⟩

end Timer

end PollAssert
