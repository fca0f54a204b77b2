import PollAssert.Proofs.Run.OnTime
import Mathlib.Order.WellFounded

/-!
# Runs in a tide

What other tasks do to a run is often fixed beforehand: at these instants the token is cancelled, at
those a counter moves. A `Tide` says what happens to the user's state at each instant of the clock.
On the virtual clock this leaves nothing open (`OnTide`): the clock stands still while the run can
go on, and when it waits the clock jumps to the first instant at which something is due, the tide's
part coming first.

So **a run in a tide has a single history**: of two courses one goes on where the other stops
(`Onward.comparable`), and two courses that end are the same (`Course.eq_of_over`). Statements that
compare the runs of two assertions become statements about two histories.
-/

namespace PollAssert

variable {σ α : Type}

/-! ### The step with its event -/

namespace Run

variable {r : Run σ α} {w v v' : World σ} {e e' : Event α} {turn turn' : Turn σ α}

/-- A step of the run, with what happens on it. -/
def traced (r : Run σ α) : Engine σ (Event α × Turn σ α) :=
  match r.phase with
  | .sampling => r.observe >>= fun o ↦ (.sampled o, ·) <$> r.goBy o
  | .waiting tick deadline => r.look tick deadline >>= fun looked ↦
    (.looked looked.1, ·) <$> r.heed tick looked.1 looked.2

theorem traced_of_sampling (h : r.phase = .sampling) :
    r.traced = r.observe >>= fun o ↦ (.sampled o, ·) <$> r.goBy o := by
  rw [traced, h]

theorem traced_of_waiting {tick : Timer} {deadline : Option Timer}
    (h : r.phase = .waiting tick deadline) :
    r.traced = r.look tick deadline >>= fun looked ↦
      (.looked looked.1, ·) <$> r.heed tick looked.1 looked.2 := by
  rw [traced, h]

/-- **A step and its event are determined** by the run and the world. -/
theorem steps_iff_traced : r.Steps w e turn v ↔ r.traced w = (.ok (e, turn), v) := by
  constructor
  · intro h
    rcases e with o | wake
    · obtain ⟨hphase, u, ho, hgo⟩ := h.goBy_eq
      rw [traced_of_sampling hphase, Effect.bind_of_ok ho]
      exact Effect.map_eq_ok_iff.2 ⟨turn, hgo, rfl⟩
    · obtain ⟨tick, deadline, found, u, hphase, hlook, hheed⟩ := h.heed_eq
      rw [traced_of_waiting hphase, Effect.bind_of_ok hlook]
      exact Effect.map_eq_ok_iff.2 ⟨turn, hheed, rfl⟩
  · intro h
    rcases hphase : r.phase with - | ⟨tick, deadline⟩
    · rw [traced_of_sampling hphase] at h
      obtain ⟨o, u, ho, hrest⟩ := Effect.bind_eq_ok_iff.1 h
      obtain ⟨turn', hgo, hpair⟩ := Effect.map_eq_ok_iff.1 hrest
      obtain ⟨rfl, rfl⟩ := Prod.mk.inj hpair
      have hstep : r.step w = (.ok turn', v) := by
        rw [step_of_sampling hphase, Effect.bind_of_ok ho, hgo]
      exact .sampled hphase ho hstep
    · rw [traced_of_waiting hphase] at h
      obtain ⟨⟨wake, found⟩, u, hlook, hrest⟩ := Effect.bind_eq_ok_iff.1 h
      obtain ⟨turn', hheed, hpair⟩ := Effect.map_eq_ok_iff.1 hrest
      obtain ⟨rfl, rfl⟩ := Prod.mk.inj hpair
      have hstep : r.step w = (.ok turn', v) := by
        rw [step_of_waiting hphase, waitStep_eq, Effect.bind_of_ok hlook, hheed]
      exact .looked hphase hlook hstep

theorem Steps.unique (h : r.Steps w e turn v) (h' : r.Steps w e' turn' v') :
    e = e' ∧ turn = turn' ∧ v = v' := by
  obtain ⟨hpair, rfl⟩ := Prod.mk.inj ((steps_iff_traced.1 h).symm.trans (steps_iff_traced.1 h'))
  obtain ⟨rfl, rfl⟩ := Prod.mk.inj (Except.ok.inj hpair)
  exact ⟨rfl, rfl, rfl⟩

end Run

/-! ### Tides -/

/-- What happens at each instant of the clock, apart from the run: nothing, or a change of the
user's state. -/
def Tide (σ : Type) : Type := Duration → Option (σ → σ)

namespace Tide

variable {tide : Tide σ} {timer timer' : Timer} {now instant instant' : Duration}

/-- There is something to do at the instant: for the tide, or for who waits for the timer. -/
def IsDue (tide : Tide σ) (timer : Timer) (instant : Duration) : Prop :=
  (tide instant).isSome = true ∨ timer.isDue instant = true

/-- This is the first instant from now on at which there is something to do. -/
structure IsNext (tide : Tide σ) (timer : Timer) (now instant : Duration) : Prop where
  lt : now < instant
  isDue : tide.IsDue timer instant
  le : ∀ t, now < t → tide.IsDue timer t → instant ≤ t

theorem IsNext.unique (h : tide.IsNext timer now instant) (h' : tide.IsNext timer now instant') :
    instant = instant' :=
  Duration.ext (Nat.le_antisymm (h.le _ h'.lt h'.isDue) (h'.le _ h.lt h.isDue))

/-- If there will be something to do, there is a first instant at which there is. -/
theorem exists_isNext (hlt : now < instant) (hdue : tide.IsDue timer instant) :
    ∃ first, first ≤ instant ∧ tide.IsNext timer now first := by
  obtain ⟨first, ⟨hfirst, hfirstDue⟩, hmin⟩ := (measure Duration.nanos).wf.has_min
    {t | now < t ∧ tide.IsDue timer t} ⟨instant, hlt, hdue⟩
  have hle : ∀ t, now < t → tide.IsDue timer t → first ≤ t :=
    fun t ht htDue ↦ Nat.not_lt.1 (hmin t ⟨ht, htDue⟩)
  exact ⟨first, hle instant hlt hdue, hfirst, hfirstDue, hle⟩

/-- A timer that goes off no earlier does not put off what is due. -/
theorem IsNext.of_le (h : tide.IsNext timer now instant)
    (hle : ∀ t, now < t → t ≤ instant → timer'.isDue t = true → timer.isDue t = true)
    (hdue : tide.IsDue timer' instant) : tide.IsNext timer' now instant := by
  refine ⟨h.lt, hdue, fun t ht htDue ↦ ?_⟩
  by_cases hlate : instant ≤ t
  · exact hlate
  · exact h.le t ht (htDue.imp_right (hle t ht (Nat.le_of_not_le hlate)))

/-- What is due for the first of two timers is due for the first of others, unless it was the second
one that has gone off. -/
theorem IsDue.of_earlier {tick : Timer} (h : tide.IsDue (tick.earlier timer) instant)
    (hnot : timer.isDue instant = false) : tide.IsDue (tick.earlier timer') instant := by
  rcases h with htide | hdue
  · exact .inl htide
  · rw [Timer.isDue_earlier, hnot, Bool.or_false] at hdue
    exact .inr (by rw [Timer.isDue_earlier, hdue, Bool.true_or])

/-- The world when the clock has come to the instant and the tide has done its part. -/
def carry (tide : Tide σ) (w : World σ) (instant : Duration) : World σ :=
  { w with clock := instant, user := (tide instant).elim w.user (· w.user) }

/-- Where the tide has no part the user's state is left alone. -/
theorem user_carry_of_eq_none (w : World σ) (h : tide instant = none) :
    (tide.carry w instant).user = w.user := by
  rw [carry, h]
  rfl

/-- Nothing happens apart from the run. -/
def still : Tide σ := fun _ ↦ none

/-- In still water a timer is all there is to wait for. -/
theorem isNext_still (hdue : timer.due? = some instant) (hlt : now < instant) :
    (still : Tide σ).IsNext timer now instant where
  lt := hlt
  isDue := by
    refine .inr ?_
    rw [Timer.isDue, hdue]
    exact decide_eq_true (Nat.le_refl _)
  le t _ ht := by
    have hdue' := ht.resolve_left Bool.false_ne_true
    rw [Timer.isDue, hdue] at hdue'
    exact of_decide_eq_true hdue'

end Tide

namespace Run

/-- Between two steps the clock stands still while the run can go on, and jumps to the first instant
at which there is something to do when it waits. -/
inductive OnTide (tide : Tide σ) : Turn σ α → World σ → World σ → Prop
  | ready {r : Run σ α} {w : World σ} : OnTide tide (.ready r) w w
  | pending {r : Run σ α} {w : World σ} {instant : Duration}
      (hnext : tide.IsNext r.nextTimer w.clock instant) :
      OnTide tide (.pending r) w (tide.carry w instant)

/-- A tide leaves nothing open. -/
theorem onTide_unique (tide : Tide σ) (turn : Turn σ α) (w u u' : World σ)
    (h : OnTide tide turn w u) (h' : OnTide tide turn w u') : u = u' := by
  rcases h with - | hnext
  · cases h'
    rfl
  · cases h' with
    | pending hnext' => rw [hnext.unique hnext']

/-- Between two steps the clock does not go back. -/
theorem OnTide.clock_le {tide : Tide σ} {turn : Turn σ α} {w u : World σ}
    (h : OnTide tide turn w u) : w.clock ≤ u.clock := by
  cases h with
  | ready => exact Nat.le_refl _
  | pending hnext => exact Nat.le_of_lt hnext.lt

/-! ### A single history -/

variable {between : Turn σ α → World σ → World σ → Prop} {r₀ r r' : Run σ α}
  {w₀ w w' z z' : World σ} {h h' : List (Event α)} {turn last last' : Turn σ α}
  {ending ending' : Option Ending}

/-- **Of two histories one goes on where the other stops**, if nothing is left open between two
steps. -/
theorem Onward.comparable
    (hunique : ∀ turn w u u', between turn w u → between turn w u' → u = u')
    (ho : Onward between turn w h last z) (ho' : Onward between turn w h' last' z') :
    (∃ rest, h' = h ++ rest ∧ Onward between last z rest last' z') ∨
      ∃ rest, h = h' ++ rest ∧ Onward between last' z' rest last z := by
  induction ho generalizing h' with
  | refl => exact .inl ⟨h', rfl, ho'⟩
  | @step _ _ _ r w u v z e h hrun hbetween hsteps hrest ih =>
    rcases ho' with - | ⟨hrun', hbetween', hsteps', hrest'⟩
    · exact .inr ⟨e :: h, rfl, .step hrun hbetween hsteps hrest⟩
    obtain rfl := Option.some.inj (hrun.symm.trans hrun')
    obtain rfl := hunique _ _ _ _ hbetween hbetween'
    obtain ⟨rfl, rfl, rfl⟩ := hsteps.unique hsteps'
    obtain ⟨rest, rfl, ho⟩ | ⟨rest, rfl, ho⟩ := ih hrest'
    · exact .inl ⟨rest, rfl, ho⟩
    · exact .inr ⟨rest, rfl, ho⟩

section Unique

variable (hunique : ∀ turn w u u', between turn w u → between turn w u' → u = u')

include hunique

/-- A run that has come to its end has no other history than the ones that lead there. -/
theorem Course.prefix_of_over (hc : Course between r₀ w₀ h turn w)
    (hc' : Course between r₀ w₀ h' (.over r' ending') w') : h <+: h' := by
  obtain ⟨rest, rfl, -⟩ | ⟨rest, rfl, ho⟩ := hc.onward.comparable hunique hc'.onward
  · exact List.prefix_append h rest
  · obtain rfl := ho.eq_nil_of_over
    exact ⟨[], by rw [List.append_nil, List.append_nil]⟩

/-- **A run in such surroundings has one end at most.** -/
theorem Course.eq_of_over (hc : Course between r₀ w₀ h (.over r ending) w)
    (hc' : Course between r₀ w₀ h' (.over r' ending') w') :
    h' = h ∧ r' = r ∧ ending' = ending ∧ w' = w := by
  have hend : ∀ {h : List (Event α)} {r r' : Run σ α} {ending ending' : Option Ending}
      {w w' : World σ}, Onward between (.over r ending) w h (.over r' ending') w' →
        h = [] ∧ r' = r ∧ ending' = ending ∧ w' = w := by
    intro h r r' ending ending' w w' ho
    rcases ho with - | hrun
    · exact ⟨rfl, rfl, rfl, rfl⟩
    · cases hrun
  obtain ⟨rest, rfl, ho⟩ | ⟨rest, rfl, ho⟩ := hc.onward.comparable hunique hc'.onward
  · obtain ⟨rfl, rfl, rfl, rfl⟩ := hend ho
    exact ⟨List.append_nil h, rfl, rfl, rfl⟩
  · obtain ⟨rfl, rfl, rfl, rfl⟩ := hend ho
    exact ⟨(List.append_nil h').symm, rfl, rfl, rfl⟩

end Unique

end Run

end PollAssert
