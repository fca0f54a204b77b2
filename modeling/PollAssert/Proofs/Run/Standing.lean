import PollAssert.Proofs.Run.Course

/-!
# Telling the end of a run from its transcript

The rules of the modes keep a counter and look at one sample at a time. The semantics of a mode is
stated otherwise: in terms of all the samples so far. `Plan.Judges count cause?` says that the two
agree: the counter is `count` of the samples so far, and the last of them ends the run for the cause
`cause?` of them.

If so, `Course.standing` tells how a run stands from its transcript, by induction on the course, and
`Standing.endsAtFirst` puts it in the form in which the semantics of a mode is stated: **the run is
over at the first sample that has a cause**, in the samples so far or in what ended the wait after
it.
-/

namespace PollAssert

variable {σ α : Type}

/-- Only a tick lets a run go on. -/
theorem Mode.causeOfWake?_eq_none_iff {mode : Mode} {wake : Wake} :
    mode.causeOfWake? wake = none ↔ wake = .tick := by
  cases mode <;> cases wake <;> simp [Mode.causeOfWake?]

/-- The mode's counter and its rulings can be told from the samples so far: the counter as `count`
of them, and the cause for which the last of them ends the run as `cause?`. -/
structure Plan.Judges (p : Plan σ α) (count : List (Observation α) → Nat)
    (cause? : List (Observation α) → Option Cause) : Prop where
  count_nil : count [] = 0
  rule_concat : ∀ os o, o.Fits p.source →
    p.mode.rule p.repeats (count os) (o.reading p.desired) = match cause? (os ++ [o]) with
    | some cause => .over cause
    | none => .goOn (count (os ++ [o]))

namespace Run

variable {between : Turn σ α → World σ → World σ → Prop} {p : Plan σ α} {started : Duration}
  {w₀ w : World σ} {h : List (Event α)} {turn : Turn σ α}
  {count : List (Observation α) → Nat} {cause? : List (Observation α) → Option Cause}

/-- None of the first `n` samples ends the run. -/
def Transcript.OpenFor (cause? : List (Observation α) → Option Cause) (t : Transcript α) (n : Nat) :
    Prop := ∀ i < n, cause? (t.samples.take (i + 1)) = none

/-- How a run stands, told from its transcript. The wait after every sample but the last ended with
a tick. -/
inductive Standing (p : Plan σ α) (count : List (Observation α) → Nat)
    (cause? : List (Observation α) → Option Cause) (t : Transcript α) : Turn σ α → Prop
  /-- It is about to sample. -/
  | sampling {r : Run σ α} (hphase : r.phase = .sampling)
      (hopen : t.OpenFor cause? t.samples.length)
      (hwakes : t.wakes = .replicate t.samples.length .tick)
      (hpasses : r.passes = count t.samples) : Standing p count cause? t (.ready r)
  /-- It waits after a sample. -/
  | waiting {turn : Turn σ α} {r : Run σ α} {tick : Timer} {deadline : Option Timer} {n : Nat}
      (hrun : turn.run? = some r) (hphase : r.phase = .waiting tick deadline)
      (hlength : t.samples.length = n + 1) (hopen : t.OpenFor cause? (n + 1))
      (hwakes : t.wakes = .replicate n .tick) (hpasses : r.passes = count t.samples) :
      Standing p count cause? t turn
  /-- A sample has ended it. -/
  | decided {r : Run σ α} {cause : Cause} {elapsed : Duration} {n : Nat}
      (hlength : t.samples.length = n + 1) (hopen : t.OpenFor cause? n)
      (hwakes : t.wakes = .replicate n .tick) (hcause : cause? t.samples = some cause) :
      Standing p count cause? t (.over r (cause.ending? elapsed))
  /-- What ended a wait has ended it. -/
  | woken {r : Run σ α} {wake : Wake} {cause : Cause} {elapsed : Duration} {n : Nat}
      (hlength : t.samples.length = n + 1) (hopen : t.OpenFor cause? (n + 1))
      (hwakes : t.wakes = .replicate n .tick ++ [wake])
      (hcause : p.mode.causeOfWake? wake = some cause) :
      Standing p count cause? t (.over r (cause.ending? elapsed))

theorem Transcript.OpenFor.concat {t : Transcript α} {wakes : List Wake} {o : Observation α}
    (ht : t.OpenFor cause? t.samples.length) :
    Transcript.OpenFor cause? ⟨t.samples ++ [o], wakes⟩ t.samples.length := by
  intro i hi
  show cause? ((t.samples ++ [o]).take (i + 1)) = none
  rw [List.take_append_of_le_length hi]
  exact ht i hi

theorem Transcript.OpenFor.succ {t : Transcript α} {n : Nat} (ht : t.OpenFor cause? n)
    (hn : cause? (t.samples.take (n + 1)) = none) : t.OpenFor cause? (n + 1) := by
  intro i hi
  rcases Nat.lt_succ_iff_lt_or_eq.1 hi with hlt | rfl
  · exact ht i hlt
  · exact hn

namespace Standing

variable {t : Transcript α} {r : Run σ α} {u v : World σ} {turn' : Turn σ α}

/-- Where a run stands after a sample, told from the samples. -/
theorem turn_of_sampled {o : Observation α} (hp : p.Judges count cause?)
    (hs : Standing p count cause? t turn) (hrun : turn.run? = some r) (hplan : r.plan = p)
    (hsteps : r.Steps u (.sampled o) turn' v) :
    ∃ capturedAt, match cause? (t.samples ++ [o]) with
      | some cause => ∃ elapsed,
        turn' = .over (r.publish o.sample capturedAt) (cause.ending? elapsed)
      | none => ∃ tick, turn' = .ready { r.publish o.sample capturedAt with
          passes := count (t.samples ++ [o])
          requestedDelay := none
          phase := .waiting tick none } := by
  obtain ⟨hphase, capturedAt, hturn⟩ := hsteps.turn_of_sampled
  have hpasses : r.passes = count t.samples := by
    cases hs with
    | decided | woken => cases hrun
    | sampling _ _ _ hpasses | waiting hrun' _ _ _ _ hpasses =>
      first
      | obtain rfl := Option.some.inj hrun; exact hpasses
      | obtain rfl := Option.some.inj (hrun.symm.trans hrun'); exact hpasses
  refine ⟨capturedAt, ?_⟩
  rw [hplan, hpasses, hp.rule_concat t.samples o (hplan ▸ hsteps.fits.1)] at hturn
  cases hcause : cause? (t.samples ++ [o]) with
  | none =>
    rw [hcause] at hturn
    exact hturn
  | some cause =>
    rw [hcause] at hturn
    exact hturn

/-- The standing after a sample. -/
theorem of_sampled {o : Observation α} (hp : p.Judges count cause?)
    (hs : Standing p count cause? t turn) (hrun : turn.run? = some r) (hplan : r.plan = p)
    (hsteps : r.Steps u (.sampled o) turn' v) :
    Standing p count cause? ⟨t.samples ++ [o], t.wakes⟩ turn' := by
  obtain ⟨capturedAt, hturn⟩ := hs.turn_of_sampled hp hrun hplan hsteps
  cases hs with
  | decided | woken => cases hrun
  | waiting hrun' hphase' =>
    obtain rfl := Option.some.inj (hrun.symm.trans hrun')
    rw [hsteps.goBy_eq.1] at hphase'
    cases hphase'
  | sampling _ hopen hwakes =>
    -- the sample is the last one, so its cause is that of all the samples
    have htake : (t.samples ++ [o]).take (t.samples.length + 1) = t.samples ++ [o] :=
      List.take_of_length_le (by simp)
    rcases hcause : cause? (t.samples ++ [o]) with - | cause
    · rw [hcause] at hturn
      obtain ⟨tick, rfl⟩ := hturn
      refine .waiting rfl rfl (by simp) (hopen.concat.succ ?_) hwakes rfl
      show cause? ((t.samples ++ [o]).take (t.samples.length + 1)) = none
      rw [htake, hcause]
    · rw [hcause] at hturn
      obtain ⟨elapsed, rfl⟩ := hturn
      exact .decided (by simp) hopen.concat hwakes hcause

/-- The standing after a look. -/
theorem of_looked {wake : Option Wake} (hs : Standing p count cause? t turn)
    (hrun : turn.run? = some r) (hplan : r.plan = p) (hsteps : r.Steps u (.looked wake) turn' v) :
    Standing p count cause? ⟨t.samples, t.wakes ++ wake.toList⟩ turn' := by
  cases hs with
  | decided | woken => cases hrun
  | sampling hphase =>
    obtain rfl := Option.some.inj hrun
    obtain ⟨tick, deadline, -, -, hphase', -⟩ := hsteps.heed_eq
    rw [hphase] at hphase'
    cases hphase'
  | @waiting _ _ _ _ n hrun' _ hlength hopen hwakes hpasses =>
    obtain rfl := Option.some.inj (hrun.symm.trans hrun')
    cases wake with
    | none =>
      obtain ⟨tick, found, rfl⟩ := hsteps.turn_of_looked_none
      rw [Option.toList_none, List.append_nil]
      exact .waiting rfl rfl hlength hopen hwakes hpasses
    | some wake =>
      have hturn := hsteps.turn_of_looked_some
      rw [Option.toList_some]
      rcases hcause : r.plan.mode.causeOfWake? wake with - | cause
      · rw [hcause] at hturn
        obtain rfl := hturn
        obtain rfl := Mode.causeOfWake?_eq_none_iff.1 hcause
        refine .sampling rfl (hlength ▸ hopen) ?_ hpasses
        rw [hwakes, hlength, List.replicate_succ']
      · rw [hcause] at hturn
        obtain ⟨elapsed, rfl⟩ := hturn
        exact .woken hlength hopen (by rw [hwakes]) (hplan ▸ hcause)

end Standing

/-- **A run stands as its transcript tells**, whatever happens between its steps. -/
theorem Course.standing (hp : p.Judges count cause?)
    (hc : Course between (.start p started) w₀ h turn w) :
    Standing p count cause? (transcript h) turn := by
  induction hc with
  | start => exact .sampling rfl (fun i hi ↦ absurd hi (Nat.not_lt_zero i)) rfl hp.count_nil.symm
  | @step h turn turn' r w u v e hc hrun hbetween hsteps ih =>
    have hplan : r.plan = p := hc.plan_eq hrun
    cases e with
    | sampled o =>
      rw [transcript_concat_sampled]
      exact ih.of_sampled hp hrun hplan hsteps
    | looked wake =>
      rw [transcript_concat_looked]
      exact ih.of_looked hrun hplan hsteps

/-! ### The first sample that has a cause -/

/-- Why the run is over at sample `i`, counted from zero, if it is: for what the samples up to it
say, or for what ended the wait after it. -/
def Transcript.causeAt (cause? : List (Observation α) → Option Cause)
    (ofWake : Wake → Option Cause) (t : Transcript α) (i : Nat) : Option Cause :=
  if i < t.samples.length then
    (cause? (t.samples.take (i + 1))).or (t.wakes[i]?.bind ofWake)
  else none

/-- The run is over at the first sample that has a cause, and goes on as long as there is none. -/
def EndsAtFirst (cause : Nat → Option Cause) (t : Transcript α) : Turn σ α → Prop
  | .over _ ending => ∃ n c elapsed, t.samples.length = n + 1 ∧ (∀ i < n, cause i = none) ∧
      cause n = some c ∧ ending = c.ending? elapsed
  | _ => ∀ i, cause i = none

theorem Transcript.causeAt_eq_none {ofWake : Wake → Option Cause} {t : Transcript α} {n i : Nat}
    (ht : t.OpenFor cause? n) (hi : i < n) (hwake : t.wakes[i]?.bind ofWake = none) :
    t.causeAt cause? ofWake i = none := by
  rw [causeAt]
  rw [ht i hi, Option.none_or, hwake, ite_self]

theorem Standing.endsAtFirst {t : Transcript α} (hs : Standing p count cause? t turn) :
    EndsAtFirst (t.causeAt cause? p.mode.causeOfWake?) t turn := by
  -- the waits that are over ended with a tick, which is no cause, but for the last one at most
  have htick : ∀ n i : Nat, (List.replicate n Wake.tick)[i]?.bind p.mode.causeOfWake? = none := by
    intro n i
    rw [List.getElem?_replicate]
    split
    · show p.mode.causeOfWake? .tick = none
      rw [Mode.causeOfWake?_eq_none_iff]
    · rfl
  have hfar : ∀ i, ¬ i < t.samples.length → t.causeAt cause? p.mode.causeOfWake? i = none :=
    fun i hi ↦ if_neg hi
  cases hs with
  | sampling _ hopen hwakes =>
    intro i
    by_cases hi : i < t.samples.length
    · exact t.causeAt_eq_none hopen hi (hwakes ▸ htick _ i)
    · exact hfar i hi
  | @waiting _ r _ _ n hrun _ hlength hopen hwakes =>
    have hnone : ∀ i, t.causeAt cause? p.mode.causeOfWake? i = none := by
      intro i
      by_cases hi : i < t.samples.length
      · exact t.causeAt_eq_none (hlength ▸ hopen) hi (hwakes ▸ htick _ i)
      · exact hfar i hi
    rcases turn with r' | r' | ⟨r', ending⟩
    · exact hnone
    · exact hnone
    · cases hrun
  | @decided r cause elapsed n hlength hopen hwakes hcause =>
    refine ⟨n, cause, elapsed, hlength, ?_, ?_, rfl⟩
    · intro i hi
      exact t.causeAt_eq_none hopen hi (hwakes ▸ htick _ i)
    · rw [Transcript.causeAt]
      rw [if_pos (by omega), List.take_of_length_le (by omega), hcause, Option.some_or]
  | @woken r wake cause elapsed n hlength hopen hwakes hcause =>
    refine ⟨n, cause, elapsed, hlength, ?_, ?_, rfl⟩
    · intro i hi
      refine t.causeAt_eq_none hopen (by omega) ?_
      rw [hwakes, List.getElem?_append_left (by simpa using hi)]
      exact htick n i
    · rw [Transcript.causeAt]
      rw [if_pos (by omega), hopen n (by omega), Option.none_or, hwakes,
        List.getElem?_append_right (by simp)]
      simpa using hcause

/-- None of the samples ends a run. -/
def Undecided (cause? : List (Observation α) → Option Cause) (os : List (Observation α)) : Prop :=
  ∀ before o, before ++ [o] <+: os → cause? (before ++ [o]) = none

theorem Transcript.OpenFor.undecided {t : Transcript α} {n : Nat} (ht : t.OpenFor cause? n) :
    Undecided cause? (t.samples.take n) := by
  intro before o hfirst
  have hlt : before.length < n := by
    have hle := hfirst.length_le
    rw [List.length_append, List.length_take, List.length_singleton] at hle
    omega
  have htake := List.prefix_iff_eq_take.1 (hfirst.trans (List.take_prefix n t.samples))
  rw [List.length_append, List.length_singleton] at htake
  rw [htake]
  exact ht before.length hlt

/-- No sample has ended a run that goes on. -/
theorem Standing.undecided {t : Transcript α} {r : Run σ α} (hs : Standing p count cause? t turn)
    (hrun : turn.run? = some r) : Undecided cause? t.samples := by
  cases hs with
  | decided | woken => cases hrun
  | sampling _ hopen =>
    have hall := hopen.undecided
    rwa [List.take_length] at hall
  | waiting _ _ hlength hopen =>
    have hall := hopen.undecided
    rwa [← hlength, List.take_length] at hall

/-- Why a run is over: for what its samples say, or else for what ended the wait after the last. -/
theorem Standing.exists_cause {t : Transcript α} {r : Run σ α} {ending : Option Ending}
    (hs : Standing p count cause? t (.over r ending)) :
    ∃ cause elapsed, ending = cause.ending? elapsed ∧ (cause? t.samples = some cause ∨
      cause? t.samples = none ∧ ∃ wake, t.wakes.getLast? = some wake ∧
        p.mode.causeOfWake? wake = some cause) := by
  generalize hturn : Turn.over r ending = turn at hs
  cases hs with
  | sampling => cases hturn
  | waiting hrun =>
    subst hturn
    cases hrun
  | decided _ _ _ hcause => exact ⟨_, _, (Turn.over.inj hturn).2, .inl hcause⟩
  | @woken _ wake _ _ n hlength hopen hwakes hcause =>
    have hnone : cause? t.samples = none := by
      have hn := hopen n (Nat.lt_succ_self n)
      rwa [List.take_of_length_le (Nat.le_of_eq hlength)] at hn
    have hwake : t.wakes.getLast? = some wake := by rw [hwakes, List.getLast?_concat]
    exact ⟨_, _, (Turn.over.inj hturn).2, .inr ⟨hnone, wake, hwake, hcause⟩⟩

/-- A run that is over has taken a last sample, and none of those before has ended it. -/
theorem Standing.exists_concat {t : Transcript α} {r : Run σ α} {ending : Option Ending}
    (hs : Standing p count cause? t (.over r ending)) :
    ∃ before last, t.samples = before ++ [last] ∧ Undecided cause? before := by
  have hsplit : ∀ n : Nat, t.samples.length = n + 1 → t.OpenFor cause? n →
      ∃ before last, t.samples = before ++ [last] ∧ Undecided cause? before := by
    intro n hlength hopen
    have hn : n < t.samples.length := by omega
    refine ⟨t.samples.take n, t.samples[n], ?_, hopen.undecided⟩
    rw [← List.take_succ_eq_append_getElem hn, ← hlength, List.take_length]
  generalize hturn : Turn.over r ending = turn at hs
  cases hs with
  | sampling => cases hturn
  | waiting hrun =>
    subst hturn
    cases hrun
  | @decided _ _ _ n hlength hopen => exact hsplit n hlength hopen
  | @woken _ _ _ _ n hlength hopen =>
    exact hsplit n hlength fun i hi ↦ hopen i (Nat.lt_succ_of_lt hi)

/-- A run that is over has taken a sample. -/
theorem Standing.exists_getLast? {t : Transcript α} {r : Run σ α} {ending : Option Ending}
    (hs : Standing p count cause? t (.over r ending)) : ∃ last, t.samples.getLast? = some last := by
  obtain ⟨before, last, hsamples, -⟩ := hs.exists_concat
  exact ⟨last, hsamples ▸ List.getLast?_concat⟩

end Run

end PollAssert
