import PollAssert.Matcher.Values
import PollAssert.Proofs.Run.Semantics

/-!
# Whom the report of a failed run blames

The report of a failed run explains its **latest sample**, whatever it was that ended the run. If
that sample is a verdict, the explanation is the matcher's own text for a failed assertion. It is
right to give this text if the sample did not pass. In two situations the latest sample passed, and
then the text explains a mismatch that there was not:

* the token was cancelled in the wait after the sample;
* an `eventually` ran out of time while it was counting passing samples, with too few of them.

There are no other such situations: a passing sample that has a cause of its own to end the run
makes it hold.
-/

namespace PollAssert

variable {σ α : Type}

/-- A passing sample that does not end an `eventually` is one of those that are counted, and there
are too few of them. -/
theorem Plan.passesSinceFailure_of_cause? {p : Plan σ α} {os : List (Observation α)}
    {o : Observation α} (hmode : p.mode = .eventually) (hlast : os.getLast? = some o)
    (hpassed : o.sample.passed p.desired = true) (hcause : p.cause? os = none) :
    0 < passesSinceFailure p.desired os ∧ passesSinceFailure p.desired os < p.repeats := by
  constructor
  · obtain ⟨before, rfl⟩ := List.getLast?_eq_some_iff.1 hlast
    rw [passesSinceFailure_concat, Sample.isOrdinaryFailure, hpassed]
    exact Nat.succ_pos _
  · by_contra hle
    rw [cause?, hmode] at hcause
    dsimp only at hcause
    rw [eventuallyCause?, hlast, Option.bind_some, if_pos ⟨hpassed, Nat.le_of_not_lt hle⟩] at hcause
    cases hcause

namespace Run

variable {between : Turn σ α → World σ → World σ → Prop} {p : Plan σ α} {started : Duration}
  {w₀ w u v : World σ} {h : List (Event α)} {turn : Turn σ α} {r r₀ : Run σ α}

/-- A step replaces the latest sample or keeps it. -/
theorem Steps.latest_eq {e : Event α} (h : r.Steps u e turn v) :
    turn.run.latest.map Published.sample = match e with
      | .sampled o => some o.sample
      | .looked _ => r.latest.map Published.sample := by
  cases e with
  | sampled o =>
    obtain ⟨-, capturedAt, hturn⟩ := h.turn_of_sampled
    split at hturn
    · obtain ⟨elapsed, rfl⟩ := hturn
      rfl
    · obtain ⟨tick, rfl⟩ := hturn
      rfl
  | looked wake =>
    cases wake with
    | none =>
      obtain ⟨tick, found, rfl⟩ := h.turn_of_looked_none
      rfl
    | some wake =>
      have hturn := h.turn_of_looked_some
      split at hturn
      · obtain ⟨elapsed, rfl⟩ := hturn
        rfl
      · subst hturn
        rfl

/-- **What a run reports on is the last sample that it took.** -/
theorem Course.latest_eq (hc : Course between (.start p started) w₀ h turn w) :
    turn.run.latest.map Published.sample =
      (transcript h).samples.getLast?.map Observation.sample := by
  induction hc with
  | start => rfl
  | @step h turn turn' r w u v e hc hrun hbetween hsteps ih =>
    rw [hsteps.latest_eq]
    cases e with
    | sampled o => rw [transcript_concat_sampled, List.getLast?_concat, Option.map_some]
    | looked wake => rw [transcript_concat_looked, ← ih, Turn.run_of_run? hrun]

/-- The failure message explains the latest sample. -/
theorem failureMessage_eq {s : Sample α} (hlatest : r.latest.map Published.sample = some s)
    (ending : Ending) :
    r.failureMessage ending =
      s.detail r.plan.mode r.plan.desired r.plan.matcher >>=
        r.plan.description.compose ending.text := by
  obtain ⟨latest, hsome, rfl⟩ := Option.map_eq_some_iff.1 hlatest
  rw [failureMessage, detail, hsome]

/-- How a run failed whose latest sample passed: it was cancelled, or it is an `eventually` that ran
out of time with too few passing samples. -/
theorem Standing.of_passed {t : Transcript α} {ending : Ending} {o : Observation α}
    (hs : Standing p p.count p.cause? t (.over r (some ending)))
    (hlast : t.samples.getLast? = some o) (hpassed : o.sample.passed p.desired = true) :
    (t.wakes.getLast? = some .cancelled ∧ ∃ elapsed, ending = .cancelled elapsed) ∨
      (p.mode = .eventually ∧ (∃ elapsed, ending = .timedOut elapsed) ∧
        0 < passesSinceFailure p.desired t.samples ∧
        passesSinceFailure p.desired t.samples < p.repeats) := by
  obtain ⟨cause, elapsed, hending, hcause | ⟨hnone, wake, hwake, hcause⟩⟩ := hs.exists_cause
  · -- a sample that passed would have made the run hold
    rw [Plan.eq_held_of_cause? hlast hpassed hcause] at hending
    cases hending
  · cases hmode : p.mode with
    | eventually =>
      rw [hmode] at hcause
      cases wake with
      | tick => cases hcause
      | cancelled =>
        cases hcause
        exact .inl ⟨hwake, elapsed, Option.some.inj hending⟩
      | deadline =>
        cases hcause
        exact .inr ⟨rfl, ⟨elapsed, Option.some.inj hending⟩,
          Plan.passesSinceFailure_of_cause? hmode hlast hpassed hnone⟩
    | consistently =>
      rw [hmode] at hcause
      cases wake with
      | tick => cases hcause
      | cancelled =>
        cases hcause
        exact .inl ⟨hwake, elapsed, Option.some.inj hending⟩
      | deadline =>
        -- the deadline makes it hold
        cases hcause
        cases hending

/-- A run that held did so after a passing sample, or it is a `consistently` whose last sample asked
to be tried again, which came to its deadline. -/
theorem Standing.of_held {t : Transcript α} {o : Observation α}
    (hs : Standing p p.count p.cause? t (.over r none)) (hlast : t.samples.getLast? = some o) :
    o.sample.passed p.desired = true ∨
      (p.mode = .consistently ∧ ∃ delay, o.retryDelay? = some delay) := by
  obtain ⟨cause, elapsed, hending, hcause⟩ := hs.exists_cause
  obtain rfl := Cause.ending?_eq_none_iff.1 hending.symm
  cases hmode : p.mode with
  | eventually =>
    obtain hcause | ⟨-, wake, -, hcause⟩ := hcause
    · exact .inl (Plan.passed_of_cause?_eq_held hmode hlast hcause)
    · -- no wake makes an `eventually` hold
      rw [hmode] at hcause
      cases wake <;> cases hcause
  | consistently =>
    rw [Plan.cause?, hmode] at hcause
    dsimp only at hcause
    rw [hlast, Option.bind_some] at hcause
    obtain hcause | ⟨hnone, -⟩ := hcause
    · exact .inl (Plan.passed_of_consistentlyCause?_eq_held hcause).1
    · -- a sample of any other kind would have failed the run
      rw [Plan.consistentlyCause?] at hnone
      obtain ⟨hpassed, -⟩ | ⟨hpassed, hsignal, -⟩ | ⟨-, signal, message, hsignal, hrequest, -⟩ |
        ⟨-, signal, delay, hsignal, hrequest, -⟩ := o.kind_cases p.desired
      · exact .inl hpassed
      · simp [Observation.stopMessage?, Sample.isOrdinaryFailure, hsignal, hpassed] at hnone
      · simp [Observation.stopMessage?, hsignal, hrequest] at hnone
      · exact .inr ⟨rfl, delay, by simp [Observation.retryDelay?, hsignal, hrequest]⟩

/-- The message of a run that failed explains the last sample that it took. -/
theorem Course.explains_latest {ending : Ending}
    (hc : Course between (.start p started) w₀ h (.over r (some ending)) w) :
    ∃ o, (transcript h).samples.getLast? = some o ∧
      r.failureMessage ending =
        o.sample.detail p.mode p.desired p.matcher >>= p.description.compose ending.text := by
  obtain ⟨o, hlast⟩ := (hc.standing p.judges).exists_getLast?
  have hlatest : r.latest.map Published.sample = some o.sample := by
    rw [← Option.map_some, ← hlast]
    exact hc.latest_eq
  refine ⟨o, hlast, ?_⟩
  rw [failureMessage_eq hlatest, show r.plan = p from hc.run_eq.1]

/-- **Whom a failed run blames.** Its message explains the last sample that it took, a verdict by
the matcher's own text. The verdict is not the desired one, so that there is a mismatch to explain,
unless the run was cancelled in the wait after the sample, or is an `eventually` that ran out of
time when some samples in a row had passed, but fewer than were asked for. -/
theorem Course.blames_latest {ending : Ending}
    (hc : Course between (.start p started) w₀ h (.over r (some ending)) w) :
    ∃ o, (transcript h).samples.getLast? = some o ∧
      r.failureMessage ending =
        o.sample.detail p.mode p.desired p.matcher >>= p.description.compose ending.text ∧
      ∀ a matched, o.sample = .judged a matched →
        o.sample.detail p.mode p.desired p.matcher = p.matcher.textFor p.desired a ∧
        (matched ≠ p.desired ∨
          ((transcript h).wakes.getLast? = some .cancelled ∧
            ∃ elapsed, ending = .cancelled elapsed) ∨
          (p.mode = .eventually ∧ (∃ elapsed, ending = .timedOut elapsed) ∧
            0 < passesSinceFailure p.desired (transcript h).samples ∧
            passesSinceFailure p.desired (transcript h).samples < p.repeats)) := by
  obtain ⟨o, hlast, hmessage⟩ := hc.explains_latest
  refine ⟨o, hlast, hmessage, fun a matched hsample ↦ ⟨by rw [hsample, Sample.detail], ?_⟩⟩
  by_cases hmatched : matched = p.desired
  · refine .inr ((hc.standing p.judges).of_passed hlast ?_)
    rw [hsample, Sample.passed, hmatched, beq_self_eq_true]
  · exact .inl hmatched

end Run

/-- A fixed value that equals the expected one, asked to do so three times in a row when there is
only time for two samples. -/
def Plan.hurried : Plan Unit Nat where
  mode := .eventually
  timeout := .ofMillis 20
  polling := .ofMillis 10
  repeats := 3
  token := none
  source := .fixed 5
  matcher := .equalTo 5
  desired := true
  description := .none
  time := .runtime .zero

namespace Run

/-- Both samples pass, and then the time is up. -/
theorem exists_course_hurried : ∃ h r w,
    Course clockMoves (.start .hurried .zero) ⟨(), .zero, []⟩ h
      (.over r (some (.timedOut (.ofMillis 20)))) w ∧
    (transcript h).samples.map Observation.sample = [.judged 5 true, .judged 5 true] :=
  ⟨_, _, _, .step (.step (.step (.step .start rfl ⟨.zero, rfl⟩ (.sampled rfl rfl rfl))
    rfl ⟨.ofMillis 10, rfl⟩ (.looked rfl rfl rfl)) rfl ⟨.ofMillis 10, rfl⟩
    (.sampled rfl rfl rfl)) rfl ⟨.ofMillis 20, rfl⟩ (.looked rfl rfl rfl), rfl⟩

/-- The last of the two is a verdict as desired, so the run timed out while it was counting. -/
theorem blames_latest_hurried : ∃ h r w o,
    Course clockMoves (.start .hurried .zero) ⟨(), .zero, []⟩ h
      (.over r (some (.timedOut (.ofMillis 20)))) w ∧
    (transcript h).samples.getLast? = some o ∧ o.sample = .judged 5 true ∧
      0 < passesSinceFailure true (transcript h).samples ∧
      passesSinceFailure true (transcript h).samples < 3 := by
  obtain ⟨h, r, w, hc, hsamples⟩ := exists_course_hurried
  obtain ⟨o, hlast, -, hblame⟩ := hc.blames_latest
  have hsample : o.sample = .judged 5 true := by
    have hmap := congrArg List.getLast? hsamples
    rw [List.getLast?_map, hlast] at hmap
    exact Option.some.inj hmap
  obtain hne | ⟨-, elapsed, hending⟩ | ⟨-, -, hcounting⟩ := (hblame 5 true hsample).2
  · exact absurd rfl hne
  · cases hending
  · exact ⟨h, r, w, o, hc, hlast, hsample, hcounting⟩

/-- The last sample passed, and the message gives a mismatch all the same. -/
theorem blames_passing_hurried : ∃ h r w,
    Course clockMoves (.start .hurried .zero) ⟨(), .zero, []⟩ h
      (.over r (some (.timedOut (.ofMillis 20)))) w ∧
    (transcript h).samples.getLast?.map Observation.sample = some (.judged 5 true) ∧
    Plan.hurried.desired = true ∧
    r.failureMessage (.timedOut (.ofMillis 20)) =
      pure "Timed out after 20ms.\nexpected 5 to equal 5" := by
  obtain ⟨h, r, w, hc, hsamples⟩ := exists_course_hurried
  have hlast : (transcript h).samples.getLast?.map Observation.sample = some (.judged 5 true) := by
    rw [← List.getLast?_map, hsamples]
    rfl
  refine ⟨h, r, w, hc, hlast, rfl, ?_⟩
  have hplan : r.plan = .hurried := hc.run_eq.1
  have hlatest : r.latest.map Published.sample = some (.judged 5 true) := hc.latest_eq.trans hlast
  rw [failureMessage_eq hlatest, hplan]
  have htext : Ending.text (.timedOut (.ofMillis 20)) ++ "\n" ++
      ("expected " ++ inspect 5 ++ " to " ++ "equal" ++ " " ++ inspect 5) =
        "Timed out after 20ms.\nexpected 5 to equal 5" := by decide
  rw [← htext]
  rfl

end Run

end PollAssert
