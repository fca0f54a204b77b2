import PollAssert.Matcher.Combinators
import PollAssert.Proofs.Flight.Alike
import PollAssert.Proofs.Run.Blame
import PollAssert.Proofs.Run.Schedule

/-!
# Ending early by the word of the oracle

A settled sample can end a run early: an `eventually` fails at one that does not pass, a
`consistently` holds at one that passes. The same plan with a **patient** oracle, which never rules
out a change, has no such shortcuts (`Plan.patient`).

The shortcut never changes the verdict, if the oracle is right in what it rules out (`OracleSound`).
The two runs go on in lockstep until the one takes a shortcut, so that the other has taken the same
sample. From then on all its samples pass as this one did. So an `eventually` cannot hold any more,
and nothing but its deadline can end a `consistently`.

The oracle is asked in the one run and not in the other, and asking may leave traces in the user's
state. So the runs are compared up to a relation of states that calls of the oracle do not leave and
that no other user code can see through (`Plan.Oblivious`), such as "as many samples have been
taken". Of anything but a fixed value the oracle is never asked, and there its replacement makes no
difference at all.
-/

namespace PollAssert

variable {σ α : Type}

/-! ### The same plan with another oracle -/

namespace Plan

/-- The plan with another oracle. -/
def withOracle (p : Plan σ α) (mayChange : α → Action σ Bool) : Plan σ α :=
  { p with matcher := p.matcher.withOracle mayChange }

/-- The plan with an oracle that never rules out a change. -/
def patient (p : Plan σ α) : Plan σ α := p.withOracle fun _ ↦ pure true

/-- No user code of the plan can tell states apart that `R` relates. Its source and its oracle are
another matter. -/
structure Respects (R : σ → σ → Prop) (p : Plan σ α) : Prop where
  token : ∀ s s', R s s' → p.token.elim false (· s) = p.token.elim false (· s')
  time : TimeSource.Alike R p.time p.time
  description : Action.Alike R Eq p.description.render p.description.render
  judge : ∀ a, Action.Alike R Eq (p.matcher.judge a) (p.matcher.judge a)
  failureText : ∀ a, Action.Alike R Eq (p.matcher.failureText a) (p.matcher.failureText a)
  negatedText : ∀ a, Action.Alike R Eq (p.matcher.negatedText a) (p.matcher.negatedText a)

/-- Calls of the oracle, too, leave states behind that cannot be told from those before them. So
what the matcher answers is a matter of the value and of what is common to states that `R` relates.
-/
structure Oblivious (R : σ → σ → Prop) (p : Plan σ α) : Prop extends p.Respects R where
  mayChange : ∀ a view view' s s' t b, View.Alike R view view' → R s s' →
    p.matcher.mayChange a view s = (.ok b, t) → R t s'

theorem respects_eq (p : Plan σ α) : p.Respects Eq where
  token := by
    rintro s _ rfl
    rfl
  time := .refl p.time
  description := .refl _
  judge _ := .refl _
  failureText _ := .refl _
  negatedText _ := .refl _

/-- The oracle matters to nothing but the observations. -/
theorem Respects.alike_withOracle {R : σ → σ → Prop} {p : Plan σ α} (hp : p.Respects R)
    (mayChange : α → Action σ Bool) : Plan.Alike R Eq p (p.withOracle mayChange) where
  mode := rfl
  timeout := rfl
  polling := rfl
  repeats := rfl
  token := hp.token
  time := hp.time
  description := hp.description
  detail := by
    rintro s _ rfl
    cases s with
    | judged a matched =>
      show Action.Alike R Eq (p.matcher.textFor p.desired a) (p.matcher.textFor p.desired a)
      cases p.desired with
      | true => exact hp.failureText a
      | false => exact hp.negatedText a
    | unjudged a fault => exact .pure rfl
    | missed mishap => cases mishap <;> exact .pure rfl
  passed := by
    rintro s _ rfl
    rfl
  steering := by
    rintro s _ rfl
    rfl

/-- **Of anything but a fixed value no oracle is asked**, so another one makes no difference. -/
theorem twins_withOracle {p : Plan σ α} (hfixed : p.source.isFixed = false)
    (mayChange : α → Action σ Bool) : Plan.Twins Eq p (p.withOracle mayChange) where
  toAlike := p.respects_eq.alike_withOracle mayChange
  observe := by
    have hask : ∀ s : Sample α, s.askOracle p.source (p.matcher.withOracle mayChange) =
        s.askOracle p.source p.matcher := by
      intro s
      rw [Sample.askOracle, Sample.askOracle, hfixed]
    have htake : Observation.take p.source (p.matcher.withOracle mayChange) =
        Observation.take p.source p.matcher := by
      rw [Observation.take, Observation.take]
      simp only [hask]
      rfl
    show Action.Alike Eq _ _ (Observation.take p.source (p.matcher.withOracle mayChange))
    rw [htake]
    refine (Action.Alike.refl _).mono ?_
    rintro o _ rfl
    exact ⟨rfl, rfl⟩

end Plan

/-! ### What the two plans observe -/

section Observing

variable {R : σ → σ → Prop} {p : Plan σ α}

/-- Of a fixed value the two plans take the same sample. -/
theorem Plan.Respects.alike_take (hp : p.Respects R) (hfixed : p.source.isFixed = true) :
    Action.Alike R Eq (Sample.take p.source p.matcher) (Sample.take p.source p.matcher) := by
  cases hsource : p.source with
  | produced | checked =>
    rw [hsource] at hfixed
    cases hfixed
  | fixed a =>
    refine (hp.judge a).bind ?_
    rintro verdict _ rfl
    cases verdict <;> exact .pure rfl

/-- The patient oracle rules out nothing. -/
theorem Sample.mayChange_of_patient {source : Source σ α} {m : Matcher σ α} {s : Sample α}
    {view : View σ} {u v : σ} {answer : Option Bool}
    (h : s.askOracle source (m.withOracle fun _ ↦ pure true) view u = (.ok answer, v)) :
    answer ≠ some false ∧ v = u := by
  obtain ⟨a, b, hb, rfl⟩ | ⟨rfl, rfl⟩ := of_askOracle_eq_ok h
  · obtain ⟨rfl, rfl⟩ := Effect.pure_eq_ok_iff.1 hb
    exact ⟨nofun, rfl⟩
  · exact ⟨nofun, rfl⟩

/-- Asking the oracle leaves no trace that counts. -/
theorem Plan.Oblivious.of_askOracle_eq_ok (hp : p.Oblivious R) {s : Sample α}
    {view view' : View σ} (hview : View.Alike R view view') {u u' v : σ} (hu : R u u')
    {answer : Option Bool} (h : s.askOracle p.source p.matcher view u = (.ok answer, v)) :
    R v u' := by
  obtain ⟨a, b, hb, -⟩ | ⟨-, rfl⟩ := Sample.of_askOracle_eq_ok h
  · exact hp.mayChange a view view' u u' v b hview hu hb
  · exact hu

/-- **The two plans observe the same sample**, and the patient one never takes it for settled. -/
theorem Plan.Oblivious.of_take_eq_ok (hp : p.Oblivious R) (hfixed : p.source.isFixed = true)
    {view view' : View σ} (hview : View.Alike R view view') {u u' v v' : σ} (hu : R u u')
    {o o' : Observation α} (h : Observation.take p.source p.matcher view u = (.ok o, v))
    (h' : Observation.take p.patient.source p.patient.matcher view' u' = (.ok o', v')) :
    o'.sample = o.sample ∧ o'.mayChange ≠ some false ∧ R v v' := by
  obtain ⟨s, u₁, hs, hrest⟩ := Effect.bind_eq_ok_iff.1 h
  obtain ⟨answer, u₂, hask, hrest⟩ := Effect.bind_eq_ok_iff.1 hrest
  obtain ⟨rfl, rfl⟩ := Effect.pure_eq_ok_iff.1 hrest
  obtain ⟨s', u₁', hs', hrest'⟩ := Effect.bind_eq_ok_iff.1 h'
  obtain ⟨answer', u₂', hask', hrest'⟩ := Effect.bind_eq_ok_iff.1 hrest'
  obtain ⟨rfl, rfl⟩ := Effect.pure_eq_ok_iff.1 hrest'
  obtain ⟨rfl, hu₁⟩ := (hp.toRespects.alike_take hfixed view view' hview).of_ok hu hs hs'
  obtain ⟨hanswer', rfl⟩ := Sample.mayChange_of_patient hask'
  exact ⟨rfl, hanswer', hp.of_askOracle_eq_ok hview hu₁ hask⟩

end Observing

/-! ### Lockstep -/

/-- Whether a sample is settled matters to the rulings in two cases only. -/
theorem Mode.rule_settled (mode : Mode) (repeats passes : Nat) (passed : Bool)
    (steering : Steering) :
    mode.rule repeats passes ⟨passed, true, steering⟩ =
        mode.rule repeats passes ⟨passed, false, steering⟩ ∨
      (mode = .eventually ∧ passed = false ∧
        mode.rule repeats passes ⟨passed, true, steering⟩ = .over .noFutureChange) ∨
      (mode = .consistently ∧ passed = true ∧
        mode.rule repeats passes ⟨passed, true, steering⟩ = .over .held) := by
  cases mode with
  | eventually =>
    cases passed with
    | true => exact .inl rfl
    | false =>
      cases steering with
      | stop message => exact .inl rfl
      | goOn | retry => exact .inr (.inl ⟨rfl, rfl, rfl⟩)
  | consistently =>
    cases steering with
    | stop | retry => exact .inl rfl
    | goOn =>
      cases passed with
      | false => exact .inl rfl
      | true => exact .inr (.inr ⟨rfl, rfl, rfl⟩)

/-- The endings to which a settled sample leads, by a shortcut. -/
inductive Shortcut (p : Plan σ α) (o : Observation α) : Option Ending → Prop
  /-- An `eventually` fails. -/
  | fails {elapsed : Duration} (hmode : p.mode = .eventually)
      (hpassed : o.sample.passed p.desired = false) : Shortcut p o (some (.noFutureChange elapsed))
  /-- A `consistently` holds. -/
  | holds (hmode : p.mode = .consistently) (hpassed : o.sample.passed p.desired = true) :
      Shortcut p o none

namespace Run

variable {R : σ → σ → Prop} {p : Plan σ α} {r r' : Run σ α}
  {between : Turn σ α → World σ → World σ → Prop} {turn turn' : Turn σ α} {u u' v v' : World σ}
  {e e' : Event α}

/-- What happens on steps in lockstep: the same sample is taken, or a look finds the same. -/
inductive Event.Matches : Event α → Event α → Prop
  | sampled {o o' : Observation α} (hsample : o'.sample = o.sample) :
      Event.Matches (.sampled o) (.sampled o')
  | looked {wake : Option Wake} : Event.Matches (.looked wake) (.looked wake)

theorem observe_eq_ok_iff {o : Observation α} {w : World σ} :
    r.observe w = (.ok o, v) ↔
      ∃ user, Observation.take r.plan.source r.plan.matcher ⟨w.clock, some (r.report w.clock)⟩
        w.user = (.ok o, user) ∧ v = { w with user := user } := by
  show Engine.call (some (r.report w.clock)) (Observation.take r.plan.source r.plan.matcher) w =
    (.ok o, v) ↔ _
  exact Engine.call_eq_ok_iff

/-- After the same sample the rulings are the same, or the run takes a shortcut. -/
theorem Steps.rule_or_shortcut (hr : Run.Alike R Eq r r') {o o' : Observation α}
    (hsample : o'.sample = o.sample) (hmayChange : o'.mayChange ≠ some false)
    (h : r.Steps u (.sampled o) turn v) :
    r.plan.mode.rule r.plan.repeats r.passes (o.reading r.plan.desired) =
        r'.plan.mode.rule r'.plan.repeats r'.passes (o'.reading r'.plan.desired) ∨
      ∃ ending, o.mayChange = some false ∧ Shortcut r.plan o ending ∧
        ∃ run, turn = .over run ending := by
  have hunsettled : (o'.mayChange == some false) = false := beq_eq_false_iff_ne.2 hmayChange
  by_cases hsettled : o.mayChange = some false
  · obtain ⟨-, capturedAt, hturn⟩ := h.turn_of_sampled
    -- the ruling on the sample if it were not settled is the other run's
    have hother : r.plan.mode.rule r.plan.repeats r.passes
          ⟨o.sample.passed r.plan.desired, false, o.sample.steering⟩ =
        r'.plan.mode.rule r'.plan.repeats r'.passes (o'.reading r'.plan.desired) := by
      rw [Observation.reading, hunsettled, hr.plan.passed _ _ hsample.symm,
        hr.plan.steering _ _ hsample.symm, hr.plan.mode, hr.plan.repeats, hr.passes]
    have hreading : o.reading r.plan.desired =
        ⟨o.sample.passed r.plan.desired, true, o.sample.steering⟩ := by
      rw [Observation.reading, hsettled]
      rfl
    rw [hreading] at hturn ⊢
    obtain hrule | ⟨hmode, hpassed, hrule⟩ | ⟨hmode, hpassed, hrule⟩ :=
      r.plan.mode.rule_settled r.plan.repeats r.passes (o.sample.passed r.plan.desired)
        o.sample.steering
    · exact .inl (hrule.trans hother)
    · rw [hrule] at hturn
      obtain ⟨elapsed, rfl⟩ := hturn
      exact .inr ⟨_, hsettled, .fails hmode hpassed, _, rfl⟩
    · rw [hrule] at hturn
      obtain ⟨elapsed, rfl⟩ := hturn
      exact .inr ⟨_, hsettled, .holds hmode hpassed, _, rfl⟩
  · exact .inl (hr.rule_eq hsample.symm
      ((beq_eq_false_iff_ne.2 hsettled).trans hunsettled.symm))

/-- A step of a run on which the patient run takes a step as well: either the two stay in lockstep,
or the one takes a shortcut. -/
theorem Steps.lockstep (hr : Run.Alike R Eq r r') (hp : r.plan.Oblivious R)
    (hpatient : r'.plan = r.plan.patient) (hfixed : r.plan.source.isFixed = true)
    (hu : World.Alike R u u') (h : r.Steps u e turn v) (h' : r'.Steps u' e' turn' v') :
    Event.Matches e e' ∧ ((Turn.Alike R Eq turn turn' ∧ World.Alike R v v') ∨
      ∃ o run ending, e = .sampled o ∧ o.mayChange = some false ∧ turn = .over run ending ∧
        Shortcut r.plan o ending) := by
  cases e with
  | looked wake =>
    obtain ⟨tick, deadline, found, z, hphase, hlook, hheed⟩ := h.heed_eq
    cases e' with
    | sampled o' =>
      rw [hr.phase, h'.goBy_eq.1] at hphase
      cases hphase
    | looked wake' =>
      obtain ⟨tick', deadline', found', z', hphase', hlook', hheed'⟩ := h'.heed_eq
      rw [hr.phase, hphase'] at hphase
      obtain ⟨rfl, rfl⟩ := Phase.waiting.inj hphase
      obtain ⟨hfound, hz⟩ := (hr.look _ _).of_ok hu hlook hlook'
      obtain ⟨rfl, rfl⟩ := Prod.mk.inj hfound
      exact ⟨.looked, .inl ((hr.heed _ _ _).of_ok hz hheed hheed')⟩
  | sampled o =>
    obtain ⟨hphase, z, ho, hgo⟩ := h.goBy_eq
    cases e' with
    | looked wake' =>
      obtain ⟨tick', deadline', -, -, hphase', -⟩ := h'.heed_eq
      rw [hr.phase, hphase'] at hphase
      cases hphase
    | sampled o' =>
      obtain ⟨-, z', ho', hgo'⟩ := h'.goBy_eq
      -- the two observations are made in views that are alike
      have hview : View.Alike R ⟨u.clock, some (r.report u.clock)⟩
          ⟨u'.clock, some (r'.report u'.clock)⟩ :=
        ⟨hu.clock, .some (hu.clock ▸ hr.report u.clock)⟩
      obtain ⟨user, htake, rfl⟩ := observe_eq_ok_iff.1 ho
      obtain ⟨user', htake', rfl⟩ := observe_eq_ok_iff.1 ho'
      rw [hpatient] at htake'
      obtain ⟨hsample, hmayChange', huser⟩ := hp.of_take_eq_ok hfixed hview hu.user htake htake'
      have hz : World.Alike R { u with user := user } { u' with user := user' } :=
        ⟨huser, hu.clock, hu.notices⟩
      refine ⟨.sampled hsample, ?_⟩
      obtain hrule | ⟨ending, hsettled, hshortcut, run, hturn⟩ :=
        h.rule_or_shortcut hr hsample hmayChange'
      · exact .inl ((hr.goBy hsample.symm hrule).of_ok hz hgo hgo')
      · exact .inr ⟨o, run, ending, rfl, hsettled, hturn, hshortcut⟩

/-- The surroundings do not tell runs apart that are alike: what they do to the one world they do to
the other. -/
def Impartial (R : σ → σ → Prop) (between : Turn σ α → World σ → World σ → Prop) : Prop :=
  ∀ {turn turn' : Turn σ α} {r : Run σ α} {w w' u u' : World σ}, turn.run? = some r →
    Turn.Alike R Eq turn turn' → World.Alike R w w' → between turn w u → between turn' w' u' →
    World.Alike R u u'

/-- A run that is alone on the clock is so in impartial surroundings. -/
theorem impartial_alone (R : σ → σ → Prop) : Impartial R (Alone : Turn σ α → _) := by
  intro turn turn' r w w' u u' hrun hturn hw hu hu'
  rcases hturn with hr | hr | hr
  · rw [hu.ready _ rfl, hu'.ready _ rfl]
    exact hw
  · obtain ⟨instant, hdue, rfl⟩ := hu.pending _ rfl
    obtain ⟨instant', hdue', rfl⟩ := hu'.pending _ rfl
    rw [nextTimer, hr.phase] at hdue
    rw [nextTimer, hdue] at hdue'
    obtain rfl := Option.some.inj hdue'
    exact ⟨hw.user, rfl, hw.notices⟩
  · cases hrun

/-- **The two runs end in the same way, or the one takes a shortcut** at a sample that the other
takes as well. -/
theorem Onward.ending_eq_or_shortcut (hp : p.Oblivious R) (hfixed : p.source.isFixed = true)
    (hbetween : Impartial R between) {h h' : List (Event α)} {last last' : Turn σ α}
    (ho : Onward between turn u h last v) (ho' : Onward between turn' u' h' last' v')
    (hturn : Turn.Alike R Eq turn turn') (hu : World.Alike R u u') (hplan : turn.run.plan = p)
    (hplan' : turn'.run.plan = p.patient) {ending ending' : Option Ending} {run run' : Run σ α}
    (hover : last = .over run ending) (hover' : last' = .over run' ending') :
    ending = ending' ∨ ∃ (i : Nat) (o o' : Observation α), (transcript h).samples[i]? = some o ∧
      (transcript h').samples[i]? = some o' ∧ o'.sample = o.sample ∧ o.mayChange = some false ∧
      Shortcut p o ending := by
  induction ho generalizing turn' u' h' with
  | refl =>
    subst hover
    obtain - | - | hr := hturn
    cases ho'.eq_of_over.symm.trans hover'
    exact .inl rfl
  | @step turn next last r w u v z e h hrun hworld hsteps hrest ih =>
    obtain ⟨r', hrun', hr⟩ := hturn.exists_run? hrun
    rw [Turn.run_of_run? hrun] at hplan
    rw [Turn.run_of_run? hrun'] at hplan'
    cases ho' with
    | refl =>
      rw [hover'] at hrun'
      cases hrun'
    | @step _ next' _ r'' _ w' x' _ e' h' hrun'' hworld' hsteps' hrest' =>
      obtain rfl := Option.some.inj (hrun'.symm.trans hrun'')
      have hw := hbetween hrun hturn hu hworld hworld'
      subst hplan
      obtain ⟨hmatches, ⟨hnext, hx⟩ | ⟨o, run, ending'', rfl, hsettled, hnext, hshortcut⟩⟩ :=
        hsteps.lockstep hr hp hplan' hfixed hw hsteps'
      · obtain heq | ⟨i, o, o', ho, ho', hsample, hsettled, hshortcut⟩ :=
          ih hrest' hnext hx (plan_of_step hsteps.step_eq)
            ((plan_of_step hsteps'.step_eq).trans hplan') hover
        · exact .inl heq
        · refine .inr ?_
          cases hmatches with
          | sampled => exact ⟨i + 1, o, o', ho, ho', hsample, hsettled, hshortcut⟩
          | @looked wake =>
            cases wake with
            | none | some => exact ⟨i, o, o', ho, ho', hsample, hsettled, hshortcut⟩
      · -- the run is over, so it ended by the shortcut
        subst hnext
        cases hrest.eq_of_over.symm.trans hover
        cases hmatches with
        | @sampled _ o' hsample =>
          exact .inr ⟨0, o, o', rfl, rfl, hsample, hsettled, hshortcut⟩

end Run

/-! ### The verdict -/

/-- The oracle is right in what it rules out in the one run: after a sample at which it rules out a
change, the samples of the other run pass as that one does. -/
def OracleSound (desired : Bool) (t t' : Run.Transcript α) : Prop :=
  ∀ (i j : Nat) (o o' : Observation α), t.samples[i]? = some o → o.mayChange = some false → i < j →
    t'.samples[j]? = some o' → o'.sample.passed desired = o.sample.passed desired

/-- Where the oracle is right, the last sample passes as the one that settled it. -/
theorem OracleSound.passed_of_getLast? {desired : Bool} {t t' : Run.Transcript α}
    {o o' : Observation α} (hsound : OracleSound desired t t') {i : Nat}
    (ho : t.samples[i]? = some o) (ho' : t'.samples[i]? = some o') (hsample : o'.sample = o.sample)
    (hmayChange : o.mayChange = some false) {last : Observation α}
    (hlast : t'.samples.getLast? = some last) :
    last.sample.passed desired = o.sample.passed desired := by
  obtain ⟨hi, -⟩ := List.getElem?_eq_some_iff.1 ho'
  rw [List.getLast?_eq_getElem?] at hlast
  rcases Nat.lt_or_ge i (t'.samples.length - 1) with hlt | hge
  · exact hsound i _ o last ho hmayChange hlt hlast
  · have heq : t'.samples.length - 1 = i := by omega
    rw [heq, ho'] at hlast
    obtain rfl := Option.some.inj hlast
    rw [hsample]

/-- How the ending of a run compares with that of the patient run. -/
inductive SameVerdict (mode : Mode) (wakes : List Wake) : Option Ending → Option Ending → Prop
  /-- There was no shortcut. -/
  | same {ending : Option Ending} : SameVerdict mode wakes ending ending
  /-- The run bailed out of an `eventually` that fails anyway. -/
  | fails {elapsed : Duration} {ending : Ending} (hmode : mode = .eventually) :
      SameVerdict mode wakes (some (.noFutureChange elapsed)) (some ending)
  /-- The run cut a `consistently` short that holds at its deadline. -/
  | holds (hmode : mode = .consistently) (hdeadline : .deadline ∈ wakes) :
      SameVerdict mode wakes none none

theorem SameVerdict.isNone_eq {mode : Mode} {wakes : List Wake} {ending ending' : Option Ending}
    (h : SameVerdict mode wakes ending ending') : ending.isNone = ending'.isNone := by
  cases h <;> rfl

namespace Run

variable {p : Plan σ α} {started : Duration} {w₀ w : World σ} {h : List (Event α)}
  {between : Turn σ α → World σ → World σ → Prop} {r : Run σ α} {t : Transcript α}
  {o : Observation α} {ending : Option Ending}

/-- An `eventually` that held ended with a passing sample. -/
theorem Standing.passed_of_held (hmode : p.mode = .eventually)
    (hs : Standing p p.count p.cause? t (.over r none)) {last : Observation α}
    (hlast : t.samples.getLast? = some last) : last.sample.passed p.desired = true := by
  obtain hpassed | ⟨hconsistently, -⟩ := hs.of_held hlast
  · exact hpassed
  · cases hmode.symm.trans hconsistently

/-- A `consistently` whose last sample passes and is not settled held at its deadline, unless it was
cancelled. -/
theorem Standing.held_of_passed (hmode : p.mode = .consistently)
    (hs : Standing p p.count p.cause? t (.over r ending)) {last : Observation α}
    (hlast : t.samples.getLast? = some last) (hpassed : last.sample.passed p.desired = true)
    (hsettled : last.mayChange ≠ some false) (hcancelled : .cancelled ∉ t.wakes) :
    ending = none ∧ .deadline ∈ t.wakes := by
  cases ending with
  | some ending =>
    obtain ⟨hwake, -⟩ | ⟨heventually, -⟩ := hs.of_passed hlast hpassed
    · exact absurd (List.mem_of_getLast? hwake) hcancelled
    · rw [hmode] at heventually
      cases heventually
  | none =>
    have hcount : p.cause? = fun os ↦ os.getLast?.bind p.consistentlyCause? := by
      funext os
      rw [Plan.cause?, hmode]
    have hwake : p.mode.causeOfWake? = Wake.consistentlyCause? := by
      rw [hmode]
      funext wake
      cases wake <;> rfl
    have hends := hs.endsAtFirst
    rw [hcount, hwake] at hends
    obtain ⟨-, n, o, hlength, ho, hdeadline | ⟨-, hsettled'⟩⟩ := hends.of_held
    · exact ⟨rfl, List.mem_of_getElem? hdeadline⟩
    · -- it did not hold early, for its last sample is not settled
      rw [List.getLast?_eq_getElem?, hlength, Nat.add_sub_cancel, ho] at hlast
      obtain rfl := Option.some.inj hlast
      rw [Observation.isSettled, Bool.and_eq_true] at hsettled'
      exact absurd (beq_iff_eq.1 hsettled'.2) hsettled

/-- No sample of the patient run is settled. -/
theorem Course.mayChange_of_patient {turn : Turn σ α}
    (hc : Course between (.start p.patient started) w₀ h turn w)
    (ho : o ∈ (transcript h).samples) : o.mayChange ≠ some false := by
  obtain ⟨view, s, s', htake⟩ := hc.exists_take ho
  obtain ⟨smp, s₁, -, hrest⟩ := Effect.bind_eq_ok_iff.1 htake
  obtain ⟨answer, s₂, hask, hrest⟩ := Effect.bind_eq_ok_iff.1 hrest
  obtain ⟨rfl, -⟩ := Effect.pure_eq_ok_iff.1 hrest
  exact (Sample.mayChange_of_patient hask).1

/-- **The shortcut leads to the verdict of the patient run**, if all that run's samples from there
on pass as the settled one does. -/
theorem Course.sameVerdict_of_shortcut {ending' : Option Ending}
    (hc : Course between (.start p.patient started) w₀ h (.over r ending') w)
    (hcancelled : .cancelled ∉ (transcript h).wakes) (hshortcut : Shortcut p o ending)
    (hlater : ∀ last, (transcript h).samples.getLast? = some last →
      last.sample.passed p.desired = o.sample.passed p.desired) :
    SameVerdict p.mode (transcript h).wakes ending ending' := by
  have hstanding := hc.standing p.patient.judges
  obtain ⟨last, hlast⟩ := hstanding.exists_getLast?
  have hpassed := hlater last hlast
  cases hshortcut with
  | fails hmode ho =>
    have hmode' : p.patient.mode = .eventually := hmode
    cases ending' with
    | some ending' => exact .fails hmode
    | none =>
      have hheld : last.sample.passed p.desired = true := hstanding.passed_of_held hmode' hlast
      rw [hpassed, ho] at hheld
      cases hheld
  | holds hmode ho =>
    have hmode' : p.patient.mode = .consistently := hmode
    have hsettled := hc.mayChange_of_patient (List.mem_of_getLast? hlast)
    obtain ⟨rfl, hdeadline⟩ :=
      hstanding.held_of_passed hmode' hlast (hpassed.trans ho) hsettled hcancelled
    exact .holds hmode hdeadline

end Run

/-- **The shortcut never changes the verdict.** Take a run and the same run with a patient oracle,
of a fixed value, in surroundings that treat the two alike and do not cancel them, and let the
matcher's answers depend on nothing but the value and what is common to states that `R` relates. If
the oracle is right in what it rules out, the two come to the same verdict, whenever both come to an
end: an `eventually` that bails out fails anyway, and a `consistently` that is cut short holds at
its deadline. If the value is not fixed, no oracle is ever called: whatever it does, runs with it
are indistinguishable. -/
theorem Plan.shortcut_keeps_verdict (p : Plan σ α) :
    (p.source.isFixed = true →
      ∀ (R : σ → σ → Prop) (between : Turn σ α → World σ → World σ → Prop), p.Oblivious R →
        Run.Impartial R between →
      ∀ (started : Duration) (w₀ w₀' w w' : World σ) (h h' : List (Run.Event α)) (r r' : Run σ α)
        (ending ending' : Option Ending), World.Alike R w₀ w₀' →
        Run.Course between (.start p started) w₀ h (.over r ending) w →
        Run.Course between (.start p.patient started) w₀' h' (.over r' ending') w' →
        .cancelled ∉ (Run.transcript h').wakes →
        OracleSound p.desired (Run.transcript h) (Run.transcript h') →
        ending.isNone = ending'.isNone ∧
          SameVerdict p.mode (Run.transcript h').wakes ending ending') ∧
    (p.source.isFixed = false →
      ∀ (mayChange : α → Action σ Bool) (a : Assertion σ α) (handler : Handler σ)
        (started : Duration),
        (Flight.polling a handler (.start p started)).Indistinguishable
          (.polling a handler (.start (p.withOracle mayChange) started))) := by
  constructor
  · intro hfixed R between hp hbetween started w₀ w₀' w w' h h' r r' ending ending' hw hc hc'
      hcancelled hsound
    have hverdict : SameVerdict p.mode (Run.transcript h').wakes ending ending' := by
      have hstart : Turn.Alike R Eq (.ready (.start p started))
          (.ready (.start p.patient started)) :=
        .ready (.start (hp.toRespects.alike_withOracle _) started)
      obtain rfl | ⟨i, o, o', ho, ho', hsample, hmayChange, hshortcut⟩ :=
        hc.onward.ending_eq_or_shortcut hp hfixed hbetween hc'.onward hstart hw rfl rfl rfl rfl
      · exact .same
      · exact hc'.sameVerdict_of_shortcut hcancelled hshortcut fun last hlast ↦
          hsound.passed_of_getLast? ho ho' hsample hmayChange hlast
    exact ⟨hverdict.isNone_eq, hverdict⟩
  · intro hfixed mayChange a handler started
    have htwins := twins_withOracle hfixed mayChange
    exact (Flight.Twins.polling rfl rfl (.start htwins.toAlike started) htwins).indistinguishable

/-- A fixed value that never matches. The matcher counts its judgements and, apart from that, the
questions to its oracle, which allows for a change at the first sample only. -/
def Plan.resigned : Plan (Nat × Nat) Nat where
  mode := .eventually
  timeout := .ofMillis 30
  polling := .ofMillis 10
  repeats := 1
  token := none
  source := .fixed 5
  matcher :=
    { judge := fun _ ↦ do
        modify fun (judged, asked) ↦ (judged + 1, asked)
        return .ok false
      failureText := fun _ ↦ pure ""
      negatedText := fun _ ↦ pure ""
      mayChange := fun _ ↦ do
        modify fun (judged, asked) ↦ (judged, asked + 1)
        return (← get).1 ≤ 1 }
  desired := true
  description := .none
  time := .runtime .zero

/-- Nobody can tell how often the oracle was asked. -/
theorem Plan.oblivious_resigned : resigned.Oblivious fun s s' ↦ s.1 = s'.1 where
  token _ _ _ := rfl
  time := TimeSource.alike_runtime _ _
  description := .pure rfl
  judge _ _ _ _ s s' hs := .returned rfl (congrArg (· + 1) hs)
  failureText _ := .pure rfl
  negatedText _ := .pure rfl
  mayChange := by
    rintro a view view' s s' t b - hs h
    obtain ⟨-, rfl⟩ := Prod.mk.inj h
    exact hs

namespace Run

/-- At the second sample the run bails out. -/
theorem exists_course_resigned : ∃ h r w,
    Course Alone (.start .resigned .zero) ⟨(0, 0), .zero, []⟩ h
      (.over r (some (.noFutureChange (.ofMillis 10)))) w ∧
    (transcript h).samples.map Observation.sample = .replicate 2 (.judged 5 false) ∧
    w.user = (2, 2) :=
  ⟨_, _, _, .step (.step (.step (.step .start rfl (alone_ready rfl) (.sampled rfl rfl rfl))
    rfl (alone_ready rfl) (.looked rfl rfl rfl)) rfl (alone_pending rfl rfl)
    (.looked rfl rfl rfl)) rfl (alone_ready rfl) (.sampled rfl rfl rfl), rfl, rfl⟩

/-- The patient run takes one more sample and times out. -/
theorem exists_course_resigned_patient : ∃ h r w,
    Course Alone (.start (Plan.patient .resigned) .zero) ⟨(0, 0), .zero, []⟩ h
      (.over r (some (.timedOut (.ofMillis 30)))) w ∧
    (transcript h).samples.map Observation.sample = .replicate 3 (.judged 5 false) ∧
    (transcript h).wakes = [.tick, .tick, .deadline] ∧ w.user = (3, 0) :=
  ⟨_, _, _, .step (.step (.step (.step (.step (.step (.step (.step (.step .start
    rfl (alone_ready rfl) (.sampled rfl rfl rfl))
    rfl (alone_ready rfl) (.looked rfl rfl rfl))
    rfl (alone_pending rfl rfl) (.looked rfl rfl rfl))
    rfl (alone_ready rfl) (.sampled rfl rfl rfl))
    rfl (alone_ready rfl) (.looked rfl rfl rfl))
    rfl (alone_pending rfl rfl) (.looked rfl rfl rfl))
    rfl (alone_ready rfl) (.sampled rfl rfl rfl))
    rfl (alone_ready rfl) (.looked rfl rfl rfl))
    rfl (alone_pending rfl rfl) (.looked rfl rfl rfl), rfl, rfl, rfl⟩

/-- Both fail, the one after two samples and the other after three. -/
theorem shortcut_keeps_verdict_resigned : ∃ h h' r r' w w',
    Course Alone (.start .resigned .zero) ⟨(0, 0), .zero, []⟩ h
      (.over r (some (.noFutureChange (.ofMillis 10)))) w ∧
    Course Alone (.start (Plan.patient .resigned) .zero) ⟨(0, 0), .zero, []⟩ h'
      (.over r' (some (.timedOut (.ofMillis 30)))) w' ∧
    .cancelled ∉ (transcript h').wakes ∧ OracleSound true (transcript h) (transcript h') ∧
    SameVerdict .eventually (transcript h').wakes (some (.noFutureChange (.ofMillis 10)))
      (some (.timedOut (.ofMillis 30))) := by
  obtain ⟨h, r, w, hc, hsamples, -⟩ := exists_course_resigned
  obtain ⟨h', r', w', hc', hsamples', hwakes, -⟩ := exists_course_resigned_patient
  have hcancelled : .cancelled ∉ (transcript h').wakes := by
    rw [hwakes]
    decide
  have hsound : OracleSound true (transcript h) (transcript h') := by
    intro i j o o' ho _ _ ho'
    have hsample : ∀ {t : Transcript Nat} {n i : Nat} {o : Observation Nat},
        t.samples.map Observation.sample = .replicate n (.judged 5 false) →
        t.samples[i]? = some o → o.sample = .judged 5 false := fun hmap ho ↦
      List.eq_of_mem_replicate (hmap ▸ List.mem_map_of_mem (List.mem_of_getElem? ho))
    rw [hsample hsamples ho, hsample hsamples' ho']
  exact ⟨h, h', r, r', w, w', hc, hc', hcancelled, hsound,
    ((Plan.shortcut_keeps_verdict .resigned).1 rfl _ _ Plan.oblivious_resigned
      (impartial_alone _) _ _ _ _ _ _ _ _ _ _ _ ⟨rfl, rfl, rfl⟩ hc hc' hcancelled hsound).2⟩

end Run

end PollAssert
