import PollAssert.Proofs.Run.Blame
import PollAssert.Proofs.Run.Schedule

/-!
# Matchers that are of one opinion

What a matcher says of a value may depend on the value alone: its verdict or fault, and the text for
each way to fail. Then it is an `Opinion` of the value, and the matcher is `Steady`. Only the oracle
may still answer as it likes.

A run over a fixed value then takes the same sample again and again. If the opinion has no signal,
the run can only end in one way, up to its ending: it holds exactly if the opinion is the desired
one (`Course.isNone_of_asksFor`), unless it is cancelled. This is so in every surrounding and by
every source of time. If it fails, its message has the opinion as its detail
(`Course.failureMessage_of_asksFor`). On the virtual clock it does come to its end
(`exists_over_of_asksFor`).
-/

namespace PollAssert

variable {σ α : Type}

/-- What a matcher has to say of a value. -/
structure Opinion where
  /-- Does the value match? -/
  verdict : Except Fault Bool
  /-- Why the value failed an assertion that it matches. -/
  failure : String
  /-- Why the value failed an assertion that it does not match. -/
  negated : String

namespace Opinion

/-- The verdict is the desired one. -/
def held (o : Opinion) (desired : Bool) : Bool :=
  match o.verdict with
  | .ok matched => matched == desired
  | .error _ => false

/-- The text that explains a failure of the given polarity. -/
def textFor (o : Opinion) (desired : Bool) : String := if desired then o.failure else o.negated

/-- The message of a single assertion that fails by the opinion. -/
def complaint (o : Opinion) (desired : Bool) : String :=
  match o.verdict with
  | .ok _ => o.textFor desired
  | .error fault => "The matcher returned the following error:\n    " ++ fault.chainText

/-- What the report of a run says of a sample by the opinion. -/
def detail (o : Opinion) (mode : Mode) (desired : Bool) : String :=
  match o.verdict with
  | .ok _ => o.textFor desired
  | .error fault => Sample.faultDetail mode "matcher" fault

/-- A sample that is judged by the opinion. -/
def sample (o : Opinion) (a : α) : Sample α :=
  match o.verdict with
  | .ok matched => .judged a matched
  | .error fault => .unjudged a fault

/-- A fault in place of a verdict carries no signal. -/
def Unsignalled (o : Opinion) : Prop := ∀ fault, o.verdict = .error fault → fault.signal? = none

variable {o : Opinion} {desired : Bool} {a : α}

/-- A verdict is explained alike by a single assertion and by a run of either mode. -/
theorem detail_eq_complaint {matched : Bool} (h : o.verdict = .ok matched) (mode : Mode) :
    o.detail mode desired = o.complaint desired := by
  rw [detail, complaint, h]

theorem passed_sample : (o.sample a).passed desired = o.held desired := by
  rw [sample, held]
  cases o.verdict <;> rfl

theorem signal?_sample (ho : o.Unsignalled) : (o.sample a).signal? = none := by
  rw [sample]
  cases hverdict : o.verdict with
  | ok matched => rfl
  | error fault => exact ho fault hverdict

end Opinion

/-! ### Steady matchers -/

theorem Action.Returns.keepsIn {β : Type} {views : View σ → Prop} {I : σ → Prop} {b : β}
    {act : Action σ β} (ha : Action.Returns I b act) : act.KeepsIn views I fun _ ↦ False := by
  intro view _ s hs
  obtain ⟨t, hact, ht⟩ := ha view s hs
  rw [hact]
  exact ht

theorem Action.Returns.of_ok {β : Type} {I : σ → Prop} {b c : β} {act : Action σ β}
    (ha : Action.Returns I b act) {view : View σ} {s t : σ} (hs : I s)
    (h : act view s = (.ok c, t)) : c = b ∧ I t := by
  obtain ⟨u, hact, hu⟩ := ha view s hs
  obtain ⟨hc, rfl⟩ := Prod.mk.inj (hact.symm.trans h)
  exact ⟨(Except.ok.inj hc).symm, hu⟩

/-- While `I` holds of the user's state, the matcher says of every value what its opinion of it is,
whatever there is to see. Its oracle may answer as it likes. -/
structure Matcher.Steady (I : σ → Prop) (m : Matcher σ α) (opinion : α → Opinion) : Prop where
  judge : ∀ a, Action.Returns I (opinion a).verdict (m.judge a)
  failureText : ∀ a, Action.Returns I (opinion a).failure (m.failureText a)
  negatedText : ∀ a, Action.Returns I (opinion a).negated (m.negatedText a)
  mayChange : ∀ a, Action.Keeps I (fun _ ↦ False) (m.mayChange a)

namespace Matcher.Steady

variable {I : σ → Prop} {m : Matcher σ α} {opinion : α → Opinion} (hm : m.Steady I opinion)
include hm

theorem keeps : m.Keeps I fun _ ↦ False where
  judge a := (hm.judge a).keepsIn
  failureText a := (hm.failureText a).keepsIn
  negatedText a := (hm.negatedText a).keepsIn
  mayChange := hm.mayChange

theorem textFor (desired : Bool) (a : α) :
    Action.Returns I ((opinion a).textFor desired) (m.textFor desired a) := by
  cases desired with
  | true => exact hm.failureText a
  | false => exact hm.negatedText a

/-- A single judgement is the opinion. -/
theorem check (desired : Bool) (a : α) :
    Action.Returns I
      (if (opinion a).held desired then none else some ((opinion a).complaint desired))
      (m.check desired a) := by
  refine (hm.judge a).bind ?_
  rw [Opinion.held, Opinion.complaint]
  rcases (opinion a).verdict with fault | matched
  · exact .pure _
  · show Action.Returns I (if matched == desired then none else _)
      (if matched = desired then pure none else some <$> m.textFor desired a)
    by_cases hmatched : matched = desired
    · rw [if_pos hmatched, if_pos (beq_iff_eq.2 hmatched)]
      exact .pure _
    · rw [if_neg hmatched, if_neg (mt beq_iff_eq.1 hmatched)]
      exact (hm.textFor desired a).map some

/-- A sample of the fixed value is one by the opinion. -/
theorem take (a : α) : Action.Returns I ((opinion a).sample a) (Sample.take (.fixed a) m) := by
  refine .bind (b := .ok a) (.pure _) ((hm.judge a).bind ?_)
  rw [Opinion.sample]
  rcases (opinion a).verdict with fault | matched <;> exact .pure _

theorem detail (mode : Mode) (desired : Bool) (a : α) :
    Action.Returns I ((opinion a).detail mode desired)
      (((opinion a).sample a).detail mode desired m) := by
  rw [Opinion.sample, Opinion.detail]
  rcases (opinion a).verdict with fault | matched
  · exact .pure _
  · exact hm.textFor desired a

theorem sample_of_take {a : α} {ob : Observation α} {view : View σ} {s t : σ} (hs : I s)
    (h : Observation.take (.fixed a) m view s = (.ok ob, t)) :
    ob.sample = (opinion a).sample a := by
  obtain ⟨sample, u, htake, hrest⟩ := Effect.bind_eq_ok_iff.1 h
  obtain ⟨mayChange, v, -, hrest⟩ := Effect.bind_eq_ok_iff.1 hrest
  obtain ⟨rfl, -⟩ := Effect.pure_eq_ok_iff.1 hrest
  exact ((hm.take a).of_ok hs htake).1

end Matcher.Steady

/-- A matcher that is built from functions of the value is steady. -/
theorem Matcher.steady_ofPure (I : σ → Prop) (holds : α → Bool) (failure negated : α → String) :
    (Matcher.ofPure holds failure negated).Steady I
      fun a ↦ ⟨.ok (holds a), failure a, negated a⟩ where
  judge _ := .pure _
  failureText _ := .pure _
  negatedText _ := .pure _
  mayChange _ := .pure _

/-! ### Runs that ask for an opinion -/

/-- The run asks a steady matcher for its opinion of a fixed value, which carries no signal, and one
passing sample is enough. The other user code is calm. -/
structure Plan.AsksFor (I : σ → Prop) (p : Plan σ α) (opinion : α → Opinion) (a : α) : Prop where
  source : p.source = .fixed a
  matcher : p.matcher.Steady I opinion
  unsignalled : (opinion a).Unsignalled
  once : p.mode = .eventually → p.repeats = 1
  time : p.time.Keeps I fun _ ↦ False
  description : Action.KeepsNested I (fun _ ↦ False) p.description.render

theorem Plan.AsksFor.calm {I : σ → Prop} {p : Plan σ α} {opinion : α → Opinion} {a : α}
    (hp : p.AsksFor I opinion a) : p.Calm I where
  callbacks := ⟨hp.matcher.keeps, hp.time, hp.description⟩
  source := hp.source ▸ .pure _

namespace Run

variable {between : Turn σ α → World σ → World σ → Prop} {p : Plan σ α} {started : Duration}
  {w₀ w : World σ} {h : List (Event α)} {turn : Turn σ α} {r : Run σ α} {I : σ → Prop}
  {opinion : α → Opinion} {a : α}

section AsksFor

variable (hp : p.AsksFor I opinion a)
  (hworld : ∀ turn r w u, turn.run? = some r → between turn w u → I w.user → I u.user)
  (hw₀ : I w₀.user)
include hp hworld hw₀

theorem Course.user_of_asksFor (hc : Course between (.start p started) w₀ h turn w) : I w.user :=
  hc.keeps (fun r (hplan : r.plan = p) ↦ keeps_step_user (hplan ▸ hp.calm)) hworld hw₀

/-- **Every sample is the opinion.** -/
theorem Course.sample_of_asksFor (hc : Course between (.start p started) w₀ h turn w) :
    ∀ o ∈ (transcript h).samples, o.sample = (opinion a).sample a := by
  induction hc with
  | start => nofun
  | @step h turn turn' r w u v e hc hrun hbetween hsteps ih =>
    intro o ho
    obtain hold | rfl := mem_samples_concat.1 ho
    · exact ih o hold
    · have hu := hworld _ _ _ _ hrun hbetween (hc.user_of_asksFor hp hworld hw₀)
      have hplan : r.plan = p := hc.plan_eq hrun
      obtain ⟨-, u', hobserve, -⟩ := hsteps.goBy_eq
      rw [observe, call_apply, hplan, hp.source] at hobserve
      exact hp.matcher.sample_of_take hu (Prod.ext (Prod.mk.inj hobserve).1 rfl)

/-- **The run holds exactly if the opinion is the desired one**, unless it is cancelled, however
many samples it takes. -/
theorem Course.isNone_of_asksFor {ending : Option Ending}
    (hc : Course between (.start p started) w₀ h (.over r ending) w)
    (hcancelled : ∀ elapsed, ending ≠ some (.cancelled elapsed)) :
    ending.isNone = (opinion a).held p.desired := by
  have hstanding := hc.standing p.judges
  obtain ⟨last, hlast⟩ := hstanding.exists_getLast?
  have hsample := hc.sample_of_asksFor hp hworld hw₀ last (List.mem_of_getLast? hlast)
  rw [← Opinion.passed_sample (a := a), ← hsample]
  cases ending with
  | none =>
    obtain hpassed | ⟨-, delay, hretry⟩ := hstanding.of_held hlast
    · exact hpassed.symm
    · rw [Observation.retryDelay?, hsample, Opinion.signal?_sample hp.unsignalled] at hretry
      cases hretry
  | some ending =>
    cases hpassed : last.sample.passed p.desired with
    | false => rfl
    | true =>
      -- it would have held by the first of its samples
      obtain ⟨-, elapsed, rfl⟩ | ⟨hmode, -, hpos, hlt⟩ := hstanding.of_passed hlast hpassed
      · exact absurd rfl (hcancelled elapsed)
      · rw [hp.once hmode] at hlt
        omega

/-- The message of a run that failed has the opinion as its detail. -/
theorem Course.failureMessage_of_asksFor {ending : Ending}
    (hc : Course between (.start p started) w₀ h (.over r (some ending)) w) (view : View σ)
    {s : σ} (hs : I s) :
    ∃ t, I t ∧ r.failureMessage ending view s =
      p.description.compose ending.text ((opinion a).detail p.mode p.desired) view t := by
  obtain ⟨last, hlast, hmessage⟩ := hc.explains_latest
  rw [hc.sample_of_asksFor hp hworld hw₀ last (List.mem_of_getLast? hlast)] at hmessage
  obtain ⟨t, hdetail, ht⟩ := hp.matcher.detail p.mode p.desired a view s hs
  rw [hmessage]
  exact ⟨t, ht, Effect.bind_of_ok hdetail _⟩

end AsksFor

/-- **On the virtual clock the run comes to its end**, wherever the clock stands at its start, if
the deadline is not out of the clock's reach. -/
theorem exists_over_of_asksFor {epoch : Duration} (hp : p.AsksFor I opinion a)
    (htime : p.time = .runtime epoch) (htoken : p.NeverCancelled I) (hpolling : 0 < p.polling.nanos)
    (hepoch : epoch ≤ w₀.clock)
    (hreach : w₀.clock.nanos + p.timeout.nanos < VirtualClock.horizon) (hw₀ : I w₀.user) :
    ∃ h r ending w,
      Course Alone (.start p (w₀.clock.saturatingSub epoch)) w₀ h (.over r ending) w := by
  obtain ⟨limit, hlimit⟩ :
      ∃ limit, (p.wakeUp epoch (w₀.clock.saturatingSub epoch)).due? = some limit := by
    rw [p.wakeUp_eq_timerAt hepoch hreach, VirtualClock.timerAt]
    rw [if_pos hreach]
    exact ⟨_, rfl⟩
  refine exists_over htime hlimit hp.calm htoken hw₀ (m := 0) fun h turn w hc ↦ ?_
  -- no sample asks to be tried again, so none can do so at once
  rw [Nat.le_zero, List.countP_eq_zero]
  intro o ho hatOnce
  have hretry : o.retryDelay? = none := by
    rw [Observation.retryDelay?, hc.sample_of_asksFor hp keeps_user_of_alone hw₀ o ho,
      Opinion.signal?_sample hp.unsignalled]
    rfl
  rw [Plan.isAtOnce, Plan.delayAfter, hretry, Option.getD_none] at hatOnce
  exact absurd (of_decide_eq_true hatOnce) (Nat.ne_of_gt hpolling)

end Run

end PollAssert
