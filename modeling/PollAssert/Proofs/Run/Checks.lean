import PollAssert.Assertion
import PollAssert.Matcher.Combinators
import PollAssert.Matcher.Values
import PollAssert.Proofs.Run.Alike
import PollAssert.Proofs.Run.Semantics
import PollAssert.Proofs.Run.Tide
import Mathlib.Data.List.Forall2

/-!
# Checks inside a producer, and matchers outside of it

There are two ways to ask several things of one value. The producer can check them itself, one after
the other, and return the value if every check passes; or it returns the value at once, and the
matchers are put together by `allOf`. In the first way the check that fails is written on the
sample's checklist together with its text, and the sample has no value. In the second way judging
ends at the first component that does not match, and whose text to tell is found out anew whenever a
text is composed.

**The two ways agree** (`Checkup.checks_agree`). Two runs that differ in nothing else take samples
at the same times, start the same sleeps, write the same log and end for the same reason. A sample
that failed its checks is explained by the place of the check and then by what the other run says.

The user's code is not called alike in the two runs: matchers are called at different times, and
what a report says of a failed sample is not the same. So the matchers answer by the number of the
sample and touch nothing that the other code sees; and the other code does the same whatever a
report says (`Checkup.Fair`).
-/

namespace PollAssert

variable {σ α β β' γ δ δ' : Type}

/-! ### Making checks -/

namespace Checklist

/-- Make the checks one after the other, up to the first that fails. -/
def expectAll : List (Site × Matcher σ α) → α → Checked σ (Except Stop Unit)
  | [], _ => pure (.ok ())
  | (site, m) :: rest, a => do
    match ← expect site m true a with
    | .ok () => expectAll rest a
    | .error s => return .error s

/-- Produce a value and check it. What stops the producer it returns as its error. -/
def produceChecked (produce : Action σ (Except Fault α)) (checks : List (Site × Matcher σ α)) :
    Checked σ (Except Fault α) := do
  match ← (produce : Checked σ (Except Fault α)) with
  | .error fault => return .error fault
  | .ok a =>
    match ← expectAll checks a with
    | .ok () => return .ok a
    | .error s => return .error s.fault

end Checklist

/-! ### Views that look the same -/

/-- The surroundings look the same, but for what the report says. -/
structure View.Resembles (R : σ → σ → Prop) (view view' : View σ) : Prop where
  clock : view.clock = view'.clock
  report : Option.Rel
    (fun text text' ↦ ∀ room, Effect.Alike R (fun _ _ ↦ True) (text room) (text' room))
    view.report view'.report

/-- In views that look the same the two actions do alike, whatever the reports say. -/
def Action.Resembles (R : σ → σ → Prop) (Q : β → β' → Prop) (act : Action σ β)
    (act' : Action σ β') : Prop :=
  ∀ view view', View.Resembles R view view' → Effect.Alike R Q (act view) (act' view')

namespace Action.Resembles

variable {R : σ → σ → Prop} {P : β → β' → Prop} {Q : δ → δ' → Prop} {act : Action σ β}
  {act' : Action σ β'}

protected theorem pure {c : δ} {c' : δ'} (h : Q c c') :
    Action.Resembles R Q (pure c : Action σ δ) (pure c') := fun _ _ _ ↦ .pure h

protected theorem bind {f : β → Action σ δ} {g : β' → Action σ δ'}
    (ha : Action.Resembles R P act act') (hf : ∀ b b', P b b' → Action.Resembles R Q (f b) (g b')) :
    Action.Resembles R Q (act >>= f) (act' >>= g) := fun view view' hv ↦
  (ha view view' hv).bind fun b b' hb ↦ hf b b' hb view view' hv

protected theorem clock :
    Action.Resembles R Eq (Action.clock : Action σ Duration) Action.clock :=
  fun _ _ hv ↦ .pure hv.clock

end Action.Resembles

/-! ### What is seen -/

/-- A producer, what is to be checked of its values, and what there is to be seen of the user's
state. -/
structure Checkup (σ α γ : Type) where
  /-- Where the values come from. -/
  produce : Action σ (Except Fault α)
  /-- What is checked of them, and where. -/
  checks : List (Site × Matcher σ α)
  /-- What is seen of the user's state. -/
  seen : σ → γ
  /-- The number of the sample, as the matchers read it off. -/
  number : γ → Nat

namespace Checkup

variable (c : Checkup σ α γ)

/-- The two states look the same. -/
def SameSeen (s s' : σ) : Prop := c.seen s = c.seen s'

/-- The two states look the same, and the number of the sample is `n` in both. -/
def SameAt (n : Nat) (s s' : σ) : Prop := c.seen s = c.seen s' ∧ c.number (c.seen s) = n

/-- At sample `n` the action returns `b`, whatever it can see, and changes nothing that is seen. -/
def AnswersAt (n : Nat) (b : β) (act : Action σ β) : Prop :=
  ∀ scene, c.number scene = n → Action.Returns (c.seen · = scene) b act

namespace AnswersAt

variable {c} {n : Nat} {b : β} {act : Action σ β}

protected theorem pure (b : β) : c.AnswersAt n b (pure b : Action σ β) := fun _ _ ↦ .pure b

protected theorem bind {d : δ} {k : β → Action σ δ} (ha : c.AnswersAt n b act)
    (hk : c.AnswersAt n d (k b)) : c.AnswersAt n d (act >>= k) :=
  fun scene hn ↦ (ha scene hn).bind (hk scene hn)

protected theorem map (g : β → δ) (ha : c.AnswersAt n b act) : c.AnswersAt n (g b) (g <$> act) :=
  fun scene hn ↦ (ha scene hn).map g

/-- In code that makes checks it leaves the checklist alone. -/
theorem lift (ha : c.AnswersAt n b act) (list : Checklist) :
    c.AnswersAt n (b, list) ((act : Checked σ β).run list) := ha.bind (.pure (b, list))

/-- Two actions that answer at this sample do alike. -/
theorem resembles {b' : β'} {act' : Action σ β'} {Q : β → β' → Prop} (ha : c.AnswersAt n b act)
    (ha' : c.AnswersAt n b' act') (hQ : Q b b') : Action.Resembles (c.SameAt n) Q act act' := by
  rintro view view' - s s' ⟨hseen, hn⟩
  obtain ⟨t, hact, ht⟩ := ha _ hn view s rfl
  obtain ⟨t', hact', ht'⟩ := ha' _ (hseen ▸ hn) view' s' rfl
  rw [hact, hact']
  exact .returned hQ ⟨ht.trans (hseen.trans ht'.symm), ht ▸ hn⟩

end AnswersAt

/-! ### How the checks come out -/

/-- At sample `n` this is the failure of the first of the checks that the value does not pass;
nothing, if it passes all of them. -/
structure Finds (n : Nat) (checks : List (Site × Matcher σ α)) (a : α)
    (failure? : Option NestedFailure) : Prop where
  /-- So `allOf` judges. -/
  judge : c.AnswersAt n (.ok failure?.isNone) ((Matcher.allOf (checks.map Prod.snd)).judge a)
  /-- So the checks stop, with the failure on the list. -/
  expect : c.AnswersAt n (if failure?.isNone then .ok () else .error .stop, ⟨failure?⟩)
    ((Checklist.expectAll checks a).run ⟨none⟩)
  /-- The text of `allOf` is that of the failure, -/
  text : c.AnswersAt n (failure?.elim "" NestedFailure.message)
    ((Matcher.allOf (checks.map Prod.snd)).failureText a)
  /-- which is the text of the matcher that was checked at its place. -/
  blame : ∀ failure, failure? = some failure → ∃ check ∈ checks, check.1 = failure.site ∧
    c.AnswersAt n failure.message (check.2.failureText a)

end Checkup

/-- Judging a value is never a fault, and what the matcher answers about it goes by the number of
the sample. The matcher changes nothing that is seen. -/
def Matcher.AnswersByNumber (c : Checkup σ α γ) (m : Matcher σ α) : Prop :=
  ∀ a n, ∃ matched text, c.AnswersAt n (.ok matched) (m.judge a) ∧
    c.AnswersAt n text (m.failureText a)

/-- A matcher that depends on the value alone answers by the number of the sample. -/
theorem Matcher.answersByNumber_ofPure (c : Checkup σ α γ) (holds : α → Bool)
    (failure negated : α → String) : (ofPure holds failure negated).AnswersByNumber c :=
  fun _ _ ↦ ⟨_, _, .pure _, .pure _⟩

namespace Checkup

variable {c : Checkup σ α γ} {n : Nat}

/-- A check that the value passes leaves it to the rest of the checks. -/
theorem Finds.cons_passed {site : Site} {m : Matcher σ α} {rest : List (Site × Matcher σ α)}
    {a : α} {failure? : Option NestedFailure} (hjudge : c.AnswersAt n (Except.ok true) (m.judge a))
    (hrest : c.Finds n rest a failure?) : c.Finds n ((site, m) :: rest) a failure? where
  judge := hjudge.bind hrest.judge
  expect := by
    have hcheck : c.AnswersAt n none (m.check true a) := hjudge.bind (.pure none)
    have hexpect : c.AnswersAt n (Except.ok (), ⟨none⟩)
        ((Checklist.expect site m true a).run ⟨none⟩) :=
      (hcheck.lift ⟨none⟩).bind (.pure _)
    exact hexpect.bind hrest.expect
  text := by
    have haccepts : c.AnswersAt n true (m.accepts a) := hjudge.bind (.pure true)
    show c.AnswersAt n _ (Matcher.firstThat false (m :: rest.map Prod.snd) a >>= _)
    rw [Matcher.firstThat, bind_assoc]
    exact haccepts.bind hrest.text
  blame failure hfailure := by
    obtain ⟨check, hcheck, hblame⟩ := hrest.blame failure hfailure
    exact ⟨check, List.mem_cons_of_mem _ hcheck, hblame⟩

/-- A check that the value does not pass is the one to blame. -/
theorem Finds.cons_failed {site : Site} {m : Matcher σ α} (rest : List (Site × Matcher σ α))
    {a : α} {text : String} (hjudge : c.AnswersAt n (Except.ok false) (m.judge a))
    (htext : c.AnswersAt n text (m.failureText a)) :
    c.Finds n ((site, m) :: rest) a (some ⟨text, site⟩) where
  judge := hjudge.bind (.pure (Except.ok false))
  expect := by
    have hcheck : c.AnswersAt n (some text) (m.check true a) := hjudge.bind (htext.map some)
    have hexpect : c.AnswersAt n (Except.error Stop.stop, ⟨some ⟨text, site⟩⟩)
        ((Checklist.expect site m true a).run ⟨none⟩) :=
      (hcheck.lift ⟨none⟩).bind (.pure _)
    exact hexpect.bind (.pure _)
  text := by
    have haccepts : c.AnswersAt n false (m.accepts a) := hjudge.bind (.pure false)
    have hfirst : c.AnswersAt n (some m)
        (Matcher.firstThat false (m :: rest.map Prod.snd) a) := haccepts.bind (.pure (some m))
    exact hfirst.bind htext
  blame failure hfailure := by
    obtain rfl := Option.some.inj hfailure
    exact ⟨(site, m), List.mem_cons_self, rfl, htext⟩

/-- The checks come to something. -/
theorem exists_finds {checks : List (Site × Matcher σ α)}
    (hmatchers : ∀ check ∈ checks, check.2.AnswersByNumber c) (a : α) (n : Nat) :
    ∃ failure?, c.Finds n checks a failure? := by
  induction checks with
  | nil => exact ⟨none, .pure _, .pure _, .pure _, nofun⟩
  | cons check rest ih =>
    obtain ⟨site, m⟩ := check
    obtain ⟨matched, text, hjudge, htext⟩ := hmatchers _ List.mem_cons_self a n
    cases matched with
    | true =>
      obtain ⟨failure?, hrest⟩ := ih fun check hcheck ↦ hmatchers check (.tail _ hcheck)
      exact ⟨failure?, hrest.cons_passed hjudge⟩
    | false => exact ⟨_, .cons_failed rest hjudge htext⟩

end Checkup

/-! ### Samples -/

namespace Checkup

variable (c : Checkup σ α γ)

/-- The sample of the run whose matcher is `allOf`, after what the producer returned. -/
def judged : Except Fault α → Action σ (Sample α)
  | .error fault => pure (.missed (.fault fault))
  | .ok a => Sample.ofResult (.allOf (c.checks.map Prod.snd)) (.ok a)

/-- The sample of the run whose producer makes the checks. -/
def checked : Except Fault α → Action σ (Sample α)
  | .error fault => pure (.missed (.fault fault))
  | .ok a => do
    let (result, list) ← (Checklist.expectAll c.checks a).run ⟨none⟩
    Sample.ofResult .succeeding (list.settle (match result with
      | .ok () => .ok a
      | .error s => .error s.fault))

/-- The samples of the two runs at sample `n`: the same one, or a verdict and the failed check that
it is due to. -/
inductive Recast (n : Nat) : Sample α → Sample α → Prop
  | passed {a : α} (hfinds : c.Finds n c.checks a none) :
      Recast n (.judged a true) (.judged a true)
  | failed {a : α} {failure : NestedFailure} (hfinds : c.Finds n c.checks a (some failure)) :
      Recast n (.judged a false) (.missed (.nested failure))
  | missed {fault : Fault} : Recast n (.missed (.fault fault)) (.missed (.fault fault))

variable {c} {n : Nat} {s s' : Sample α}

theorem Recast.passed_eq (h : c.Recast n s s') : s.passed true = s'.passed true := by
  cases h <;> rfl

theorem Recast.steering_eq (h : c.Recast n s s') : s.steering = s'.steering := by
  cases h <;> rfl

/-- What the producer returns comes to such a pair of samples. -/
theorem exists_recast (hmatchers : ∀ check ∈ c.checks, check.2.AnswersByNumber c)
    (result : Except Fault α) (n : Nat) :
    ∃ s s', c.AnswersAt n s (c.judged result) ∧ c.AnswersAt n s' (c.checked result) ∧
      c.Recast n s s' := by
  cases result with
  | error fault => exact ⟨_, _, .pure _, .pure _, .missed⟩
  | ok a =>
    obtain ⟨- | failure, hfinds⟩ := exists_finds hmatchers a n
    · exact ⟨_, _, hfinds.judge.bind (.pure _), hfinds.expect.bind (.pure _), .passed hfinds⟩
    · exact ⟨_, _, hfinds.judge.bind (.pure _), hfinds.expect.bind (.pure _), .failed hfinds⟩

/-- The detail of the one sample can be told at every sample, -/
theorem Recast.exists_detail (hmatchers : ∀ check ∈ c.checks, check.2.AnswersByNumber c)
    (h : c.Recast n s s') (k : Nat) (mode : Mode) :
    ∃ text, c.AnswersAt k text (s.detail mode true (.allOf (c.checks.map Prod.snd))) := by
  cases h with
  | @passed a | @failed a =>
    obtain ⟨failure?, hfinds⟩ := exists_finds hmatchers a k
    exact ⟨_, hfinds.text⟩
  | missed => exact ⟨_, .pure _⟩

/-- and that of the other is a text. -/
theorem Recast.exists_detail_right (h : c.Recast n s s') (mode : Mode) :
    ∃ text, s'.detail mode true (.succeeding : Matcher σ α) = pure text := by
  cases h <;> exact ⟨_, rfl⟩

end Checkup

/-! ### Runs that stand alike -/

/-- The two runs have come equally far. What they have sampled is another matter. -/
structure Run.SameStage (r r' : Run σ α) : Prop where
  started : r.started = r'.started
  samples : r.samples = r'.samples
  requestedDelay : r.requestedDelay = r'.requestedDelay
  passes : r.passes = r'.passes
  phase : r.phase = r'.phase

namespace Checkup

variable (c : Checkup σ α γ)

/-- The one plan leaves to `allOf` what the producer of the other one checks. They differ in nothing
else. -/
structure Versions (p p' : Plan σ α) : Prop where
  mode : p.mode = p'.mode
  timeout : p.timeout = p'.timeout
  polling : p.polling = p'.polling
  repeats : p.repeats = p'.repeats
  token : p.token = p'.token
  time : p.time = p'.time
  description : p.description = p'.description
  source : p.source = .produced c.produce
  source' : p'.source = .checked (Checklist.produceChecked c.produce c.checks)
  matcher : p.matcher = .allOf (c.checks.map Prod.snd)
  matcher' : p'.matcher = .succeeding
  desired : p.desired = true
  desired' : p'.desired = true

/-- The matchers answer by the number of the sample and change nothing that is seen; all other code
does the same in states that look the same, whatever a report says. Nobody but the producer changes
the number of the sample. -/
structure Fair (token : Option (Token σ)) (time : TimeSource σ) (description : Description σ) :
    Prop where
  matchers : ∀ check ∈ c.checks, check.2.AnswersByNumber c
  produce : Action.Resembles c.SameSeen Eq c.produce c.produce
  token : ∀ s s', c.SameSeen s s' → token.elim false (· s) = token.elim false (· s')
  now : ∀ n, Action.Resembles (c.SameAt n) Eq time.now time.now
  sleep : ∀ n length, Action.Resembles (c.SameAt n) Eq (time.sleep length) (time.sleep length)
  wait : ∀ wait, time.sleepUntil? = some wait → ∀ n instant,
    Action.Resembles (c.SameAt n) Eq (wait instant) (wait instant)
  description : ∀ n, Action.Resembles (c.SameAt n) Eq description.render description.render

/-- The two runs have come equally far, and their latest samples are the two forms of one. -/
structure Agree (n : Nat) (r r' : Run σ α) : Prop extends Run.SameStage r r' where
  plans : c.Versions r.plan r'.plan
  latest : Option.Rel (fun l l' ↦ c.Recast n l.sample l'.sample) r.latest r'.latest

/-- The two runs stand alike after a step, and in particular end alike. -/
inductive AgreeAfter (n : Nat) : Turn σ α → Turn σ α → Prop
  | ready {r r' : Run σ α} (hr : c.Agree n r r') : AgreeAfter n (.ready r) (.ready r')
  | pending {r r' : Run σ α} (hr : c.Agree n r r') : AgreeAfter n (.pending r) (.pending r')
  | over {r r' : Run σ α} {ending : Option Ending} (hr : c.Agree n r r') :
      AgreeAfter n (.over r ending) (.over r' ending)

/-- The same has happened on the two steps, and the runs stand alike after them. -/
inductive RecastEvent : Run.Event α → Run.Event α → Prop
  | sampled {o o' : Observation α} {n : Nat} (hsample : c.Recast n o.sample o'.sample)
      (hclock : o.clock = o'.clock) : RecastEvent (.sampled o) (.sampled o')
  | looked {wake : Option Wake} : RecastEvent (.looked wake) (.looked wake)

variable {c} {n k : Nat} {p p' : Plan σ α} {r r' : Run σ α}

/-! ### Taking a sample -/

/-- Without a fixed value there is nothing to ask the oracle. -/
theorem ofResult_eq {source : Source σ α} (hfixed : source.isFixed = false) (m : Matcher σ α)
    (result : Except Mishap α) : Observation.ofResult source m result =
      Sample.ofResult m result >>= fun s ↦
        (⟨s, none, ·⟩) <$> (Action.clock : Action σ Duration) := by
  rw [Observation.ofResult]
  congr 1
  funext s
  have hask : s.askOracle source m = pure none := by rw [Sample.askOracle, hfixed]
  rw [hask, pure_bind, map_eq_pure_bind]

theorem Versions.take_eq (hp : c.Versions p p') : Observation.take p.source p.matcher =
    c.produce >>= fun result ↦ c.judged result >>= fun s ↦
      (⟨s, none, ·⟩) <$> (Action.clock : Action σ Duration) := by
  rw [hp.source, hp.matcher, Observation.take_eq, Source.take, bind_assoc]
  congr 1
  funext result
  cases result with
  | error fault => rfl
  | ok a => exact ofResult_eq rfl _ _

theorem Versions.take_eq_right (hp : c.Versions p p') : Observation.take p'.source p'.matcher =
    c.produce >>= fun result ↦ c.checked result >>= fun s ↦
      (⟨s, none, ·⟩) <$> (Action.clock : Action σ Duration) := by
  rw [hp.source', hp.matcher', Observation.take_eq, Source.take, Checklist.produceChecked,
    StateT.run_bind, StateT.run_monadLift, monadLift_self]
  simp only [bind_assoc, pure_bind]
  congr 1
  funext result
  cases result with
  | error fault => rfl
  | ok a =>
    rw [StateT.run_bind, bind_assoc, checked, bind_assoc]
    congr 1
    funext found
    rcases found with ⟨⟨⟩ | ⟨⟩, list⟩ <;> exact ofResult_eq rfl _ _

/-! ### Calling user code -/

/-- What does alike in all states that look the same and agree on the number of the sample does
alike in all states that look the same. -/
theorem alike_of_sameAt {x : Effect σ β} {y : Effect σ β'} {Q : β → β' → Prop}
    (h : ∀ n, Effect.Alike (c.SameAt n) Q x y) : Effect.Alike c.SameSeen Q x y :=
  fun s s' hs ↦ (h _ s s' ⟨hs, rfl⟩).mono_state fun _ _ ht ↦ ht.1

/-- Two runs whose reports do alike call alike what does the same whatever a report says. -/
theorem alike_call {R : σ → σ → Prop} {Q : β → β' → Prop} {act : Action σ β} {act' : Action σ β'}
    (hreport : ∀ clock room,
      Effect.Alike R (fun _ _ ↦ True) (r.report clock room) (r'.report clock room))
    (hact : Action.Resembles R Q act act') : Engine.Alike R Q (r.call act) (r'.call act') := by
  refine Engine.alike_clock.bind ?_
  rintro clock _ rfl
  exact Engine.alike_call_of fun instant ↦ hact _ _ ⟨rfl, .some (hreport clock)⟩

namespace Agree

/-- Both forms of a sample are published alike, whatever was sampled before. -/
theorem publish (hr : c.Agree n r r') {s s' : Sample α} (hs : c.Recast k s s')
    (capturedAt : Duration) : c.Agree k (r.publish s capturedAt) (r'.publish s' capturedAt) where
  started := hr.started
  samples := congrArg (· + 1) hr.samples
  requestedDelay := by
    rw [Run.publish, Run.publish]
    dsimp only
    rw [hs.steering_eq]
  passes := hr.passes
  phase := hr.phase
  plans := hr.plans
  latest := .some hs

variable (hr : c.Agree n r r') (hfair : c.Fair r.plan.token r.plan.time r.plan.description)

include hr hfair

theorem detail (k : Nat) :
    Action.Resembles (c.SameAt k) (fun _ _ ↦ True) r.detail r'.detail := by
  have hlatest := hr.latest
  rw [Run.detail, Run.detail]
  generalize r.latest = latest at hlatest ⊢
  generalize r'.latest = latest' at hlatest ⊢
  cases hlatest with
  | none => exact .pure trivial
  | @some l l' hsample =>
    obtain ⟨text, htext⟩ := hsample.exists_detail hfair.matchers k r.plan.mode
    obtain ⟨text', htext'⟩ := hsample.exists_detail_right r'.plan.mode
    dsimp only
    rw [hr.plans.matcher, hr.plans.desired, hr.plans.matcher', hr.plans.desired', htext']
    exact htext.resembles (.pure text') trivial

theorem elapsed (k : Nat) :
    Action.Resembles (c.SameAt k) (fun _ _ ↦ True) r.elapsed r'.elapsed := by
  have hnow : Action.Resembles (c.SameAt k) Eq r.plan.time.now r'.plan.time.now :=
    hr.plans.time ▸ hfair.now k
  exact hnow.bind fun _ _ _ ↦ .pure trivial

theorem heldReport (k : Nat) (clock : Duration) (room : Nat) :
    Effect.Alike (c.SameAt k) (fun _ _ ↦ True) (r.heldReport clock room)
      (r'.heldReport clock room) := by
  induction room with
  | zero => exact .halt _
  | succ room ih =>
    have hinside : View.Resembles (c.SameAt k) ⟨clock, some fun _ ↦ r.heldReport clock room⟩
        ⟨clock, some fun _ ↦ r'.heldReport clock room⟩ := ⟨rfl, .some fun _ ↦ ih⟩
    exact (hr.elapsed hfair k _ _ hinside).bind fun _ _ _ ↦ .halt _

/-- What a report does, though not what it says, is the same for both runs. -/
theorem report (k : Nat) (clock : Duration) (room : Nat) :
    Effect.Alike (c.SameAt k) (fun _ _ ↦ True) (r.report clock room) (r'.report clock room) := by
  have hrender : Action.Resembles (c.SameAt k) Eq r.plan.description.render
      r'.plan.description.render := hr.plans.description ▸ hfair.description k
  induction room with
  | zero => exact .halt _
  | succ room ih =>
    have hfree : View.Resembles (c.SameAt k) ⟨clock, some fun _ ↦ r.report clock room⟩
        ⟨clock, some fun _ ↦ r'.report clock room⟩ := ⟨rfl, .some fun _ ↦ ih⟩
    have hheld : View.Resembles (c.SameAt k) ⟨clock, some fun _ ↦ r.heldReport clock room⟩
        ⟨clock, some fun _ ↦ r'.heldReport clock room⟩ :=
      ⟨rfl, .some fun _ ↦ hr.heldReport hfair k clock room⟩
    refine (hr.elapsed hfair k _ _ hfree).bind fun _ _ _ ↦
      (hr.detail hfair k _ _ hheld).bind fun _ _ _ ↦ (hrender _ _ hfree).bind ?_
    rintro shown _ rfl
    cases shown <;> exact .pure trivial

/-- The producer is the only one to change the number of the sample, and it does so alike. -/
theorem call_produce {u u' : World σ} (hu : World.Alike (c.SameAt n) u u') :
    ∃ k, SameEnd (World.Alike (c.SameAt k)) Eq (r.call c.produce u) (r'.call c.produce u') := by
  have hreport : ∀ clock room, Effect.Alike c.SameSeen (fun _ _ ↦ True) (r.report clock room)
      (r'.report clock room) := fun clock room ↦
    alike_of_sameAt fun k ↦ hr.report hfair k clock room
  have hend := alike_call hreport hfair.produce u u' ⟨hu.user.1, hu.clock, hu.notices⟩
  refine ⟨c.number (c.seen (r.call c.produce u).2.user), ?_⟩
  generalize r.call c.produce u = x at hend ⊢
  generalize r'.call c.produce u' = y at hend ⊢
  cases hend with
  | returned hresult hstate =>
    exact .returned hresult ⟨⟨hstate.user, rfl⟩, hstate.clock, hstate.notices⟩
  | halted hstate => exact .halted ⟨⟨hstate.user, rfl⟩, hstate.clock, hstate.notices⟩

/-- They find out alike whatever they wait for. -/
theorem waitsAlike (k : Nat) : Run.WaitsAlike (World.Alike (c.SameAt k)) r r' where
  clock _ _ hw := hw.clock
  slept w w' length hw := ⟨hw.user, hw.clock, congrArg (Notice.slept length :: ·) hw.notices⟩
  token w w' hw := by
    rw [Plan.isCancelled, Plan.isCancelled, ← hr.plans.token]
    exact hfair.token _ _ hw.user.1
  now := by
    rw [← hr.plans.time]
    exact alike_call (hr.report hfair k) (hfair.now k)
  sleep length := by
    rw [← hr.plans.time]
    exact alike_call (hr.report hfair k) (hfair.sleep k length)
  wait := by
    rw [← hr.plans.time]
    cases hwait : r.plan.time.sleepUntil? with
    | none => exact .none
    | some wait =>
      exact .some fun instant ↦ alike_call (hr.report hfair k) (hfair.wait wait hwait k instant)
  deadline := by rw [Run.deadline?, Run.deadline?, hr.started, hr.plans.timeout]

/-! ### Steps -/

theorem finish (cause : Cause) : Engine.Alike (c.SameAt n) (c.AgreeAfter n) (r.finish cause)
    (r'.finish cause) := by
  refine (Run.alike_finish ((hr.waitsAlike hfair n).elapsed hr.started)
    (fun _ ↦ Engine.alike_note _) hr.plans.mode hr.samples cause).mono ?_
  rintro _ _ ⟨ending, rfl, rfl⟩
  exact .over hr

theorem startWaiting :
    Engine.Alike (c.SameAt n) (c.Agree n) r.startWaiting r'.startWaiting := by
  have hinterval : r.interval = r'.interval := by
    rw [Run.interval, Run.interval, hr.requestedDelay, hr.plans.polling]
  have hused : c.Agree n { r with requestedDelay := none } { r' with requestedDelay := none } :=
    ⟨⟨hr.started, hr.samples, rfl, hr.passes, hr.phase⟩, hr.plans, hr.latest⟩
  refine ((hused.waitsAlike hfair n).startWaiting hinterval).mono ?_
  rintro _ _ ⟨tick, rfl, rfl⟩
  exact ⟨⟨hr.started, hr.samples, rfl, hr.passes, rfl⟩, hr.plans, hr.latest⟩

/-- **After the two forms of a sample both runs go on alike.** -/
theorem goBy {o o' : Observation α} (hs : c.Recast k o.sample o'.sample)
    (hmayChange : o.mayChange = o'.mayChange) :
    Engine.Alike (c.SameAt k) (c.AgreeAfter k) (r.goBy o) (r'.goBy o') := by
  have hpublished := hr.publish hs
  have hpassed : o.sample.passed r.plan.desired = o'.sample.passed r'.plan.desired := by
    rw [hr.plans.desired, hr.plans.desired', hs.passed_eq]
  have hrecord := Run.alike_record ((hr.waitsAlike hfair k).elapsed hr.started)
    (fun capturedAt ↦ ((hpublished capturedAt).waitsAlike hfair k).elapsed hr.started)
    fun logged ↦ by
      rw [hr.plans.mode, hr.samples, hpassed]
      exact Engine.alike_note _
  refine Run.alike_goBy hrecord ?_ (fun capturedAt ↦ (hpublished capturedAt).finish hfair)
    fun capturedAt passes ↦ ?_
  · rw [Observation.reading, Observation.reading, hpassed, hmayChange, hs.steering_eq,
      hr.plans.mode, hr.plans.repeats, hr.passes]
  · have hcounted : c.Agree k { r.publish o.sample capturedAt with passes := passes }
        { r'.publish o'.sample capturedAt with passes := passes } :=
      ⟨⟨hr.started, (hpublished capturedAt).samples, (hpublished capturedAt).requestedDelay, rfl,
        hr.phase⟩, hr.plans, .some hs⟩
    exact (hcounted.startWaiting hfair).mono fun _ _ h ↦ .ready h

/-- After a look both runs go on alike. -/
theorem heed (tick : Timer) (wake : Option Wake) (found : Option Timer) :
    Engine.Alike (c.SameAt n) (c.AgreeAfter n) (r.heed tick wake found)
      (r'.heed tick wake found) :=
  Run.alike_heed hr.plans.mode (hr.finish hfair)
    (fun _ ↦ .pending
      ⟨⟨hr.started, hr.samples, hr.requestedDelay, hr.passes, rfl⟩, hr.plans, hr.latest⟩)
    (.ready ⟨⟨hr.started, hr.samples, hr.requestedDelay, hr.passes, rfl⟩, hr.plans, hr.latest⟩)

/-- **One step keeps the two runs together.** If a sample was taken, its number is a new one. -/
theorem traced {u u' : World σ} (hu : World.Alike (c.SameAt n) u u') :
    ∃ k, SameEnd (World.Alike (c.SameAt k))
      (fun x x' ↦ c.RecastEvent x.1 x'.1 ∧ c.AgreeAfter k x.2 x'.2) (r.traced u)
      (r'.traced u') := by
  rcases hphase : r.phase with - | ⟨tick, deadline⟩
  · obtain ⟨k, hproduced⟩ := hr.call_produce hfair hu
    refine ⟨k, ?_⟩
    rw [Run.traced_of_sampling hphase, Run.traced_of_sampling (hr.phase ▸ hphase), Run.observe,
      Run.observe, hr.plans.take_eq, hr.plans.take_eq_right, Run.call_bind, Run.call_bind,
      bind_assoc, bind_assoc]
    refine hproduced.bind ?_
    rintro result _ t t' rfl ht
    obtain ⟨s, s', hs, hs', hrecast⟩ := exists_recast hfair.matchers result k
    have hobserved : Action.Resembles (c.SameAt k) (fun o o' : Observation α ↦
          (o.sample = s ∧ o'.sample = s') ∧ o.clock = o'.clock ∧ o.mayChange = o'.mayChange)
        (c.judged result >>= fun s ↦ (⟨s, none, ·⟩) <$> (Action.clock : Action σ Duration))
        (c.checked result >>= fun s ↦ (⟨s, none, ·⟩) <$> (Action.clock : Action σ Duration)) := by
      refine (hs.resembles hs' (Q := fun x x' ↦ x = s ∧ x' = s') ⟨rfl, rfl⟩).bind ?_
      rintro _ _ ⟨rfl, rfl⟩
      rw [map_eq_pure_bind, map_eq_pure_bind]
      exact Action.Resembles.clock.bind fun _ _ hclock ↦ .pure ⟨⟨rfl, rfl⟩, hclock, rfl⟩
    refine ((alike_call (hr.report hfair k) hobserved).bind ?_) t t' ht
    rintro o o' ⟨⟨rfl, rfl⟩, hclock, hmayChange⟩
    exact (hr.goBy hfair hrecast hmayChange).map fun _ _ h ↦ ⟨.sampled hrecast hclock, h⟩
  · refine ⟨n, ?_⟩
    rw [Run.traced_of_waiting hphase, Run.traced_of_waiting (hr.phase ▸ hphase)]
    refine (((hr.waitsAlike hfair n).look tick deadline).bind ?_) u u' hu
    rintro ⟨wake, found⟩ _ rfl
    exact (hr.heed hfair tick wake found).map fun _ _ h ↦ ⟨.looked, h⟩

end Agree

/-! ### Runs in the same surroundings -/

section Courses

variable {between : Turn σ α → World σ → World σ → Prop} {r₀ r₀' : Run σ α}
  {w₀ w₀' w w' : World σ} {h h' : List (Run.Event α)} {turn turn' : Turn σ α}

/-- What the one run judged and did not pass is a failed check of the other. -/
theorem Agree.exists_nested (hr : c.Agree n r r') {a : α}
    (hlatest : r.latest.map Published.sample = some (.judged a false)) :
    ∃ failure, r'.latest.map Published.sample = some (.missed (.nested failure)) := by
  have hrecast := hr.latest
  generalize r.latest = latest at hlatest hrecast
  generalize r'.latest = latest' at hrecast ⊢
  cases hrecast with
  | none => cases hlatest
  | @some l l' hsample =>
    have hl : l.sample = .judged a false := Option.some.inj hlatest
    rw [hl] at hsample
    generalize hl' : l'.sample = s' at hsample
    cases hsample
    exact ⟨_, congrArg some hl'⟩

theorem AgreeAfter.run (ht : c.AgreeAfter n turn turn') : c.Agree n turn.run turn'.run := by
  cases ht <;> assumption

theorem AgreeAfter.exists_run? (ht : c.AgreeAfter n turn turn') (hrun : turn.run? = some r) :
    ∃ r', turn'.run? = some r' ∧ c.Agree n r r' := by
  rcases ht with hr | hr | hr
  · obtain rfl := Option.some.inj hrun
    exact ⟨_, rfl, hr⟩
  · obtain rfl := Option.some.inj hrun
    exact ⟨_, rfl, hr⟩
  · cases hrun

theorem AgreeAfter.exists_run?_right (ht : c.AgreeAfter n turn turn')
    (hrun : turn'.run? = some r') : ∃ r, turn.run? = some r ∧ c.Agree n r r' := by
  rcases ht with hr | hr | hr
  · obtain rfl := Option.some.inj hrun
    exact ⟨_, rfl, hr⟩
  · obtain rfl := Option.some.inj hrun
    exact ⟨_, rfl, hr⟩
  · cases hrun

variable (c) in
/-- The surroundings treat two runs alike that stand alike: what they can do to the world of the one
they can do to that of the other. They leave the number of the sample alone. -/
structure EvenHanded (between : Turn σ α → World σ → World σ → Prop) : Prop where
  forth : ∀ n turn turn' w w' u, c.AgreeAfter n turn turn' → World.Alike (c.SameAt n) w w' →
    between turn w u → ∃ u', between turn' w' u' ∧ World.Alike (c.SameAt n) u u'
  back : ∀ n turn turn' w w' u', c.AgreeAfter n turn turn' → World.Alike (c.SameAt n) w w' →
    between turn' w' u' → ∃ u, between turn w u ∧ World.Alike (c.SameAt n) u u'

variable (c) in
/-- The two runs have met with the same, and stand alike. -/
structure Paired (n : Nat) (h h' : List (Run.Event α)) (turn turn' : Turn σ α) (w w' : World σ) :
    Prop where
  events : List.Forall₂ c.RecastEvent h h'
  stand : c.AgreeAfter n turn turn'
  worlds : World.Alike (c.SameAt n) w w'

/-- What the run can do that leaves the checks to `allOf` the other one can do as well. -/
theorem exists_paired (hfair : c.Fair r₀.plan.token r₀.plan.time r₀.plan.description)
    (heven : c.EvenHanded between) (hr₀ : c.Agree n r₀ r₀') (hw₀ : World.Alike (c.SameAt n) w₀ w₀')
    (hc : Run.Course between r₀ w₀ h turn w) : ∃ k h' turn' w',
      Run.Course between r₀' w₀' h' turn' w' ∧ c.Paired k h h' turn turn' w w' := by
  induction hc with
  | start => exact ⟨n, _, _, _, .start, .nil, .ready hr₀, hw₀⟩
  | @step h turn next r w u v e hc hrun hbetween hsteps ih =>
    obtain ⟨k, h', turn', w', hc', hpaired⟩ := ih
    obtain ⟨r', hrun', hr⟩ := hpaired.stand.exists_run? hrun
    obtain ⟨u', hbetween', hu⟩ := heven.forth _ _ _ _ _ _ hpaired.stand hpaired.worlds hbetween
    have hplan : r.plan = r₀.plan := hc.plan_eq hrun
    obtain ⟨j, hend⟩ := hr.traced (hplan ▸ hfair) hu
    rw [Run.steps_iff_traced.1 hsteps] at hend
    obtain ⟨⟨e', next'⟩, v', htraced, ⟨hevent, hstand⟩, hv⟩ := hend.exists_ok
    exact ⟨j, h' ++ [e'], next', v', hc'.step hrun' hbetween' (Run.steps_iff_traced.2 htraced),
      List.rel_append hpaired.events (.cons hevent .nil), hstand, hv⟩

/-- What the run can do whose producer makes the checks the other one can do as well. -/
theorem exists_paired_right (hfair : c.Fair r₀.plan.token r₀.plan.time r₀.plan.description)
    (heven : c.EvenHanded between) (hr₀ : c.Agree n r₀ r₀') (hw₀ : World.Alike (c.SameAt n) w₀ w₀')
    (hc' : Run.Course between r₀' w₀' h' turn' w') : ∃ k h turn w,
      Run.Course between r₀ w₀ h turn w ∧ c.Paired k h h' turn turn' w w' := by
  induction hc' with
  | start => exact ⟨n, _, _, _, .start, .nil, .ready hr₀, hw₀⟩
  | @step h' turn' next' r' w' u' v' e' hc' hrun' hbetween' hsteps' ih =>
    obtain ⟨k, h, turn, w, hc, hpaired⟩ := ih
    obtain ⟨r, hrun, hr⟩ := hpaired.stand.exists_run?_right hrun'
    obtain ⟨u, hbetween, hu⟩ := heven.back _ _ _ _ _ _ hpaired.stand hpaired.worlds hbetween'
    have hplan : r.plan = r₀.plan := hc.plan_eq hrun
    obtain ⟨j, hend⟩ := hr.traced (hplan ▸ hfair) hu
    rw [Run.steps_iff_traced.1 hsteps'] at hend
    obtain ⟨⟨e, next⟩, v, htraced, ⟨hevent, hstand⟩, hv⟩ := hend.exists_ok_left
    exact ⟨j, h ++ [e], next, v, hc.step hrun hbetween (Run.steps_iff_traced.2 htraced),
      List.rel_append hpaired.events (.cons hevent .nil), hstand, hv⟩

end Courses

variable (c) in
/-- What the two runs have come to is the same. -/
structure Concur (h : List (Run.Event α)) (turn : Turn σ α) (w : World σ) (h' : List (Run.Event α))
    (turn' : Turn σ α) (w' : World σ) : Prop where
  /-- They have met with the same, step by step and at the same instants. -/
  events : List.Forall₂ c.RecastEvent h h'
  /-- They stand at the same point, and if they are over they have the same ending. -/
  stand : ∃ n, c.AgreeAfter n turn turn'
  clock : w.clock = w'.clock
  /-- They have started the same sleeps and written the same log. -/
  notices : w.notices = w'.notices
  seen : c.seen w.user = c.seen w'.user
  /-- A failed check is explained by its place, and then as the other run explains its sample. -/
  blame : ∀ failure, turn'.run.latest.map Published.sample = some (.missed (.nested failure)) →
    turn'.run.detail = pure ("The function passed to " ++ turn'.run.plan.mode.text ++
      " failed at " ++ failure.site ++ " with:\n" ++ failure.message) ∧
    (∃ check ∈ c.checks, check.1 = failure.site) ∧
    ∀ view, ∃ t, turn.run.detail view w.user = (.ok failure.message, t)

theorem Paired.concur {h h' : List (Run.Event α)} {turn turn' : Turn σ α} {w w' : World σ}
    (hpaired : c.Paired n h h' turn turn' w w') : c.Concur h turn w h' turn' w' where
  events := hpaired.events
  stand := ⟨n, hpaired.stand⟩
  clock := hpaired.worlds.clock
  notices := hpaired.worlds.notices
  seen := hpaired.worlds.user.1
  blame failure hfailure := by
    have hr := hpaired.stand.run
    have hlatest := hr.latest
    rw [Run.detail, Run.detail, hr.plans.matcher, hr.plans.desired]
    generalize turn.run.latest = latest at hlatest ⊢
    generalize turn'.run.latest = latest' at hlatest hfailure ⊢
    cases hlatest with
    | none => cases hfailure
    | @some l l' hsample =>
      have hl' : l'.sample = .missed (.nested failure) := Option.some.inj hfailure
      dsimp only
      rw [hl'] at hsample ⊢
      generalize l.sample = s at hsample ⊢
      cases hsample with | failed hfinds
      obtain ⟨check, hcheck, hsite, -⟩ := hfinds.blame failure rfl
      refine ⟨rfl, ⟨check, hcheck, hsite⟩, fun view ↦ ?_⟩
      obtain ⟨t, htext, -⟩ := hfinds.text _ hpaired.worlds.user.2 view w.user rfl
      exact ⟨t, htext⟩

/-! ### Two assertions -/

/-- The assertion about what the producer returns. -/
def judging (c : Checkup σ α γ) (a : Assertion σ α) (description : Description σ) :
    Except Misconfiguration (Plan σ α) :=
  ({ a with subject := .produced c.produce } : Assertion σ α).plan
    (.allOf (c.checks.map Prod.snd)) true description

/-- The assertion about a producer that makes the checks, which is only to succeed. -/
def checking (c : Checkup σ α γ) (a : Assertion σ α) (description : Description σ) :
    Except Misconfiguration (Plan σ α) :=
  ({ a with subject := .checked (Checklist.produceChecked c.produce c.checks) } :
    Assertion σ α).plan .succeeding true description

theorem checking_eq (c : Checkup σ α γ) (a : Assertion σ α) (description : Description σ) :
    c.checking a description = (fun p ↦ { p with
      source := .checked (Checklist.produceChecked c.produce c.checks)
      matcher := .succeeding }) <$> c.judging a description := by
  rw [checking, judging, Assertion.plan, Assertion.plan]
  dsimp only
  rcases a.timeout with cause | timeout
  · rfl
  rcases a.polling with cause | polling
  · rfl
  rcases a.repeats with cause | repeats <;> rfl

theorem versions_of_judging {a : Assertion σ α} {description : Description σ}
    (h : c.judging a description = .ok p) : c.Versions p { p with
        source := .checked (Checklist.produceChecked c.produce c.checks)
        matcher := .succeeding } ∧
      p.token = a.token ∧ p.time = a.bench.time ∧ p.description = description := by
  rw [judging, Assertion.plan] at h
  obtain ⟨timeout, -, h⟩ := except_bind_eq_ok_iff.1 h
  obtain ⟨polling, -, h⟩ := except_bind_eq_ok_iff.1 h
  obtain ⟨repeats, -, h⟩ := except_bind_eq_ok_iff.1 h
  cases h
  exact ⟨⟨rfl, rfl, rfl, rfl, rfl, rfl, rfl, rfl, rfl, rfl, rfl, rfl, rfl⟩, rfl, rfl, rfl⟩

/-- **Checks inside the producer and `allOf` outside of it agree.** Both assertions are refused for
the same reason, or neither is. If neither is, every course of the run of the one is matched by a
course of the run of the other in the same surroundings, and the two have come to the same. -/
theorem checks_agree (c : Checkup σ α γ) (a : Assertion σ α) (description : Description σ)
    (hfair : c.Fair a.token a.bench.time description) :
    (∀ cause, c.judging a description = .error cause ↔ c.checking a description = .error cause) ∧
    ∀ p p', c.judging a description = .ok p → c.checking a description = .ok p' →
      ∀ between, c.EvenHanded between → ∀ n w₀ w₀', World.Alike (c.SameAt n) w₀ w₀' →
        ∀ started,
          (∀ h turn w, Run.Course between (.start p started) w₀ h turn w → ∃ h' turn' w',
            Run.Course between (.start p' started) w₀' h' turn' w' ∧
              c.Concur h turn w h' turn' w') ∧
          ∀ h' turn' w', Run.Course between (.start p' started) w₀' h' turn' w' → ∃ h turn w,
            Run.Course between (.start p started) w₀ h turn w ∧ c.Concur h turn w h' turn' w' := by
  refine ⟨fun cause ↦ ?_, ?_⟩
  · rw [checking_eq]
    cases c.judging a description with
    | error cause' => rfl
    | ok p => exact ⟨nofun, nofun⟩
  intro p p' hp hp' between heven n w₀ w₀' hw₀ started
  rw [checking_eq, hp] at hp'
  obtain rfl := Except.ok.inj hp'
  obtain ⟨hversions, htoken, htime, hdescription⟩ := versions_of_judging hp
  have hfair' : c.Fair p.token p.time p.description := by rwa [htoken, htime, hdescription]
  have hr₀ : c.Agree n (.start p started) (.start { p with
      source := .checked (Checklist.produceChecked c.produce c.checks)
      matcher := .succeeding } started) := ⟨⟨rfl, rfl, rfl, rfl, rfl⟩, hversions, .none⟩
  constructor
  · intro h turn w hc
    obtain ⟨k, h', turn', w', hc', hpaired⟩ := exists_paired hfair' heven hr₀ hw₀ hc
    exact ⟨h', turn', w', hc', hpaired.concur⟩
  · intro h' turn' w' hc'
    obtain ⟨k, h, turn, w, hc, hpaired⟩ := exists_paired_right hfair' heven hr₀ hw₀ hc'
    exact ⟨h, turn, w, hc, hpaired.concur⟩

/-- Moving the clock is fair to both. -/
theorem evenHanded_clockMoves (c : Checkup σ α γ) : c.EvenHanded Run.clockMoves where
  forth n turn turn' w w' u _ hw hu := by
    obtain ⟨clock, rfl⟩ := hu
    exact ⟨_, ⟨clock, rfl⟩, hw.user, rfl, hw.notices⟩
  back n turn turn' w w' u' _ hw hu' := by
    obtain ⟨clock, rfl⟩ := hu'
    exact ⟨_, ⟨clock, rfl⟩, hw.user, rfl, hw.notices⟩

/-- A producer of fives, of which it is checked that they are five and that it is the third one. -/
def third : Checkup Nat Nat Nat where
  produce := do
    modify (· + 1)
    return .ok 5
  checks := [("value", .equalTo 5),
    ("count", .satisfying (fun _ ↦ return 3 ≤ (← get)) "is the third")]
  seen := id
  number := id

theorem fair_third : third.Fair none (.runtime .zero) .none where
  matchers check hcheck := by
    rcases List.mem_cons.1 hcheck with rfl | hcheck
    · exact Matcher.answersByNumber_ofPure _ _ _ _
    · obtain rfl := List.mem_singleton.1 hcheck
      refine fun a n ↦ ⟨decide (3 ≤ n), _, ?_, .pure _⟩
      rintro scene rfl view s rfl
      exact ⟨s, rfl, rfl⟩
  produce view view' _ s s' hs := by
    obtain rfl : s = s' := hs
    exact .returned rfl rfl
  token _ _ _ := rfl
  now _ := Action.Resembles.clock.bind fun _ _ h ↦ .pure (by rw [h])
  sleep _ _ := Action.Resembles.clock.bind fun _ _ h ↦ .pure (by rw [h])
  wait := by
    rintro wait ⟨⟩ n instant
    exact .pure rfl
  description _ := .pure rfl

/-- The assertion about them, up to its subject. -/
def thirdTime : Assertion Nat Nat :=
  .make ⟨none, {}, .runtime .zero⟩ .eventually .returnsNothing "third"

/-- Its plan, if the checks are left to `allOf`. -/
def thirdPlan : Plan Nat Nat :=
  ⟨.eventually, Budgets.timeout {} .eventually, Budgets.polling {} .eventually, 1, none,
    .produced third.produce, .allOf (third.checks.map Prod.snd), true, .none, .runtime .zero⟩

/-- The time is up after the first sample, for both runs, and both explain it by the same text. -/
theorem checks_agree_third : ∃ p' h r w h' r' w' elapsed site,
    third.judging thirdTime .none = .ok thirdPlan ∧ third.checking thirdTime .none = .ok p' ∧
    Run.Course Run.clockMoves (.start thirdPlan .zero) ⟨0, .zero, []⟩ h
      (.over r (some (.timedOut elapsed))) w ∧
    Run.Course Run.clockMoves (.start p' .zero) ⟨0, .zero, []⟩ h'
      (.over r' (some (.timedOut elapsed))) w' ∧
    r.detail ⟨.zero, none⟩ w.user = (.ok "5 does not satisfy: is the third", w.user) ∧
    r'.detail = pure ("The function passed to " ++ r'.plan.mode.text ++ " failed at " ++ site ++
      " with:\n" ++ "5 does not satisfy: is the third") := by
  obtain ⟨h, r, w, hc, hlatest, huser⟩ : ∃ h r w,
      Run.Course Run.clockMoves (.start thirdPlan .zero) ⟨0, .zero, []⟩ h
        (.over r (some (.timedOut (.ofMillis 1000)))) w ∧
      r.latest.map Published.sample = some (.judged 5 false) ∧ w.user = 1 :=
    ⟨_, _, _, .step (.step .start rfl ⟨.zero, rfl⟩ (.sampled rfl rfl rfl))
      rfl ⟨.ofMillis 1000, rfl⟩ (.looked rfl rfl rfl), rfl, rfl⟩
  have hp : third.judging thirdTime .none = .ok thirdPlan := rfl
  obtain ⟨p', hp'⟩ : ∃ p', third.checking thirdTime .none = .ok p' := ⟨_, rfl⟩
  have hw₀ : World.Alike (third.SameAt 0) ⟨0, .zero, []⟩ ⟨0, .zero, []⟩ := ⟨⟨rfl, rfl⟩, rfl, rfl⟩
  obtain ⟨h', turn', w', hc', hconcur⟩ := ((checks_agree third thirdTime .none fair_third).2
    thirdPlan p' hp hp' _ (evenHanded_clockMoves third) 0 _ _ hw₀ .zero).1 _ _ _ hc
  obtain ⟨n, hstand⟩ := hconcur.stand
  obtain - | - | @⟨_, r', _, hr⟩ := hstand
  obtain ⟨failure, hfailure⟩ := hr.exists_nested hlatest
  obtain ⟨hdetail', -, hsame⟩ := hconcur.blame failure hfailure
  obtain ⟨t, htext⟩ := hsame ⟨.zero, none⟩
  have hdetail : r.detail ⟨.zero, none⟩ w.user =
      (.ok (inspect 5 ++ " does not satisfy: " ++ "is the third"), w.user) := by
    have hplan : r.plan = thirdPlan := hc.run_eq.1
    rw [Run.detail, hplan, huser]
    generalize r.latest = latest at hlatest
    cases latest with
    | none => cases hlatest
    | some l =>
      obtain ⟨s, capturedAt⟩ := l
      obtain rfl : s = .judged 5 false := Option.some.inj hlatest
      rfl
  have hshown : inspect 5 ++ " does not satisfy: " ++ "is the third" =
      "5 does not satisfy: is the third" := by decide
  rw [hshown] at hdetail
  have hmessage : failure.message = "5 does not satisfy: is the third" :=
    Except.ok.inj (Prod.mk.inj (htext.symm.trans hdetail)).1
  rw [hmessage] at hdetail'
  exact ⟨p', h, r, w, h', r', w', _, failure.site, hp, hp', hc, hc', hdetail, hdetail'⟩

end Checkup

end PollAssert
