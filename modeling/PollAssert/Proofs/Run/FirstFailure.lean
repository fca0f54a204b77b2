import PollAssert.Matcher.Values
import PollAssert.Proofs.Run.Semantics

/-!
# The first failed check decides the sample

A producer that makes checks is handed a checklist and may do with it what it likes, as long as it
goes through the three operations that there are: check a value, fail outright, and ask whether a
check has failed. In between it runs other code, and what it does next may depend on all it has
seen, so a `Stop` may be passed on or ignored. `Checking` is what such a producer does in the course
of one sample, and `Checking.Reaches` follows it, operation by operation, from a fresh checklist.

At every point that a producer reaches (`Checking.Reaches.upToDate`)

* each check so far has been answered by what the matcher said of it, a failed one by a `Stop`;
* the checklist holds the first failure and no other, and says so when it is asked.

So if any check has failed, the first that did is what the sample comes to, whatever the producer
returns in the end, and neither the matcher nor a signal has a say; and if none has, the sample is
what the producer returned (`Checking.Reaches.decides`). Every sample starts with a fresh checklist,
so in a run each sample is decided by its own checks (`Run.Course.first_failure_decides`).
-/

namespace PollAssert

variable {σ α β γ : Type}

/-! ### What matchers say of a value -/

/-- What a matcher says of a value that is checked. -/
inductive Finding where
  /-- The desired verdict. -/
  | asDesired
  /-- The other one, which is explained by this text. -/
  | refuted (text : String)
  /-- No verdict. -/
  | unjudged (fault : Fault)

namespace Finding

/-- Why the check fails, if it does. -/
def complaint? : Finding → Option String
  | asDesired => none
  | refuted text => some text
  | unjudged fault =>
    some ("The matcher returned the following error:\n    " ++ fault.chainText)

/-- How a check is to be answered. -/
def answer : Finding → Except Stop Unit
  | asDesired => .ok ()
  | _ => .error .stop

end Finding

/-- Asked about the value, the matcher says this, and leaves the given state behind. The text is
asked for after a verdict only, and only if it is not the desired one. -/
inductive Matcher.Finds (m : Matcher σ α) (desired : Bool) (a : α) (view : View σ) (s : σ) :
    Finding → σ → Prop
  | asDesired {t : σ} (hjudge : m.judge a view s = (.ok (.ok desired), t)) :
      Finds m desired a view s .asDesired t
  | refuted {t u : σ} {text : String} (hjudge : m.judge a view s = (.ok (.ok !desired), t))
      (htext : m.textFor desired a view t = (.ok text, u)) :
      Finds m desired a view s (.refuted text) u
  | unjudged {t : σ} {fault : Fault} (hjudge : m.judge a view s = (.ok (.error fault), t)) :
      Finds m desired a view s (.unjudged fault) t

namespace Matcher

variable {m : Matcher σ α} {desired : Bool} {a : α} {view : View σ} {s t : σ}

theorem Finds.check_eq {finding : Finding} (h : m.Finds desired a view s finding t) :
    m.check desired a view s = (.ok finding.complaint?, t) := by
  cases h with
  | asDesired hjudge =>
    refine (Effect.bind_of_ok hjudge _).trans ?_
    dsimp only
    rw [if_pos rfl]
    rfl
  | refuted hjudge htext =>
    refine (Effect.bind_of_ok hjudge _).trans ?_
    dsimp only
    rw [if_neg (by cases desired <;> decide)]
    exact Effect.map_eq_ok_iff.2 ⟨_, htext, rfl⟩
  | unjudged hjudge => exact Effect.bind_of_ok hjudge _

/-- A check that returns is one of something that the matcher said. -/
theorem exists_finds {complaint? : Option String}
    (h : m.check desired a view s = (.ok complaint?, t)) :
    ∃ finding, m.Finds desired a view s finding t := by
  obtain ⟨verdict, u, hjudge, hrest⟩ := Effect.bind_eq_ok_iff.1 h
  cases verdict with
  | error fault =>
    obtain ⟨-, rfl⟩ := Effect.pure_eq_ok_iff.1 hrest
    exact ⟨_, .unjudged hjudge⟩
  | ok matched =>
    dsimp only at hrest
    by_cases hmatched : matched = desired
    · rw [if_pos hmatched] at hrest
      obtain ⟨-, rfl⟩ := Effect.pure_eq_ok_iff.1 hrest
      exact ⟨_, .asDesired (hmatched ▸ hjudge)⟩
    · rw [if_neg hmatched] at hrest
      obtain ⟨text, htext, -⟩ := Effect.map_eq_ok_iff.1 hrest
      exact ⟨_, .refuted (Bool.eq_not.2 hmatched ▸ hjudge) htext⟩

end Matcher

/-! ### The operations of a checklist -/

namespace Checklist

variable {c c' c'' : Checklist} {view : View σ} {s t t' : σ}

theorem run_inj {x : Checked σ β} {b b' : β} (h : x.run c view s = (.ok (b, c'), t))
    (h' : x.run c view s = (.ok (b', c''), t')) : b = b' ∧ c' = c'' :=
  Prod.mk.inj (Except.ok.inj (Prod.mk.inj (h.symm.trans h')).1)

/-- Code that makes no checks keeps the checklist. -/
theorem run_lift_eq_ok_iff {act : Action σ β} {b : β} :
    (act : Checked σ β).run c view s = (.ok (b, c'), t) ↔ act view s = (.ok b, t) ∧ c' = c := by
  rw [StateT.run_monadLift, monadLift_self]
  constructor
  · intro h
    obtain ⟨b', t', hact, hpure⟩ := Effect.bind_eq_ok_iff.1 h
    obtain ⟨hpair, rfl⟩ := Effect.pure_eq_ok_iff.1 hpure
    obtain ⟨rfl, rfl⟩ := Prod.mk.inj hpair
    exact ⟨hact, rfl⟩
  · rintro ⟨hact, rfl⟩
    exact Effect.bind_of_ok hact _

theorem run_bind_of_ok {x : Checked σ β} {f : β → Checked σ γ} {b : β}
    (h : x.run c view s = (.ok (b, c'), t)) :
    (x >>= f).run c view s = (f b).run c' view t := by
  rw [StateT.run_bind]
  exact Effect.bind_of_ok h _

theorem of_run_bind_eq_ok {x : Checked σ β} {f : β → Checked σ γ} {result : γ × Checklist}
    (h : (x >>= f).run c view s = (.ok result, t)) :
    ∃ b c' u, x.run c view s = (.ok (b, c'), u) ∧ (f b).run c' view u = (.ok result, t) := by
  rw [StateT.run_bind] at h
  obtain ⟨⟨b, c'⟩, u, hx, hf⟩ := Effect.bind_eq_ok_iff.1 h
  exact ⟨b, c', u, hx, hf⟩

/-- The checklist after an operation that may have failed. -/
def after (c : Checklist) (failure? : Option NestedFailure) : Checklist :=
  failure?.elim c c.record

theorem failure_after (c : Checklist) (failure? : Option NestedFailure) :
    (c.after failure?).failure = c.failure.or failure? := by
  obtain ⟨- | first⟩ := c <;> cases failure? <;> rfl

/-- **A check returns if what it asks of the matcher returns**: `Ok` if the verdict is the desired
one, and a `Stop` with the failure on record otherwise. -/
theorem run_expect {m : Matcher σ α} {desired : Bool} {a : α} {finding : Finding} {site : Site}
    (h : m.Finds desired a view s finding t) :
    (expect site m desired a).run c view s =
      (.ok (finding.answer, c.after (finding.complaint?.map (⟨·, site⟩))), t) := by
  refine (run_bind_of_ok (run_lift_eq_ok_iff.2 ⟨h.check_eq, rfl⟩)).trans ?_
  cases finding <;> rfl

/-- To fail is to put the failure on record. -/
theorem run_fail (site : Site) (message : String) :
    (fail site message).run c view s = (.ok (.stop, c.after (some ⟨message, site⟩)), s) := rfl

/-- To ask whether a check has failed is to look whether there is one on record. -/
theorem run_failed : (failed : Checked σ Bool).run c view s = (.ok (c.failure.isSome, c), s) := rfl

theorem settle_of_some {failure : NestedFailure} (hc : c.failure = some failure)
    (result : Except Fault α) : c.settle result = .error (.nested failure) := by
  obtain ⟨_⟩ := c
  obtain rfl := hc
  rfl

theorem settle_of_none (hc : c.failure = none) (result : Except Fault α) :
    c.settle result = result.mapError .fault := by
  obtain ⟨_⟩ := c
  obtain rfl := hc
  cases result <;> rfl

end Checklist

/-! ### Producers -/

/-- What a producer that makes checks does. What it does next may depend on what it is answered. -/
inductive Checking (σ β : Type) : Type 1 where
  /-- It returns. -/
  | done (result : β)
  /-- It runs code that makes no checks. -/
  | act {γ : Type} (call : Action σ γ) (next : γ → Checking σ β)
  /-- It checks that a value matches, or that it does not. -/
  | expect {α : Type} (site : Site) (m : Matcher σ α) (desired : Bool) (a : α)
    (next : Except Stop Unit → Checking σ β)
  /-- It fails outright. -/
  | fail (site : Site) (message : String) (next : Stop → Checking σ β)
  /-- It asks whether a check has failed. -/
  | failed (next : Bool → Checking σ β)

/-- An operation of a producer on its checklist, with the answer to it. -/
inductive Deed where
  /-- A check of a value, with what the matcher said. -/
  | expected (site : Site) (finding : Finding) (answer : Except Stop Unit)
  /-- An outright failure. -/
  | failed (failure : NestedFailure) (answer : Stop)
  /-- The question whether a check has failed. -/
  | asked (answer : Bool)

namespace Deed

/-- The failure that the operation is, if it fails. -/
def failure? : Deed → Option NestedFailure
  | expected site finding _ => finding.complaint?.map (⟨·, site⟩)
  | failed failure _ => some failure
  | asked _ => none

/-- Of several operations, the failure of the first that fails. -/
def firstFailure? (deeds : List Deed) : Option NestedFailure := deeds.findSome? failure?

/-- The operation, made after the given ones, is answered as it should be. -/
def IsAnswered (before : List Deed) : Deed → Prop
  | expected _ finding answer => answer = finding.answer
  | failed _ answer => answer = .stop
  | asked answer => answer = (firstFailure? before).isSome

theorem firstFailure?_concat (deeds : List Deed) (d : Deed) :
    firstFailure? (deeds ++ [d]) = (firstFailure? deeds).or d.failure? := by
  rw [firstFailure?, List.findSome?_append, List.findSome?_singleton]
  rfl

end Deed

namespace Checking

/-- The producer as code. -/
def code : Checking σ β → Checked σ β
  | .done result => pure result
  | .act call next => (call : Checked σ _) >>= fun b ↦ (next b).code
  | .expect site m desired a next =>
    Checklist.expect site m desired a >>= fun answer ↦ (next answer).code
  | .fail site message next => Checklist.fail site message >>= fun answer ↦ (next answer).code
  | .failed next => Checklist.failed >>= fun answer ↦ (next answer).code

/-- From the state `s₀` and a fresh checklist the producer comes to a point at which it has made
these operations, so it goes on, and this is its checklist and the state. Operations are those of
the code. -/
inductive Reaches (view : View σ) (p₀ : Checking σ β) (s₀ : σ) :
    List Deed → Checking σ β → Checklist → σ → Prop
  | start : Reaches view p₀ s₀ [] p₀ {} s₀
  | act {γ : Type} {deeds : List Deed} {call : Action σ γ} {next : γ → Checking σ β} {b : γ}
      {c : Checklist} {s t : σ} (h : Reaches view p₀ s₀ deeds (.act call next) c s)
      (hcall : call view s = (.ok b, t)) : Reaches view p₀ s₀ deeds (next b) c t
  | expect {α : Type} {deeds : List Deed} {site : Site} {m : Matcher σ α} {desired : Bool} {a : α}
      {next : Except Stop Unit → Checking σ β} {finding : Finding} {answer : Except Stop Unit}
      {c c' : Checklist} {s t u : σ}
      (h : Reaches view p₀ s₀ deeds (.expect site m desired a next) c s)
      (hfinds : m.Finds desired a view s finding u)
      (hrun : (Checklist.expect site m desired a).run c view s = (.ok (answer, c'), t)) :
      Reaches view p₀ s₀ (deeds ++ [.expected site finding answer]) (next answer) c' t
  | fail {deeds : List Deed} {site : Site} {message : String} {next : Stop → Checking σ β}
      {answer : Stop} {c c' : Checklist} {s t : σ}
      (h : Reaches view p₀ s₀ deeds (.fail site message next) c s)
      (hrun : (Checklist.fail site message).run c view s = (.ok (answer, c'), t)) :
      Reaches view p₀ s₀ (deeds ++ [.failed ⟨message, site⟩ answer]) (next answer) c' t
  | failed {deeds : List Deed} {next : Bool → Checking σ β} {answer : Bool} {c c' : Checklist}
      {s t : σ} (h : Reaches view p₀ s₀ deeds (.failed next) c s)
      (hrun : Checklist.failed.run c view s = (.ok (answer, c'), t)) :
      Reaches view p₀ s₀ (deeds ++ [.asked answer]) (next answer) c' t

/-- After these operations the checklist is up to date, and so were all answers. -/
structure UpToDate (deeds : List Deed) (c : Checklist) : Prop where
  /-- Each operation has been answered as it should be, after those before it. -/
  answered : ∀ before d, before ++ [d] <+: deeds → d.IsAnswered before
  /-- The first failure is on record. -/
  failure_eq : c.failure = Deed.firstFailure? deeds

theorem UpToDate.concat {deeds : List Deed} {d : Deed} {c : Checklist} (h : UpToDate deeds c)
    (hd : d.IsAnswered deeds) : UpToDate (deeds ++ [d]) (c.after d.failure?) where
  answered before d' hprefix := by
    obtain heq | hold := List.prefix_concat_iff.1 hprefix
    · obtain ⟨rfl, hlast⟩ := List.append_inj' heq rfl
      obtain rfl := List.singleton_inj.1 hlast
      exact hd
    · exact h.answered before d' hold
  failure_eq := by
    rw [Checklist.failure_after, h.failure_eq, Deed.firstFailure?_concat]

namespace Reaches

variable {view : View σ} {p₀ p : Checking σ β} {s₀ s t : σ} {deeds : List Deed} {c c' : Checklist}
  {b : β}

/-- **At every point the checklist is up to date.** -/
theorem upToDate (h : Reaches view p₀ s₀ deeds p c s) : UpToDate deeds c := by
  induction h with
  | start =>
    refine ⟨fun before d hprefix ↦ ?_, rfl⟩
    exact absurd (List.prefix_nil.1 hprefix) (List.concat_ne_nil d before)
  | act _ _ ih => exact ih
  | expect _ hfinds hrun ih =>
    obtain ⟨rfl, rfl⟩ := Checklist.run_inj (Checklist.run_expect hfinds) hrun
    exact ih.concat rfl
  | @fail _ site message _ _ _ _ _ _ _ hrun ih =>
    obtain ⟨rfl, rfl⟩ := Checklist.run_inj (Checklist.run_fail site message) hrun
    exact ih.concat (d := .failed ⟨message, site⟩ .stop) rfl
  | failed _ hrun ih =>
    obtain ⟨rfl, rfl⟩ := Checklist.run_inj Checklist.run_failed hrun
    exact ih.concat (congrArg Option.isSome ih.failure_eq)

/-- The points that are reached are those of the code. -/
theorem run_eq (h : Reaches view p₀ s₀ deeds p c s) :
    p₀.code.run {} view s₀ = p.code.run c view s := by
  induction h with
  | start => rfl
  | act _ hcall ih =>
    exact ih.trans (Checklist.run_bind_of_ok (Checklist.run_lift_eq_ok_iff.2 ⟨hcall, rfl⟩))
  | expect _ _ hrun ih => exact ih.trans (Checklist.run_bind_of_ok hrun)
  | fail _ hrun ih => exact ih.trans (Checklist.run_bind_of_ok hrun)
  | failed _ hrun ih => exact ih.trans (Checklist.run_bind_of_ok hrun)

/-- **Code that returns is followed to its end.** -/
theorem exists_done (h : Reaches view p₀ s₀ deeds p c s)
    (hrun : p.code.run c view s = (.ok (b, c'), t)) :
    ∃ deeds', Reaches view p₀ s₀ deeds' (.done b) c' t := by
  induction p generalizing deeds c s with
  | done result =>
    obtain ⟨hresult, rfl⟩ := Effect.pure_eq_ok_iff.1 hrun
    obtain ⟨rfl, rfl⟩ := Prod.mk.inj hresult
    exact ⟨deeds, h⟩
  | act call next ih =>
    obtain ⟨b, c₁, u, hlift, hrest⟩ := Checklist.of_run_bind_eq_ok hrun
    obtain ⟨hcall, rfl⟩ := Checklist.run_lift_eq_ok_iff.1 hlift
    exact ih _ (h.act hcall) hrest
  | expect site m desired a next ih =>
    obtain ⟨answer, c₁, u, hop, hrest⟩ := Checklist.of_run_bind_eq_ok hrun
    -- the check has returned, so the matcher has said something
    obtain ⟨complaint?, c₂, u', hlift, -⟩ := Checklist.of_run_bind_eq_ok hop
    obtain ⟨finding, hfinds⟩ := Matcher.exists_finds (Checklist.run_lift_eq_ok_iff.1 hlift).1
    exact ih _ (h.expect hfinds hop) hrest
  | fail site message next ih =>
    obtain ⟨answer, c₁, u, hop, hrest⟩ := Checklist.of_run_bind_eq_ok hrun
    exact ih _ (h.fail hop) hrest
  | failed next ih =>
    obtain ⟨answer, c₁, u, hop, hrest⟩ := Checklist.of_run_bind_eq_ok hrun
    exact ih _ (h.failed hop) hrest

end Reaches

/-! ### Samples -/

/-- What the checks and the result of the producer make of the sample, which is taken in this view
and state; `t` is the state that the producer leaves behind. -/
structure Decides (produce : Checked σ (Except Fault α)) (m : Matcher σ α) (view : View σ) (s : σ)
    (deeds : List Deed) (result : Except Fault α) (t : σ) (o : Observation α) : Prop where
  /-- If a check has failed, the first one that did is the sample, which fails and steers nothing.
  The matcher is not called: the same comes of every other one, with the same state. -/
  nested : ∀ failure, Deed.firstFailure? deeds = some failure →
    o.sample = .missed (.nested failure) ∧ o.sample.signal? = none ∧ o.sample.steering = .goOn ∧
      (∀ desired, o.sample.passed desired = false) ∧
      ∀ m', Observation.take (.checked produce) m' view s = (.ok o, t)
  /-- If none has, an error of the producer is the sample, with its signal, -/
  fault : Deed.firstFailure? deeds = none → ∀ fault, result = .error fault →
    o.sample = .missed (.fault fault) ∧ o.sample.signal? = fault.signal? ∧
      ∀ m', Observation.take (.checked produce) m' view s = (.ok o, t)
  /-- and a value is judged. -/
  value : Deed.firstFailure? deeds = none → ∀ a, result = .ok a →
    ∃ verdict u, m.judge a view t = (.ok verdict, u) ∧ o.sample = match verdict with
      | .ok matched => .judged a matched
      | .error fault => .unjudged a fault

variable {produce : Checked σ (Except Fault α)} {m : Matcher σ α} {view : View σ} {s t u : σ}
  {result : Except Fault α} {c : Checklist} {o : Observation α} {deeds : List Deed}

/-- The sample is what the checklist makes of the producer's result. -/
theorem take_eq (h : produce.run {} view s = (.ok (result, c), t)) (m : Matcher σ α) :
    Observation.take (.checked produce) m view s =
      Observation.ofResult (.checked produce) m (c.settle result) view t := by
  have htake : (Source.checked produce).take view s = (.ok (c.settle result), t) :=
    Effect.bind_of_ok h _
  rw [Observation.take_eq]
  exact Effect.bind_of_ok htake _

/-- **Whatever the producer does, its checks decide the sample.** -/
theorem Reaches.decides {p : Checking σ (Except Fault α)}
    (h : Reaches view p s deeds (.done result) c t)
    (hp : produce.run {} view s = p.code.run {} view s)
    (ho : Observation.take (.checked produce) m view s = (.ok o, u)) :
    Decides produce m view s deeds result t o := by
  have hrun : produce.run {} view s = (.ok (result, c), t) := hp.trans h.run_eq
  have hfailure := h.upToDate.failure_eq
  have htake := take_eq hrun
  have hobserved := (htake m).symm.trans ho
  refine ⟨fun failure hfirst ↦ ?_, fun hnone fault hresult ↦ ?_, fun hnone a hresult ↦ ?_⟩
  · rw [Checklist.settle_of_some (hfailure.trans hfirst)] at htake hobserved
    obtain ⟨rfl, -⟩ := Effect.pure_eq_ok_iff.1 hobserved
    exact ⟨rfl, rfl, rfl, fun _ ↦ rfl, htake⟩
  · rw [Checklist.settle_of_none (hfailure.trans hnone), hresult] at htake hobserved
    obtain ⟨rfl, -⟩ := Effect.pure_eq_ok_iff.1 hobserved
    exact ⟨rfl, rfl, htake⟩
  · rw [Checklist.settle_of_none (hfailure.trans hnone), hresult] at hobserved
    obtain ⟨u₁, hsample⟩ := Observation.of_ofResult_eq_ok hobserved
    obtain ⟨verdict, u₂, hjudge, hrest⟩ := Effect.bind_eq_ok_iff.1 hsample
    refine ⟨verdict, u₂, hjudge, ?_⟩
    cases verdict with
    | ok matched => exact (Effect.pure_eq_ok_iff.1 hrest).1.symm
    | error fault => exact (Effect.pure_eq_ok_iff.1 hrest).1.symm

/-- If a sample is taken, the producer has come to its end. -/
theorem exists_reaches_done {p : Checking σ (Except Fault α)}
    (hp : produce.run {} view s = p.code.run {} view s)
    (ho : Observation.take (.checked produce) m view s = (.ok o, u)) :
    ∃ deeds result c t, Reaches view p s deeds (.done result) c t := by
  rw [Observation.take_eq] at ho
  obtain ⟨_, _, htake, -⟩ := Effect.bind_eq_ok_iff.1 ho
  obtain ⟨⟨result, c⟩, t, hrun, -⟩ := Effect.bind_eq_ok_iff.1 htake
  have hstart : Reaches view p s [] p {} s := .start
  obtain ⟨deeds, hdone⟩ := hstart.exists_done (hp.symm.trans hrun)
  exact ⟨deeds, result, c, t, hdone⟩

end Checking

namespace Run

variable {between : Turn σ α → World σ → World σ → Prop} {plan : Plan σ α} {started : Duration}
  {w₀ w : World σ} {h : List (Event α)} {turn : Turn σ α} {r : Run σ α}

/-- What code that the run calls can see in this world. -/
def viewIn (r : Run σ α) (w : World σ) : View σ := ⟨w.clock, some (r.report w.clock)⟩

/-- **The first failed check decides the sample.** Whatever a run has met with before, each of its
samples is decided by the checks that the producer makes in the course of this sample, and by what
it returns if no check fails; `p` tells what the producer does in a given situation. At every point
that it reaches, and also if it never returns, its checks have been answered as they should be, and
it is told that a check has failed from the first failure on. -/
theorem Course.first_failure_decides {produce : Checked σ (Except Fault α)}
    {p : View σ → σ → Checking σ (Except Fault α)} (hsource : plan.source = .checked produce)
    (hp : ∀ view s, produce.run {} view s = (p view s).code.run {} view s)
    (hc : Course between (.start plan started) w₀ h turn w) (hrun : turn.run? = some r)
    (u : World σ) :
    (∀ deeds q c t, (p (r.viewIn u) u.user).Reaches (r.viewIn u) u.user deeds q c t →
      Checking.UpToDate deeds c ∧
      (Checklist.failed.run c (r.viewIn u) t =
        (.ok ((Deed.firstFailure? deeds).isSome, c), t))) ∧
    ∀ o turn' v, r.Steps u (.sampled o) turn' v →
      (∃ deeds result c t,
        (p (r.viewIn u) u.user).Reaches (r.viewIn u) u.user deeds (.done result) c t) ∧
      ∀ deeds result c t,
        (p (r.viewIn u) u.user).Reaches (r.viewIn u) u.user deeds (.done result) c t →
        Checking.Decides produce plan.matcher (r.viewIn u) u.user deeds result t o := by
  have hplan : r.plan = plan := hc.plan_eq hrun
  refine ⟨fun deeds q c t hreaches ↦ ?_, fun o turn' v hsteps ↦ ?_⟩
  · have hupToDate := hreaches.upToDate
    refine ⟨hupToDate, ?_⟩
    rw [Checklist.run_failed, hupToDate.failure_eq]
  · obtain ⟨-, u', hobserve, -⟩ := hsteps.goBy_eq
    rw [observe, call_apply, hplan, hsource] at hobserve
    obtain ⟨htake, -⟩ := Prod.mk.inj hobserve
    have ho : Observation.take (.checked produce) plan.matcher (r.viewIn u) u.user = (.ok o, _) :=
      Prod.ext htake rfl
    exact ⟨Checking.exists_reaches_done (hp _ _) ho,
      fun deeds result c t hreaches ↦ hreaches.decides (hp _ _) ho⟩

end Run

/-- What a producer does that counts its calls. On the first call it passes over the failure of a
check, makes another one that fails with a request to stop, and returns such a request as well. -/
def Checking.careless : Checking Nat (Except Fault Nat) :=
  .act (do modify (· + 1); get) fun calls ↦
  .expect "first" (.equalTo 1) false calls fun _ ↦
  .failed fun hasFailed ↦
  if hasFailed then
    .expect "second" (.trySatisfying (fun _ ↦ return .error (.signal (.stop "gone"))) "alive") true
      calls fun _ ↦ .done (.error (.signal (.stop "given up")))
  else .done (.ok calls)

theorem Checking.reaches_careless_failing (view : View Nat) : ∃ deeds result c t,
    careless.Reaches view 0 deeds (.done result) c t ∧
      Deed.firstFailure? deeds = some ⟨"expected 1 not to equal 1", "first"⟩ := by
  have hstart : careless.Reaches view 0 [] careless {} 0 := .start
  have hchecked := (hstart.act rfl).expect (.refuted rfl rfl) rfl
  have hdone := (hchecked.failed rfl).expect (.unjudged rfl) rfl
  exact ⟨_, _, _, _, hdone, rfl⟩

theorem Checking.reaches_careless_passing (view : View Nat) : ∃ deeds c t,
    careless.Reaches view 1 deeds (.done (.ok 2)) c t ∧ Deed.firstFailure? deeds = none := by
  have hstart : careless.Reaches view 1 [] careless {} 1 := .start
  have hchecked := (hstart.act rfl).expect (.asDesired rfl) rfl
  have hdone := hchecked.failed rfl
  exact ⟨_, _, _, hdone, rfl⟩

/-- The producer is polled every ten milliseconds. -/
def Plan.careless : Plan Nat Nat where
  mode := .eventually
  timeout := .ofMillis 20
  polling := .ofMillis 10
  repeats := 1
  token := none
  source := .checked Checking.careless.code
  matcher := .equalTo 2
  desired := true
  description := .none
  time := .runtime .zero

/-- The first sample is the first failure, and steers nothing. The second sample is the value. -/
theorem Run.first_failure_decides_careless : ∃ o₁ o₂ turn w,
    Course clockMoves (.start .careless .zero) ⟨0, .zero, []⟩
      [.sampled o₁, .looked none, .looked (some .tick), .sampled o₂] turn w ∧
    o₁.sample = .missed (.nested ⟨"expected 1 not to equal 1", "first"⟩) ∧
      o₁.sample.steering = .goOn ∧ o₂.sample = .judged 2 true := by
  obtain ⟨o₁, o₂, r, turn₁, turn, w₁, w₂, w, notices, hfirst, hcourse, hbetween, hsecond⟩ :
      ∃ o₁ o₂ r turn₁ turn w₁ w₂ w notices,
        (Run.start .careless .zero).Steps ⟨0, .zero, []⟩ (.sampled o₁) turn₁ w₁ ∧
        Course clockMoves (.start .careless .zero) ⟨0, .zero, []⟩
          [.sampled o₁, .looked none, .looked (some .tick)] (.ready r) w₂ ∧
        clockMoves (.ready r) w₂ ⟨1, .ofMillis 10, notices⟩ ∧
        r.Steps ⟨1, .ofMillis 10, notices⟩ (.sampled o₂) turn w :=
    ⟨_, _, { Run.start .careless .zero with
        samples := 1
        latest := some ⟨.missed (.nested ⟨"expected 1 not to equal 1", "first"⟩), .zero⟩ },
      _, _, _, ⟨1, .ofMillis 10, _⟩, _, _, .sampled rfl rfl rfl,
      .step (.step (.step .start rfl ⟨.zero, rfl⟩ (.sampled rfl rfl rfl))
        rfl ⟨.zero, rfl⟩ (.looked rfl rfl rfl)) rfl ⟨.ofMillis 10, rfl⟩ (.looked rfl rfl rfl),
      ⟨.ofMillis 10, rfl⟩, .sampled rfl rfl rfl⟩
  have hstart : Course clockMoves (.start .careless .zero) ⟨0, .zero, []⟩ []
    (.ready (.start .careless .zero)) ⟨0, .zero, []⟩ := .start
  have hdecides₁ := (hstart.first_failure_decides (p := fun _ _ ↦ .careless) rfl
    (fun _ _ ↦ rfl) rfl _).2 _ _ _ hfirst
  have hdecides₂ := (hcourse.first_failure_decides (p := fun _ _ ↦ .careless) rfl
    (fun _ _ ↦ rfl) rfl _).2 _ _ _ hsecond
  obtain ⟨_, _, _, _, hfailing, hfailure⟩ := Checking.reaches_careless_failing _
  obtain ⟨hsample₁, -, hsteering, -⟩ := (hdecides₁.2 _ _ _ _ hfailing).nested _ hfailure
  obtain ⟨_, _, _, hpassing, hnone⟩ := Checking.reaches_careless_passing _
  obtain ⟨_, _, hjudge, hsample₂⟩ := (hdecides₂.2 _ _ _ _ hpassing).value hnone _ rfl
  obtain ⟨rfl, -⟩ := Effect.pure_eq_ok_iff.1 hjudge
  exact ⟨o₁, o₂, turn, w, hcourse.step rfl hbetween hsecond, hsample₁, hsteering, hsample₂⟩

end PollAssert
