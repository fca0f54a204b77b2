import PollAssert.Proofs.Flight.Alike
import PollAssert.Proofs.Matcher.Laws

/-!
# Negating the assertion, and negating the matcher

An assertion that a matcher does **not** match can be written in two ways: as the negated assertion
of the matcher, or as the assertion of the negated matcher. The two ways are the same, whatever the
matcher does: it may come to faults, count its calls or halt.

What makes it so is that negating a matcher swaps the verdict and swaps the two texts, and leaves
the faults and the oracle alone. The polarity of the assertion enters at two places, where a verdict
is compared with the desired one and where the text is chosen, and there the two negations cancel.
So the negated matcher comes to the same samples with the verdict **negated**, and these pass, steer
and are explained as the others.
-/

namespace PollAssert

variable {σ α : Type}

/-! ### Negated matchers -/

namespace Matcher

/-- **One judgement on its own** comes to the same. A fault fails both. -/
theorem check_not (m : Matcher σ α) (desired : Bool) (a : α) :
    m.not.check (!desired) a = m.check desired a := by
  have hjudge : m.not.judge a = Except.map (!·) <$> m.judge a := rfl
  rw [check, check, hjudge, bind_map_left]
  congr 1
  funext verdict
  cases verdict with
  | error fault => rfl
  | ok matched =>
    show (if (!matched) = (!desired) then _ else _) = if matched = desired then _ else _
    rw [textFor_not]
    by_cases h : matched = desired
    · rw [if_pos h, if_pos (congrArg (!·) h)]
    · rw [if_neg h, if_neg fun hnot ↦ h (Bool.not_inj hnot)]

end Matcher

/-! ### Negated samples -/

namespace Sample

/-- The sample with the opposite verdict, if there is one. -/
def negated : Sample α → Sample α
  | .judged a matched => .judged a (!matched)
  | .unjudged a fault => .unjudged a fault
  | .missed mishap => .missed mishap

theorem value?_negated (s : Sample α) : s.negated.value? = s.value? := by
  cases s <;> rfl

theorem steering_negated (s : Sample α) : s.negated.steering = s.steering := by
  cases s with
  | judged a matched => rfl
  | unjudged a fault => rfl
  | missed mishap => rfl

theorem passed_negated (desired : Bool) (s : Sample α) :
    s.negated.passed (!desired) = s.passed desired := by
  cases s with
  | judged a matched => cases matched <;> cases desired <;> rfl
  | unjudged a fault => rfl
  | missed mishap => rfl

theorem detail_negated (mode : Mode) (desired : Bool) (m : Matcher σ α) (s : Sample α) :
    s.negated.detail mode (!desired) m.not = s.detail mode desired m := by
  cases s with
  | judged a matched => exact m.textFor_not desired a
  | unjudged a fault => rfl
  | missed mishap => cases mishap <;> rfl

/-- The negated matcher comes to the negated sample. -/
theorem ofResult_not (m : Matcher σ α) (result : Except Mishap α) :
    ofResult m.not result = negated <$> ofResult m result := by
  cases result with
  | error mishap => rfl
  | ok a =>
    have hjudge : m.not.judge a = Except.map (!·) <$> m.judge a := rfl
    rw [ofResult, ofResult, hjudge, bind_map_left, map_bind]
    congr 1
    funext verdict
    cases verdict <;> rfl

/-- The oracle is asked as before. -/
theorem askOracle_not (source : Source σ α) (m : Matcher σ α) (s : Sample α) :
    s.negated.askOracle source m.not = s.askOracle source m := by
  rw [askOracle, askOracle, value?_negated]
  rfl

end Sample

/-- The observation with the opposite verdict. -/
def Observation.negated (o : Observation α) : Observation α := { o with sample := o.sample.negated }

/-- **The negated matcher observes the same, negated**, by the same calls. -/
theorem Observation.take_not (source : Source σ α) (m : Matcher σ α) :
    take source m.not = negated <$> take source m := by
  rw [take_eq, take_eq, map_bind]
  congr 1
  funext result
  rw [ofResult, ofResult, Sample.ofResult_not, bind_map_left, map_bind]
  congr 1
  funext s
  rw [Sample.askOracle_not, map_bind]
  rfl

/-! ### Negated plans -/

/-- The plan that wants the opposite of the negated matcher. -/
def Plan.negated (p : Plan σ α) : Plan σ α :=
  { p with matcher := p.matcher.not, desired := !p.desired }

theorem Plan.twins_negated (p : Plan σ α) : Plan.Twins (fun s s' ↦ s' = s.negated) p p.negated where
  mode := rfl
  timeout := rfl
  polling := rfl
  repeats := rfl
  token := by
    rintro s _ rfl
    rfl
  time := .refl p.time
  description := .refl _
  detail := by
    rintro s _ rfl
    show Action.Alike Eq Eq _ (s.negated.detail p.mode (!p.desired) p.matcher.not)
    rw [Sample.detail_negated]
    exact .refl _
  passed := by
    rintro s _ rfl
    exact (s.passed_negated p.desired).symm
  steering := by
    rintro s _ rfl
    exact s.steering_negated.symm
  observe := by
    show Action.Alike Eq _ _ (Observation.take p.source p.matcher.not)
    rw [Observation.take_not]
    exact Action.alike_map _ _ fun o ↦ ⟨rfl, rfl⟩

theorem Assertion.plan_not (a : Assertion σ α) (m : Matcher σ α) (desired : Bool)
    (d : Description σ) : a.plan m.not (!desired) d = Plan.negated <$> a.plan m desired d := by
  rw [plan, plan]
  simp only [map_bind]
  rfl

/-! ### The two ways to negate -/

/-- Polling the negated matcher for the opposite is polling the matcher. -/
theorem Flight.twins_not (a : Assertion σ α) (m : Matcher σ α) (desired : Bool)
    (d : Description σ) :
    Twins (fun s s' ↦ s' = s.negated) (.demand a m desired d) (.demand a m.not (!desired) d) := by
  refine .grounded rfl rfl rfl rfl ?_ ?_
  · intro cause h
    rw [Assertion.plan_not, h]
    rfl
  · intro p h
    exact ⟨p.negated, by rw [Assertion.plan_not, h]; rfl, p.twins_negated⟩

/-- **To negate the assertion is to negate the matcher**, of either polarity: in assertions that
poll, which are indistinguishable and so come to the same when they are rehearsed with any errands
or dropped; in assertions that are made at once; and in checks inside a producer. -/
theorem Matcher.not_cancels (m : Matcher σ α) (desired : Bool) :
    (∀ (a : Assertion σ α) (d : Description σ),
      (Flight.demand a m desired d).Indistinguishable (.demand a m.not (!desired) d) ∧
      (∀ (fuel : Nat) (errands : List (Errand σ)),
        Rehearsal.fly fuel (.demand a m desired d) errands =
          Rehearsal.fly fuel (.demand a m.not (!desired) d) errands) ∧
      ∀ errands : List (Errand σ),
        Rehearsal.drop (.demand a m desired d) errands =
          Rehearsal.drop (.demand a m.not (!desired) d) errands) ∧
    (∀ (b : Bench σ) (site : Site) (offset : UInt64) (x : α),
      b.expect site offset m desired x = b.expect site offset m.not (!desired) x) ∧
    ∀ (site : Site) (x : α),
      (Checklist.expect site m desired x : Checked σ (Except Stop Unit)) =
        Checklist.expect site m.not (!desired) x := by
  refine ⟨fun a d ↦ ?_, fun b site offset x ↦ ?_, fun site x ↦ ?_⟩
  · have h := (Flight.twins_not a m desired d).indistinguishable
    exact ⟨h, h.fly_eq, h.drop_eq⟩
  · rw [Bench.expect, Bench.expect, m.check_not]
  · rw [Checklist.expect, Checklist.expect, m.check_not]

end PollAssert
