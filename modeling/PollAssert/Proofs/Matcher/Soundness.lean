import PollAssert.Proofs.Effects
import PollAssert.Matcher.Combinators
import Mathlib.Data.List.Forall2

/-!
# When the oracle of a combination can be trusted

An oracle that rules out a change makes a promise: judging the same value at a later sample comes to
the same, be it a verdict or a fault (`Matcher.Sound`). Leaves may answer differently at every
sample and may come to faults. The question is whether combining matchers that keep the promise, and
replacing oracles by others that keep it, gives matchers that keep it again.

It does for negations and for `anyOf`, which asks all its components. A failing `allOf` asks the
component to blame and nobody else, and this is **not enough**: a component before it that matches
now may come to a fault later, and then the fault is what the whole comes to. Two things do hold.

* If no component of an `allOf` ever comes to a fault, the promise is kept.
* In any case a verdict is never turned into its opposite. At worst it is lost to a fault.

What a matcher answers is read off as a function of the number of the sample (`Answers`). What a
combination answers is then the answer of the first component that **differs** from the verdict on
which judging goes on.
-/

namespace PollAssert

variable {σ α β γ : Type}

/-! ### Answers by the number of the sample -/

/-- At sample `n` the action returns `b`, and it leaves the number of the sample alone. -/
def Action.ReturnsAt (number : σ → Nat) (n : Nat) (b : β) (act : Action σ β) : Prop :=
  ∀ view s, number s = n → ∃ t, act view s = (.ok b, t) ∧ number t = n

namespace Action.ReturnsAt

variable {number : σ → Nat} {n : Nat} {b : β} {act : Action σ β}

protected theorem pure (b : β) : Action.ReturnsAt number n b (pure b : Action σ β) :=
  Action.Returns.pure b

protected theorem bind {c : γ} {k : β → Action σ γ} (ha : Action.ReturnsAt number n b act)
    (hk : Action.ReturnsAt number n c (k b)) : Action.ReturnsAt number n c (act >>= k) :=
  Action.Returns.bind ha hk

protected theorem map (g : β → γ) (ha : Action.ReturnsAt number n b act) :
    Action.ReturnsAt number n (g b) (g <$> act) :=
  Action.Returns.map g ha

theorem fst_eq {s : σ} (ha : Action.ReturnsAt number (number s) b act) (view : View σ) :
    (act view s).1 = .ok b := by
  obtain ⟨t, hact, -⟩ := ha view s rfl
  rw [hact]

end Action.ReturnsAt

/-- What a matcher answers about one value, sample by sample. -/
structure Answers where
  /-- What judging the value comes to. -/
  verdict : Nat → Except Fault Bool
  /-- What the oracle says. -/
  mayChange : Nat → Bool

/-- The matcher answers about the value by the number of the sample. -/
structure Matcher.AnswersBy (number : σ → Nat) (a : α) (A : Answers) (m : Matcher σ α) : Prop where
  judge : ∀ n, Action.ReturnsAt number n (A.verdict n) (m.judge a)
  mayChange : ∀ n, Action.ReturnsAt number n (A.mayChange n) (m.mayChange a)

/-- The result is anything but the verdict `b`. A fault is. -/
def differs (b : Bool) : Except Fault Bool → Bool
  | .ok matched => matched != b
  | .error _ => true

theorem differs_ok_iff {b c : Bool} : differs b (.ok c) = true ↔ c = !b := by
  cases b <;> cases c <;> decide

theorem eq_ok_of_differs_eq_false {b : Bool} {r : Except Fault Bool} (h : differs b r = false) :
    r = .ok b := by
  rcases r with fault | matched
  · cases h
  · rw [bne_eq_false_iff_eq.1 h]

namespace Answers

/-- The first of the answers at sample `n` that differs from the verdict `b`. -/
def firstOther (b : Bool) (As : List Answers) (n : Nat) : Option Answers :=
  As.find? fun A ↦ differs b (A.verdict n)

/-- What that one answers; the verdict `b` if there is none. -/
def upToOther (b : Bool) (As : List Answers) (n : Nat) : Except Fault Bool :=
  (firstOther b As n).elim (.ok b) (·.verdict n)

/-- What `allOf` answers. The component to blame is the first that does not match. -/
def allOf (As : List Answers) : Answers where
  verdict := upToOther true As
  mayChange n := (firstOther true As n).elim (As.any (·.mayChange n)) (·.mayChange n)

/-- What `anyOf` answers. -/
def anyOf (As : List Answers) : Answers where
  verdict := upToOther false As
  mayChange n := As.any (·.mayChange n)

/-- What `not` answers. -/
def not (A : Answers) : Answers where
  verdict n := (A.verdict n).map (!·)
  mayChange := A.mayChange

variable {b : Bool} {A : Answers} {As : List Answers} {i j n : Nat}

theorem firstOther_cons :
    firstOther b (A :: As) n = if differs b (A.verdict n) then some A else firstOther b As n := by
  rw [firstOther, List.find?_cons]
  cases differs b (A.verdict n) <;> rfl

theorem upToOther_of_some (h : firstOther b As n = some A) : upToOther b As n = A.verdict n := by
  rw [upToOther, h, Option.elim_some]

theorem upToOther_of_none (h : firstOther b As n = none) : upToOther b As n = .ok b := by
  rw [upToOther, h, Option.elim_none]

theorem mem_of_firstOther (h : firstOther b As n = some A) : A ∈ As := List.mem_of_find?_eq_some h

theorem differs_of_firstOther (h : firstOther b As n = some A) : differs b (A.verdict n) = true :=
  List.find?_some (p := fun A : Answers ↦ differs b (A.verdict n)) h

theorem verdict_of_firstOther_eq_none (h : firstOther b As n = none) (hA : A ∈ As) :
    A.verdict n = .ok b := by
  have hsame := List.find?_eq_none.1 h A hA
  exact eq_ok_of_differs_eq_false (Bool.eq_false_iff.2 hsame)

/-- One answer that differs from `b` makes the whole differ from it. -/
theorem differs_upToOther (hA : A ∈ As) (h : differs b (A.verdict n) = true) :
    differs b (upToOther b As n) = true := by
  rcases hfirst : firstOther b As n with - | B
  · rw [verdict_of_firstOther_eq_none hfirst hA, differs_ok_iff] at h
    cases b <;> cases h
  · rw [upToOther_of_some hfirst]
    exact differs_of_firstOther hfirst

/-- Answers that are the same at two samples come to the same as a whole. -/
theorem upToOther_congr (h : ∀ A ∈ As, A.verdict j = A.verdict i) :
    upToOther b As j = upToOther b As i := by
  induction As with
  | nil => rfl
  | cons A As ih =>
    obtain ⟨hhead, htail⟩ := List.forall_mem_cons.1 h
    have hrest := ih htail
    rw [upToOther, upToOther] at hrest ⊢
    rw [firstOther_cons, firstOther_cons, hhead]
    split
    · rw [Option.elim_some, Option.elim_some, hhead]
    · exact hrest

theorem mayChange_of_any_eq_false (h : As.any (·.mayChange i) = false) (hA : A ∈ As) :
    A.mayChange i = false := by
  have hnone := List.any_eq_false.1 h A hA
  exact Bool.eq_false_iff.2 hnone

/-! ### What stays from one sample to another -/

/-- If the oracle rules out a change at sample `i`, judging comes to the same at sample `j`. -/
def SameAt (i j : Nat) (A : Answers) : Prop := A.mayChange i = false → A.verdict j = A.verdict i

/-- If the oracle rules out a change at sample `i`, a verdict is not its opposite at sample `j`. -/
def AgreesAt (i j : Nat) (A : Answers) : Prop :=
  A.mayChange i = false → ∀ b, A.verdict i = .ok b → differs (!b) (A.verdict j) = true

theorem SameAt.agreesAt (hA : A.SameAt i j) : A.AgreesAt i j := by
  intro hsettled b hb
  rw [hA hsettled, hb, differs_ok_iff, Bool.not_not]

/-- Two verdicts that are not opposite are the same. -/
theorem AgreesAt.sameAt {bi bj : Bool} (hA : A.AgreesAt i j) (hi : A.verdict i = .ok bi)
    (hj : A.verdict j = .ok bj) : A.SameAt i j := by
  intro hsettled
  have hagrees := hA hsettled bi hi
  rw [hj, differs_ok_iff, Bool.not_not] at hagrees
  rw [hi, hj, hagrees]

theorem SameAt.not (hA : A.SameAt i j) : A.not.SameAt i j := by
  intro hsettled
  show (A.verdict j).map (!·) = (A.verdict i).map (!·)
  rw [hA hsettled]

theorem AgreesAt.not (hA : A.AgreesAt i j) : A.not.AgreesAt i j := by
  intro hsettled b hb
  change (A.verdict i).map (!·) = .ok b at hb
  show differs (!b) ((A.verdict j).map (!·)) = true
  rcases hi : A.verdict i with fault | matched
  · rw [hi] at hb
    cases hb
  · rw [hi] at hb
    obtain rfl := Except.ok.inj hb
    have hagrees := hA hsettled matched hi
    rcases hj : A.verdict j with fault | matched'
    · rfl
    · rw [hj, differs_ok_iff, Bool.not_not] at hagrees
      subst hagrees
      exact differs_ok_iff.2 (Bool.not_not _).symm

theorem sameAt_anyOf (hAs : ∀ A ∈ As, A.SameAt i j) : (anyOf As).SameAt i j := by
  intro hsettled
  exact upToOther_congr fun A hA ↦ hAs A hA (mayChange_of_any_eq_false hsettled hA)

/-- The components on which a combination rests are those that differ from `b`, or else all. If
these rule out a change, the combination does not turn into its opposite. -/
theorem differs_upToOther_of_agreesAt {c : Bool} (hAs : ∀ A ∈ As, A.AgreesAt i j)
    (hsettled : (firstOther b As i).elim (As.any (·.mayChange i)) (·.mayChange i) = false)
    (hi : upToOther b As i = .ok c) : differs (!c) (upToOther b As j) = true := by
  rcases hfirst : firstOther b As i with - | A
  · rw [hfirst, Option.elim_none] at hsettled
    rw [upToOther_of_none hfirst] at hi
    obtain rfl := Except.ok.inj hi
    rcases hfirst' : firstOther b As j with - | B
    · rw [upToOther_of_none hfirst', differs_ok_iff, Bool.not_not]
    · have hB := mem_of_firstOther hfirst'
      have hverdict := verdict_of_firstOther_eq_none hfirst hB
      rw [upToOther_of_some hfirst']
      exact hAs B hB (mayChange_of_any_eq_false hsettled hB) b hverdict
  · rw [hfirst, Option.elim_some] at hsettled
    rw [upToOther_of_some hfirst] at hi
    have hother := differs_of_firstOther hfirst
    rw [hi, differs_ok_iff] at hother
    subst hother
    have hA := mem_of_firstOther hfirst
    have hagrees := hAs A hA hsettled (!b) hi
    rw [Bool.not_not] at hagrees ⊢
    exact differs_upToOther hA hagrees

theorem agreesAt_allOf (hAs : ∀ A ∈ As, A.AgreesAt i j) : (allOf As).AgreesAt i j :=
  fun hsettled _ hi ↦ differs_upToOther_of_agreesAt hAs hsettled hi

theorem agreesAt_anyOf (hAs : ∀ A ∈ As, A.AgreesAt i j) : (anyOf As).AgreesAt i j := by
  intro hsettled c hi
  refine differs_upToOther_of_agreesAt hAs ?_ hi
  rcases hfirst : firstOther false As i with - | A
  · rw [Option.elim_none]
    exact hsettled
  · rw [Option.elim_some]
    exact mayChange_of_any_eq_false hsettled (mem_of_firstOther hfirst)

/-- Components that come to verdicts come to a verdict as a whole. -/
theorem exists_upToOther_eq_ok (hAs : ∀ A ∈ As, ∃ c, A.verdict n = .ok c) :
    ∃ c, upToOther b As n = .ok c := by
  rcases hfirst : firstOther b As n with - | A
  · exact ⟨b, upToOther_of_none hfirst⟩
  · obtain ⟨c, hc⟩ := hAs A (mem_of_firstOther hfirst)
    exact ⟨c, (upToOther_of_some hfirst).trans hc⟩

end Answers

/-! ### What combinations answer -/

namespace Matcher

variable {number : σ → Nat} {a : α} {m : Matcher σ α} {ms : List (Matcher σ α)} {A : Answers}
  {As : List Answers}

/-- The matchers answer about the value as listed. -/
abbrev AnswerBy (number : σ → Nat) (a : α) (As : List Answers) (ms : List (Matcher σ α)) : Prop :=
  List.Forall₂ (AnswersBy number a) As ms

theorem returnsAt_judgeUntil (decisive : Bool) (h : AnswerBy number a As ms) (n : Nat) :
    Action.ReturnsAt number n (Answers.upToOther (!decisive) As n) (judgeUntil decisive ms a) := by
  induction h with
  | nil => exact .pure _
  | @cons A m As ms hm hms ih =>
    refine (hm.judge n).bind ?_
    rw [Answers.upToOther, Answers.firstOther_cons]
    rcases hverdict : A.verdict n with fault | matched
    · rw [show differs _ (.error fault) = true from rfl, if_pos rfl, Option.elim_some, hverdict]
      exact .pure _
    · by_cases hmatched : matched = decisive
      · rw [differs_ok_iff.2 (by rw [hmatched, Bool.not_not]), if_pos rfl, Option.elim_some,
          hverdict]
        dsimp only
        rw [if_pos hmatched]
        exact .pure _
      · have hsame : differs (!decisive) (.ok matched) = false := by
          rw [Bool.eq_false_iff, Ne, differs_ok_iff, Bool.not_not]
          exact hmatched
        rw [hsame, if_neg Bool.false_ne_true]
        dsimp only
        rw [if_neg hmatched]
        exact ih

theorem returnsAt_accepts (hm : m.AnswersBy number a A) (n : Nat) :
    Action.ReturnsAt number n (!differs true (A.verdict n)) (m.accepts a) := by
  refine (hm.judge n).bind ?_
  rcases A.verdict n with fault | matched
  · exact .pure false
  · cases matched <;> exact .pure _

/-- Judging anew up to the first that does not match, and going on with that one or, if there is
none, otherwise. -/
theorem returnsAt_firstThat {f : Answers → β} {b : β} {k : Matcher σ α → Action σ β}
    {other : Action σ β} {n : Nat}
    (hk : ∀ m A, m.AnswersBy number a A → Action.ReturnsAt number n (f A) (k m))
    (hother : Action.ReturnsAt number n b other) (h : AnswerBy number a As ms) :
    Action.ReturnsAt number n ((Answers.firstOther true As n).elim b f)
      (firstThat false ms a >>= fun o ↦ o.elim other k) := by
  induction h with
  | nil => exact hother
  | @cons A m As ms hm hms ih =>
    rw [firstThat, bind_assoc, Answers.firstOther_cons]
    refine (returnsAt_accepts hm n).bind ?_
    cases differs true (A.verdict n) with
    | true => exact hk m A hm
    | false => exact ih

theorem returnsAt_anyMayChange (h : AnswerBy number a As ms) (n : Nat) :
    Action.ReturnsAt number n (As.any (·.mayChange n)) (anyMayChange ms a) := by
  induction h with
  | nil => exact .pure false
  | @cons A m As ms hm hms ih =>
    refine (hm.mayChange n).bind ?_
    rw [List.any_cons]
    cases A.mayChange n with
    | true => exact .pure true
    | false => exact ih

theorem AnswersBy.allOf (h : AnswerBy number a As ms) :
    (allOf ms).AnswersBy number a (.allOf As) where
  judge := returnsAt_judgeUntil false h
  mayChange n := by
    have hblame : (Matcher.allOf ms).mayChange a =
        firstThat false ms a >>= fun o ↦ o.elim (anyMayChange ms a) (·.mayChange a) := by
      show (firstThat false ms a >>= fun o ↦ _) = _
      congr 1
      funext o
      cases o <;> rfl
    rw [hblame]
    exact returnsAt_firstThat (fun _ _ hm ↦ hm.mayChange n) (returnsAt_anyMayChange h n) h

theorem AnswersBy.anyOf (h : AnswerBy number a As ms) :
    (anyOf ms).AnswersBy number a (.anyOf As) where
  judge := returnsAt_judgeUntil true h
  mayChange := returnsAt_anyMayChange h

theorem AnswersBy.not (hm : m.AnswersBy number a A) : m.not.AnswersBy number a A.not where
  judge n := (hm.judge n).map _
  mayChange := hm.mayChange

/-! ### Promises -/

/-- If the oracle rules out a change at one sample, judging at a later one comes to the same. -/
def Sound (number : σ → Nat) (a : α) (m : Matcher σ α) : Prop :=
  ∀ view s view' s', number s ≤ number s' → (m.mayChange a view s).1 = .ok false →
    (m.judge a view' s').1 = (m.judge a view s).1

/-- If the oracle rules out a change at one sample, a verdict does not turn into its opposite at a
later one. -/
def NeverReverses (number : σ → Nat) (a : α) (m : Matcher σ α) : Prop :=
  ∀ view s view' s' b, number s ≤ number s' → (m.mayChange a view s).1 = .ok false →
    (m.judge a view s).1 = .ok (.ok b) → (m.judge a view' s').1 ≠ .ok (.ok !b)

/-- Judging the value never comes to a fault. -/
def NeverFaults (a : α) (m : Matcher σ α) : Prop :=
  ∀ view s fault, (m.judge a view s).1 ≠ .ok (.error fault)

/-- A combination of matchers that answer by the number of the sample and keep their promises, with
oracles put in place of others that keep theirs. The components of every `allOf` are as `P` says. -/
inductive Combines (number : σ → Nat) (a : α) (P : Matcher σ α → Prop) : Matcher σ α → Prop
  | leaf {m : Matcher σ α} {A : Answers} (hm : m.AnswersBy number a A) (hsound : m.Sound number a) :
      Combines number a P m
  | allOf {ms : List (Matcher σ α)} (hms : ∀ m ∈ ms, Combines number a P m) (hP : ∀ m ∈ ms, P m) :
      Combines number a P (allOf ms)
  | anyOf {ms : List (Matcher σ α)} (hms : ∀ m ∈ ms, Combines number a P m) :
      Combines number a P (anyOf ms)
  | not {m : Matcher σ α} (hm : Combines number a P m) : Combines number a P m.not
  | withOracle {m : Matcher σ α} {oracle : α → Action σ Bool} {c : Nat → Bool}
      (hm : Combines number a P m) (horacle : ∀ n, Action.ReturnsAt number n (c n) (oracle a))
      (hsound : (m.withOracle oracle).Sound number a) : Combines number a P (m.withOracle oracle)

/-- Matchers that answer by the number of the sample, put in a list. -/
theorem exists_answerBy {Q : Answers → Prop}
    (h : ∀ m ∈ ms, ∃ A, m.AnswersBy number a A ∧ Q A) :
    ∃ As, AnswerBy number a As ms ∧ ∀ A ∈ As, Q A := by
  induction ms with
  | nil => exact ⟨[], .nil, fun _ hA ↦ nomatch hA⟩
  | cons m ms ih =>
    obtain ⟨hhead, htail⟩ := List.forall_mem_cons.1 h
    obtain ⟨A, hA, hQ⟩ := hhead
    obtain ⟨As, hAs, hQs⟩ := ih htail
    exact ⟨A :: As, .cons hA hAs, List.forall_mem_cons.2 ⟨hQ, hQs⟩⟩

theorem AnswersBy.sameAt (hm : m.AnswersBy number a A) (hsound : m.Sound number a) {s s' : σ}
    (hle : number s ≤ number s') : A.SameAt (number s) (number s') := by
  intro hsettled
  have horacle : (m.mayChange a ⟨.zero, none⟩ s).1 = .ok false := by
    rw [(hm.mayChange _).fst_eq, hsettled]
  have hsame := hsound ⟨.zero, none⟩ s ⟨.zero, none⟩ s' hle horacle
  rw [(hm.judge _).fst_eq, (hm.judge _).fst_eq] at hsame
  exact Except.ok.inj hsame

theorem AnswersBy.exists_verdict (hm : m.AnswersBy number a A) (hfault : m.NeverFaults a) (s : σ) :
    ∃ c, A.verdict (number s) = .ok c := by
  have hnever := hfault ⟨.zero, none⟩ s
  rw [(hm.judge _).fst_eq] at hnever
  rcases hverdict : A.verdict (number s) with fault | c
  · exact (hnever fault (by rw [hverdict])).elim
  · exact ⟨c, rfl⟩

theorem AnswersBy.withOracle {oracle : α → Action σ Bool} {c : Nat → Bool}
    (hm : m.AnswersBy number a A) (horacle : ∀ n, Action.ReturnsAt number n (c n) (oracle a)) :
    (m.withOracle oracle).AnswersBy number a ⟨A.verdict, c⟩ where
  judge := hm.judge
  mayChange := horacle

namespace Combines

variable {P : Matcher σ α → Prop} {s s' : σ}

/-- Whatever may come to faults, no verdict is turned into its opposite. -/
theorem exists_agreesAt (h : m.Combines number a P) (hle : number s ≤ number s') :
    ∃ A, m.AnswersBy number a A ∧ A.AgreesAt (number s) (number s') := by
  induction h with
  | leaf hm hsound => exact ⟨_, hm, (hm.sameAt hsound hle).agreesAt⟩
  | allOf _ _ ih =>
    obtain ⟨As, hAs, hagrees⟩ := exists_answerBy ih
    exact ⟨_, .allOf hAs, Answers.agreesAt_allOf hagrees⟩
  | anyOf _ ih =>
    obtain ⟨As, hAs, hagrees⟩ := exists_answerBy ih
    exact ⟨_, .anyOf hAs, Answers.agreesAt_anyOf hagrees⟩
  | not _ ih =>
    obtain ⟨A, hA, hagrees⟩ := ih
    exact ⟨_, hA.not, hagrees.not⟩
  | withOracle _ horacle hsound ih =>
    obtain ⟨A, hA, -⟩ := ih
    have hm := hA.withOracle horacle
    exact ⟨_, hm, (hm.sameAt hsound hle).agreesAt⟩

/-- A combination without faults below `allOf` stays as it is. -/
theorem exists_sameAt (h : m.Combines number a (NeverFaults a)) (hle : number s ≤ number s') :
    ∃ A, m.AnswersBy number a A ∧ A.SameAt (number s) (number s') := by
  induction h with
  | leaf hm hsound => exact ⟨_, hm, hm.sameAt hsound hle⟩
  | @allOf ms _ hfault ih =>
    have hverdicts : ∀ m ∈ ms, ∃ A, m.AnswersBy number a A ∧ A.SameAt (number s) (number s') ∧
        (∃ c, A.verdict (number s) = .ok c) ∧ ∃ c, A.verdict (number s') = .ok c := by
      intro m hm
      obtain ⟨A, hA, hsame⟩ := ih m hm
      exact ⟨A, hA, hsame, hA.exists_verdict (hfault m hm) s, hA.exists_verdict (hfault m hm) s'⟩
    obtain ⟨As, hAs, hQ⟩ := exists_answerBy hverdicts
    -- both samples come to verdicts, and these are not opposite
    obtain ⟨b, hb⟩ := Answers.exists_upToOther_eq_ok (b := true) fun A hA ↦ (hQ A hA).2.1
    obtain ⟨b', hb'⟩ := Answers.exists_upToOther_eq_ok (b := true) fun A hA ↦ (hQ A hA).2.2
    have hagrees := Answers.agreesAt_allOf fun A hA ↦ (hQ A hA).1.agreesAt
    exact ⟨_, .allOf hAs, hagrees.sameAt hb hb'⟩
  | anyOf _ ih =>
    obtain ⟨As, hAs, hsame⟩ := exists_answerBy ih
    exact ⟨_, .anyOf hAs, Answers.sameAt_anyOf hsame⟩
  | not _ ih =>
    obtain ⟨A, hA, hsame⟩ := ih
    exact ⟨_, hA.not, hsame.not⟩
  | withOracle _ horacle hsound ih =>
    obtain ⟨A, hA, -⟩ := ih
    have hm := hA.withOracle horacle
    exact ⟨_, hm, hm.sameAt hsound hle⟩

end Combines

/-- **When a combination keeps the promise of its oracle.** If its leaves and its other oracles keep
theirs, and no component of an `allOf` ever comes to a fault, then so does the combination: what it
comes to at a sample at which its oracle rules out a change it comes to at every later one. If
components may come to faults, a verdict still is never turned into its opposite. -/
theorem combination_keeps_promise (number : σ → Nat) (a : α) (m : Matcher σ α) :
    (m.Combines number a (NeverFaults a) → m.Sound number a) ∧
      (m.Combines number a (fun _ ↦ True) → m.NeverReverses number a) := by
  refine ⟨?_, ?_⟩
  · intro h view s view' s' hle hsettled
    obtain ⟨A, hA, hsame⟩ := h.exists_sameAt hle
    rw [(hA.mayChange _).fst_eq] at hsettled
    have hverdict := hsame (Except.ok.inj hsettled)
    rw [(hA.judge _).fst_eq, (hA.judge _).fst_eq, hverdict]
  · intro h view s view' s' b hle hsettled hb hopposite
    obtain ⟨A, hA, hagrees⟩ := h.exists_agreesAt hle
    rw [(hA.mayChange _).fst_eq] at hsettled
    rw [(hA.judge _).fst_eq] at hb hopposite
    have hdiffers := hagrees (Except.ok.inj hsettled) b (Except.ok.inj hb)
    rw [Except.ok.inj hopposite, differs_ok_iff, Bool.not_not] at hdiffers
    cases b <;> cases hdiffers

/-! ### Matchers that tell the sample -/

/-- A matcher that matches from the given sample on, and knows that it will. -/
def settling (least : Nat) : Matcher Nat Unit where
  judge _ := do return .ok (decide (least ≤ (← get)))
  failureText _ := pure ""
  negatedText _ := pure ""
  mayChange _ := do return decide ((← get) < least)

theorem answersBy_settling (least : Nat) :
    (settling least).AnswersBy id () ⟨fun n ↦ .ok (decide (least ≤ n)), fun n ↦ decide (n < least)⟩
    where
  judge n := by
    rintro view s rfl
    exact ⟨s, rfl, rfl⟩
  mayChange n := by
    rintro view s rfl
    exact ⟨s, rfl, rfl⟩

theorem sound_settling (least : Nat) : (settling least).Sound id () := by
  intro view s view' s' hle hsettled
  have hs : ¬ s < least := of_decide_eq_false (Except.ok.inj hsettled)
  have hleast : least ≤ s := Nat.le_of_not_lt hs
  have hleast' : least ≤ s' := Nat.le_trans hleast hle
  show Except.ok (Except.ok (decide (least ≤ s'))) = Except.ok (Except.ok (decide (least ≤ s)))
  rw [decide_eq_true hleast, decide_eq_true hleast']

theorem neverFaults_settling (least : Nat) : (settling least).NeverFaults () :=
  fun _ _ _ hfault ↦ nomatch Except.ok.inj hfault

/-- A failing combination that asks the component to blame, which is never to change its mind. -/
theorem combination_keeps_promise_settling :
    Combines id () (NeverFaults ()) (allOf [settling 2, not (settling 1)]) ∧
      (allOf [settling 2, not (settling 1)]).Sound id () ∧
      (allOf [settling 2, not (settling 1)]).NeverReverses id () := by
  have hleaf : ∀ P least, Combines id () P (settling least) := fun P least ↦
    .leaf (answersBy_settling least) (sound_settling least)
  have hnever : ∀ m ∈ [settling 2, not (settling 1)], m.NeverFaults () := by
    intro m hm view s fault hfault
    rcases List.mem_pair.1 hm with rfl | rfl
    · exact neverFaults_settling 2 view s fault hfault
    · cases Except.ok.inj hfault
  have hcombines : ∀ P : Matcher Nat Unit → Prop, (∀ m ∈ [settling 2, not (settling 1)], P m) →
      Combines id () P (allOf [settling 2, not (settling 1)]) := by
    intro P hP
    refine .allOf (fun m hm ↦ ?_) hP
    rcases List.mem_pair.1 hm with rfl | rfl
    · exact hleaf P 2
    · exact .not (hleaf P 1)
  obtain ⟨hsound, hreverse⟩ :=
    combination_keeps_promise id () (allOf [settling 2, not (settling 1)])
  exact ⟨hcombines _ hnever, hsound (hcombines _ hnever), hreverse (hcombines _ fun _ _ ↦ trivial)⟩

/-- A matcher that matches at first and comes to a fault at every later sample. -/
def faltering : Matcher Nat Unit where
  judge _ := do return if (← get) = 0 then .ok true else .error (.message "lost")
  failureText _ := pure ""
  negatedText _ := pure ""
  mayChange _ := pure true

/-- A matcher that never matches, and knows it. -/
def refusing : Matcher Nat Unit :=
  (ofPure (fun _ ↦ false) (fun _ ↦ "") fun _ ↦ "").withOracle fun _ ↦ pure false

/-- **A failing `allOf` does not keep its promise** if a component before the one to blame falters.
Both components keep theirs: the first one promises nothing. -/
theorem not_sound_allOf_faltering :
    Combines id () (fun _ ↦ True) (allOf [faltering, refusing]) ∧
      ¬ (allOf [faltering, refusing]).Sound id () := by
  have hfaltering : Combines id () (fun _ ↦ True) faltering := by
    refine .leaf (A := ⟨fun n ↦ if n = 0 then .ok true else .error (.message "lost"),
      fun _ ↦ true⟩) ⟨?_, fun n ↦ .pure true⟩ ?_
    · rintro n view s rfl
      exact ⟨s, rfl, rfl⟩
    · intro view s view' s' hle hsettled
      cases Except.ok.inj hsettled
  have hrefusing : Combines id () (fun _ ↦ True) refusing :=
    .leaf (A := ⟨fun _ ↦ .ok false, fun _ ↦ false⟩) ⟨fun n ↦ .pure _, fun n ↦ .pure _⟩
      fun view s view' s' hle hsettled ↦ rfl
  refine ⟨.allOf (fun m hm ↦ ?_) fun _ _ ↦ trivial, ?_⟩
  · rcases List.mem_pair.1 hm with rfl | rfl
    · exact hfaltering
    · exact hrefusing
  · -- the verdict of the first sample is lost at the second one
    intro hsound
    have hlost := hsound ⟨.zero, none⟩ 0 ⟨.zero, none⟩ 1 (Nat.zero_le 1) rfl
    cases Except.ok.inj hlost

end Matcher

end PollAssert
