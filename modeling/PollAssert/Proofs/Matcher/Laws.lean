import PollAssert.Proofs.Effects
import PollAssert.Matcher.Combinators
import Mathlib.Data.List.Forall2

/-!
# Laws of combinations

Judging by a list of matchers has effects: components count their calls, change their mind, come to
faults. So an equation between two combinations says more than that they come to the same verdict.
It says that they call the same components in the same order, up to the same one. Three kinds of
equations hold in this sense, for judging any value.

* **De Morgan.** The negation of `allOf` is `anyOf` of the negations, and dually.
* **Flattening.** An `allOf` among the components of an `allOf` may be replaced by its own
  components, and likewise for `anyOf`.
* **Double negation**, in all four callbacks.

They rest on two lemmas on `judgeUntil`, the loop below both combinations: negating all components
negates the verdict that ends the loop and the one it comes to (`judgeUntil_map_not`), and the loop
over two lists, one behind the other, is the loop over the first, and the loop over the second
unless the first has come to an end before (`judgeUntil_append`). A fault ends the loop whichever
verdict does, and is not negated.

Equal actions call alike. That what they call are the components in their order, as far as the
loop gets, is seen from a list that the components keep (`Action.CallsAlong`).
-/

namespace PollAssert

variable {σ α β γ ι : Type}

/-! ### Calls in order -/

/-- The calls that the action makes are the ones with the given tags, in this order and up to some
point. They are read off a list of all calls in the user's state. -/
def Action.CallsAlong (calls : σ → List ι) (tags : List ι) (act : Action σ β) : Prop :=
  ∀ view s, ∃ made, made <+: tags ∧ calls (act view s).2 = calls s ++ made

/-- Judging any value is one call, with the given tag, whatever comes of it. -/
def Matcher.Enters (calls : σ → List ι) (tag : ι) (m : Matcher σ α) : Prop :=
  ∀ a view s, calls (m.judge a view s).2 = calls s ++ [tag]

namespace Action.CallsAlong

variable {calls : σ → List ι} {tag : ι} {tags : List ι} {act : Action σ β}

protected theorem pure (b : β) : Action.CallsAlong calls tags (pure b : Action σ β) :=
  fun _ s ↦ ⟨[], List.nil_prefix, (List.append_nil (calls s)).symm⟩

/-- After one call come the others, unless the first one halts. -/
theorem cons_bind {f : β → Action σ γ} (hact : ∀ view s, calls (act view s).2 = calls s ++ [tag])
    (hf : ∀ b, (f b).CallsAlong calls tags) : (act >>= f).CallsAlong calls (tag :: tags) := by
  intro view s
  have hfirst := hact view s
  show ∃ made, made <+: tag :: tags ∧
    calls ((act view >>= fun b ↦ f b view) s).2 = calls s ++ made
  rw [Effect.bind_def]
  generalize act view s = result at hfirst ⊢
  obtain ⟨p | b, t⟩ := result
  · exact ⟨[tag], (List.prefix_cons_inj tag).2 List.nil_prefix, hfirst⟩
  · obtain ⟨made, hmade, hrest⟩ := hf b view t
    refine ⟨tag :: made, (List.prefix_cons_inj tag).2 hmade, ?_⟩
    change calls t = calls s ++ [tag] at hfirst
    rw [hrest, hfirst, List.append_assoc, List.singleton_append]

/-- What is done with the result makes no calls. -/
protected theorem map (h : act.CallsAlong calls tags) (f : β → γ) :
    Action.CallsAlong calls tags (f <$> act) := by
  intro view s
  have hstate : ((f <$> act view) s).2 = (act view s).2 := by
    rw [map_eq_pure_bind, Effect.bind_def]
    rcases act view s with ⟨p | b, t⟩ <;> rfl
  exact hstate ▸ h view s

end Action.CallsAlong

namespace Matcher

variable {calls : σ → List ι} {tags : List ι} {ms : List (Matcher σ α)}

/-! ### The loop over the components -/

/-- How the loop goes on after one judgement: it ends at the verdict `decisive` and at a fault, and
does the rest otherwise. -/
def judgeRest (decisive : Bool) (rest : Action σ (Except Fault Bool)) :
    Except Fault Bool → Action σ (Except Fault Bool)
  | .ok matched => if matched = decisive then pure (.ok matched) else rest
  | .error fault => pure (.error fault)

theorem judgeUntil_cons (decisive : Bool) (m : Matcher σ α) (ms : List (Matcher σ α)) (a : α) :
    judgeUntil decisive (m :: ms) a =
      m.judge a >>= judgeRest decisive (judgeUntil decisive ms a) := by
  rw [judgeUntil]
  congr 1

/-- What is done after the rest is done after the rest, if it is come to. -/
theorem judgeRest_bind (decisive : Bool) (rest after : Action σ (Except Fault Bool))
    (verdict : Except Fault Bool) :
    judgeRest decisive rest verdict >>= judgeRest decisive after =
      judgeRest decisive (rest >>= judgeRest decisive after) verdict := by
  cases verdict with
  | error fault => rfl
  | ok matched =>
    by_cases h : matched = decisive
    · rw [judgeRest, judgeRest, if_pos h, if_pos h, pure_bind, judgeRest, if_pos h]
    · rw [judgeRest, judgeRest, if_neg h, if_neg h]

/-- If nothing is left, the loop comes to what it has come to. -/
theorem judgeRest_nil (decisive : Bool) (verdict : Except Fault Bool) :
    judgeRest decisive (pure (.ok !decisive) : Action σ _) verdict = pure verdict := by
  cases verdict with
  | error fault => rfl
  | ok matched =>
    by_cases h : matched = decisive
    · rw [judgeRest, if_pos h]
    · rw [judgeRest, if_neg h, Bool.eq_not.2 h]

/-- **One list behind the other.** -/
theorem judgeUntil_append (decisive : Bool) (xs ys : List (Matcher σ α)) (a : α) :
    judgeUntil decisive (xs ++ ys) a =
      judgeUntil decisive xs a >>= judgeRest decisive (judgeUntil decisive ys a) := by
  induction xs with
  | nil =>
    have hopen : (!decisive) ≠ decisive := by cases decisive <;> decide
    rw [List.nil_append, judgeUntil, pure_bind, judgeRest, if_neg hopen]
  | cons m xs ih =>
    rw [List.cons_append, judgeUntil_cons, judgeUntil_cons, bind_assoc, ih]
    simp only [judgeRest_bind]

/-- A component that judges as a list of matchers does may be replaced by them. -/
theorem judgeUntil_flatten (decisive : Bool) {m : Matcher σ α} {ys : List (Matcher σ α)} {a : α}
    (hm : m.judge a = judgeUntil decisive ys a) (xs zs : List (Matcher σ α)) :
    judgeUntil decisive (xs ++ [m] ++ zs) a = judgeUntil decisive (xs ++ ys ++ zs) a := by
  have hone : judgeUntil decisive [m] a = judgeUntil decisive ys a := by
    rw [judgeUntil_cons, hm]
    calc judgeUntil decisive ys a >>= judgeRest decisive (judgeUntil decisive [] a)
        = judgeUntil decisive ys a >>= pure := by
          congr 1
          funext verdict
          exact judgeRest_nil decisive verdict
      _ = judgeUntil decisive ys a := bind_pure _
  rw [judgeUntil_append, judgeUntil_append _ xs [m], hone, judgeUntil_append _ (xs ++ ys),
    judgeUntil_append _ xs ys]

/-- **Negating the components** negates the verdict that the loop looks for and the one it comes
to. -/
theorem judgeUntil_map_not (decisive : Bool) (ms : List (Matcher σ α)) (a : α) :
    judgeUntil (!decisive) (ms.map not) a = Except.map (!·) <$> judgeUntil decisive ms a := by
  induction ms with
  | nil => rfl
  | cons m ms ih =>
    have hjudge : m.not.judge a = Except.map (!·) <$> m.judge a := rfl
    rw [List.map_cons, judgeUntil_cons, judgeUntil_cons, ih, hjudge, bind_map_left, map_bind]
    congr 1
    funext verdict
    cases verdict with
    | error fault => rfl
    | ok matched =>
      show judgeRest (!decisive) _ (.ok !matched) = _
      by_cases h : matched = decisive
      · rw [judgeRest, judgeRest, if_pos (congrArg (!·) h), if_pos h]
        rfl
      · rw [judgeRest, judgeRest, if_neg fun hnot ↦ h (Bool.not_inj hnot), if_neg h]

theorem callsAlong_judgeRest (decisive : Bool) {rest : Action σ (Except Fault Bool)}
    (h : rest.CallsAlong calls tags) (verdict : Except Fault Bool) :
    (judgeRest decisive rest verdict).CallsAlong calls tags := by
  cases verdict with
  | error fault => exact .pure _
  | ok matched =>
    by_cases hmatched : matched = decisive
    · rw [judgeRest, if_pos hmatched]
      exact .pure _
    · rw [judgeRest, if_neg hmatched]
      exact h

/-- The loop calls the components one after the other. -/
theorem callsAlong_judgeUntil (decisive : Bool) (h : List.Forall₂ (Enters calls) tags ms) (a : α) :
    (judgeUntil decisive ms a).CallsAlong calls tags := by
  induction h with
  | nil => exact .pure _
  | @cons tag m tags ms hm hms ih =>
    rw [judgeUntil_cons]
    exact .cons_bind (hm a) (callsAlong_judgeRest decisive ih)

/-! ### The laws -/

/-- The text of the other polarity of the negated matcher is the text of the matcher. -/
theorem textFor_not (m : Matcher σ α) (desired : Bool) (a : α) :
    m.not.textFor (!desired) a = m.textFor desired a := by
  cases desired <;> rfl

theorem judge_not_allOf (ms : List (Matcher σ α)) :
    (allOf ms).not.judge = (anyOf (ms.map not)).judge := by
  funext a
  exact (judgeUntil_map_not false ms a).symm

theorem judge_not_anyOf (ms : List (Matcher σ α)) :
    (anyOf ms).not.judge = (allOf (ms.map not)).judge := by
  funext a
  exact (judgeUntil_map_not true ms a).symm

theorem judge_allOf_allOf (xs ys zs : List (Matcher σ α)) :
    (allOf (xs ++ [allOf ys] ++ zs)).judge = (allOf (xs ++ ys ++ zs)).judge := by
  funext a
  exact judgeUntil_flatten false rfl xs zs

theorem judge_anyOf_anyOf (xs ys zs : List (Matcher σ α)) :
    (anyOf (xs ++ [anyOf ys] ++ zs)).judge = (anyOf (xs ++ ys ++ zs)).judge := by
  funext a
  exact judgeUntil_flatten true rfl xs zs

/-- Negating twice changes nothing. -/
theorem not_not (m : Matcher σ α) : m.not.not = m := by
  have hverdict : ∀ verdict : Except Fault Bool,
      Except.map (!·) (Except.map (!·) verdict) = verdict := by
    intro verdict
    cases verdict with
    | error fault => rfl
    | ok matched => exact congrArg Except.ok (Bool.not_not matched)
  have hjudge : m.not.not.judge = m.judge := by
    funext a
    show Except.map (!·) <$> (Except.map (!·) <$> m.judge a) = m.judge a
    rw [Functor.map_map]
    simp only [hverdict, id_map']
  show (⟨m.not.not.judge, m.failureText, m.negatedText, m.mayChange⟩ : Matcher σ α) = m
  rw [hjudge]

/-- **De Morgan, flattening and double negation.** Each equation is one of actions: from every state
and in all surroundings the two sides come to the same verdict, fault or halt, by the same calls.
What is called are the components from the first one on, each of them once. -/
theorem de_morgan_flattening (calls : σ → List ι) :
    (∀ ms : List (Matcher σ α),
      (allOf ms).not.judge = (anyOf (ms.map not)).judge ∧
      (anyOf ms).not.judge = (allOf (ms.map not)).judge ∧
      ∀ tags, List.Forall₂ (Enters calls) tags ms → ∀ a,
        ((allOf ms).not.judge a).CallsAlong calls tags ∧
        ((anyOf ms).not.judge a).CallsAlong calls tags) ∧
    (∀ xs ys zs : List (Matcher σ α),
      (allOf (xs ++ [allOf ys] ++ zs)).judge = (allOf (xs ++ ys ++ zs)).judge ∧
      (anyOf (xs ++ [anyOf ys] ++ zs)).judge = (anyOf (xs ++ ys ++ zs)).judge ∧
      ∀ tags, List.Forall₂ (Enters calls) tags (xs ++ ys ++ zs) → ∀ a,
        ((allOf (xs ++ [allOf ys] ++ zs)).judge a).CallsAlong calls tags ∧
        ((anyOf (xs ++ [anyOf ys] ++ zs)).judge a).CallsAlong calls tags) ∧
    ∀ m : Matcher σ α, m.not.not = m := by
  refine ⟨fun ms ↦ ⟨judge_not_allOf ms, judge_not_anyOf ms, fun tags h a ↦ ?_⟩,
    fun xs ys zs ↦ ⟨judge_allOf_allOf xs ys zs, judge_anyOf_anyOf xs ys zs, fun tags h a ↦ ?_⟩,
    not_not⟩
  · exact ⟨(callsAlong_judgeUntil false h a).map _, (callsAlong_judgeUntil true h a).map _⟩
  · rw [judge_allOf_allOf, judge_anyOf_anyOf]
    exact ⟨callsAlong_judgeUntil false h a, callsAlong_judgeUntil true h a⟩

/-- A matcher that enters its calls in a list and answers by the calls before. -/
def entering (tag : Nat) (answer : List Nat → Except Fault Bool) : Matcher (List Nat) Unit where
  judge _ := do
    let before ← get
    set (before ++ [tag])
    return answer before
  failureText _ := pure ""
  negatedText _ := pure ""
  mayChange _ := pure true

theorem enters_entering (tag : Nat) (answer : List Nat → Except Fault Bool) :
    (entering tag answer).Enters id tag := fun _ _ _ ↦ rfl

/-- A matcher that matches only if nothing was called before, one that comes to a fault, and one
that matches. -/
def fickle : List (Matcher (List Nat) Unit) :=
  [entering 0 fun before ↦ .ok before.isEmpty, entering 1 fun _ ↦ .error (.message "lost"),
    entering 2 fun _ ↦ .ok true]

/-- The fault of the second one ends both forms of the combination, and the third one is not called.
If the three are judged a second time, the first one decides. -/
theorem de_morgan_flattening_fickle :
    List.Forall₂ (Enters id) [0, 1, 2] fickle ∧
    (anyOf (fickle.map not)).judge () ⟨.zero, none⟩ [] =
      (.ok (.error (.message "lost")), [0, 1]) ∧
    (allOf ([] ++ [allOf fickle] ++ fickle)).judge () ⟨.zero, none⟩ [2] =
      (.ok (.ok false), [2, 0]) ∧
    (∃ made, made <+: [0, 1, 2] ∧
      ((allOf fickle).not.judge () ⟨.zero, none⟩ [2]).2 = [2] ++ made) ∧
    (anyOf fickle).not.not = anyOf fickle := by
  have hentered : List.Forall₂ (Enters id) [0, 1, 2] fickle :=
    .cons (enters_entering _ _) (.cons (enters_entering _ _) (.cons (enters_entering _ _) .nil))
  obtain ⟨hmorgan, hflat, hnot⟩ := de_morgan_flattening (α := Unit) (id : List Nat → List Nat)
  obtain ⟨hall, -, hcalls⟩ := hmorgan fickle
  refine ⟨hentered, ?_, ?_, (hcalls [0, 1, 2] hentered ()).1 ⟨.zero, none⟩ [2], hnot _⟩
  · rw [← hall]
    rfl
  · rw [(hflat [] fickle fickle).1]
    rfl

end Matcher

end PollAssert
