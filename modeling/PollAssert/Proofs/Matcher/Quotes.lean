import PollAssert.Matcher.Values
import PollAssert.Proofs.Matcher.Laws

/-!
# Whom the text of a combination quotes

The text that explains a combination is made of texts of its leaves and of words of its own. This
module says which texts of which leaves. If a combination does not match, its text for a failed
assertion quotes a leaf that does not match by that text as well, and a leaf that matches by the
text for a failed negated assertion; if it matches, the same is so of its negated text
(`Combination.quotes_blamed`). No text is given out that explains what is not the case.

This is not plain from the way the texts are found. Whom to blame is found out by judging the
components anew, and there a fault counts as "does not match", while to the judgement of the whole a
fault is no verdict. The two agree because a judgement that comes to a verdict has met with no fault
up to the component that decides it, and looks no further: that component is the first decisive one
in the eyes of both.

The leaves may answer as they like, by faults and by halts too, if what they answer depends on
nothing but the value (`Leaves`). What a text quotes is read off **pieces** that stay the same
whatever the texts of the leaves are.
-/

namespace PollAssert

variable {σ α β γ δ ι : Type}

/-! ### Results that depend on nothing -/

/-- The action comes to this result, be it a halt, from every state and whatever it can see. -/
def Action.ComesTo (result : Except Halt β) (act : Action σ β) : Prop :=
  ∀ view s, (act view s).1 = result

namespace Action.ComesTo

variable {result : Except Halt β} {act : Action σ β}

protected theorem pure (b : β) : Action.ComesTo (.ok b) (pure b : Action σ β) := fun _ _ ↦ rfl

protected theorem bind {next : β → Except Halt γ} {f : β → Action σ γ}
    (ha : act.ComesTo result) (hf : ∀ b, result = .ok b → (f b).ComesTo (next b)) :
    Action.ComesTo (result >>= next) (act >>= f) := by
  intro view s
  have hact := ha view s
  show ((act view >>= fun b ↦ f b view) s).1 = result >>= next
  rw [Effect.bind_def]
  generalize act view s = end' at hact ⊢
  obtain ⟨p | b, t⟩ := end'
  · obtain rfl : .error p = result := hact
    rfl
  · obtain rfl : .ok b = result := hact
    exact hf b rfl view t

/-- Going on after a result. -/
theorem bind_ok {b : β} {result : Except Halt γ} {f : β → Action σ γ} (ha : act.ComesTo (.ok b))
    (hf : (f b).ComesTo result) : Action.ComesTo result (act >>= f) := by
  have hnext : ∀ c, (.ok b : Except Halt β) = .ok c → (f c).ComesTo result := by
    rintro c ⟨⟩
    exact hf
  exact ha.bind hnext

protected theorem map (ha : act.ComesTo result) (f : β → γ) :
    Action.ComesTo (f <$> result) (f <$> act) := by
  rw [map_eq_pure_bind, map_eq_pure_bind]
  exact ha.bind fun b _ ↦ .pure (f b)

end Action.ComesTo

/-! ### What lists of matchers come to -/

namespace Matcher

variable {m : Matcher σ α} {ms pre : List (Matcher σ α)} {a : α}

/-- What judging by one matcher after the other comes to, by what each of them comes to. -/
def verdictUntil (decisive : Bool) :
    List (Except Halt (Except Fault Bool)) → Except Halt (Except Fault Bool)
  | [] => .ok (.ok !decisive)
  | result :: rest => do
    match ← result with
    | .ok matched => if matched = decisive then return .ok matched else verdictUntil decisive rest
    | .error fault => return .error fault

theorem comesTo_judgeUntil (decisive : Bool) {results : List (Except Halt (Except Fault Bool))}
    (h : List.Forall₂ (fun result (m : Matcher σ α) ↦ Action.ComesTo result (m.judge a)) results
      ms) : Action.ComesTo (verdictUntil decisive results) (judgeUntil decisive ms a) := by
  induction h with
  | nil => exact .pure _
  | cons hm _ ih =>
    refine hm.bind fun verdict _ ↦ ?_
    cases verdict with
    | error fault => exact .pure _
    | ok matched =>
      dsimp only
      by_cases hmatched : matched = decisive
      · rw [if_pos hmatched, if_pos hmatched]
        exact .pure _
      · rw [if_neg hmatched, if_neg hmatched]
        exact ih

/-- A decisive verdict of the whole is that of the first component that has it. -/
theorem exists_first {Q : Except Halt (Except Fault Bool) × γ → δ → Prop} {decisive : Bool}
    {found : List (Except Halt (Except Fault Bool) × γ)} {parts : List δ}
    (h : List.Forall₂ Q found parts)
    (hverdict : verdictUntil decisive (found.map Prod.fst) = .ok (.ok decisive)) :
    ∃ pre part post, parts = pre ++ part :: post ∧
      (∀ part' ∈ pre, ∃ c, Q (.ok (.ok !decisive), c) part') ∧
      ∃ c, Q (.ok (.ok decisive), c) part := by
  induction h with
  | nil =>
    cases decisive <;> cases hverdict
  | @cons result part found parts hpart hparts ih =>
    obtain ⟨p | fault | matched, c⟩ := result
    · cases hverdict
    · cases hverdict
    change (if matched = decisive then _ else verdictUntil decisive (found.map Prod.fst)) = _
      at hverdict
    by_cases hmatched : matched = decisive
    · subst hmatched
      exact ⟨[], part, parts, rfl, nofun, c, hpart⟩
    · rw [if_neg hmatched] at hverdict
      obtain ⟨pre, first, post, rfl, hpre, hfirst⟩ := ih hverdict
      refine ⟨part :: pre, first, post, rfl, ?_, hfirst⟩
      obtain rfl : matched = !decisive := Bool.eq_not.2 hmatched
      exact List.forall_mem_cons.2 ⟨⟨c, hpart⟩, hpre⟩

/-- If no verdict of a component is decisive, all of them are the other one. -/
theorem eq_of_verdictUntil {decisive : Bool} {results : List (Except Halt (Except Fault Bool))}
    (h : verdictUntil decisive results = .ok (.ok !decisive)) :
    ∀ result ∈ results, result = .ok (.ok !decisive) := by
  induction results with
  | nil => exact nofun
  | cons result rest ih =>
    obtain p | fault | matched := result
    · cases h
    · cases h
    change (if matched = decisive then _ else verdictUntil decisive rest) = _ at h
    by_cases hmatched : matched = decisive
    · rw [if_pos hmatched, hmatched] at h
      have hsame := Except.ok.inj (Except.ok.inj h)
      cases decisive <;> cases hsame
    · rw [if_neg hmatched] at h
      exact List.forall_mem_cons.2 ⟨by rw [Bool.eq_not.2 hmatched], ih h⟩

/-- Looking for the first component with a verdict finds it, if those before it come to the other
verdict. Faults do not matter: there are none up to it. -/
theorem comesTo_firstThat {decisive : Bool}
    (hpre : ∀ m' ∈ pre, Action.ComesTo (.ok (.ok !decisive)) (m'.judge a))
    (hm : Action.ComesTo (.ok (.ok decisive)) (m.judge a)) (post : List (Matcher σ α)) :
    Action.ComesTo (.ok (some m)) (firstThat decisive (pre ++ m :: post) a) := by
  have haccepts : ∀ {m' : Matcher σ α} {b : Bool},
      Action.ComesTo (.ok (.ok b)) (m'.judge a) → Action.ComesTo (.ok b) (m'.accepts a) :=
    fun h ↦ h.bind_ok (.pure _)
  induction pre with
  | nil =>
    refine (haccepts hm).bind_ok ?_
    rw [if_pos rfl]
    exact .pure _
  | cons m' pre ih =>
    obtain ⟨hhead, htail⟩ := List.forall_mem_cons.1 hpre
    refine (haccepts hhead).bind_ok ?_
    rw [if_neg (by cases decisive <;> decide)]
    exact ih htail

theorem comesTo_textsBy {text : Matcher σ α → α → Action σ String}
    {result : γ → Except Halt String} {cs : List γ}
    (h : List.Forall₂ (fun c m ↦ Action.ComesTo (result c) (text m a)) cs ms) :
    Action.ComesTo (cs.mapM result) (textsBy text ms a) := by
  induction h with
  | nil => exact .pure _
  | cons hm _ ih =>
    rw [List.mapM_cons]
    exact hm.bind fun t _ ↦ ih.bind fun ts _ ↦ .pure _

/-- What `allOf` and `anyOf` have in common. Judging ends at the first verdict `decisive`, and then
the text is that of the component that has it; if there is none, the texts of all components are
listed behind the given words. -/
structure Joins (decisive : Bool) (words : String) (ms : List (Matcher σ α)) (m : Matcher σ α) :
    Prop where
  judge : ∀ a, m.judge a = judgeUntil decisive ms a
  blame : ∀ a, m.textFor (!decisive) a = firstThat decisive ms a >>= fun first ↦
    first.elim (pure "") (·.textFor (!decisive) a)
  list : ∀ a, m.textFor decisive a =
    (fun texts ↦ words ++ bracketed texts) <$> textsBy (fun m ↦ m.textFor decisive) ms a

theorem joins_allOf (ms : List (Matcher σ α)) :
    Joins false "expected not all of: " ms (allOf ms) where
  judge _ := rfl
  blame a := by
    show (firstThat false ms a >>= fun first ↦ _) = _
    congr 1
    funext first
    cases first <;> rfl
  list _ := (map_eq_pure_bind _ _).symm

theorem joins_anyOf (ms : List (Matcher σ α)) : Joins true "matched none of: " ms (anyOf ms) where
  judge _ := rfl
  blame a := by
    show (firstThat true ms a >>= fun first ↦ _) = _
    congr 1
    funext first
    cases first <;> rfl
  list _ := (map_eq_pure_bind _ _).symm

end Matcher

/-! ### Pieces of texts -/

/-- A piece of a text that explains a combination. -/
inductive Piece (ι : Type) where
  /-- Words of the combination. -/
  | words (s : String)
  /-- The text of a leaf for a failed assertion of the given polarity. -/
  | quote (i : ι) (desired : Bool)

namespace Piece

variable (text : ι → Bool → Except Halt String)

/-- The piece, if the leaves have these texts. -/
def told : Piece ι → Except Halt String
  | .words s => pure s
  | .quote i desired => text i desired

/-- The text that the pieces make. A halt of a leaf is one of the whole. -/
def toldAll : List (Piece ι) → Except Halt String
  | [] => pure ""
  | p :: ps => do return (← p.told text) ++ (← toldAll ps)

theorem toldAll_singleton (p : Piece ι) : toldAll text [p] = p.told text := by
  rw [toldAll, toldAll]
  simp only [pure_bind, String.append_empty, bind_pure]

theorem toldAll_append (ps qs : List (Piece ι)) :
    toldAll text (ps ++ qs) = do return (← toldAll text ps) ++ (← toldAll text qs) := by
  induction ps with
  | nil =>
    rw [List.nil_append, toldAll]
    simp only [pure_bind, String.empty_append, bind_pure]
  | cons p ps ih =>
    rw [List.cons_append, toldAll, toldAll, ih]
    simp only [bind_assoc, pure_bind, String.append_assoc]

/-- Pieces of several texts, with a separator between them. -/
theorem toldAll_intercalate (separator : String) (pss : List (List (Piece ι))) :
    toldAll text (List.intercalate [.words separator] pss) =
      separator.intercalate <$> pss.mapM (toldAll text) := by
  induction pss with
  | nil => rfl
  | cons ps pss ih =>
    cases pss with
    | nil =>
      rw [List.intercalate_singleton, List.mapM_cons, List.mapM_nil]
      simp only [pure_bind, map_bind, map_pure, String.intercalate_singleton, bind_pure]
    | cons qs pss =>
      have hwords : toldAll text [.words separator] = pure separator := toldAll_singleton text _
      rw [List.intercalate_cons_cons, toldAll_append, toldAll_append, ih, hwords]
      simp only [List.mapM_cons, pure_bind, bind_assoc, map_bind, map_pure,
        String.intercalate_cons_cons]

variable {text}

/-- A quote among pieces of several texts is one of one of them. -/
theorem exists_mem_of_intercalate {separator : String} {pss : List (List (Piece ι))} {i : ι}
    {desired : Bool} (h : quote i desired ∈ List.intercalate [.words separator] pss) :
    ∃ ps ∈ pss, quote i desired ∈ ps := by
  induction pss with
  | nil => cases h
  | cons ps pss ih =>
    cases pss with
    | nil => exact ⟨ps, List.mem_singleton_self ps, by rwa [List.intercalate_singleton] at h⟩
    | cons qs pss =>
      rw [List.intercalate_cons_cons] at h
      obtain hhead | htail := List.mem_append.1 h
      · obtain hps | hwords := List.mem_append.1 hhead
        · exact ⟨ps, List.mem_cons_self, hps⟩
        · cases List.mem_singleton.1 hwords
      · obtain ⟨rs, hrs, hquote⟩ := ih htail
        exact ⟨rs, List.mem_cons_of_mem _ hrs, hquote⟩

/-- Pieces of several texts, side by side in brackets. -/
def listed (words : String) (pss : List (List (Piece ι))) : List (Piece ι) :=
  .words (words ++ "[") :: List.intercalate [.words "; "] pss ++ [.words "]"]

theorem toldAll_listed (words : String) (pss : List (List (Piece ι))) :
    toldAll text (listed words pss) =
      (fun texts ↦ words ++ Matcher.bracketed texts) <$> pss.mapM (toldAll text) := by
  have hwords : ∀ s, toldAll text [.words s] = pure s := fun s ↦ toldAll_singleton text _
  rw [listed, toldAll_append, toldAll, toldAll_intercalate, hwords, told, map_eq_pure_bind,
    map_eq_pure_bind]
  simp only [bind_assoc, pure_bind, Matcher.bracketed, String.append_assoc]

theorem exists_mem_of_listed {words : String} {pss : List (List (Piece ι))} {i : ι}
    {desired : Bool} (h : quote i desired ∈ listed words pss) :
    ∃ ps ∈ pss, quote i desired ∈ ps := by
  obtain hhead | hlast := List.mem_append.1 h
  · obtain hfirst | hmiddle := List.mem_cons.1 hhead
    · cases hfirst
    · exact exists_mem_of_intercalate hmiddle
  · cases List.mem_singleton.1 hlast

end Piece

/-! ### Combinations -/

/-- A combination of leaves. To put a matcher into a box is to leave its callbacks as they are, so
there is no constructor for that. -/
inductive Combination (σ α ι : Type) where
  /-- A leaf. -/
  | leaf (i : ι)
  /-- All of the components. -/
  | allOf (cs : List (Combination σ α ι))
  /-- Any of the components. -/
  | anyOf (cs : List (Combination σ α ι))
  /-- The negation. -/
  | not (c : Combination σ α ι)
  /-- The combination with another oracle. -/
  | withOracle (c : Combination σ α ι) (mayChange : α → Action σ Bool)

namespace Combination

mutual

/-- The combination as a matcher. -/
def matcher (leaf : ι → Matcher σ α) : Combination σ α ι → Matcher σ α
  | .leaf i => leaf i
  | .allOf cs => .allOf (matchers leaf cs)
  | .anyOf cs => .anyOf (matchers leaf cs)
  | .not c => (c.matcher leaf).not
  | .withOracle c mayChange => (c.matcher leaf).withOracle mayChange

/-- Combinations as matchers. -/
def matchers (leaf : ι → Matcher σ α) : List (Combination σ α ι) → List (Matcher σ α)
  | [] => []
  | c :: cs => c.matcher leaf :: matchers leaf cs

end

theorem matchers_eq (leaf : ι → Matcher σ α) (cs : List (Combination σ α ι)) :
    matchers leaf cs = cs.map (matcher leaf) := by
  induction cs with
  | nil => rw [matchers, List.map_nil]
  | cons c cs ih => rw [matchers, List.map_cons, ih]

/-- What the leaves answer about the value depends on nothing else. -/
structure Leaves (a : α) (verdict : ι → Except Halt (Except Fault Bool))
    (text : ι → Bool → Except Halt String) (leaf : ι → Matcher σ α) : Prop where
  judge : ∀ i, Action.ComesTo (verdict i) ((leaf i).judge a)
  text : ∀ i desired, Action.ComesTo (text i desired) ((leaf i).textFor desired a)

variable {a : α} {verdict : ι → Except Halt (Except Fault Bool)}

/-- Whatever the texts of the leaves are, the combination comes to this result, and if it is a
verdict then the text that explains it is made of these pieces. Those that quote a leaf tell
what is the case. -/
structure Accounts (a : α) (verdict : ι → Except Halt (Except Fault Bool))
    (found : Except Halt (Except Fault Bool) × List (Piece ι)) (c : Combination σ α ι) : Prop where
  judge : ∀ text leaf, Leaves a verdict text leaf →
    Action.ComesTo found.1 ((c.matcher leaf).judge a)
  told : ∀ matched, found.1 = .ok (.ok matched) → ∀ text leaf, Leaves a verdict text leaf →
    Action.ComesTo (Piece.toldAll text found.2) ((c.matcher leaf).textFor (!matched) a)
  blamed : ∀ matched, found.1 = .ok (.ok matched) → ∀ i desired,
    Piece.quote i desired ∈ found.2 → verdict i = .ok (.ok !desired)

namespace Accounts

variable {c : Combination σ α ι} {cs : List (Combination σ α ι)}
  {found : Except Halt (Except Fault Bool) × List (Piece ι)}
  {founds : List (Except Halt (Except Fault Bool) × List (Piece ι))}

/-- Without a verdict there is nothing to explain. -/
theorem exists_of_judge {result : Except Halt (Except Fault Bool)}
    (hjudge : ∀ text leaf, Leaves a verdict text leaf →
      Action.ComesTo result ((c.matcher leaf).judge a))
    (hpieces : ∀ matched, result = .ok (.ok matched) → ∃ pieces : List (Piece ι),
      (∀ text leaf, Leaves a verdict text leaf →
        Action.ComesTo (Piece.toldAll text pieces) ((c.matcher leaf).textFor (!matched) a)) ∧
      ∀ i desired, Piece.quote i desired ∈ pieces → verdict i = .ok (.ok !desired)) :
    ∃ found, Accounts a verdict found c := by
  obtain p | fault | matched := result
  · exact ⟨(_, []), hjudge, nofun, nofun⟩
  · exact ⟨(_, []), hjudge, nofun, nofun⟩
  · obtain ⟨pieces, htold, hblamed⟩ := hpieces matched rfl
    refine ⟨(_, pieces), hjudge, ?_, ?_⟩
    · intro matched' hmatched
      obtain rfl := Except.ok.inj (Except.ok.inj hmatched)
      exact htold
    · exact fun _ _ ↦ hblamed

theorem exists_leaf (a : α) (verdict : ι → Except Halt (Except Fault Bool)) (i : ι) :
    ∃ found, Accounts a verdict found (.leaf i : Combination σ α ι) := by
  refine exists_of_judge (fun text leaf hleaf ↦ hleaf.judge i) fun matched hmatched ↦
    ⟨[.quote i (!matched)], fun text leaf hleaf ↦ ?_, ?_⟩
  · rw [Piece.toldAll_singleton]
    exact hleaf.text i (!matched)
  · intro i' desired hmem
    obtain ⟨rfl, rfl⟩ := Piece.quote.inj (List.mem_singleton.1 hmem)
    rw [hmatched, Bool.not_not]

theorem not (h : Accounts a verdict found c) :
    Accounts a verdict (Except.map (!·) <$> found.1, found.2) c.not := by
  have hfound : ∀ {matched}, Except.map (!·) <$> found.1 = .ok (.ok matched) →
      found.1 = .ok (.ok !matched) := by
    intro matched hmatched
    obtain ⟨p | fault | b, pieces⟩ := found
    · cases hmatched
    · cases hmatched
    · obtain rfl := Except.ok.inj (Except.ok.inj hmatched)
      rw [Bool.not_not]
  refine ⟨fun text leaf hleaf ↦ (h.judge text leaf hleaf).map _, ?_, ?_⟩
  · intro matched hmatched text leaf hleaf
    have htold := h.told _ (hfound hmatched) text leaf hleaf
    rw [Bool.not_not] at htold
    exact ((c.matcher leaf).textFor_not matched a).symm ▸ htold
  · exact fun matched hmatched ↦ h.blamed _ (hfound hmatched)

section Joins

variable {decisive : Bool} {words : String}
  (hjoins : ∀ leaf, Matcher.Joins decisive words (matchers leaf cs) (c.matcher leaf))
  (h : List.Forall₂ (Accounts a verdict) founds cs)
include hjoins h

/-- What the components come to tells what the whole comes to. -/
theorem comesTo_judge {text : ι → Bool → Except Halt String} {leaf : ι → Matcher σ α}
    (hleaf : Leaves a verdict text leaf) :
    Action.ComesTo (Matcher.verdictUntil decisive (founds.map Prod.fst))
      ((c.matcher leaf).judge a) := by
  rw [(hjoins leaf).judge, matchers_eq]
  refine Matcher.comesTo_judgeUntil decisive ?_
  rw [List.forall₂_map_left_iff, List.forall₂_map_right_iff]
  exact h.imp fun _ _ hc ↦ hc.judge text leaf hleaf

/-- If the verdict of the whole is the decisive one, its text is that of the first component that
has this verdict. -/
theorem exists_first
    (hverdict : Matcher.verdictUntil decisive (founds.map Prod.fst) = .ok (.ok decisive)) :
    ∃ pre first post pieces, cs = pre ++ first :: post ∧
      (∀ before ∈ pre, ∃ c, Accounts a verdict (.ok (.ok !decisive), c) before) ∧
      Accounts a verdict (.ok (.ok decisive), pieces) first ∧
      ∀ text leaf, Leaves a verdict text leaf →
        Action.ComesTo (Piece.toldAll text pieces) ((c.matcher leaf).textFor (!decisive) a) := by
  obtain ⟨pre, first, post, hcs, hpre, pieces, hfirst⟩ := Matcher.exists_first h hverdict
  refine ⟨pre, first, post, pieces, hcs, hpre, hfirst, fun text leaf hleaf ↦ ?_⟩
  rw [(hjoins leaf).blame, matchers_eq, hcs, List.map_append, List.map_cons]
  refine (Matcher.comesTo_firstThat ?_ (hfirst.judge text leaf hleaf) _).bind_ok
    (hfirst.told _ rfl text leaf hleaf)
  intro m hm
  obtain ⟨before, hbefore, rfl⟩ := List.mem_map.1 hm
  obtain ⟨_, hc⟩ := hpre before hbefore
  exact hc.judge text leaf hleaf

theorem exists_of_joins : ∃ found, Accounts a verdict found c := by
  refine exists_of_judge (fun text leaf hleaf ↦ comesTo_judge hjoins h hleaf)
    fun matched hmatched ↦ ?_
  -- one component speaks for the whole, or all components have the verdict of the whole
  by_cases hdecisive : matched = decisive
  · subst hdecisive
    obtain ⟨-, first, -, pieces, -, -, hfirst, htold⟩ := exists_first hjoins h hmatched
    exact ⟨pieces, htold, hfirst.blamed _ rfl⟩
  · obtain rfl := Bool.eq_not.2 hdecisive
    have hall := Matcher.eq_of_verdictUntil hmatched
    have hopen : List.Forall₂ (fun found c ↦ found.1 = .ok (.ok !decisive) ∧
        Accounts a verdict found c) founds cs :=
      (List.forall₂_and_left _ _).2 ⟨fun found hfound ↦ hall _ (List.mem_map_of_mem hfound), h⟩
    refine ⟨Piece.listed words (founds.map Prod.snd), fun text leaf hleaf ↦ ?_, ?_⟩
    · rw [Bool.not_not, (hjoins leaf).list, Piece.toldAll_listed, matchers_eq]
      refine Action.ComesTo.map (Matcher.comesTo_textsBy ?_) _
      rw [List.forall₂_map_left_iff, List.forall₂_map_right_iff]
      refine hopen.imp fun found c ⟨hfound, hc⟩ ↦ ?_
      have htold := hc.told _ hfound text leaf hleaf
      rwa [Bool.not_not] at htold
    · intro i desired hmem
      obtain ⟨pieces, hpieces, hquote⟩ := Piece.exists_mem_of_listed hmem
      obtain ⟨found, hfound, rfl⟩ := List.mem_map.1 hpieces
      have hblamed : ∀ found ∈ founds, ∀ i desired, Piece.quote i desired ∈ found.2 →
          verdict i = .ok (.ok !desired) :=
        ((List.forall₂_and_left _ _).1 (hopen.imp fun _ _ hc ↦ ⟨hc.2.blamed _ hc.1, hc⟩)).1
      exact hblamed found hfound i desired hquote

end Joins

end Accounts

mutual

/-- Every combination can be accounted for. -/
theorem exists_accounts (a : α) (verdict : ι → Except Halt (Except Fault Bool)) :
    (c : Combination σ α ι) → ∃ found, Accounts a verdict found c
  | .leaf i => Accounts.exists_leaf a verdict i
  | .allOf cs =>
    have ⟨_, h⟩ := exists_accounts_all a verdict cs
    Accounts.exists_of_joins (fun _ ↦ Matcher.joins_allOf _) h
  | .anyOf cs =>
    have ⟨_, h⟩ := exists_accounts_all a verdict cs
    Accounts.exists_of_joins (fun _ ↦ Matcher.joins_anyOf _) h
  | .not c =>
    have ⟨_, h⟩ := exists_accounts a verdict c
    ⟨_, h.not⟩
  | .withOracle c _ =>
    have ⟨found, h⟩ := exists_accounts a verdict c
    ⟨found, h.judge, h.told, h.blamed⟩

theorem exists_accounts_all (a : α) (verdict : ι → Except Halt (Except Fault Bool)) :
    (cs : List (Combination σ α ι)) → ∃ founds, List.Forall₂ (Accounts a verdict) founds cs
  | [] => ⟨[], .nil⟩
  | c :: cs =>
    have ⟨_, h⟩ := exists_accounts a verdict c
    have ⟨_, hs⟩ := exists_accounts_all a verdict cs
    ⟨_, .cons h hs⟩

end

/-- The first component with the verdict `b` speaks for the combination: those before it have the
other verdict, and the text of the whole is its text. -/
def SpokenForByFirst (a : α) (leaf : ι → Matcher σ α) (b : Bool) (cs : List (Combination σ α ι))
    (c : Combination σ α ι) : Prop :=
  ∃ pre first post result, cs = pre ++ first :: post ∧
    (∀ before ∈ pre, Action.ComesTo (.ok (.ok !b)) ((before.matcher leaf).judge a)) ∧
    Action.ComesTo (.ok (.ok b)) ((first.matcher leaf).judge a) ∧
    Action.ComesTo result ((first.matcher leaf).textFor (!b) a) ∧
    Action.ComesTo result ((c.matcher leaf).textFor (!b) a)

theorem spokenForByFirst_of_joins {c : Combination σ α ι} {cs : List (Combination σ α ι)}
    {decisive : Bool} {words : String} {text : ι → Bool → Except Halt String}
    {leaf : ι → Matcher σ α} {view : View σ} {s : σ}
    (hjoins : ∀ leaf, Matcher.Joins decisive words (matchers leaf cs) (c.matcher leaf))
    (hleaf : Leaves a verdict text leaf)
    (hjudge : ((c.matcher leaf).judge a view s).1 = .ok (.ok decisive)) :
    SpokenForByFirst a leaf decisive cs c := by
  obtain ⟨founds, h⟩ := exists_accounts_all a verdict cs
  have hverdict := (Accounts.comesTo_judge hjoins h hleaf view s).symm.trans hjudge
  obtain ⟨pre, first, post, pieces, hcs, hpre, hfirst, htold⟩ :=
    Accounts.exists_first hjoins h hverdict
  refine ⟨pre, first, post, _, hcs, fun before hbefore ↦ ?_, hfirst.judge text leaf hleaf,
    hfirst.told _ rfl text leaf hleaf, htold text leaf hleaf⟩
  obtain ⟨_, hc⟩ := hpre before hbefore
  exact hc.judge text leaf hleaf

/-- **The text of a combination quotes the leaves that are to blame**, and each of them by the right
text: if the combination fails an assertion of some polarity, its text for such an assertion is made
of words and of texts of leaves, and a text of a leaf for a failed assertion of some polarity is
among these only if the leaf fails it. The text of a failing `allOf` is that of the first component
that does not match, the one of an `anyOf` that fails a negated assertion that of the first
component that matches. -/
theorem quotes_blamed (c : Combination σ α ι) (a : α)
    {verdict : ι → Except Halt (Except Fault Bool)} {text : ι → Bool → Except Halt String}
    {leaf : ι → Matcher σ α} {desired : Bool} {view : View σ} {s : σ}
    (hleaf : Leaves a verdict text leaf)
    (hjudge : ((c.matcher leaf).judge a view s).1 = .ok (.ok !desired)) :
    (∃ pieces : List (Piece ι),
      (∀ i desired', Piece.quote i desired' ∈ pieces → verdict i = .ok (.ok !desired')) ∧
      ∀ text' leaf', Leaves a verdict text' leaf' →
        Action.ComesTo (Piece.toldAll text' pieces) ((c.matcher leaf').textFor desired a)) ∧
    (∀ cs, c = .allOf cs → desired = true → SpokenForByFirst a leaf false cs c) ∧
    ∀ cs, c = .anyOf cs → desired = false → SpokenForByFirst a leaf true cs c := by
  refine ⟨?_, ?_, ?_⟩
  · obtain ⟨⟨result, pieces⟩, h⟩ := exists_accounts a verdict c
    have hresult := (h.judge text leaf hleaf view s).symm.trans hjudge
    refine ⟨pieces, h.blamed _ hresult, fun text' leaf' hleaf' ↦ ?_⟩
    have htold := h.told _ hresult text' leaf' hleaf'
    rwa [Bool.not_not] at htold
  · rintro cs rfl rfl
    exact spokenForByFirst_of_joins (fun _ ↦ Matcher.joins_allOf _) hleaf hjudge
  · rintro cs rfl rfl
    exact spokenForByFirst_of_joins (fun _ ↦ Matcher.joins_anyOf _) hleaf hjudge

/-- A leaf that matches five, one that counts its calls and comes to a fault each time, and others
that do not match five. -/
def unsteadyLeaf : Nat → Matcher Nat Nat
  | 0 => .equalTo 5
  | 1 => .trySatisfying (fun _ ↦ do modify (· + 1); return .error (.message "lost")) "is reachable"
  | _ => .equalTo 6

/-- What they answer about five. -/
def unsteadyVerdict : Nat → Except Halt (Except Fault Bool)
  | 0 => .ok (.ok true)
  | 1 => .ok (.error (.message "lost"))
  | _ => .ok (.ok false)

theorem leaves_unsteadyLeaf : Leaves 5 unsteadyVerdict
    (fun i desired ↦ ((unsteadyLeaf i).textFor desired 5 ⟨.zero, none⟩ 0).1) unsteadyLeaf where
  judge
    | 0 => fun _ _ ↦ rfl
    | 1 => fun _ _ ↦ rfl
    | _ + 2 => fun _ _ ↦ rfl
  text
    | 0, true | 0, false => fun _ _ ↦ rfl
    | 1, true | 1, false => fun _ _ ↦ rfl
    | _ + 2, true | _ + 2, false => fun _ _ ↦ rfl

/-- The `anyOf` below the negation is to blame, because its first component matches. The fault of
the second one is not met with, neither by the judgement nor on looking for whom to blame. -/
def entangled : Combination Nat Nat Nat :=
  .allOf [.leaf 0, .not (.anyOf [.leaf 0, .leaf 1]), .leaf 1]

/-- The text is the negated one of a leaf that matches. -/
theorem quotes_blamed_entangled :
    ((entangled.matcher unsteadyLeaf).judge 5 ⟨.zero, none⟩ 0).1 = .ok (.ok false) ∧
    ((entangled.matcher unsteadyLeaf).textFor true 5 ⟨.zero, none⟩ 0).1 =
      .ok "expected 5 not to equal 5" ∧
    (∃ pieces : List (Piece Nat),
      (∀ i desired, Piece.quote i desired ∈ pieces → unsteadyVerdict i = .ok (.ok !desired)) ∧
      ∀ text leaf, Leaves 5 unsteadyVerdict text leaf →
        Action.ComesTo (Piece.toldAll text pieces) ((entangled.matcher leaf).textFor true 5)) ∧
    SpokenForByFirst 5 unsteadyLeaf false [.leaf 0, .not (.anyOf [.leaf 0, .leaf 1]), .leaf 1]
      entangled := by
  have hjudge : ((entangled.matcher unsteadyLeaf).judge 5 ⟨.zero, none⟩ 0).1 =
      .ok (.ok !true) := rfl
  obtain ⟨hpieces, hall, -⟩ := quotes_blamed entangled 5 leaves_unsteadyLeaf hjudge
  exact ⟨hjudge, by decide, hpieces, hall _ rfl rfl⟩

end Combination

end PollAssert
