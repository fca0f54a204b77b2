import PollAssert.Proofs.Flight.Traffic

/-!
# Failures are never silent and never doubled

What the accounts of a traffic come to, whatever its moves (`Traffic.never_silent_never_doubled`).

* Every assertion that answers `false` has handed over one failure, as the last thing it did, and no
  other assertion has handed over any (`Account.InOrder`, `BooksInOrder`).
* A recording handler keeps these failures in the order in which the assertions ended (`Recorded`).
  The record is a part of the user's state, so this is said of user code that leaves it to the
  handler (`Move.Leaves`).
* Without a handler every assertion that takes a step ends in a panic, and no user code is called on
  its behalf (`Account.IsUnheard`).
-/

namespace PollAssert

variable {σ α : Type}

/-! ### A handler that records -/

section Recording

variable {get : σ → Recorder} {update : (Recorder → Recorder) → σ → σ} {offset : UInt64}
  {site : Site} {old : List Notice} {v w : World σ}

/-- No user code of the flight but the handler touches the record. -/
def Flight.Leaves (get : σ → Recorder) (f : Flight σ α) : Prop :=
  ∀ record, f.UserKeeps (get · = record) (get · = record)

/-- No user code that takes part in the move but the handler touches the record. -/
def Move.Leaves (get : σ → Recorder) (handler : Option (Handler σ)) : Move σ → Prop
  | .demand budgets time mode subject site settings m desired description =>
    (Craft.ofDemand ⟨handler, budgets, time⟩ mode subject site settings m desired
      description).flight.Leaves get
  | .expect _ _ _ _ m _ _ => ∀ record, m.Keeps (get · = record) (get · = record)
  | .meanwhile change _ => ∀ s, get (change s) = get s
  | .step _ => True
  | .drop _ => True

/-- A recording handler always returns, having recorded the failure. -/
theorem Recorder.hand_handler (update : (Recorder → Recorder) → σ → σ) (failure : Failure)
    (u : World σ) : Engine.hand (handler update) failure u =
      (.ok (), { u with user := update (·.record failure) u.user,
                        notices := .handed failure :: u.notices }) := rfl

/-- What is handed over in a turn that answers `false` is recorded, and nothing else is. -/
theorem Handover.recorded (hget : ∀ g s, get (update g s) = g (get s)) {record : Recorder}
    {r : Except Halt (Option Bool)}
    (h : Handover (some (Recorder.handler update)) offset site
      (fun w ↦ w.Quiet old ∧ get w.user = record) r v) :
    (r = .ok (some false) →
      (get v.user).failures = record.failures ++ Notice.failures (Notice.since old v.notices)) ∧
    (r ≠ .ok (some false) → get v.user = record) := by
  cases h with
  | goesOn hv => exact ⟨nofun, fun _ ↦ hv.2⟩
  | held hv => exact ⟨nofun, fun _ ↦ hv.2⟩
  | halted hv => exact ⟨nofun, fun _ ↦ hv.2⟩
  | failed hh hu hskip hhand =>
    refine ⟨fun _ ↦ ?_, fun hne ↦ absurd rfl hne⟩
    cases hh
    rw [Recorder.hand_handler] at hhand
    obtain ⟨-, rfl⟩ := Prod.mk.inj hhand
    obtain ⟨⟨new, hnew, hfailures⟩, rfl⟩ := hu
    dsimp only
    rw [hget, hnew, ← List.cons_append, Notice.since_append, Notice.failures_cons_handed, hfailures]
    rfl
  | refused hh hu hskip hhand =>
    -- a recording handler does not halt
    cases hh
    rw [Recorder.hand_handler] at hhand
    cases hhand

/-- **What a step adds to the record**: the failures on the account, if the assertion ends with it
and the answer is `false`. -/
theorem Craft.recorded_step {c : Craft σ} (hget : ∀ g s, get (update g s) = g (get s))
    (hc : c.IsSilent (some (Recorder.handler update))) (hleaves : c.flight.Leaves get)
    (w : World σ) : match c.step w with
    | (.inl c', v) => c'.flight.Leaves get ∧ get v.user = get w.user
    | (.inr e, v) => (e.fate = .answered false →
          (get v.user).failures = (get w.user).failures ++ e.failures) ∧
        (e.fate ≠ .answered false → get v.user = get w.user) := by
  have hspares := (c.flight.spares_quiet w.notices).and
    (Flight.spares_user (hleaves (get w.user)))
  have hrecorded := (Flight.handsOver_step hc.reportsTo hspares w ⟨.refl w, rfl⟩).recorded hget
  rw [Craft.step]
  rcases hstep : c.flight.step w with ⟨p | ⟨flight, waits⟩, v⟩
  · rw [hstep] at hrecorded
    refine ⟨?_, fun _ ↦ hrecorded.2 (by rintro ⟨⟩)⟩
    rintro ⟨⟩
  · rw [hstep] at hrecorded
    dsimp only [Except.map] at hrecorded ⊢
    rcases hanswer : flight.answer? with - | held
    · rw [hanswer] at hrecorded
      exact ⟨fun record ↦ Flight.userKeeps_step (hleaves record) hstep hanswer,
        hrecorded.2 (by rintro ⟨⟩)⟩
    · rw [hanswer] at hrecorded
      cases held with
      | true =>
        refine ⟨?_, fun _ ↦ hrecorded.2 (by rintro ⟨⟩)⟩
        rintro ⟨⟩
      | false =>
        refine ⟨fun _ ↦ ?_, fun hne ↦ absurd rfl hne⟩
        rw [hc.failures_account]
        exact hrecorded.1 rfl

/-- The same of an assertion that is made at once. -/
theorem Bench.recorded_expect {b : Bench σ} (hb : b.handler = some (Recorder.handler update))
    (hget : ∀ g s, get (update g s) = g (get s)) (site : Site) (offset : UInt64) {m : Matcher σ α}
    (hm : ∀ record, m.Keeps (get · = record) (get · = record)) (desired : Bool) (a : α)
    (w : World σ) : match b.expect site offset m desired a w with
    | (r, v) =>
      let e := Account.ofExpect offset site (Notice.since w.notices v.notices) r
      (e.fate = .answered false →
          (get v.user).failures = (get w.user).failures ++ e.failures) ∧
        (e.fate ≠ .answered false → get v.user = get w.user) := by
  have hquiet : (Engine.call none (m.check desired a)).Keeps (World.Quiet w.notices)
      (World.Quiet w.notices) := Engine.keeps_call_of_foreign fun _ user hw ↦ hw.user user
  have huser : (Engine.call none (m.check desired a)).Keeps (fun v ↦ get v.user = get w.user)
      fun v ↦ get v.user = get w.user :=
    Engine.keeps_call_user (by rintro text ⟨⟩) ((hm (get w.user)).check desired a)
  have hover := b.handsOver_expect site offset m desired a (hquiet.and huser) w ⟨.refl w, rfl⟩
  rw [hb] at hover
  have hrecorded := hover.recorded hget
  rcases h : b.expect site offset m desired a w with ⟨p | held, v⟩
  · rw [h] at hrecorded
    exact ⟨nofun, fun _ ↦ hrecorded.2 nofun⟩
  · rw [h] at hrecorded
    cases held with
    | true => exact ⟨nofun, fun _ ↦ hrecorded.2 nofun⟩
    | false => exact ⟨fun _ ↦ hrecorded.1 rfl, fun hne ↦ absurd rfl hne⟩

/-- Since the world was `w₀` the record has got the failures of the assertions whose answer is
`false`, in the order in which these ended, and nothing else. -/
def Recorded (get : σ → Recorder) (w₀ w : World σ) (accounts : List Account) : Prop :=
  (get w.user).failures = (get w₀.user).failures ++
    (accounts.filter (·.fate = .answered false)).flatMap Account.failures

theorem Recorded.concat {w₀ : World σ} {accounts : List Account}
    (hrecorded : Recorded get w₀ w accounts) {e : Account}
    (hfalse : e.fate = .answered false →
      (get v.user).failures = (get w.user).failures ++ e.failures)
    (hother : e.fate ≠ .answered false → get v.user = get w.user) :
    Recorded get w₀ v (accounts ++ [e]) := by
  rw [Recorded, List.filter_append, List.flatMap_append, ← List.append_assoc, ← hrecorded]
  by_cases hfate : e.fate = .answered false
  · rw [hfalse hfate, List.filter_cons_of_pos (by rwa [decide_eq_true_iff]), List.filter_nil,
      List.flatMap_singleton]
  · rw [hother hfate, List.filter_cons_of_neg (by rwa [decide_eq_true_iff]), List.filter_nil,
      List.flatMap_nil, List.append_nil]

/-- **Every move by which the record is left to the handler keeps it.** -/
theorem Move.keeps_recorded (hget : ∀ g s, get (update g s) = g (get s)) (w₀ : World σ)
    {move : Move σ} (hmove : move.Leaves get (some (Recorder.handler update))) :
    move.Keeps (some (Recorder.handler update))
      (fun c ↦ c.IsSilent (some (Recorder.handler update)) ∧ c.flight.Leaves get)
      (Recorded get w₀) := by
  cases move with
  | demand budgets time mode subject site settings m desired description =>
    exact ⟨Craft.isSilent_ofDemand ⟨some (Recorder.handler update), budgets, time⟩ .., hmove⟩
  | step i =>
    rintro c w accounts ⟨hsilent, hleaves⟩ hrecorded
    have hsilent' := hsilent.step w
    have hstep := Craft.recorded_step hget hsilent hleaves w
    rcases h : c.step w with ⟨c' | e, v⟩
    · rw [h] at hsilent' hstep
      refine ⟨⟨hsilent'.1, hstep.1⟩, ?_⟩
      rw [Recorded, hstep.2]
      exact hrecorded
    · rw [h] at hstep
      exact hrecorded.concat hstep.1 hstep.2
  | drop i => exact fun c w accounts _ hrecorded ↦ hrecorded.concat nofun fun _ ↦ rfl
  | expect budgets time site offsets m desired a =>
    intro w accounts hrecorded
    have hexpect := Bench.recorded_expect (b := ⟨some (Recorder.handler update), budgets, time⟩) rfl
      hget site (lastOffset offsets) hmove desired a w
    exact hrecorded.concat hexpect.1 hexpect.2
  | meanwhile change clock =>
    intro w accounts hrecorded
    show (get (change w.user)).failures = _
    rw [hmove w.user]
    exact hrecorded

end Recording

/-! ### No handler -/

section Unheard

/-- The panic of an assertion that has no handler to report to. -/
def unheard : Halt := .panic Misconfiguration.missingHandler.text

/-- **Without a handler the first step of a flight is a panic and nothing else**, and there is no
second. -/
theorem Flight.step_of_reportsTo_none {f : Flight σ α} {offset : UInt64} {site : Site}
    (hf : f.ReportsTo none offset site) :
    f.step = Effect.panic Misconfiguration.missingHandler.text := by
  cases f with
  | landed held => exact hf.elim
  | polling a h run => cases hf.1
  | grounded a m desired description =>
    rw [step, takeOff, Bench.requireHandler, hf.1]
    rfl

/-- The assertion has not been heard: it was dropped or has ended in a panic, before anything was
noticed on its behalf. -/
def Account.IsUnheard (e : Account) : Prop :=
  e.notices = [] ∧ (e.fate = .dropped ∨ e.fate = .halted unheard)

/-- What the move does to the user's state, if no user code is called for an assertion. -/
def Move.touch : Move σ → σ → σ
  | .meanwhile change _, user => change user
  | _, user => user

/-- The panic leaves the world as it is, so that nothing is noticed. -/
theorem Craft.step_of_isSilent_none {c : Craft σ} (hc : c.IsSilent none) (w : World σ) :
    c.step w = (.inr (c.account [] (.halted unheard)), w) := by
  have hsince : Notice.since w.notices w.notices = [] := Notice.since_append [] w.notices
  rw [Craft.step, Flight.step_of_reportsTo_none hc.reportsTo, Effect.panic_apply]
  dsimp only
  rw [hsince]
  rfl

theorem Account.isUnheard_ofExpect (budgets : Budgets) (time : TimeSource σ) (site : Site)
    (offset : UInt64) (m : Matcher σ α) (desired : Bool) (a : α) (w : World σ) :
    match (Bench.mk none budgets time).expect site offset m desired a w with
    | (r, v) => (Account.ofExpect offset site (Notice.since w.notices v.notices) r).IsUnheard ∧
        v = w := by
  rw [Bench.expect_of_handler_eq_none rfl]
  exact ⟨⟨Notice.since_append [] w.notices, .inr rfl⟩, rfl⟩

theorem Move.keeps_isUnheard (move : Move σ) :
    move.Keeps none (fun c ↦ c.IsSilent none ∧ c.notices = [])
      fun _ accounts ↦ ∀ e ∈ accounts, e.IsUnheard := by
  have hconcat : ∀ {accounts : List Account} {e : Account}, (∀ e ∈ accounts, e.IsUnheard) →
      e.IsUnheard → ∀ e' ∈ accounts ++ [e], e'.IsUnheard := by
    intro accounts e haccounts he e' he'
    rcases List.mem_append.1 he' with hold | hnew
    · exact haccounts e' hold
    · rw [List.mem_singleton.1 hnew]
      exact he
  cases move with
  | demand budgets time mode subject site settings m desired description =>
    exact ⟨Craft.isSilent_ofDemand ⟨none, budgets, time⟩ .., rfl⟩
  | step i =>
    rintro c w accounts ⟨hsilent, hnotices⟩ haccounts
    rw [Craft.step_of_isSilent_none hsilent]
    exact hconcat haccounts ⟨hnotices, .inr rfl⟩
  | drop i =>
    rintro c w accounts ⟨-, hnotices⟩ haccounts
    exact hconcat haccounts ⟨hnotices, .inl rfl⟩
  | expect budgets time site offsets m desired a =>
    intro w accounts haccounts
    have hexpect := Account.isUnheard_ofExpect budgets time site (lastOffset offsets) m desired a w
    exact hconcat haccounts hexpect.1
  | meanwhile change clock => exact fun w accounts haccounts ↦ haccounts

/-- **Without a handler no user code is called for any assertion.** -/
theorem Traffic.user_move_none {t : Traffic σ} (hsilent : ∀ c ∈ t.aloft, c.IsSilent none)
    (move : Move σ) : (t.move none move).world.user = move.touch t.world.user := by
  cases move with
  | step i =>
    rw [Traffic.move]
    rcases hi : t.aloft[i]? with - | c
    · rfl
    · dsimp only
      rw [Craft.step_of_isSilent_none (hsilent c (List.mem_of_getElem? hi))]
      rfl
  | drop i =>
    rw [Traffic.move]
    rcases t.aloft[i]? with - | c <;> rfl
  | expect budgets time site offsets m desired a =>
    have hexpect :=
      Account.isUnheard_ofExpect budgets time site (lastOffset offsets) m desired a t.world
    exact congrArg World.user hexpect.2
  | demand | meanwhile => rfl

end Unheard

/-! ### All of it -/

namespace Traffic

theorem inOrder_run (handler : Option (Handler σ)) (w : World σ) (moves : List (Move σ)) :
    ((start w).run handler moves).Satisfies (Craft.IsSilent handler) (BooksInOrder handler w) := by
  have hstart : BooksInOrder handler w w [] := ⟨nofun, (List.append_nil _).symm⟩
  exact (satisfies_start hstart).run fun move _ ↦ move.keeps_inOrder handler w

theorem recorded_run {get : σ → Recorder} {update : (Recorder → Recorder) → σ → σ}
    (hget : ∀ g s, get (update g s) = g (get s)) (w : World σ) {moves : List (Move σ)}
    (hmoves : ∀ move ∈ moves, move.Leaves get (some (Recorder.handler update))) :
    Recorded get w ((start w).run (some (Recorder.handler update)) moves).world
      ((start w).run (some (Recorder.handler update)) moves).ended := by
  have hstart : Recorded get w w [] := (List.append_nil _).symm
  exact ((satisfies_start hstart).run fun move hmove ↦
    Move.keeps_recorded hget w (hmoves move hmove)).books

theorem isUnheard_run (w : World σ) (moves : List (Move σ)) :
    ∀ e ∈ ((start w).run none moves).ended, e.IsUnheard :=
  ((satisfies_start (w := w) (by rintro e ⟨⟩)).run fun move _ ↦ move.keeps_isUnheard).books

theorem user_run_none (w : World σ) (moves : List (Move σ)) :
    ((start w).run none moves).world.user =
      moves.foldl (fun user move ↦ move.touch user) w.user := by
  have hrun : ∀ t : Traffic σ, t.Satisfies (Craft.IsSilent none) (BooksInOrder none w) →
      (t.run none moves).world.user =
        moves.foldl (fun user move ↦ move.touch user) t.world.user := by
    induction moves with
    | nil => exact fun _ _ ↦ rfl
    | cons move moves ih =>
      intro t ht
      rw [List.foldl_cons, ← user_move_none ht.aloft move]
      exact ih (t.move none move) (ht.move (move.keeps_inOrder none w))
  exact hrun (start w) (inOrder_run none w [])

/-- **Failures are never silent and never doubled**, in whatever way the assertions of a traffic are
configured, interleaved, dropped, or brought to a halt.

* No assertion under way has handed over anything, and the accounts of the others are in order.
* An assertion whose offset is too large to be added to hands over nothing. It is never answered
  `false`, for it ends in a panic instead.
* A record that nobody but the handler touches has got the failures of the assertions whose answer
  is `false`, in the order in which these ended.
* Without a handler each step is a panic and nothing else, and no user code is called for any
  assertion. -/
theorem never_silent_never_doubled (handler : Option (Handler σ)) (w : World σ)
    (moves : List (Move σ)) :
    ((start w).run handler moves).Satisfies (Craft.IsSilent handler) (BooksInOrder handler w) ∧
      (∀ e ∈ ((start w).run handler moves).ended, callerSkip? e.offset = none →
        e.failures = [] ∧ e.fate ≠ .answered false) ∧
      (∀ get update, handler = some (Recorder.handler update) →
        (∀ g s, get (update g s) = g (get s)) → (∀ move ∈ moves, move.Leaves get handler) →
        Recorded get w ((start w).run handler moves).world
          ((start w).run handler moves).ended) ∧
      (handler = none →
        (∀ c ∈ ((start w).run handler moves).aloft,
          c.flight.step = Effect.panic Misconfiguration.missingHandler.text) ∧
        (∀ e ∈ ((start w).run handler moves).ended, e.IsUnheard) ∧
        ((start w).run handler moves).world.user =
          moves.foldl (fun user move ↦ move.touch user) w.user) := by
  have hrun := inOrder_run handler w moves
  refine ⟨hrun, fun e he ↦ (hrun.books.inOrder e he).of_callerSkip?_eq_none, ?_, ?_⟩
  · rintro get update rfl hget hmoves
    exact recorded_run hget w hmoves
  · rintro rfl
    exact ⟨fun c hc ↦ Flight.step_of_reportsTo_none (hrun.aloft c hc).reportsTo,
      isUnheard_run w moves, user_run_none w moves⟩

/-- Is it the number one? -/
def isOne : Matcher Recorder Nat := .ofPure (· = 1) (fun _ ↦ "not one") fun _ ↦ "one"

/-- An assertion that is misconfigured, one that holds, one that fails, one that fails and has an
offset too large to be added to, and one that is dropped. -/
def medley : List (Move Recorder) :=
  [.demand {} (.runtime .zero) .eventually (.fixed 1) "misconfigured"
      [.offset 7, .offset 3, .timeout .zero] isOne true .none,
    .demand {} (.runtime .zero) .eventually (.fixed 1) "held" [] isOne true .none,
    .step 1, .expect {} (.runtime .zero) "failed" [2, 5] isOne true 2,
    .expect {} (.runtime .zero) "overlong" [5, 18446744073709551614] isOne true 2,
    .step 1, .step 0,
    .demand {} (.runtime .zero) .consistently (.fixed 1) "dropped" [] isOne false .none, .drop 0]

/-- Nobody but the handler touches the record. -/
theorem leaves_medley : ∀ move ∈ medley, move.Leaves id (some (Recorder.handler id)) := by
  have hone : ∀ record, isOne.Keeps (id · = record) (id · = record) := fun _ ↦
    Matcher.keeps_ofPure ..
  have hdemand : ∀ (a : Assertion Recorder Nat) (desired : Bool),
      a.bench.time = .runtime .zero → a.subject = .fixed 1 →
      (Flight.demand a isOne desired .none).Leaves id := by
    intro a desired htime hsubject record
    refine ⟨htime ▸ TimeSource.keeps_runtime .., hone record, .pure _, ?_⟩
    rw [hsubject]
    rintro source ⟨⟩
    exact .pure _
  intro move hmove
  simp only [medley, List.mem_cons, List.not_mem_nil, or_false] at hmove
  rcases hmove with rfl | rfl | rfl | rfl | rfl | rfl | rfl | rfl | rfl
  · exact hdemand _ _ rfl rfl
  · exact hdemand _ _ rfl rfl
  · trivial
  · exact hone
  · exact hone
  · trivial
  · trivial
  · exact hdemand _ _ rfl rfl
  · trivial

/-- Three assertions are answered. The one that fails and the one that is misconfigured are on the
record, in the order in which they ended, and with the offsets that were set last. The one with the
large offset ends in a panic, and nothing is handed over for it. Without a handler each of the four
panics. -/
theorem never_silent_never_doubled_medley :
    ((start ⟨{}, .zero, []⟩).run (some (Recorder.handler id)) medley).ended.map Account.fate =
        [.answered false, .halted (.panic "attempt to add with overflow"), .answered true,
          .answered false, .dropped] ∧
      ((start ⟨{}, .zero, []⟩).run (some (Recorder.handler id)) medley).world.user.failures =
        [⟨"not one", 7, "failed"⟩,
          ⟨"Eventually requires a positive timeout, got 0ns", 5, "misconfigured"⟩] ∧
      ((start ⟨{}, .zero, []⟩).run none medley).ended.map Account.fate =
        List.replicate 4 (.halted (.panic
          ("no fail handler has been registered: build the harness with Harness::new(handler) " ++
            "before making assertions"))) ++ [.dropped] ∧
      ((start ⟨{}, .zero, []⟩).run none medley).world.user = {} := by
  obtain ⟨-, -, hrecord, -⟩ :=
    never_silent_never_doubled (some (Recorder.handler id)) ⟨{}, .zero, []⟩ medley
  obtain ⟨-, -, -, hunheard⟩ := never_silent_never_doubled none ⟨({} : Recorder), .zero, []⟩ medley
  refine ⟨rfl, ?_, rfl, (hunheard rfl).2.2⟩
  exact hrecord id id rfl (fun _ _ ↦ rfl) leaves_medley

end Traffic

end PollAssert
