import PollAssert.Proofs.Flight.Handover
import Mathlib.Data.List.Basic

/-!
# Traffic: many assertions that share a handler

A `Traffic` is what becomes of a world in which assertions are made on benches that share a handler.
It develops by `Move`s, one at a time and in any order: a verdict is demanded of an assertion with
any settings, one of the flights takes a step or is dropped where it stands, an assertion is made at
once, or something else happens to the user's state and the clock. A list of moves is thus any way
in which the flights can be interleaved, abandoned, or brought to a halt.

What is noticed while an assertion has its turn goes on its account, so that the failures it hands
over can be told from those of the others. The traffic lists the accounts of the assertions that
have ended, in the order in which they did. **All of them are in order**, and there are no failures
but those on the accounts (`Move.keeps_inOrder`).
-/

namespace PollAssert

variable {σ α : Type}

/-- The notices that were given after the old ones. -/
def Notice.since (old now : List Notice) : List Notice := now.take (now.length - old.length)

@[simp] theorem Notice.since_append (new old : List Notice) : since old (new ++ old) = new := by
  rw [since, List.length_append, Nat.add_sub_cancel]
  exact List.take_left' rfl

theorem Notice.failures_of_since {old now : List Notice} (h : now = since old now ++ old) :
    failures now = failures old ++ failures (since old now) := by
  rw [← failures_append, ← h]

/-! ### Offsets -/

/-- The offset that counts is the one that was set last. -/
def lastOffset (offsets : List UInt64) : UInt64 := offsets.getLast?.getD 0

/-- The offset that is set by a call of a setter. -/
def Setting.offset? : Setting σ → Option UInt64
  | .offset n => some n
  | _ => none

/-- Setters change neither the bench nor the site, and of the offsets the last one counts. -/
theorem Assertion.foldl_set (settings : List (Setting σ)) (a : Assertion σ α) :
    (settings.foldl .set a).bench = a.bench ∧ (settings.foldl .set a).site = a.site ∧
      (settings.foldl .set a).offset =
        (settings.filterMap Setting.offset?).getLast?.getD a.offset := by
  induction settings generalizing a with
  | nil => exact ⟨rfl, rfl, rfl⟩
  | cons setting settings ih =>
    obtain ⟨hbench, hsite, hoffset⟩ := ih (a.set setting)
    rw [List.foldl_cons, hbench, hsite, hoffset]
    cases setting with
    | offset n =>
      have hcons : (Setting.offset n :: settings).filterMap Setting.offset? =
          n :: settings.filterMap Setting.offset? := rfl
      rw [hcons, List.getLast?_cons]
      exact ⟨rfl, rfl, rfl⟩
    | _ => exact ⟨rfl, rfl, rfl⟩

/-! ### Accounts -/

/-- How an assertion ended. -/
inductive Fate where
  /-- It was answered. -/
  | answered (held : Bool)
  /-- It was dropped. -/
  | dropped
  /-- It halted, in a panic for one. -/
  | halted (p : Halt)
  deriving DecidableEq

/-- The account of an assertion that has ended. -/
structure Account where
  /-- The offset that was set last. -/
  offset : UInt64
  /-- Where the assertion was made. -/
  site : Site
  /-- What was noticed while it had its turns, newest first. -/
  notices : List Notice
  /-- How it ended. -/
  fate : Fate

/-- The failures that the assertion handed over. -/
def Account.failures (e : Account) : List Failure := Notice.failures e.notices

/-- The last thing that was noticed is that the failure was handed over. No other was, and it is one
of the assertion. -/
structure Account.HandsLast (e : Account) (failure : Failure) : Prop where
  last : e.notices.head? = some (.handed failure)
  failures : e.failures = [failure]
  callerSkip : failure.callerSkip.toNat = baseCallerSkip.toNat + e.offset.toNat
  site : failure.site = e.site

/-- The last thing to be done was that the handler was called with a failure of the assertion. It
returned or halted, as `r` says. -/
def Account.Handed (handler : Option (Handler σ)) (e : Account) (r : Except Halt Unit) : Prop :=
  ∃ h failure view user, handler = some h ∧ e.HandsLast failure ∧ (h failure view user).1 = r

/-- **The account is in order.** A failure was handed over if the answer is `false`, and otherwise
none was, unless it is the handler itself that halted. -/
def Account.InOrder (handler : Option (Handler σ)) (e : Account) : Prop :=
  match e.fate with
  | .answered true => e.failures = []
  | .answered false => e.Handed handler (.ok ())
  | .dropped => e.failures = []
  | .halted p => e.failures = [] ∨ e.Handed handler (.error p)

/-- If no word can hold the calls to skip then nothing is handed over, and the answer is not `false`
either. -/
theorem Account.InOrder.of_callerSkip?_eq_none {handler : Option (Handler σ)} {e : Account}
    (h : e.InOrder handler) (hskip : callerSkip? e.offset = none) :
    e.failures = [] ∧ e.fate ≠ .answered false := by
  have hnone : ∀ r, ¬ e.Handed handler r := by
    rintro r ⟨-, failure, -, -, -, hlast, -⟩
    have hlt : failure.callerSkip.toNat < UInt64.size := failure.callerSkip.toNat_lt
    rw [hlast.callerSkip] at hlt
    exact Nat.not_lt.2 (callerSkip?_eq_none_iff.1 hskip) hlt
  rw [InOrder] at h
  rcases hfate : e.fate with held | - | p <;> rw [hfate] at h
  · cases held with
    | true => exact ⟨h, nofun⟩
    | false => exact absurd h (hnone _)
  · exact ⟨h, nofun⟩
  · exact ⟨h.resolve_right (hnone _), nofun⟩

/-! ### Moves -/

/-- An assertion under way. -/
structure Craft (σ : Type) : Type 1 where
  /-- The type of the values that it is about. -/
  {α : Type}
  /-- Where it stands. -/
  flight : Flight σ α
  /-- The offset that was set last. -/
  offset : UInt64
  /-- Where it was made. -/
  site : Site
  /-- What was noticed while it had its turns, newest first. -/
  notices : List Notice

/-- The world, the assertions under way, and the accounts of those that have ended. -/
structure Traffic (σ : Type) : Type 1 where
  /-- The world. -/
  world : World σ
  /-- The assertions under way. -/
  aloft : List (Craft σ) := []
  /-- The accounts of the assertions that have ended, in this order. -/
  ended : List Account := []

/-- What may happen. -/
inductive Move (σ : Type) : Type 1 where
  /-- A verdict is demanded of an assertion that was made with the given settings. -/
  | demand {α : Type} (budgets : Budgets) (time : TimeSource σ) (mode : Mode)
      (subject : Subject σ α) (site : Site) (settings : List (Setting σ)) (m : Matcher σ α)
      (desired : Bool) (description : Description σ)
  /-- One of the assertions under way takes a step. -/
  | step (i : Nat)
  /-- One of the assertions under way is dropped. -/
  | drop (i : Nat)
  /-- An assertion is made at once. -/
  | expect {α : Type} (budgets : Budgets) (time : TimeSource σ) (site : Site)
      (offsets : List UInt64) (m : Matcher σ α) (desired : Bool) (a : α)
  /-- Something else happens to the user's state, and to the clock. -/
  | meanwhile (change : σ → σ) (clock : Duration)

namespace Craft

/-- An assertion that was made with the given settings and of which a verdict is demanded. -/
def ofDemand (bench : Bench σ) (mode : Mode) (subject : Subject σ α) (site : Site)
    (settings : List (Setting σ)) (m : Matcher σ α) (desired : Bool)
    (description : Description σ) : Craft σ where
  flight := .demand (settings.foldl .set (.make bench mode subject site)) m desired description
  offset := lastOffset (settings.filterMap Setting.offset?)
  site := site
  notices := []

/-- The account of an assertion that ends after some more notices. -/
def account (c : Craft σ) (new : List Notice) (fate : Fate) : Account :=
  ⟨c.offset, c.site, new ++ c.notices, fate⟩

/-- Take a step: the assertion goes on, or has ended. -/
def step (c : Craft σ) (w : World σ) : (Craft σ ⊕ Account) × World σ :=
  match c.flight.step w with
  | (.ok (flight, _), v) =>
    let new := Notice.since w.notices v.notices
    match flight.answer? with
    | none => (.inl { c with flight := flight, notices := new ++ c.notices }, v)
    | some held => (.inr (c.account new (.answered held)), v)
  | (.error p, v) => (.inr (c.account (Notice.since w.notices v.notices) (.halted p)), v)

end Craft

/-- The account of an assertion that was made at once. -/
def Account.ofExpect (offset : UInt64) (site : Site) (new : List Notice) (r : Except Halt Bool) :
    Account :=
  ⟨offset, site, new, match r with
    | .ok held => .answered held
    | .error p => .halted p⟩

namespace Traffic

/-- Traffic that begins. -/
def start (w : World σ) : Traffic σ := { world := w }

/-- What becomes of the traffic by a move. Who is not under way neither steps nor is dropped. -/
def move (handler : Option (Handler σ)) (t : Traffic σ) : Move σ → Traffic σ
  | .demand budgets time mode subject site settings m desired description =>
    { t with aloft := t.aloft ++ [.ofDemand ⟨handler, budgets, time⟩ mode subject site settings m
        desired description] }
  | .step i =>
    match t.aloft[i]? with
    | none => t
    | some c =>
      match c.step t.world with
      | (.inl c', w) => { t with world := w, aloft := t.aloft.set i c' }
      | (.inr e, w) => ⟨w, t.aloft.eraseIdx i, t.ended ++ [e]⟩
  | .drop i =>
    match t.aloft[i]? with
    | none => t
    | some c => ⟨t.world, t.aloft.eraseIdx i, t.ended ++ [c.account [] .dropped]⟩
  | .expect budgets time site offsets m desired a =>
    match (Bench.mk handler budgets time).expect site (lastOffset offsets) m desired a t.world with
    | (r, w) =>
      { t with
        world := w
        ended := t.ended ++
          [.ofExpect (lastOffset offsets) site (Notice.since t.world.notices w.notices) r] }
  | .meanwhile change clock =>
    { t with world := { t.world with user := change t.world.user, clock := clock } }

/-- What becomes of the traffic by one move after the other. -/
def run (handler : Option (Handler σ)) (t : Traffic σ) (moves : List (Move σ)) : Traffic σ :=
  moves.foldl (move handler) t

end Traffic

/-! ### Invariants -/

/-- The move keeps `P` of the assertions under way, and `Q` of the world and the accounts. -/
def Move.Keeps (handler : Option (Handler σ)) (P : Craft σ → Prop)
    (Q : World σ → List Account → Prop) : Move σ → Prop
  | .demand budgets time mode subject site settings m desired description =>
    P (.ofDemand ⟨handler, budgets, time⟩ mode subject site settings m desired description)
  | .step _ => ∀ c w ended, P c → Q w ended → match c.step w with
      | (.inl c', v) => P c' ∧ Q v ended
      | (.inr e, v) => Q v (ended ++ [e])
  | .drop _ => ∀ c w ended, P c → Q w ended → Q w (ended ++ [c.account [] .dropped])
  | .expect budgets time site offsets m desired a => ∀ w ended, Q w ended →
      match (Bench.mk handler budgets time).expect site (lastOffset offsets) m desired a w with
      | (r, v) => Q v (ended ++
          [.ofExpect (lastOffset offsets) site (Notice.since w.notices v.notices) r])
  | .meanwhile change clock => ∀ w ended, Q w ended →
      Q { w with user := change w.user, clock := clock } ended

namespace Traffic

/-- `P` holds of the assertions under way, and `Q` of the world and the accounts. -/
structure Satisfies (P : Craft σ → Prop) (Q : World σ → List Account → Prop) (t : Traffic σ) :
    Prop where
  aloft : ∀ c ∈ t.aloft, P c
  books : Q t.world t.ended

variable {handler : Option (Handler σ)} {t : Traffic σ} {P : Craft σ → Prop}
  {Q : World σ → List Account → Prop}

theorem satisfies_start {w : World σ} (hw : Q w []) : (start w).Satisfies P Q where
  aloft _ h := nomatch h
  books := hw

theorem Satisfies.move (ht : t.Satisfies P Q) {move : Move σ} (hmove : move.Keeps handler P Q) :
    (t.move handler move).Satisfies P Q := by
  cases move with
  | demand budgets time mode subject site settings m desired description =>
    refine ⟨fun c hc ↦ ?_, ht.books⟩
    rcases List.mem_append.1 hc with hold | hnew
    · exact ht.aloft c hold
    · rw [List.mem_singleton.1 hnew]
      exact hmove
  | step i =>
    rw [Traffic.move]
    rcases hi : t.aloft[i]? with - | c
    · exact ht
    have hstep := hmove c t.world t.ended (ht.aloft c (List.mem_of_getElem? hi)) ht.books
    dsimp only
    rcases h : c.step t.world with ⟨c' | e, v⟩
    · rw [h] at hstep
      refine ⟨fun c₁ hc₁ ↦ ?_, hstep.2⟩
      rcases List.mem_or_eq_of_mem_set hc₁ with hold | rfl
      · exact ht.aloft c₁ hold
      · exact hstep.1
    · rw [h] at hstep
      exact ⟨fun c' hc' ↦ ht.aloft c' (List.mem_of_mem_eraseIdx hc'), hstep⟩
  | drop i =>
    rw [Traffic.move]
    rcases hi : t.aloft[i]? with - | c
    · exact ht
    · exact ⟨fun c' hc' ↦ ht.aloft c' (List.mem_of_mem_eraseIdx hc'),
        hmove c t.world t.ended (ht.aloft c (List.mem_of_getElem? hi)) ht.books⟩
  | expect budgets time site offsets m desired a =>
    exact ⟨ht.aloft, hmove t.world t.ended ht.books⟩
  | meanwhile change clock => exact ⟨ht.aloft, hmove t.world t.ended ht.books⟩

/-- **What every move keeps holds throughout.** -/
theorem Satisfies.run (ht : t.Satisfies P Q) {moves : List (Move σ)}
    (hmoves : ∀ move ∈ moves, move.Keeps handler P Q) :
    (t.run handler moves).Satisfies P Q := by
  induction moves generalizing t with
  | nil => exact ht
  | cons move moves ih =>
    obtain ⟨hmove, hmoves⟩ := List.forall_mem_cons.1 hmoves
    exact ih (ht.move hmove) hmoves

end Traffic

/-! ### What a move adds to the accounts -/

section

variable {handler : Option (Handler σ)} {offset : UInt64} {site : Site} {old : List Notice}
  {r : Except Halt (Option Bool)} {v w : World σ}

theorem Engine.notices_hand (h : Handler σ) (failure : Failure) (u : World σ) :
    (hand h failure u).2.notices = .handed failure :: u.notices := rfl

/-- What was noticed in a turn with the given result is in order: nothing was handed over if the
assertion goes on, and else the account is in order that consists of it. -/
def TurnInOrder (handler : Option (Handler σ)) (offset : UInt64) (site : Site) (new : List Notice) :
    Except Halt (Option Bool) → Prop
  | .ok none => Notice.failures new = []
  | .ok (some held) => (Account.mk offset site new (.answered held)).InOrder handler
  | .error p => (Account.mk offset site new (.halted p)).InOrder handler

theorem Handover.turnInOrder (h : Handover handler offset site (World.Quiet old) r v) :
    v.notices = Notice.since old v.notices ++ old ∧
      TurnInOrder handler offset site (Notice.since old v.notices) r := by
  have hquiet : ∀ {u : World σ}, u.Quiet old → u.notices = Notice.since old u.notices ++ old ∧
      Notice.failures (Notice.since old u.notices) = [] := by
    rintro u ⟨new, hnew, hfailures⟩
    rw [hnew, Notice.since_append]
    exact ⟨rfl, hfailures⟩
  -- whether the handler returns or halts, the failure has been noticed by then
  have hhanded : ∀ {h : Handler σ} {message : String} {skip : UInt64} {u : World σ}
      {x : Except Halt Unit}, handler = some h → u.Quiet old → callerSkip? offset = some skip →
      Engine.hand h ⟨message, skip, site⟩ u = (x, v) →
      ∀ fate, v.notices = Notice.since old v.notices ++ old ∧
        (Account.mk offset site (Notice.since old v.notices) fate).Handed handler x := by
    rintro h message skip u x hh ⟨new, hnew, hfailures⟩ hskip hhand fate
    have hv := Engine.notices_hand h ⟨message, skip, site⟩ u
    rw [hhand, hnew, ← List.cons_append] at hv
    dsimp only at hv
    rw [hv, Notice.since_append]
    refine ⟨rfl, h, _, ⟨u.clock, none⟩, u.user, hh,
      ⟨rfl, ?_, callerSkip?_eq_some_iff.1 hskip, rfl⟩, ?_⟩
    · show Notice.failures (.handed _ :: new) = _
      rw [Notice.failures_cons_handed, hfailures, List.nil_append]
    · exact congrArg Prod.fst hhand
  cases h with
  | goesOn hv => exact hquiet hv
  | held hv => exact hquiet hv
  | failed hh hu hskip hhand => exact hhanded hh hu hskip hhand (.answered false)
  | halted hv => exact ⟨(hquiet hv).1, .inl (hquiet hv).2⟩
  | @refused h message skip p u v hh hu hskip hhand =>
    obtain ⟨hnew, hhands⟩ := hhanded hh hu hskip hhand (.halted p)
    exact ⟨hnew, .inr hhands⟩

/-- Notices of no failure that were given before do not spoil an account. -/
theorem Account.InOrder.append {new before : List Notice} {fate : Fate}
    (h : (Account.mk offset site new fate).InOrder handler)
    (hbefore : Notice.failures before = []) :
    (Account.mk offset site (new ++ before) fate).InOrder handler := by
  have hnone : Notice.failures new = [] → Notice.failures (new ++ before) = [] := by
    intro hnew
    rw [Notice.failures_append, hnew, hbefore]
    rfl
  have hhanded : ∀ {r : Except Halt Unit}, (Account.mk offset site new fate).Handed handler r →
      (Account.mk offset site (new ++ before) fate).Handed handler r := by
    rintro r ⟨h, failure, view, user, hh, hlast, hr⟩
    refine ⟨h, failure, view, user, hh, ⟨?_, ?_, hlast.callerSkip, hlast.site⟩, hr⟩
    · show (new ++ before).head? = _
      rw [List.head?_append, hlast.last]
      rfl
    · show Notice.failures (new ++ before) = _
      rw [Notice.failures_append, hbefore, List.nil_append]
      exact hlast.failures
  cases fate with
  | answered held =>
    cases held with
    | true => exact hnone h
    | false => exact hhanded h
  | dropped => exact hnone h
  | halted p => exact h.imp hnone hhanded

/-- The assertion reports to the handler, and has handed over nothing so far. -/
structure Craft.IsSilent (handler : Option (Handler σ)) (c : Craft σ) : Prop where
  reportsTo : c.flight.ReportsTo handler c.offset c.site
  failures : Notice.failures c.notices = []

/-- All the failures on the account of an assertion that ends are from its last step. -/
theorem Craft.IsSilent.failures_account {c : Craft σ} (hc : c.IsSilent handler)
    (new : List Notice) (fate : Fate) : (c.account new fate).failures = Notice.failures new := by
  show Notice.failures (new ++ c.notices) = Notice.failures new
  rw [Notice.failures_append, hc.failures, List.nil_append]

/-- **What a step adds to the account of an assertion**, and that it adds nothing else to the
failures. -/
theorem Craft.IsSilent.step {c : Craft σ} (hc : c.IsSilent handler) (w : World σ) :
    match c.step w with
    | (.inl c', v) => c'.IsSilent handler ∧
        Notice.failures v.notices = Notice.failures w.notices
    | (.inr e, v) => e.InOrder handler ∧
        Notice.failures v.notices = Notice.failures w.notices ++ e.failures := by
  have hover := Flight.handsOver_step hc.reportsTo (c.flight.spares_quiet w.notices) w (.refl w)
  rw [Craft.step]
  rcases hstep : c.flight.step w with ⟨p | ⟨flight, waits⟩, v⟩
  · rw [hstep] at hover
    obtain ⟨hnotices, horder⟩ := hover.turnInOrder
    have hnew : (Account.mk c.offset c.site (Notice.since w.notices v.notices)
        (.halted p)).InOrder handler := horder
    refine ⟨hnew.append hc.failures, ?_⟩
    rw [hc.failures_account]
    exact Notice.failures_of_since hnotices
  · rw [hstep] at hover
    obtain ⟨hnotices, horder⟩ := hover.turnInOrder
    dsimp only [Except.map] at hnotices horder ⊢
    rcases hanswer : flight.answer? with - | held
    · rw [hanswer] at horder
      have hnone : Notice.failures (Notice.since w.notices v.notices) = [] := horder
      refine ⟨⟨Flight.reportsTo_step hc.reportsTo hstep hanswer, ?_⟩, ?_⟩
      · rw [Notice.failures_append, hc.failures, hnone]
        rfl
      · rw [Notice.failures_of_since hnotices, hnone, List.append_nil]
    · rw [hanswer] at horder
      have hnew : (Account.mk c.offset c.site (Notice.since w.notices v.notices)
          (.answered held)).InOrder handler := horder
      refine ⟨hnew.append hc.failures, ?_⟩
      rw [hc.failures_account]
      exact Notice.failures_of_since hnotices

/-- The same of an assertion that is made at once. -/
theorem Bench.inOrder_expect (b : Bench σ) (site : Site) (offset : UInt64) (m : Matcher σ α)
    (desired : Bool) (a : α) (w : World σ) :
    match b.expect site offset m desired a w with
    | (r, v) => (Account.ofExpect offset site (Notice.since w.notices v.notices) r).InOrder
          b.handler ∧
        Notice.failures v.notices =
          Notice.failures w.notices ++ Notice.failures (Notice.since w.notices v.notices) := by
  have hcheck : (Engine.call none (m.check desired a)).Keeps (World.Quiet w.notices)
      (World.Quiet w.notices) := Engine.keeps_call_of_foreign fun _ user hw ↦ hw.user user
  have hover := b.handsOver_expect site offset m desired a hcheck w (.refl w)
  rcases h : b.expect site offset m desired a w with ⟨p | held, v⟩ <;> rw [h] at hover
  · exact ⟨hover.turnInOrder.2, Notice.failures_of_since hover.turnInOrder.1⟩
  · exact ⟨hover.turnInOrder.2, Notice.failures_of_since hover.turnInOrder.1⟩

end

/-! ### Traffic in order -/

/-- The accounts are in order, and the failures handed over since the world was `w₀` are those of
the accounts, in this order. -/
structure BooksInOrder (handler : Option (Handler σ)) (w₀ w : World σ) (accounts : List Account) :
    Prop where
  inOrder : ∀ e ∈ accounts, e.InOrder handler
  failures : Notice.failures w.notices =
    Notice.failures w₀.notices ++ accounts.flatMap Account.failures

theorem BooksInOrder.concat {handler : Option (Handler σ)} {w₀ w v : World σ}
    {accounts : List Account} (hbooks : BooksInOrder handler w₀ w accounts) {e : Account}
    (he : e.InOrder handler)
    (hv : Notice.failures v.notices = Notice.failures w.notices ++ e.failures) :
    BooksInOrder handler w₀ v (accounts ++ [e]) where
  inOrder e' he' := by
    rcases List.mem_append.1 he' with hold | hnew
    · exact hbooks.inOrder e' hold
    · rw [List.mem_singleton.1 hnew]
      exact he
  failures := by
    rw [hv, hbooks.failures, List.flatMap_append, List.flatMap_singleton, List.append_assoc]

theorem Craft.isSilent_ofDemand (bench : Bench σ) (mode : Mode) (subject : Subject σ α)
    (site : Site) (settings : List (Setting σ)) (m : Matcher σ α) (desired : Bool)
    (description : Description σ) :
    (Craft.ofDemand bench mode subject site settings m desired description).IsSilent
      bench.handler where
  reportsTo := by
    obtain ⟨hbench, hsite, hoffset⟩ :=
      Assertion.foldl_set settings (.make bench mode subject site)
    exact ⟨congrArg Bench.handler hbench, hoffset, hsite⟩
  failures := rfl

/-- **Every move keeps the accounts in order.** -/
theorem Move.keeps_inOrder (handler : Option (Handler σ)) (w₀ : World σ) (move : Move σ) :
    move.Keeps handler (Craft.IsSilent handler) (BooksInOrder handler w₀) := by
  cases move with
  | demand budgets time mode subject site settings m desired description =>
    exact Craft.isSilent_ofDemand ⟨handler, budgets, time⟩ ..
  | step i =>
    intro c w accounts hc hbooks
    have hstep := hc.step w
    rcases h : c.step w with ⟨c' | e, v⟩
    · rw [h] at hstep
      exact ⟨hstep.1, hbooks.inOrder, hstep.2.trans hbooks.failures⟩
    · rw [h] at hstep
      exact hbooks.concat hstep.1 hstep.2
  | drop i =>
    intro c w accounts hc hbooks
    -- to drop a flight is to do nothing more, and so far it has handed over nothing
    have hnone : (c.account [] .dropped).failures = [] := hc.failures_account [] .dropped
    refine hbooks.concat hnone ?_
    rw [hnone, List.append_nil]
  | expect budgets time site offsets m desired a =>
    intro w accounts hbooks
    have hexpect := Bench.inOrder_expect ⟨handler, budgets, time⟩ site (lastOffset offsets) m
      desired a w
    exact hbooks.concat hexpect.1 hexpect.2
  | meanwhile change clock => exact fun w accounts hbooks ↦ ⟨hbooks.inOrder, hbooks.failures⟩

end PollAssert
