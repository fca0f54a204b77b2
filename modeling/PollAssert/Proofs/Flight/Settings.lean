import PollAssert.Proofs.Flight.Alike
import Mathlib.Data.List.Induction

/-!
# Settings: the last call of each kind counts

An assertion is built by calls of its setters, as many as one likes and in any order. Two of the
seven setters are aliases, so there are five kinds of calls (`Setting.Kind`). What the assertion
goes by in the end is `Effective`: for each kind what its **last** call said, or the default where
there was none. Everything that an earlier call did, invalid or not, is gone
(`Effective.foldl_set_make`).

Nothing is refused before the verdict is demanded. Then four checks are made, and the first that
fails is the misconfiguration that is reported (`Effective.flaw?`). A refused assertion comes to
`Bench.refuse`, in which neither the subject nor the matcher nor the description occurs: a warning
in the log and a failure with nothing in it but the misconfiguration in words (`Bench.Refuses`). An
assertion that passes the checks runs with the effective values and no others.
-/

namespace PollAssert

variable {σ α : Type}

/-! ### Writes -/

/-- A call of a setter as user code spells it. -/
inductive Write (σ : Type) where
  | withTimeout (d : Duration)
  | within (d : Duration)
  | withPolling (d : Duration)
  | probeEvery (d : Duration)
  | mustPassRepeatedly (n : Nat)
  | withToken (t : Token σ)
  | withOffset (n : UInt64)

namespace Write

/-- Make the call. -/
def call (a : Assertion σ α) : Write σ → Assertion σ α
  | .withTimeout d => a.withTimeout d
  | .within d => a.within d
  | .withPolling d => a.withPolling d
  | .probeEvery d => a.probeEvery d
  | .mustPassRepeatedly n => a.mustPassRepeatedly n
  | .withToken t => a.withToken t
  | .withOffset n => a.withOffset n

/-- What the call sets, whatever the name of the setter. -/
def setting : Write σ → Setting σ
  | .withTimeout d => .timeout d
  | .within d => .timeout d
  | .withPolling d => .polling d
  | .probeEvery d => .polling d
  | .mustPassRepeatedly n => .repeats n
  | .withToken t => .token t
  | .withOffset n => .offset n

theorem call_eq_set (a : Assertion σ α) (write : Write σ) : write.call a = a.set write.setting := by
  cases write <;> rfl

theorem foldl_call (writes : List (Write σ)) (a : Assertion σ α) :
    writes.foldl (fun a write ↦ write.call a) a = (writes.map setting).foldl .set a := by
  rw [List.foldl_map]
  simp only [call_eq_set]

end Write

namespace Setting

/-- The kinds of settings. -/
inductive Kind where
  | timeout
  | polling
  | token
  | offset
  | repeats
  deriving DecidableEq

/-- The kind of a setting. -/
def kind : Setting σ → Kind
  | .timeout _ => .timeout
  | .polling _ => .polling
  | .token _ => .token
  | .offset _ => .offset
  | .repeats _ => .repeats

/-- The last setting of a kind. -/
def lastOf (kind : Kind) (settings : List (Setting σ)) : Option (Setting σ) :=
  (settings.filter (·.kind = kind)).getLast?

variable {kind : Kind} {s s' : Setting σ} {pre mid post : List (Setting σ)}

theorem lastOf_append (pre post : List (Setting σ)) :
    lastOf kind (pre ++ post) = (lastOf kind post).or (lastOf kind pre) := by
  rw [lastOf, List.filter_append, List.getLast?_append]
  rfl

theorem lastOf_concat (settings : List (Setting σ)) (s : Setting σ) :
    lastOf kind (settings ++ [s]) = if s.kind = kind then some s else lastOf kind settings := by
  rw [lastOf_append, lastOf, List.filter_singleton]
  by_cases h : s.kind = kind <;> simp [h]

theorem isSome_lastOf_of_mem {settings : List (Setting σ)} (h : s ∈ settings) :
    (lastOf s.kind settings).isSome = true := by
  rw [lastOf, List.getLast?_isSome]
  exact List.ne_nil_of_mem (List.mem_filter.2 ⟨h, decide_eq_true rfl⟩)

/-- What was found last is of the kind that was looked for. -/
theorem kind_of_lastOf {settings : List (Setting σ)} (h : lastOf kind settings = some s) :
    s.kind = kind :=
  of_decide_eq_true (List.mem_filter.1 (List.mem_of_getLast? h)).2

/-- Settings of different kinds may change places. -/
theorem lastOf_comm (h : s.kind ≠ s'.kind) :
    lastOf kind (pre ++ s :: s' :: post) = lastOf kind (pre ++ s' :: s :: post) := by
  have hpair : ([s, s'].filter (·.kind = kind)) = [s', s].filter (·.kind = kind) := by
    by_cases hs : s.kind = kind
    · have hs' : s'.kind ≠ kind := fun hs' ↦ h (hs.trans hs'.symm)
      simp [hs, hs']
    · by_cases hs' : s'.kind = kind <;> simp [hs, hs']
  show lastOf kind (pre ++ ([s, s'] ++ post)) = lastOf kind (pre ++ ([s', s] ++ post))
  simp only [lastOf, List.filter_append, hpair]

/-- A setting leaves no trace before a later one of its kind. -/
theorem lastOf_overwritten (h : s.kind = s'.kind) :
    lastOf kind (pre ++ s :: (mid ++ s' :: post)) = lastOf kind (pre ++ (mid ++ s' :: post)) := by
  rw [lastOf_append, lastOf_append pre]
  by_cases hs : s.kind = kind
  · -- the later one hides whatever comes before it
    have hmem : s' ∈ mid ++ s' :: post := List.mem_append_right _ (List.mem_cons_self ..)
    obtain ⟨last, hlast⟩ := Option.isSome_iff_exists.1 (isSome_lastOf_of_mem hmem)
    rw [← h, hs] at hlast
    rw [← List.singleton_append, lastOf_append, hlast]
    rfl
  · have hskip : lastOf kind (s :: (mid ++ s' :: post)) = lastOf kind (mid ++ s' :: post) := by
      rw [lastOf, List.filter_cons_of_neg (by simpa using hs), lastOf]
    rw [hskip]

end Setting

/-! ### What an assertion goes by -/

/-- What an assertion goes by. -/
structure Effective (σ : Type) where
  /-- How long to poll. -/
  timeout : Duration
  /-- How long to wait between samples. -/
  polling : Duration
  /-- How many samples in a row have to pass, if that has been asked for. -/
  repeats? : Option Nat
  /-- What may cancel the run. -/
  token : Option (Token σ)
  /-- The calls to skip on top of the usual ones. -/
  offset : UInt64

namespace Effective

open Setting

/-- For each kind the last call, or the default. -/
def of (budgets : Budgets) (mode : Mode) (last : Kind → Option (Setting σ)) : Effective σ where
  timeout := match last .timeout with
    | some (.timeout d) => d
    | _ => budgets.timeout mode
  polling := match last .polling with
    | some (.polling d) => d
    | _ => budgets.polling mode
  repeats? := match last .repeats with
    | some (.repeats n) => some n
    | _ => none
  token := match last .token with
    | some (.token t) => some t
    | _ => none
  offset := match last .offset with
    | some (.offset n) => n
    | _ => 0

variable (e : Effective σ) (bench : Bench σ) (mode : Mode) (subject : Subject σ α) (site : Site)

/-- An assertion with these values. -/
def assertion : Assertion σ α where
  bench := bench
  mode := mode
  subject := subject
  timeout := Assertion.positiveTimeout mode e.timeout
  polling := Assertion.positivePolling mode e.polling
  repeats := e.repeats?.elim (.ok 1) (Assertion.validRepeats mode)
  token := e.token
  offset := e.offset
  site := site

/-- **The last call of each kind counts**, and nothing else. -/
theorem foldl_set_make (settings : List (Setting σ)) :
    settings.foldl .set (Assertion.make bench mode subject site) =
      (of bench.budgets mode fun kind ↦ lastOf kind settings).assertion bench mode subject
        site := by
  induction settings using List.reverseRecOn with
  | nil => rfl
  | append_singleton settings s ih =>
    rw [List.foldl_append, List.foldl_cons, List.foldl_nil, ih]
    simp only [lastOf_concat]
    cases s <;> rfl

/-! ### What is wrong with it -/

/-- The checks, each made by itself, in the order in which they count. -/
def flaws : List (Option Misconfiguration) :=
  [if e.timeout.isZero then some (.nonPositiveTimeout mode e.timeout) else none,
    if e.polling.isZero then some (.nonPositivePolling mode e.polling) else none,
    match mode, e.repeats? with
    | .consistently, some _ => some .repeatsWithConsistently
    | .eventually, some 0 => some (.invalidRepeatCount 0)
    | _, _ => none,
    match subject, e.token with
    | .returnsNothing, _ => some (.returnsNothing mode)
    | .checkedWithToken _, none => some (.tokenRequired mode)
    | _, _ => none]

/-- The first thing that is wrong. -/
def flaw? : Option Misconfiguration := (e.flaws mode subject).findSome? id

/-- The plan with these values. -/
def plan (source : Source σ α) (m : Matcher σ α) (desired : Bool) (description : Description σ) :
    Plan σ α where
  mode := mode
  timeout := e.timeout
  polling := e.polling
  repeats := e.repeats?.getD 1
  token := e.token
  source := source
  matcher := m
  desired := desired
  description := description
  time := bench.time

variable {e bench mode subject site}

theorem flaw?_eq (timeoutFlaw pollingFlaw repeatsFlaw subjectFlaw : Option Misconfiguration)
    (h : e.flaws mode subject = [timeoutFlaw, pollingFlaw, repeatsFlaw, subjectFlaw]) :
    e.flaw? mode subject = timeoutFlaw.or (pollingFlaw.or (repeatsFlaw.or subjectFlaw)) := by
  rw [flaw?, h]
  cases timeoutFlaw <;> cases pollingFlaw <;> cases repeatsFlaw <;> cases subjectFlaw <;> rfl

/-- **The first check that fails is what is reported**; if none does the plan has the effective
values. -/
theorem plan_assertion (m : Matcher σ α) (desired : Bool) (description : Description σ) :
    (e.assertion bench mode subject site).plan m desired description =
      match e.flaw? mode subject with
      | some cause => .error cause
      | none => (fun source ↦ e.plan bench mode source m desired description) <$>
        subject.resolve mode e.token := by
  rw [flaw?_eq _ _ _ _ rfl]
  obtain ⟨timeout, polling, repeats?, token, offset⟩ := e
  simp only [Assertion.plan, assertion, Assertion.positiveTimeout, Assertion.positivePolling]
  by_cases htimeout : timeout.isZero = true
  · simp only [htimeout]
    rfl
  by_cases hpolling : polling.isZero = true
  · simp only [htimeout, hpolling]
    rfl
  simp only [htimeout, hpolling]
  rcases mode with - | -
  · rcases repeats? with - | - | n
    · cases subject <;> cases token <;> rfl
    · rfl
    · cases subject <;> cases token <;> rfl
  · rcases repeats? with - | n
    · cases subject <;> cases token <;> rfl
    · rfl

/-- A subject that passes the checks can be sampled. -/
theorem exists_resolve (h : e.flaw? mode subject = none) :
    ∃ source, subject.resolve mode e.token = .ok source := by
  rw [flaw?_eq _ _ _ _ rfl, Option.or_eq_none_iff, Option.or_eq_none_iff,
    Option.or_eq_none_iff] at h
  obtain ⟨-, -, -, hsubject⟩ := h
  generalize e.token = token at hsubject ⊢
  cases subject with
  | fixed value => exact ⟨_, rfl⟩
  | produced produce => exact ⟨_, rfl⟩
  | checked produce => exact ⟨_, rfl⟩
  | checkedWithToken produce =>
    cases token with
    | none => cases hsubject
    | some t => exact ⟨_, rfl⟩
  | returnsNothing => cases hsubject

/-- A count for `consistently` stays a flaw. -/
theorem exists_flaw_of_consistently {n : Nat} (hn : e.repeats? = some n) :
    ∃ cause, e.flaw? .consistently subject = some cause := by
  refine Option.ne_none_iff_exists'.1 fun h ↦ ?_
  rw [flaw?_eq _ _ _ _ rfl, hn, Option.or_eq_none_iff, Option.or_eq_none_iff,
    Option.or_eq_none_iff] at h
  cases h.2.2.1

end Effective

/-! ### The verdict is demanded -/

/-- A misconfiguration in words. -/
inductive Misconfiguration.Reads : Misconfiguration → String → Prop
  | returnsNothing {mode : Mode} : Reads (.returnsNothing mode)
      (mode.text ++ " had an invalid signature: the function passed to " ++ mode.text ++
        " returns nothing. Functions passed to " ++ mode.text ++
        " must either take no arguments and return at least one value, " ++
        "or take a Checker (optionally followed by a CancellationToken)")
  | tokenRequired {mode : Mode} : Reads (.tokenRequired mode)
      (mode.text ++ " was passed a function that takes a CancellationToken, " ++
        "but no context was provided. Use with_context(token) to provide one")
  | nonPositiveTimeout {mode : Mode} {duration : Duration} :
      Reads (.nonPositiveTimeout mode duration)
        (mode.text ++ " requires a positive timeout, got " ++ duration.text)
  | nonPositivePolling {mode : Mode} {duration : Duration} :
      Reads (.nonPositivePolling mode duration)
        (mode.text ++ " requires a positive polling interval, got " ++ duration.text)
  | invalidRepeatCount {count : Nat} : Reads (.invalidRepeatCount count)
      ("must_pass_repeatedly requires a count of at least 1, got " ++ toString count)
  | repeatsWithConsistently : Reads .repeatsWithConsistently
      "Invalid use of must_pass_repeatedly with Consistently: it has no meaning"
  | missingHandler : Reads .missingHandler
      ("no fail handler has been registered: build the harness with Harness::new(handler) " ++
        "before making assertions")

theorem Misconfiguration.reads_text (cause : Misconfiguration) : cause.Reads cause.text := by
  cases cause <;> constructor

/-- What a bench does with an assertion that it refuses. The reading of the time and the handler
see no report. -/
def Bench.refuse (b : Bench σ) (mode : Mode) (offset : UInt64) (site : Site)
    (cause : Misconfiguration) : Engine σ Unit := do
  let handler ← b.requireHandler
  let _ ← Engine.call none b.time.now
  Engine.log (.misconfigured mode (.misconfigured cause))
  Engine.handIn handler cause.text offset site

/-- What comes of refusing an assertion in the given world. Of the user's code nothing is called but
the reading of the time and the handler, and to them no assertion is running. -/
inductive Bench.Refuses (b : Bench σ) (mode : Mode) (offset : UInt64) (site : Site)
    (cause : Misconfiguration) (w : World σ) : Except Halt Unit → World σ → Prop
  /-- There is no handler, which is a panic before anything else. -/
  | unheard {text : String} (hhandler : b.handler = none)
      (htext : Misconfiguration.missingHandler.Reads text) :
      b.Refuses mode offset site cause w (.error (.panic text)) w
  /-- The time cannot be read. -/
  | untimed {handler : Handler σ} {halt : Halt} {user : σ} (hhandler : b.handler = some handler)
      (hnow : b.time.now ⟨w.clock, none⟩ w.user = (.error halt, user)) :
      b.Refuses mode offset site cause w (.error halt) ⟨user, w.clock, w.notices⟩
  /-- The calls to skip do not fit a word. The warning has been written, and that is all. -/
  | overflows {handler : Handler σ} {started : Duration} {user : σ}
      (hhandler : b.handler = some handler)
      (hnow : b.time.now ⟨w.clock, none⟩ w.user = (.ok started, user))
      (hskip : callerSkip? offset = none) :
      b.Refuses mode offset site cause w (.error (.panic "attempt to add with overflow"))
        ⟨user, w.clock, .logged (.misconfigured mode (.misconfigured cause)) :: w.notices⟩
  /-- The warning is written, the misconfiguration is handed over in words and with nothing added
  to them, and what comes of that is up to the handler. -/
  | handed {handler : Handler σ} {started : Duration} {user user' : σ} {text : String}
      {skip : UInt64} {r : Except Halt Unit} (hhandler : b.handler = some handler)
      (hnow : b.time.now ⟨w.clock, none⟩ w.user = (.ok started, user))
      (htext : cause.Reads text) (hskip : callerSkip? offset = some skip)
      (hhandle : handler ⟨text, skip, site⟩ ⟨w.clock, none⟩ user = (r, user')) :
      b.Refuses mode offset site cause w r
        ⟨user', w.clock, .handed ⟨text, skip, site⟩ ::
          .logged (.misconfigured mode (.misconfigured cause)) :: w.notices⟩

namespace Bench

variable {b : Bench σ} {mode : Mode} {offset : UInt64} {site : Site} {cause : Misconfiguration}
  {w v : World σ} {r : Except Halt Unit}

theorem refuses (b : Bench σ) (mode : Mode) (offset : UInt64) (site : Site)
    (cause : Misconfiguration) (w : World σ) :
    b.Refuses mode offset site cause w (b.refuse mode offset site cause w).1
      (b.refuse mode offset site cause w).2 := by
  rw [refuse, requireHandler]
  cases hhandler : b.handler with
  | none => exact .unheard hhandler (Misconfiguration.reads_text _)
  | some handler =>
    rcases hnow : b.time.now ⟨w.clock, none⟩ w.user with ⟨reading, user⟩
    have hcall : Engine.call none b.time.now w = (reading, ⟨user, w.clock, w.notices⟩) := by
      rw [Engine.call_apply, hnow]
    rw [pure_bind]
    cases reading with
    | error halt =>
      rw [Effect.bind_of_error hcall]
      exact .untimed hhandler hnow
    | ok started =>
      rw [Effect.bind_of_ok hcall, Engine.log, Effect.bind_of_ok (Engine.note_apply _ _)]
      cases hskip : callerSkip? offset with
      | none =>
        rw [Engine.handIn_of_eq_none hskip]
        exact .overflows hhandler hnow hskip
      | some skip =>
        rw [Engine.handIn_of_eq_some hskip, Engine.hand,
          Effect.bind_of_ok (Engine.note_apply _ _), Engine.call_apply]
        exact .handed hhandler hnow (Misconfiguration.reads_text _) hskip rfl

/-- No time is spent on a refusal. -/
theorem Refuses.clock_eq (h : b.Refuses mode offset site cause w r v) : v.clock = w.clock := by
  cases h <;> rfl

end Bench

namespace Flight

variable {a : Assertion σ α} {m : Matcher σ α} {desired : Bool} {description : Description σ}

/-- The first step of a refused assertion is its last one. -/
theorem step_of_plan_eq_error {cause : Misconfiguration}
    (h : a.plan m desired description = .error cause) :
    (demand a m desired description).step =
      (fun _ ↦ (.landed false, false)) <$> a.bench.refuse a.mode a.offset a.site cause := by
  simp only [demand, step, takeOff, h, fail, Bench.refuse, bind_assoc, pure_bind,
    map_eq_pure_bind]

/-- What comes of the step is what comes of refusing the assertion. -/
theorem refuses_of_plan_eq_error {cause : Misconfiguration}
    (h : a.plan m desired description = .error cause) (w : World σ) : ∃ r v,
      (demand a m desired description).step w = ((fun _ ↦ (.landed false, false)) <$> r, v) ∧
      a.bench.Refuses a.mode a.offset a.site cause w r v := by
  refine ⟨_, _, ?_, a.bench.refuses a.mode a.offset a.site cause w⟩
  rw [step_of_plan_eq_error h, map_eq_pure_bind]
  rcases hrefuse : a.bench.refuse a.mode a.offset a.site cause w with ⟨halt | ⟨⟩, v⟩
  · exact Effect.bind_of_error hrefuse _
  · exact Effect.bind_of_ok hrefuse _

/-- The first step of an assertion that is not refused starts the run. -/
theorem step_of_plan_eq_ok {p : Plan σ α} (h : a.plan m desired description = .ok p) :
    (demand a m desired description).step = do
      let handler ← a.bench.requireHandler
      let started ← Engine.call none a.bench.time.now
      return (.polling a handler (.start p started), false) := by
  simp only [demand, step, takeOff, h, bind_assoc, pure_bind]

/-- **Refused assertions cannot be told apart** if they are refused for the same reason, whatever
they are about. -/
theorem indistinguishable_of_plan_eq_error {α' : Type} {a' : Assertion σ α'} {m' : Matcher σ α'}
    {desired' : Bool} {description' : Description σ} {cause : Misconfiguration}
    (hbench : a.bench = a'.bench) (hmode : a.mode = a'.mode) (hoffset : a.offset = a'.offset)
    (hsite : a.site = a'.site) (h : a.plan m desired description = .error cause)
    (h' : a'.plan m' desired' description' = .error cause) :
    (demand a m desired description).Indistinguishable (demand a' m' desired' description') := by
  refine Twins.indistinguishable (S := fun _ _ ↦ True)
    (.grounded hbench hmode hoffset hsite ?_ ?_)
  · intro cause' hcause
    rw [h', Except.error.inj (h.symm.trans hcause)]
  · intro p hp
    rw [h] at hp
    cases hp

end Flight

/-- A bench on the virtual clock that keeps the failures. -/
def Bench.keeping : Bench Recorder := ⟨some (Recorder.handler id), {}, .runtime .zero⟩

/-! ### Chains of calls -/

namespace Assertion

open Setting (lastOf)

/-- The assertion that a chain of calls builds. -/
def built (bench : Bench σ) (mode : Mode) (subject : Subject σ α) (site : Site)
    (writes : List (Write σ)) : Assertion σ α :=
  writes.foldl (fun a write ↦ write.call a) (make bench mode subject site)

/-- What a chain of calls comes to. -/
def effective (bench : Bench σ) (mode : Mode) (writes : List (Write σ)) : Effective σ :=
  .of bench.budgets mode fun kind ↦ lastOf kind (writes.map Write.setting)

variable {bench : Bench σ} {mode : Mode} {subject : Subject σ α} {site : Site}
  {writes writes' : List (Write σ)}

theorem built_eq (bench : Bench σ) (mode : Mode) (subject : Subject σ α) (site : Site)
    (writes : List (Write σ)) :
    built bench mode subject site writes =
      (effective bench mode writes).assertion bench mode subject site := by
  rw [built, Write.foldl_call, Effective.foldl_set_make, effective]

/-- An assertion with a flaw has no plan. -/
theorem plan_built_of_flaw (site : Site) {cause : Misconfiguration}
    (h : (effective bench mode writes).flaw? mode subject = some cause) (m : Matcher σ α)
    (desired : Bool) (description : Description σ) :
    (built bench mode subject site writes).plan m desired description = .error cause := by
  rw [built_eq, Effective.plan_assertion, h]

/-- Chains with the same last call of each kind build the same assertion. -/
theorem built_congr (h : ∀ kind, lastOf kind (writes'.map Write.setting) =
      lastOf kind (writes.map Write.setting)) :
    built bench mode subject site writes' = built bench mode subject site writes := by
  rw [built_eq, built_eq, effective, effective, funext h]

/-- A count of passing samples that has once been asked for cannot be taken back. -/
theorem exists_repeats_effective (bench : Bench σ) (mode : Mode) {n : Nat}
    (h : .mustPassRepeatedly n ∈ writes) :
    ∃ count, (effective bench mode writes).repeats? = some count := by
  have hmem : Setting.repeats n ∈ writes.map Write.setting := List.mem_map.2 ⟨_, h, rfl⟩
  obtain ⟨last, hlast⟩ := Option.isSome_iff_exists.1 (Setting.isSome_lastOf_of_mem hmem)
  have hkind := Setting.kind_of_lastOf hlast
  show ∃ count, (match lastOf .repeats (writes.map Write.setting) with
    | some (.repeats n) => some n
    | _ => none) = some count
  rw [show lastOf .repeats (writes.map Write.setting) = some last from hlast]
  cases last with
  | repeats count => exact ⟨count, rfl⟩
  | timeout | polling | token | offset => cases hkind

/-- The last call of each kind is all that counts, and the first of four checks that fails is what
is reported. -/
structure LastWriteWins (bench : Bench σ) (mode : Mode) (subject : Subject σ α) (site : Site)
    (writes : List (Write σ)) : Prop where
  /-- The last call of each kind is all that the assertion depends on. -/
  depends : ∀ writes' : List (Write σ),
    (∀ kind, lastOf kind (writes'.map Write.setting) = lastOf kind (writes.map Write.setting)) →
      built bench mode subject site writes' = built bench mode subject site writes
  /-- Aliases are interchangeable. -/
  aliases : ∀ writes' : List (Write σ), writes'.map Write.setting = writes.map Write.setting →
    built bench mode subject site writes' = built bench mode subject site writes
  /-- Calls of different kinds commute. -/
  comm : ∀ pre x y post, writes = pre ++ x :: y :: post → x.setting.kind ≠ y.setting.kind →
    built bench mode subject site (pre ++ y :: x :: post) = built bench mode subject site writes
  /-- A later call of the same kind repairs whatever an earlier one did. -/
  repaired : ∀ pre x mid y post, writes = pre ++ x :: (mid ++ y :: post) →
    x.setting.kind = y.setting.kind →
      built bench mode subject site (pre ++ (mid ++ y :: post)) =
        built bench mode subject site writes
  /-- But for a count of passing samples on `consistently`. -/
  unrepairable : mode = .consistently → ∀ n, .mustPassRepeatedly n ∈ writes →
    ∃ cause, (effective bench mode writes).flaw? mode subject = some cause
  /-- The first flaw is reported, and nothing else is done. With the return of the handler the
  answer is there, and it is negative. -/
  refused : ∀ cause, (effective bench mode writes).flaw? mode subject = some cause →
    ∀ (m : Matcher σ α) (desired : Bool) (description : Description σ) (w : World σ), ∃ r v,
      (Flight.demand (built bench mode subject site writes) m desired description).step w =
        ((fun _ ↦ (.landed false, false)) <$> r, v) ∧
      bench.Refuses mode (effective bench mode writes).offset site cause w r v
  /-- No time is spent on it. -/
  timeless : ∀ cause, (effective bench mode writes).flaw? mode subject = some cause →
    ∀ (m : Matcher σ α) (desired : Bool) (description : Description σ),
      (Flight.demand (built bench mode subject site writes) m desired description).step.Fixes
        World.clock
  /-- What the assertion is about makes no difference that anyone could notice. -/
  blind : ∀ cause, (effective bench mode writes).flaw? mode subject = some cause →
    ∀ (α' : Type) (subject' : Subject σ α'),
      (effective bench mode writes).flaw? mode subject' = some cause →
        ∀ (m : Matcher σ α) (m' : Matcher σ α') (desired desired' : Bool)
          (description description' : Description σ),
          Flight.Indistinguishable
            (.demand (built bench mode subject site writes) m desired description)
            (.demand (built bench mode subject' site writes) m' desired' description')
  /-- Without a flaw the run starts, with the effective values. -/
  runs : (effective bench mode writes).flaw? mode subject = none →
    ∃ source, subject.resolve mode (effective bench mode writes).token = .ok source ∧
      ∀ (m : Matcher σ α) (desired : Bool) (description : Description σ),
        (Flight.demand (built bench mode subject site writes) m desired description).step = do
          let handler ← bench.requireHandler
          let started ← Engine.call none bench.time.now
          return (.polling (built bench mode subject site writes) handler
            (.start ((effective bench mode writes).plan bench mode source m desired description)
              started), false)

/-- **The last write of each kind wins**, and the misconfiguration that is reported is canonical. -/
theorem lastWriteWins (bench : Bench σ) (mode : Mode) (subject : Subject σ α) (site : Site)
    (writes : List (Write σ)) : LastWriteWins bench mode subject site writes where
  depends _ h := built_congr h
  aliases _ h := built_congr fun kind ↦ by rw [h]
  comm := by
    rintro pre x y post rfl hkind
    refine built_congr fun kind ↦ ?_
    simp only [List.map_append, List.map_cons]
    exact Setting.lastOf_comm hkind.symm
  repaired := by
    rintro pre x mid y post rfl hkind
    refine built_congr fun kind ↦ ?_
    simp only [List.map_append, List.map_cons]
    exact (Setting.lastOf_overwritten hkind).symm
  unrepairable := by
    rintro rfl n hn
    obtain ⟨count, hcount⟩ := exists_repeats_effective bench .consistently hn
    exact Effective.exists_flaw_of_consistently hcount
  refused := by
    intro cause hflaw m desired description w
    have hplan := plan_built_of_flaw site hflaw m desired description
    rw [built_eq] at hplan ⊢
    exact Flight.refuses_of_plan_eq_error hplan w
  timeless := by
    intro cause hflaw m desired description w
    obtain ⟨r, v, hstep, hrefuses⟩ :=
      Flight.refuses_of_plan_eq_error (plan_built_of_flaw site hflaw m desired description) w
    rw [hstep]
    exact hrefuses.clock_eq
  blind := by
    intro cause hflaw α' subject' hflaw' m m' desired desired' description description'
    have hplan := plan_built_of_flaw site hflaw m desired description
    have hplan' := plan_built_of_flaw site hflaw' m' desired' description'
    rw [built_eq] at hplan hplan' ⊢
    rw [built_eq]
    exact Flight.indistinguishable_of_plan_eq_error rfl rfl rfl rfl hplan hplan'
  runs := by
    intro hflaw
    obtain ⟨source, hsource⟩ := Effective.exists_resolve hflaw
    refine ⟨source, hsource, fun m desired description ↦ ?_⟩
    rw [built_eq]
    refine Flight.step_of_plan_eq_ok ?_
    rw [Effective.plan_assertion, hflaw]
    show (fun source ↦ Effective.plan _ bench mode source m desired description) <$>
      subject.resolve mode (effective bench mode writes).token = _
    rw [hsource]
    rfl

/-- A chain of calls that repairs the time limit and leaves three other things wrong: the polling
interval is no time, no passing sample is asked for, and there is nothing to sample. -/
def sloppy : List (Write Recorder) :=
  [.withTimeout .zero, .probeEvery (.ofMillis 5), .withOffset 9, .mustPassRepeatedly 0,
    .withPolling .zero, .within (.ofMillis 20), .withOffset 5]

/-- A matcher for every number. -/
def anyNumber : Matcher Recorder Nat := .ofPure (fun _ ↦ true) (fun _ ↦ "") fun _ ↦ ""

/-- The polling interval is what is reported, in words and with a warning, and at once. -/
theorem lastWriteWins_sloppy : ∃ v,
    (Flight.demand (built .keeping .eventually .returnsNothing "sloppy" sloppy) anyNumber true
      .none).step ⟨{}, .zero, []⟩ = (.ok (.landed false, false), v) ∧
    v.user.failures =
      [⟨"Eventually requires a positive polling interval, got 0ns", 7, "sloppy"⟩] ∧
    v.notices =
      [.handed ⟨"Eventually requires a positive polling interval, got 0ns", 7, "sloppy"⟩,
        .logged (.misconfigured .eventually
          (.misconfigured (.nonPositivePolling .eventually .zero)))] ∧
    v.clock = .zero := by
  obtain ⟨r, v, hstep, hrefuses⟩ :=
    (lastWriteWins .keeping .eventually .returnsNothing "sloppy" sloppy).refused
      (.nonPositivePolling .eventually .zero) rfl anyNumber true .none ⟨{}, .zero, []⟩
  cases hrefuses with
  | unheard hhandler => cases hhandler
  | untimed hhandler hnow => cases hnow
  | overflows hhandler hnow hskip => cases hskip
  | handed hhandler hnow htext hskip hhandle =>
    obtain rfl := Option.some.inj hhandler
    obtain ⟨-, rfl⟩ := Prod.mk.inj hnow
    obtain rfl := Option.some.inj hskip
    cases htext
    obtain ⟨rfl, rfl⟩ := Prod.mk.inj hhandle
    exact ⟨_, hstep, rfl, rfl, rfl⟩

end Assertion

end PollAssert
