import PollAssert.Proofs.Flight.Message
import PollAssert.Proofs.Flight.Settings
import PollAssert.Proofs.Run.Opinion
import PollAssert.Proofs.Run.Schedule

/-!
# One opinion, three ways to ask for it

A fixed value can be judged by a single assertion, by an `eventually` that needs one passing sample,
and by a `consistently`. If what the matcher says depends on the value alone, all three come to the
same answer, for either polarity and whatever the matcher's oracle says (`Flight.judged_alike`). A
failing verdict is explained by the same text.

An `eventually` comes to a negative answer only by its deadline, unless the oracle rules out a
change, and a `consistently` to a positive one. So the two end only if the deadline comes. On the
virtual clock it does, wherever the clock stands at the start, if it is not past the clock's
horizon.

`Rehearsal.goOn_of_onward` is what connects the histories of runs with rehearsals: a flight that
nothing else happens to follows the course of its run.
-/

namespace PollAssert

variable {σ α : Type}

/-! ### Rehearsals without errands -/

/-- What a flight does when it is known how its run stands. -/
def Flight.follow (a : Assertion σ α) (handler : Handler σ) :
    Turn σ α → Engine σ (Flight σ α × Bool)
  | .ready run => return (.polling a handler run, false)
  | .pending run => return (.polling a handler run, true)
  | .over _ none => return (.landed true, false)
  | .over run (some ending) => do
    let message ← Engine.call none (run.failureMessage ending)
    return (← fail a handler message, false)

theorem Flight.step_polling (a : Assertion σ α) (handler : Handler σ) (run : Run σ α) :
    (polling a handler run).step = run.step >>= follow a handler := by
  rw [step]
  congr 1

namespace Rehearsal

open Run

variable {a : Assertion σ α} {handler : Handler σ} {turn last : Turn σ α}
  {w z v : World σ} {h : List (Event α)} {held : Bool} {fuel : Nat}

theorem fly_succ_nil (fuel : Nat) (f : Flight σ α) :
    fly (fuel + 1) f [] = f.step >>= fun stepped ↦ goOn fuel stepped.1 stepped.2 [] :=
  fly_succ fuel f []

/-- A flight that waits makes the clock jump. -/
theorem goOn_of_due {f : Flight σ α} (hanswer : f.answer? = none) {instant : Duration}
    (hdue : f.nextTimer.due? = some instant) :
    goOn fuel f true [] = jump instant >>= fun _ ↦ fly fuel f [] := by
  have hnext : nextTimer f [] = f.nextTimer := rfl
  simp only [goOn, hanswer, hnext, hdue, if_true]

/-- **A flight that nothing else happens to follows the course of its run** until it lands. -/
theorem goOn_of_onward (ho : Onward Alone turn w h last z)
    (hend : Flight.follow a handler last z = (.ok (.landed held, false), v))
    (hfuel : h.length ≤ fuel) :
    (Flight.follow a handler turn >>= fun stepped ↦ goOn fuel stepped.1 stepped.2 []) w =
      (.ok (.answered held), v) := by
  induction ho generalizing fuel with
  | refl => exact Effect.bind_of_ok hend _
  | @step turn turn' last r w u v' z e h hrun halone hsteps hrest ih =>
    obtain ⟨fuel, rfl⟩ := Nat.exists_eq_succ_of_ne_zero (Nat.ne_of_gt (Nat.lt_of_lt_of_le
      (Nat.succ_pos h.length) hfuel))
    have hfly : fly (fuel + 1) (.polling a handler r) [] u = (.ok (.answered held), v) := by
      rw [fly_succ_nil, Flight.step_polling, bind_assoc, Effect.bind_of_ok hsteps.step_eq]
      exact ih hend (Nat.le_of_succ_le_succ hfuel)
    rcases turn with r' | r' | ⟨r', ending⟩
    · obtain rfl := Option.some.inj hrun
      rw [← halone.ready r' rfl]
      exact hfly
    · obtain rfl := Option.some.inj hrun
      obtain ⟨instant, hdue, rfl⟩ := halone.pending r' rfl
      show goOn (fuel + 1) (.polling a handler r') true [] w = _
      rw [goOn_of_due (f := .polling a handler r') rfl hdue]
      exact hfly
    · cases hrun

end Rehearsal

/-! ### Messages -/

namespace Description

/-- The message tells how a run ended, then what the description has to say, then the detail. -/
def Frames (d : Description σ) (ending : Ending) (detail message : String) : Prop :=
  ∃ words view s t, d.words view s = (.ok words, t) ∧
    message = ending.text ++ "\n" ++ line words ++ detail

/-- A description that can be shown frames every detail. -/
theorem exists_frames {d : Description σ} {I : σ → Prop}
    (hd : Action.KeepsNested I (fun _ ↦ False) d.render) (ending : Ending) (detail : String)
    (view : View σ) (hview : view.Keeps I fun _ ↦ False) {s : σ} (hs : I s) :
    ∃ message t, d.compose ending.text detail view s = (.ok message, t) ∧ I t ∧
      d.Frames ending detail message := by
  obtain ⟨shown, t, hrender, ht⟩ := (hd.keeps view hview).exists_eq_ok hs
  rw [render_eq] at hrender
  obtain ⟨words, hwords, -⟩ := Effect.map_eq_ok_iff.1 hrender
  refine ⟨_, t, ?_, ht, words, view, s, t, hwords, rfl⟩
  rw [compose_eq_lines]
  exact Effect.map_eq_ok_iff.2 ⟨words, hwords, rfl⟩

end Description

/-! ### Handing over -/

/-- A call of an action that returns goes through, and nothing is handed over by it. -/
theorem Engine.exists_call {β : Type} {I : σ → Prop} {b : β} {act : Action σ β}
    (ha : Action.Returns I b act) {w : World σ} (hw : I w.user) :
    ∃ v, Engine.call none act w = (.ok b, v) ∧ I v.user ∧ v.notices = w.notices := by
  obtain ⟨user, hact, huser⟩ := ha ⟨w.clock, none⟩ w.user hw
  exact ⟨_, Engine.call_eq_ok_iff.2 ⟨user, hact, rfl⟩, huser, rfl⟩

/-- A handler that returns has been handed the failure, once. -/
theorem Engine.exists_hand {I : σ → Prop} {handler : Handler σ} {failure : Failure}
    (hhandler : Action.Returns I () (handler failure)) {w : World σ} (hw : I w.user) :
    ∃ v, Engine.hand handler failure w = (.ok (), v) ∧ I v.user ∧
      Notice.failures v.notices = Notice.failures w.notices ++ [failure] := by
  obtain ⟨v, hcall, hv, hnotices⟩ := Engine.exists_call hhandler
    (w := { w with notices := .handed failure :: w.notices }) hw
  refine ⟨v, (Effect.bind_of_ok (Engine.note_apply _ w) _).trans hcall, hv, ?_⟩
  rw [hnotices, Notice.failures_cons_handed]

/-! ### A single assertion -/

/-- A single assertion returns the opinion. If it is not the desired one it hands over the
complaint. -/
theorem Bench.exists_expect {I : σ → Prop} {m : Matcher σ α} {opinion : α → Opinion}
    {bench : Bench σ} {handler : Handler σ} (hm : m.Steady I opinion)
    (hbench : bench.handler = some handler)
    (hhandler : ∀ failure, Action.Returns I () (handler failure)) (site : Site)
    {offset skip : UInt64} (hskip : callerSkip? offset = some skip) (desired : Bool) (a : α)
    {w : World σ} (hw : I w.user) :
    ∃ v, bench.expect site offset m desired a w = (.ok ((opinion a).held desired), v) ∧ I v.user ∧
      Notice.failures v.notices = Notice.failures w.notices ++
        if (opinion a).held desired then [] else [⟨(opinion a).complaint desired, skip, site⟩] := by
  have hrequire : bench.requireHandler w = (.ok handler, w) := by
    rw [Bench.requireHandler]
    rw [hbench]
    rfl
  obtain ⟨u, hcheck, hu, hnotices⟩ := Engine.exists_call (hm.check desired a) hw
  rw [expect, Effect.bind_of_ok hrequire, Effect.bind_of_ok hcheck]
  cases hheld : (opinion a).held desired with
  | true =>
    refine ⟨u, rfl, hu, ?_⟩
    rw [hnotices]
    exact (List.append_nil _).symm
  | false =>
    obtain ⟨v, hhand, hv, hfailures⟩ := Engine.exists_hand
      (hhandler ⟨(opinion a).complaint desired, skip, site⟩) hu
    refine ⟨v, ?_, hv, hnotices ▸ hfailures⟩
    show (Engine.handIn handler _ offset site >>= fun _ ↦ pure false) u = _
    rw [Engine.handIn_of_eq_some hskip]
    exact Effect.bind_of_ok hhand _

/-! ### Polling assertions -/

/-- A valid assertion about the fixed value, made on the bench, that runs by the plan and needs one
passing sample. Its source of time and its description are calm. -/
structure Assertion.IsAbout (I : σ → Prop) (asr : Assertion σ α) (bench : Bench σ) (a : α)
    (m : Matcher σ α) (desired : Bool) (d : Description σ) (p : Plan σ α) : Prop where
  madeOn : asr.bench = bench
  subject : asr.subject = .fixed a
  plan : asr.plan m desired d = .ok p
  once : asr.mode = .eventually → asr.repeats = .ok 1
  time : bench.time.Keeps I fun _ ↦ False
  description : Action.KeepsNested I (fun _ ↦ False) d.render

section Asks

variable {I : σ → Prop} {m : Matcher σ α} {opinion : α → Opinion} {a : α} {bench : Bench σ}
  {handler : Handler σ} {asr : Assertion σ α} {desired : Bool} {d : Description σ} {p : Plan σ α}
  {w : World σ} {epoch : Duration} {skip : UInt64}

/-- Its run asks for the opinion. -/
theorem Assertion.IsAbout.asksFor (h : asr.IsAbout I bench a m desired d p)
    (hm : m.Steady I opinion) (ha : (opinion a).Unsignalled) :
    p.AsksFor I opinion a ∧ p.desired = desired ∧ p.description = d := by
  have hplan := h.plan
  rw [Assertion.plan] at hplan
  obtain ⟨timeout, -, hplan⟩ := except_bind_eq_ok_iff.1 hplan
  obtain ⟨polling, -, hplan⟩ := except_bind_eq_ok_iff.1 hplan
  obtain ⟨repeats, hrepeats, hplan⟩ := except_bind_eq_ok_iff.1 hplan
  obtain ⟨source, hresolve, hplan⟩ := except_bind_eq_ok_iff.1 hplan
  cases hplan
  rw [h.subject] at hresolve
  refine ⟨⟨(Except.ok.inj hresolve).symm, hm, ha, fun hmode ↦ ?_, ?_, h.description⟩, rfl, rfl⟩
  · exact Except.ok.inj (hrepeats.symm.trans (h.once hmode))
  · show asr.bench.time.Keeps I _
    rw [h.madeOn]
    exact h.time

/-- A run that is alone hands nothing over. -/
theorem Run.Course.quiet_of_alone {started : Duration} {h : List (Run.Event α)} {turn : Turn σ α}
    {z : World σ} (hc : Run.Course Run.Alone (.start p started) w h turn z) :
    z.Quiet w.notices := by
  refine hc.keeps (I := World.Quiet w.notices) (E := World.Quiet w.notices) (fun r _ ↦ ?_) ?_
    (.refl w)
  · exact r.keeps_step_of_foreign (fun _ user hw ↦ hw.user user) (fun _ _ hw ↦ hw.cons rfl)
      fun _ _ hw ↦ hw.cons rfl
  · intro turn r w u hrun hu hw
    obtain ⟨clock, rfl⟩ := hu.exists_clock hrun
    exact hw

variable (hm : m.Steady I opinion) (ha : (opinion a).Unsignalled)
  (h : asr.IsAbout I bench a m desired d p)
include hm ha h

/-- A run that failed has a message for the handler. Of a verdict it is the complaint, framed by the
description. -/
theorem Run.Course.exists_message_of_isAbout {between : Turn σ α → World σ → World σ → Prop}
    (hworld : ∀ turn r w u, turn.run? = some r → between turn w u → I w.user → I u.user)
    {started : Duration} {w₀ : World σ} (hw₀ : I w₀.user) {events : List (Run.Event α)}
    {r : Run σ α} {ending : Ending}
    (hc : Run.Course between (.start p started) w₀ events (.over r (some ending)) w) :
    ∃ message v, Engine.call none (r.failureMessage ending) w = (.ok message, v) ∧ I v.user ∧
      v.notices = w.notices ∧ d.Frames ending ((opinion a).detail p.mode desired) message := by
  obtain ⟨hp, rfl, rfl⟩ := h.asksFor hm ha
  obtain ⟨t, ht, hmessage⟩ := hc.failureMessage_of_asksFor hp hworld hw₀ ⟨w.clock, none⟩
    (hc.user_of_asksFor hp hworld hw₀)
  obtain ⟨message, u, hcompose, hu, hframes⟩ := Description.exists_frames h.description ending
    ((opinion a).detail p.mode p.desired) ⟨w.clock, none⟩ nofun ht
  exact ⟨message, _, Engine.call_eq_ok_iff.2 ⟨u, hmessage.trans hcompose, rfl⟩, hu, rfl, hframes⟩

/-- When its run is over the flight lands. -/
theorem Flight.exists_follow (hhandler : ∀ failure, Action.Returns I () (handler failure))
    (hskip : callerSkip? asr.offset = some skip)
    {between : Turn σ α → World σ → World σ → Prop}
    (hworld : ∀ turn r w u, turn.run? = some r → between turn w u → I w.user → I u.user)
    {started : Duration} {w₀ : World σ} (hw₀ : I w₀.user) {events : List (Run.Event α)}
    {r : Run σ α} {ending : Option Ending}
    (hc : Run.Course between (.start p started) w₀ events (.over r ending) w) :
    ∃ v, follow asr handler (.over r ending) w = (.ok (.landed ending.isNone, false), v) ∧
      I v.user ∧ match ending with
        | none => v = w
        | some ending => ∃ message, d.Frames ending ((opinion a).detail p.mode desired) message ∧
          Notice.failures v.notices = Notice.failures w.notices ++ [⟨message, skip, asr.site⟩] := by
  cases ending with
  | none => exact ⟨w, rfl, hc.user_of_asksFor (h.asksFor hm ha).1 hworld hw₀, rfl⟩
  | some ending =>
    obtain ⟨message, u, hmessage, hu, hnotices, hframes⟩ :=
      hc.exists_message_of_isAbout hm ha h hworld hw₀
    obtain ⟨v, hhand, hv, hfailures⟩ :=
      Engine.exists_hand (hhandler ⟨message, skip, asr.site⟩) hu
    refine ⟨v, ?_, hv, message, hframes, hnotices ▸ hfailures⟩
    refine (Effect.bind_of_ok hmessage _).trans ?_
    rw [fail, Engine.handIn_of_eq_some hskip, bind_assoc]
    exact Effect.bind_of_ok hhand _

/-- On the virtual clock the assertion lands. -/
theorem Rehearsal.exists_fly (hbench : bench.handler = some handler)
    (hhandler : ∀ failure, Action.Returns I () (handler failure))
    (hskip : callerSkip? asr.offset = some skip) (htime : bench.time = .runtime epoch)
    (htoken : p.NeverCancelled I) (hpolling : 0 < p.polling.nanos) (hepoch : epoch ≤ w.clock)
    (hreach : w.clock.nanos + p.timeout.nanos < VirtualClock.horizon) (hw : I w.user) :
    ∃ events r ending z enough v,
      Run.Course Run.Alone (.start p (w.clock.saturatingSub epoch)) w events (.over r ending) z ∧
      (∀ fuel, enough ≤ fuel → fly fuel (.demand asr m desired d) [] w =
        (.ok (.answered ((opinion a).held desired)), v)) ∧ I v.user ∧
      match ending with
        | none => Notice.failures v.notices = Notice.failures w.notices
        | some ending => ∃ message, d.Frames ending ((opinion a).detail p.mode desired) message ∧
          Notice.failures v.notices = Notice.failures w.notices ++ [⟨message, skip, asr.site⟩] := by
  obtain ⟨hp, hdesired, -⟩ := h.asksFor hm ha
  have htime' : p.time = .runtime epoch := by
    rw [(Assertion.of_plan_eq_ok h.plan).2.1, h.madeOn, htime]
  obtain ⟨events, r, ending, z, hc⟩ :=
    Run.exists_over_of_asksFor hp htime' htoken hpolling hepoch hreach hw
  obtain ⟨v, hfollow, hv, hfailures⟩ :=
    Flight.exists_follow hm ha h hhandler hskip Run.keeps_user_of_alone hw hc
  have hquiet := hc.quiet_of_alone.failures_eq
  have hheld : ending.isNone = (opinion a).held desired :=
    hdesired ▸ hc.isNone_of_asksFor hp Run.keeps_user_of_alone hw hc.ne_cancelled_of_alone
  have hstart : (Flight.demand asr m desired d).step w =
      (.ok (.polling asr handler (.start p (w.clock.saturatingSub epoch)), false), w) := by
    rw [Flight.step_of_plan_eq_ok h.plan, h.madeOn, htime, Bench.requireHandler]
    rw [hbench]
    rfl
  refine ⟨events, r, ending, z, events.length + 1, v, hc, ?_, hv, ?_⟩
  · intro fuel hfuel
    obtain ⟨fuel, rfl⟩ := Nat.exists_eq_add_of_le' (Nat.le_of_add_left_le hfuel)
    rw [fly_succ_nil, Effect.bind_of_ok hstart, ← hheld]
    exact goOn_of_onward hc.onward hfollow (Nat.le_of_succ_le_succ hfuel)
  · cases ending with
    | none => rw [hfailures, hquiet]
    | some ending =>
      obtain ⟨message, hframes, hfailures⟩ := hfailures
      exact ⟨message, hframes, by rw [hfailures, hquiet]⟩

end Asks

/-! ### All three -/

/-- The ways to judge the value on the bench by the matcher are of one opinion. -/
structure JudgedAlike (I : σ → Prop) (bench : Bench σ) (m : Matcher σ α) (a : α) (o : Opinion)
    (desired : Bool) : Prop where
  /-- A single assertion returns whether the opinion is the desired one. If it is not, a failure is
  handed over whose message is the complaint. -/
  single : ∀ site offset skip w, callerSkip? offset = some skip → I w.user → ∃ v,
    bench.expect site offset m desired a w = (.ok (o.held desired), v) ∧ I v.user ∧
    if o.held desired then Notice.failures v.notices = Notice.failures w.notices
    else ∃ failure, Notice.failures v.notices = Notice.failures w.notices ++ [failure] ∧
      failure.message = o.complaint desired ∧ failure.callerSkip = skip ∧ failure.site = site
  /-- A run of either mode that is over and was not cancelled has come to the same answer, whatever
  its source of time is and whatever happened between its steps. If it failed by a verdict, its
  message has the complaint as its detail. -/
  polled : ∀ asr d p, Assertion.IsAbout I asr bench a m desired d p →
    ∀ between started w₀ events r ending w,
    (∀ turn r w u, turn.run? = some r → between turn w u → I w.user → I u.user) → I w₀.user →
    Run.Course between (.start p started) w₀ events (.over r ending) w →
    (∀ elapsed, ending ≠ some (.cancelled elapsed)) →
    ending.isNone = o.held desired ∧
    ∀ e matched, ending = some e → o.verdict = .ok matched → ∃ message v,
      Engine.call none (r.failureMessage e) w = (.ok message, v) ∧
      d.Frames e (o.complaint desired) message
  /-- On the virtual clock a polling assertion returns that answer, wherever the clock stands, if
  the deadline is not out of its reach. If the run failed, a failure is handed over; and if it did
  so by a verdict, the failure's message has the complaint as its detail. -/
  flown : ∀ asr d p, Assertion.IsAbout I asr bench a m desired d p → ∀ epoch skip w,
    bench.time = .runtime epoch → p.NeverCancelled I → 0 < p.polling.nanos → epoch ≤ w.clock →
    w.clock.nanos + p.timeout.nanos < VirtualClock.horizon →
    callerSkip? asr.offset = some skip → I w.user →
    ∃ events r ending z enough v,
      Run.Course Run.Alone (.start p (w.clock.saturatingSub epoch)) w events (.over r ending) z ∧
      (∀ fuel, enough ≤ fuel → Rehearsal.fly fuel (.demand asr m desired d) [] w =
        (.ok (.answered (o.held desired)), v)) ∧ I v.user ∧
      match ending with
        | none => Notice.failures v.notices = Notice.failures w.notices
        | some ending => ∃ failure,
          Notice.failures v.notices = Notice.failures w.notices ++ [failure] ∧
          failure.callerSkip = skip ∧ failure.site = asr.site ∧
          ∀ matched, o.verdict = .ok matched →
            d.Frames ending (o.complaint desired) failure.message

/-- **A fixed value is judged alike** by a single assertion and by the two polling modes, if what
the matcher says depends on the value alone and carries no signal. The polarity, the oracle, the
time limit and the polling interval make no difference. -/
theorem Flight.judged_alike {I : σ → Prop} {m : Matcher σ α} {opinion : α → Opinion} {a : α}
    {bench : Bench σ} {handler : Handler σ} (hm : m.Steady I opinion)
    (ha : (opinion a).Unsignalled) (hbench : bench.handler = some handler)
    (hhandler : ∀ failure, Action.Returns I () (handler failure)) (desired : Bool) :
    JudgedAlike I bench m a (opinion a) desired where
  single := by
    intro site offset skip w hskip hw
    obtain ⟨v, hexpect, hv, hfailures⟩ :=
      Bench.exists_expect hm hbench hhandler site hskip desired a hw
    refine ⟨v, hexpect, hv, ?_⟩
    split
    next hheld => rw [hfailures, if_pos hheld, List.append_nil]
    next hheld => exact ⟨_, by rw [hfailures, if_neg hheld], rfl, rfl, rfl⟩
  polled := by
    intro asr d p h between started w₀ events r ending w hworld hw₀ hc hcancelled
    obtain ⟨hp, hdesired, -⟩ := h.asksFor hm ha
    refine ⟨hdesired ▸ hc.isNone_of_asksFor hp hworld hw₀ hcancelled, ?_⟩
    rintro e matched rfl hverdict
    obtain ⟨message, v, hmessage, -, -, hframes⟩ :=
      hc.exists_message_of_isAbout hm ha h hworld hw₀
    exact ⟨message, v, hmessage, Opinion.detail_eq_complaint hverdict p.mode ▸ hframes⟩
  flown := by
    intro asr d p h epoch skip w htime htoken hpolling hepoch hreach hskip hw
    obtain ⟨events, r, ending, z, enough, v, hc, hfly, hv, hfailures⟩ :=
      Rehearsal.exists_fly hm ha h hbench hhandler hskip htime htoken hpolling hepoch hreach hw
    refine ⟨events, r, ending, z, enough, v, hc, hfly, hv, ?_⟩
    cases ending with
    | none => exact hfailures
    | some ending =>
      obtain ⟨message, hframes, hfailures⟩ := hfailures
      refine ⟨_, hfailures, rfl, rfl, fun matched hverdict ↦ ?_⟩
      rwa [Opinion.detail_eq_complaint hverdict p.mode] at hframes

/-- The plan of an assertion on it that three is two. -/
def Plan.untrue (mode : Mode) : Plan Recorder Nat :=
  ⟨mode, Budgets.timeout {} mode, Budgets.polling {} mode, 1, none, .fixed 3, .equalTo 2, true,
    .none, .runtime .zero⟩

/-- Three is not two: the single assertion says so at once, and a polling one of either mode says
the same below the header of its ending. -/
theorem Flight.judged_alike_untrue :
    JudgedAlike (fun _ ↦ True) Bench.keeping (.equalTo 2) 3
      ⟨.ok false, "expected 3 to equal 2", "expected 3 not to equal 2"⟩ true ∧
    (∃ v, Bench.keeping.expect "here" 0 (.equalTo 2) true 3 ⟨{}, .zero, []⟩ = (.ok false, v) ∧
      Notice.failures v.notices = [⟨"expected 3 to equal 2", 2, "here"⟩]) ∧
    ∀ mode, ∃ enough v ending,
      (∀ fuel, enough ≤ fuel → Rehearsal.fly fuel
        (.demand (.make .keeping mode (.fixed 3) "here") (.equalTo 2) true .none) []
          ⟨{}, .zero, []⟩ = (.ok (.answered false), v)) ∧
      Notice.failures v.notices =
        [⟨Ending.text ending ++ "\n" ++ "expected 3 to equal 2", 2, "here"⟩] := by
  have hall : JudgedAlike (fun _ ↦ True) Bench.keeping (.equalTo 2) 3
      ⟨.ok false, "expected 3 to equal 2", "expected 3 not to equal 2"⟩ true :=
    judged_alike (Matcher.steady_ofPure ..) (fun fault hfault ↦ nomatch hfault) rfl
      (fun failure view s _ ↦ ⟨_, rfl, trivial⟩) true
  refine ⟨hall, ?_, fun mode ↦ ?_⟩
  · obtain ⟨v, hexpect, -, ⟨message, skip, site⟩, hfailures, rfl, rfl, rfl⟩ :=
      hall.single "here" 0 2 ⟨{}, .zero, []⟩ rfl trivial
    exact ⟨v, hexpect, hfailures⟩
  have habout : Assertion.IsAbout (fun _ ↦ True) (.make .keeping mode (.fixed 3) "here")
      Bench.keeping 3 (.equalTo 2) true .none (.untrue mode) :=
    ⟨rfl, rfl, by cases mode <;> rfl, fun _ ↦ rfl, TimeSource.keeps_runtime .., .pure _⟩
  obtain ⟨events, r, ending, z, enough, v, hc, hfly, -, hfailures⟩ :=
    hall.flown _ _ _ habout .zero 2 ⟨{}, .zero, []⟩ rfl (fun _ hnone ↦ nomatch hnone)
      (by cases mode <;> decide) (Nat.le_refl _) (by cases mode <;> decide) rfl trivial
  have hfailed : ending.isNone = false :=
    (hall.polled _ _ _ habout _ _ _ _ _ _ _ (fun _ _ _ _ _ _ _ ↦ trivial) trivial hc
      hc.ne_cancelled_of_alone).1
  cases ending with
  | none => cases hfailed
  | some ending =>
    obtain ⟨⟨message, skip, site⟩, hfailures, rfl, rfl, hframes⟩ := hfailures
    obtain ⟨words, view, s, t, hwords, hmessage⟩ := hframes false rfl
    obtain ⟨rfl, -⟩ := Effect.pure_eq_ok_iff.1 hwords
    refine ⟨enough, v, ending, hfly, ?_⟩
    rw [hfailures, show message = _ from hmessage]
    exact congrArg (fun text ↦ [Failure.mk (text ++ _) 2 "here"]) (String.append_empty)

end PollAssert
