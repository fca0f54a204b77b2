import PollAssert.Assertion
import PollAssert.Proofs.Run.Course

/-!
# What an assertion hands over

Of the notices only some are failures handed to the handler. `Notice.failures` picks them out,
oldest first. A run gives no such notice, whatever user code it calls: the only place where a
failure is handed over is the end of an assertion that fails, after its run is over and its message
has been composed.

`Handover` says all that a step can come to, relative to a property `I` of the world that holds
until the handler has its turn. A step of a flight comes to nothing else (`Flight.handsOver_step`),
and neither does an assertion that is made at once (`Bench.handsOver_expect`), whenever the user
code they call keeps `I`. What nobody but the library writes, the notices, all user code keeps
(`Flight.spares_quiet`).

`Flight.Advances` takes apart a step that returns: which calls it has made, and where each of them
has left the world. What later modules say of a step they say by its cases.
-/

namespace PollAssert

variable {σ α β : Type}

/-! ### Failures among the notices -/

namespace Notice

/-- The failure that was handed over, if the notice is of one. -/
def handed? : Notice → Option Failure
  | .handed failure => some failure
  | _ => none

/-- The failures that were handed over, oldest first. The notices are newest first. -/
def failures (notices : List Notice) : List Failure := (notices.filterMap handed?).reverse

@[simp] theorem failures_nil : failures [] = [] := rfl

@[simp] theorem failures_append (new old : List Notice) :
    failures (new ++ old) = failures old ++ failures new := by
  rw [failures, List.filterMap_append, List.reverse_append, failures, failures]

@[simp] theorem failures_cons_handed (failure : Failure) (notices : List Notice) :
    failures (.handed failure :: notices) = failures notices ++ [failure] := by
  simp [failures, handed?]

end Notice

/-- Since there were `old` notices the world has got new ones, none of them of a failure. -/
def World.Quiet (old : List Notice) (w : World σ) : Prop :=
  ∃ new, w.notices = new ++ old ∧ Notice.failures new = []

namespace World.Quiet

variable {old : List Notice} {w : World σ}

theorem refl (w : World σ) : w.Quiet w.notices := ⟨[], rfl, rfl⟩

theorem user (h : w.Quiet old) (user : σ) : ({ w with user := user } : World σ).Quiet old := h

theorem cons {n : Notice} (h : w.Quiet old) (hn : n.handed? = none) :
    ({ w with notices := n :: w.notices } : World σ).Quiet old := by
  obtain ⟨new, hnew, hquiet⟩ := h
  refine ⟨n :: new, by rw [hnew, List.cons_append], ?_⟩
  rw [Notice.failures, List.filterMap_cons_none hn]
  exact hquiet

end World.Quiet

/-! ### Handing over -/

/-- A failure that has been handed in has been handed over, with a number of calls to skip that fits
a word. -/
theorem Engine.of_handIn_eq_ok {h : Handler σ} {message : String} {offset : UInt64} {site : Site}
    {w v : World σ} (hhandIn : Engine.handIn h message offset site w = (.ok (), v)) :
    ∃ skip, callerSkip? offset = some skip ∧
      Engine.hand h ⟨message, skip, site⟩ w = (.ok (), v) := by
  rcases hskip : callerSkip? offset with - | skip
  · rw [Engine.handIn_of_eq_none hskip] at hhandIn
    cases hhandIn
  · rw [Engine.handIn_of_eq_some hskip] at hhandIn
    exact ⟨skip, rfl, hhandIn⟩

/-- What a computation on behalf of an assertion can come to, if `I` holds of the world until the
handler has its turn. The answer is missing if the assertion goes on. -/
inductive Handover (handler : Option (Handler σ)) (offset : UInt64) (site : Site)
    (I : World σ → Prop) : Except Halt (Option Bool) → World σ → Prop
  /-- The assertion goes on, and nothing has been handed over. -/
  | goesOn {v : World σ} (hv : I v) : Handover handler offset site I (.ok none) v
  /-- The assertion held, and nothing has been handed over. -/
  | held {v : World σ} (hv : I v) : Handover handler offset site I (.ok (some true)) v
  /-- The assertion failed, and a failure has been handed over. -/
  | failed {h : Handler σ} {message : String} {skip : UInt64} {u v : World σ}
      (hh : handler = some h) (hu : I u) (hskip : callerSkip? offset = some skip)
      (hhand : Engine.hand h ⟨message, skip, site⟩ u = (.ok (), v)) :
      Handover handler offset site I (.ok (some false)) v
  /-- Something halted, though not the handler, and nothing has been handed over. -/
  | halted {p : Halt} {v : World σ} (hv : I v) : Handover handler offset site I (.error p) v
  /-- The handler halted over the failure that was handed to it. -/
  | refused {h : Handler σ} {message : String} {skip : UInt64} {p : Halt} {u v : World σ}
      (hh : handler = some h) (hu : I u) (hskip : callerSkip? offset = some skip)
      (hhand : Engine.hand h ⟨message, skip, site⟩ u = (.error p, v)) :
      Handover handler offset site I (.error p) v

/-- Started in a world with `I`, the computation comes to one of these. What it returns tells the
answer, if there is one yet. -/
def HandsOver (handler : Option (Handler σ)) (offset : UInt64) (site : Site) (I : World σ → Prop)
    (answer : β → Option Bool) (x : Engine σ β) : Prop :=
  ∀ u, I u → Handover handler offset site I ((x u).1.map answer) (x u).2

namespace HandsOver

variable {γ : Type} {handler : Option (Handler σ)} {offset : UInt64} {site : Site}
  {I : World σ → Prop} {answer : β → Option Bool}

/-- What keeps `I` may come first. -/
theorem bind_of_ok {x : Engine σ γ} {g : γ → Engine σ β} (hx : x.Keeps I I)
    (hg : ∀ c u v, x u = (.ok c, v) → HandsOver handler offset site I answer (g c)) :
    HandsOver handler offset site I answer (x >>= g) := by
  intro u hu
  rcases h : x u with ⟨p | c, v⟩
  · rw [Effect.bind_of_error h]
    exact .halted (hx.of_error hu h)
  · rw [Effect.bind_of_ok h]
    exact hg c u v h v (hx.of_ok hu h)

protected theorem bind {x : Engine σ γ} {g : γ → Engine σ β} (hx : x.Keeps I I)
    (hg : ∀ c, HandsOver handler offset site I answer (g c)) :
    HandsOver handler offset site I answer (x >>= g) := bind_of_ok hx fun c _ _ _ ↦ hg c

theorem panic (message : String) :
    HandsOver handler offset site I answer (Effect.panic message) := fun _ hu ↦ .halted hu

/-- The handler comes last, unless the calls to skip are too many for it to be called at all. -/
theorem handIn {h : Handler σ} (hh : handler = some h) (message : String) {b : β}
    (hb : answer b = some false) : HandsOver handler offset site I answer (do
      Engine.handIn h message offset site
      return b) := by
  rcases hskip : callerSkip? offset with - | skip
  · rw [Engine.handIn_of_eq_none hskip, Effect.panic_bind]
    exact .panic _
  intro u hu
  rw [Engine.handIn_of_eq_some hskip]
  rcases hhand : Engine.hand h ⟨message, skip, site⟩ u with ⟨p | ⟨⟨⟩⟩, v⟩
  · rw [Effect.bind_of_error hhand]
    exact .refused hh hu hskip hhand
  · rw [Effect.bind_of_ok hhand]
    show Handover handler offset site I (.ok (answer b)) v
    rw [hb]
    exact .failed hh hu hskip hhand

theorem goesOn {b : β} (hb : answer b = none) :
    HandsOver handler offset site I answer (pure b) := by
  intro u hu
  show Handover handler offset site I (.ok (answer b)) u
  rw [hb]
  exact .goesOn hu

theorem held {b : β} (hb : answer b = some true) :
    HandsOver handler offset site I answer (pure b) := by
  intro u hu
  show Handover handler offset site I (.ok (answer b)) u
  rw [hb]
  exact .held hu

end HandsOver

/-! ### Assertions that are made at once -/

theorem Bench.of_requireHandler_eq_ok {b : Bench σ} {h : Handler σ} {w v : World σ}
    (hrequire : b.requireHandler w = (.ok h, v)) : b.handler = some h := by
  rw [requireHandler] at hrequire
  rcases hb : b.handler with - | h'
  · rw [hb] at hrequire
    cases hrequire
  · rw [hb] at hrequire
    rw [(Effect.pure_eq_ok_iff.1 hrequire).1]

theorem Bench.handsOver_expect (b : Bench σ) (site : Site) (offset : UInt64) (m : Matcher σ α)
    (desired : Bool) (a : α) {I : World σ → Prop}
    (hcheck : (Engine.call none (m.check desired a)).Keeps I I) :
    HandsOver b.handler offset site I some (b.expect site offset m desired a) := by
  rw [expect, requireHandler]
  rcases hh : b.handler with - | h
  · exact .panic _
  · rw [pure_bind]
    refine .bind hcheck fun text ↦ ?_
    rcases text with - | message
    · exact .held rfl
    · exact .handIn rfl message rfl

/-- **Without a handler an assertion panics**, before it calls anything. -/
theorem Bench.expect_of_handler_eq_none {b : Bench σ} (hb : b.handler = none) (site : Site)
    (offset : UInt64) (m : Matcher σ α) (desired : Bool) (a : α) :
    b.expect site offset m desired a = Effect.panic Misconfiguration.missingHandler.text := by
  rw [expect, requireHandler, hb]
  rfl

/-! ### Assertions that poll -/

/-- The plan of a valid assertion is made of the user code of the assertion and its bench. -/
theorem Assertion.of_plan_eq_ok {a : Assertion σ α} {m : Matcher σ α} {desired : Bool}
    {description : Description σ} {plan : Plan σ α}
    (h : a.plan m desired description = .ok plan) :
    plan.matcher = m ∧ plan.time = a.bench.time ∧ plan.description = description ∧
      a.subject.resolve a.mode a.token = .ok plan.source := by
  rw [Assertion.plan] at h
  obtain ⟨timeout, -, h⟩ := except_bind_eq_ok_iff.1 h
  obtain ⟨polling, -, h⟩ := except_bind_eq_ok_iff.1 h
  obtain ⟨repeats, -, h⟩ := except_bind_eq_ok_iff.1 h
  obtain ⟨source, hresolve, h⟩ := except_bind_eq_ok_iff.1 h
  cases h
  exact ⟨rfl, rfl, rfl, hresolve⟩

namespace Flight

/-- The answer of a flight, if it is known. -/
def answer? : Flight σ α → Option Bool
  | .landed held => some held
  | _ => none

/-- A flight that reports to the given handler, with the given offset and site. One that has landed
reports no more. -/
def ReportsTo (handler : Option (Handler σ)) (offset : UInt64) (site : Site) : Flight σ α → Prop
  | .grounded a _ _ _ => a.bench.handler = handler ∧ a.offset = offset ∧ a.site = site
  | .polling a h _ => some h = handler ∧ a.offset = offset ∧ a.site = site
  | .landed _ => False

/-- What the next step of the flight does before it hands anything over keeps `I`. -/
def Spares (I : World σ → Prop) : Flight σ α → Prop
  | .grounded a _ _ _ => (Engine.call none a.bench.time.now).Keeps I I ∧
      ∀ entry, (Engine.log entry).Keeps I I
  | .polling _ _ run => run.step.Keeps I I ∧ ∀ run' : Run σ α, run'.plan = run.plan →
      ∀ ending, (Engine.call none (run'.failureMessage ending)).Keeps I I
  | .landed _ => True

variable {handler : Option (Handler σ)} {offset : UInt64} {site : Site} {I : World σ → Prop}
  {a : Assertion σ α} {h : Handler σ} {f : Flight σ α}

theorem handsOver_fail (hh : handler = some h) (hoffset : a.offset = offset) (hsite : a.site = site)
    (message : String) : HandsOver handler offset site I (fun r ↦ r.1.answer?)
      (do return (← fail a h message, false)) := by
  rw [fail, hoffset, hsite, bind_assoc]
  exact .handIn hh message rfl

/-- **What a step of a flight hands over**: one failure if it is the step by which the assertion
fails, and nothing otherwise. -/
theorem handsOver_step (hf : f.ReportsTo handler offset site) (hI : f.Spares I) :
    HandsOver handler offset site I (fun r ↦ r.1.answer?) f.step := by
  cases f with
  | landed held => exact hf.elim
  | polling a h run =>
    obtain ⟨hhandler, hoffset, hsite⟩ := hf
    refine .bind_of_ok hI.1 fun turn u v hstep ↦ ?_
    have hplan := Run.plan_of_step hstep
    rcases turn with run | run | ⟨run, - | ending⟩
    · exact .goesOn rfl
    · exact .goesOn rfl
    · exact .held rfl
    -- the run is over by then, and the message is composed before the handler has its turn
    · exact .bind (hI.2 run hplan ending) fun message ↦
        handsOver_fail hhandler.symm hoffset hsite message
  | grounded a m desired description =>
    obtain ⟨hhandler, hoffset, hsite⟩ := hf
    rw [step, takeOff, Bench.requireHandler]
    rcases hh : a.bench.handler with - | h
    · exact .panic _
    · rw [hh] at hhandler
      rw [pure_bind, bind_assoc]
      refine .bind hI.1 fun started ↦ ?_
      rcases a.plan m desired description with cause | plan
      -- a misconfigured assertion fails at once
      · dsimp only
        rw [bind_assoc]
        refine .bind (hI.2 _) fun _ ↦ ?_
        exact handsOver_fail hhandler.symm hoffset hsite cause.text
      · exact .goesOn rfl

/-- What a step of a flight has done that leads from the one to the other, and from the one world to
the other. -/
inductive Advances : Flight σ α → World σ → Flight σ α → World σ → Prop
  /-- The assertion is valid, and its run starts with the time that was read. -/
  | takesOff {a : Assertion σ α} {m : Matcher σ α} {desired : Bool} {description : Description σ}
      {h : Handler σ} {plan : Plan σ α} {started : Duration} {w v : World σ}
      (hhandler : a.bench.handler = some h)
      (hnow : Engine.call none a.bench.time.now w = (.ok started, v))
      (hplan : a.plan m desired description = .ok plan) :
      Advances (.grounded a m desired description) w (.polling a h (.start plan started)) v
  /-- It is not valid, and fails at once. -/
  | refused {a : Assertion σ α} {m : Matcher σ α} {desired : Bool} {description : Description σ}
      {h : Handler σ} {cause : Misconfiguration} {started : Duration} {skip : UInt64}
      {w u v : World σ} (hhandler : a.bench.handler = some h)
      (hnow : Engine.call none a.bench.time.now w = (.ok started, u))
      (hplan : a.plan m desired description = .error cause)
      (hskip : callerSkip? a.offset = some skip)
      (hhand : Engine.hand h ⟨cause.text, skip, a.site⟩
        { u with
          notices := .logged (.misconfigured a.mode (.misconfigured cause)) :: u.notices } =
        (.ok (), v)) :
      Advances (.grounded a m desired description) w (.landed false) v
  /-- The run has done a step. -/
  | goesOn {a : Assertion σ α} {h : Handler σ} {run run' : Run σ α} {turn : Turn σ α}
      {e : Run.Event α} {w v : World σ} (hs : run.Steps w e turn v)
      (hrun : turn.run? = some run') : Advances (.polling a h run) w (.polling a h run') v
  /-- The step was its last, and it held. -/
  | held {a : Assertion σ α} {h : Handler σ} {run run' : Run σ α} {e : Run.Event α}
      {w v : World σ} (hs : run.Steps w e (.over run' none) v) :
      Advances (.polling a h run) w (.landed true) v
  /-- The step was its last, and it failed. -/
  | failed {a : Assertion σ α} {h : Handler σ} {run run' : Run σ α} {e : Run.Event α}
      {ending : Ending} {message : String} {skip : UInt64} {w u u' v : World σ}
      (hs : run.Steps w e (.over run' (some ending)) u)
      (hmessage : Engine.call none (run'.failureMessage ending) u = (.ok message, u'))
      (hskip : callerSkip? a.offset = some skip)
      (hhand : Engine.hand h ⟨message, skip, a.site⟩ u' = (.ok (), v)) :
      Advances (.polling a h run) w (.landed false) v
  | landed {held : Bool} {w : World σ} : Advances (.landed held) w (.landed held) w

theorem of_fail_eq_ok {message : String} {f' : Flight σ α} {waits : Bool} {w v : World σ}
    (hfail : (do return (← fail a h message, false)) w = (.ok (f', waits), v)) :
    f' = .landed false ∧ ∃ skip, callerSkip? a.offset = some skip ∧
      Engine.hand h ⟨message, skip, a.site⟩ w = (.ok (), v) := by
  rw [fail, bind_assoc] at hfail
  obtain ⟨⟨⟩, u, hhandIn, hland⟩ := Effect.bind_eq_ok_iff.1 hfail
  obtain ⟨⟨⟩, rfl⟩ := Effect.pure_eq_ok_iff.1 hland
  exact ⟨rfl, Engine.of_handIn_eq_ok hhandIn⟩

/-- **A step of a flight that returns has done one of these.** -/
theorem advances {f' : Flight σ α} {waits : Bool} {w v : World σ}
    (hstep : f.step w = (.ok (f', waits), v)) : Advances f w f' v := by
  cases f with
  | landed held =>
    obtain ⟨⟨⟩, rfl⟩ := Effect.pure_eq_ok_iff.1 hstep
    exact .landed
  | polling a h run =>
    obtain ⟨turn, u, hturn, hrest⟩ := Effect.bind_eq_ok_iff.1 hstep
    obtain ⟨e, hs⟩ := Run.exists_steps hturn
    rcases turn with run' | run' | ⟨run', - | ending⟩
    · obtain ⟨⟨⟩, rfl⟩ := Effect.pure_eq_ok_iff.1 hrest
      exact .goesOn hs rfl
    · obtain ⟨⟨⟩, rfl⟩ := Effect.pure_eq_ok_iff.1 hrest
      exact .goesOn hs rfl
    · obtain ⟨⟨⟩, rfl⟩ := Effect.pure_eq_ok_iff.1 hrest
      exact .held hs
    · obtain ⟨message, u', hmessage, hfail⟩ := Effect.bind_eq_ok_iff.1 hrest
      obtain ⟨rfl, skip, hskip, hhand⟩ := of_fail_eq_ok hfail
      exact .failed hs hmessage hskip hhand
  | grounded a m desired description =>
    rw [step, takeOff, bind_assoc] at hstep
    obtain ⟨h, u, hrequire, hstep⟩ := Effect.bind_eq_ok_iff.1 hstep
    have hhandler := Bench.of_requireHandler_eq_ok hrequire
    obtain rfl : w = u := by
      rw [Bench.requireHandler, hhandler] at hrequire
      exact (Effect.pure_eq_ok_iff.1 hrequire).2
    rw [bind_assoc] at hstep
    obtain ⟨started, u, hnow, hstep⟩ := Effect.bind_eq_ok_iff.1 hstep
    rcases hplan : a.plan m desired description with cause | plan
    · rw [hplan] at hstep
      dsimp only at hstep
      rw [bind_assoc] at hstep
      obtain ⟨_, u', hlog, hfail⟩ := Effect.bind_eq_ok_iff.1 hstep
      obtain ⟨-, rfl⟩ := Prod.mk.inj hlog
      obtain ⟨rfl, skip, hskip, hhand⟩ := of_fail_eq_ok hfail
      exact .refused hhandler hnow hplan hskip hhand
    · rw [hplan] at hstep
      obtain ⟨⟨⟩, rfl⟩ := Effect.pure_eq_ok_iff.1 hstep
      exact .takesOff hhandler hnow hplan

/-- A flight that goes on polls, with the handler of its bench and a plan of its own. -/
theorem polls_of_step {f' : Flight σ α} {waits : Bool} {w v : World σ}
    (hstep : f.step w = (.ok (f', waits), v)) (hanswer : f'.answer? = none) :
    ∃ a h run, f' = .polling a h run ∧ match f with
      | .grounded a₀ m desired description => a = a₀ ∧ a.bench.handler = some h ∧
          a.plan m desired description = .ok run.plan
      | .polling a₀ h₀ run₀ => a = a₀ ∧ h = h₀ ∧ run.plan = run₀.plan
      | .landed _ => False := by
  cases advances hstep with
  | refused | held | failed | landed => cases hanswer
  | takesOff hhandler hnow hplan => exact ⟨_, _, _, rfl, rfl, hhandler, hplan⟩
  | goesOn hs hrun =>
    obtain ⟨hplan, -⟩ := hs.run_eq
    rw [Turn.run_of_run? hrun] at hplan
    exact ⟨_, _, _, rfl, rfl, rfl, hplan⟩

/-- A flight that goes on reports as before. -/
theorem reportsTo_step (hf : f.ReportsTo handler offset site) {f' : Flight σ α} {waits : Bool}
    {w v : World σ} (hstep : f.step w = (.ok (f', waits), v)) (hanswer : f'.answer? = none) :
    f'.ReportsTo handler offset site := by
  obtain ⟨a, h, run, rfl, hfrom⟩ := polls_of_step hstep hanswer
  cases f with
  | landed held => exact hf.elim
  | polling a₀ h₀ run₀ =>
    obtain ⟨rfl, rfl, -⟩ := hfrom
    exact hf
  | grounded a₀ m desired description =>
    obtain ⟨rfl, hh, -⟩ := hfrom
    exact ⟨hh.symm.trans hf.1, hf.2⟩

/-! ### What the user code of a flight keeps -/

/-- No user code gives notices, and no step before the handler has its turn hands anything over. -/
theorem spares_quiet (f : Flight σ α) (old : List Notice) : f.Spares (World.Quiet old) := by
  have hcall : ∀ {β : Type} (act : Action σ β),
      (Engine.call none act).Keeps (World.Quiet old) (World.Quiet old) := fun act ↦
    Engine.keeps_call_of_foreign fun _ user hw ↦ hw.user user
  cases f with
  | grounded a m desired description =>
    exact ⟨hcall _, fun entry ↦ Engine.keeps_note fun w hw ↦ hw.cons rfl⟩
  | polling a h run =>
    have hstep : run.step.Keeps (World.Quiet old) (World.Quiet old) :=
      run.keeps_step_of_foreign (fun _ user hw ↦ hw.user user) (fun _ _ hw ↦ hw.cons rfl)
        fun _ _ hw ↦ hw.cons rfl
    exact ⟨hstep, fun run' _ ending ↦ hcall _⟩
  | landed held => trivial

theorem Spares.and {I' : World σ → Prop} (hI : f.Spares I) (hI' : f.Spares I') :
    f.Spares fun w ↦ I w ∧ I' w := by
  cases f with
  | grounded a m desired description =>
    exact ⟨hI.1.and hI'.1, fun entry ↦ (hI.2 entry).and (hI'.2 entry)⟩
  | polling a h run =>
    exact ⟨hI.1.and hI'.1, fun run' hrun ending ↦
      (hI.2 run' hrun ending).and (hI'.2 run' hrun ending)⟩
  | landed held => trivial

/-- All the user code of the flight but the handler keeps `I` of the user's state. -/
def UserKeeps (I E : σ → Prop) : Flight σ α → Prop
  | .grounded a m _ description => a.bench.time.Keeps I E ∧ m.Keeps I E ∧
      Action.KeepsNested I E description.render ∧
      ∀ source, a.subject.resolve a.mode a.token = .ok source → Action.Keeps I E source.take
  | .polling _ _ run => run.plan.UserKeeps I E
  | .landed _ => True

theorem spares_user {J : σ → Prop} (hf : f.UserKeeps J J) : f.Spares fun w ↦ J w.user := by
  have hcall : ∀ {β : Type} {act : Action σ β}, Action.Keeps J J act →
      (Engine.call none act).Keeps (fun w ↦ J w.user) fun w ↦ J w.user := fun hact ↦
    Engine.keeps_call_user (fun _ h ↦ nomatch h) hact
  cases f with
  | grounded a m desired description =>
    exact ⟨hcall hf.1.now.keeps, fun entry ↦ Engine.keeps_note fun w hw ↦ hw⟩
  | polling a h run =>
    refine ⟨Run.keeps_step_user hf, fun run' hrun ending ↦ hcall ?_⟩
    exact Run.keeps_failureMessage (hrun ▸ hf.callbacks) ending
  | landed held => trivial

/-- A flight that goes on has the user code that it had. -/
theorem userKeeps_step {J E : σ → Prop} (hf : f.UserKeeps J E) {f' : Flight σ α} {waits : Bool}
    {w v : World σ} (hstep : f.step w = (.ok (f', waits), v)) (hanswer : f'.answer? = none) :
    f'.UserKeeps J E := by
  obtain ⟨a, h, run, rfl, hfrom⟩ := polls_of_step hstep hanswer
  cases f with
  | landed held => exact hfrom.elim
  | polling a₀ h₀ run₀ =>
    obtain ⟨-, -, hplan⟩ := hfrom
    show run.plan.UserKeeps J E
    rw [hplan]
    exact hf
  | grounded a₀ m desired description =>
    obtain ⟨rfl, -, hplan⟩ := hfrom
    obtain ⟨htime, hmatcher, hdescription, hsource⟩ := hf
    obtain ⟨hm, ht, hd, hresolve⟩ := Assertion.of_plan_eq_ok hplan
    exact ⟨⟨hm ▸ hmatcher, ht ▸ htime, hd ▸ hdescription⟩, hsource _ hresolve⟩

end Flight

end PollAssert
