import PollAssert.Proofs.Run.Step

/-!
# What the steps of a run keep

A run touches the world in four ways: it takes samples, it reads the time, it starts sleeps, and it
gives notices. `Plan.Spares I E` says that the last three keep `I`, a property of the world. Then no
part of a step but the observation can spoil it (`keeps_step`).

There are two sources of such an `I`.

* What is not the user's is out of reach of all user code: the clock, and what the notices say
  besides the log and the sleeps (`spares_of_foreign`).
* What is the user's is kept if the user's callbacks keep it. The callbacks that are not the
  source's are gathered in `Plan.CallbacksKeep` (`Plan.CallbacksKeep.spares`). Whether the library
  itself halts is a question of this kind: **a run whose callbacks never halt never halts**
  (`exists_step_eq_ok`). The callbacks that a report is composed of have to be calm where they see a
  report that halts, since that is what they see there.
-/

namespace PollAssert

variable {σ α β γ : Type}

/-- The clock, the sleeps and the notices of runs with this plan keep `I`. -/
structure Plan.Spares (I E : World σ → Prop) (p : Plan σ α) : Prop where
  /-- The log does. -/
  log : ∀ w entry, I w → I { w with notices := .logged entry :: w.notices }
  /-- Notices of sleeps do. -/
  slept : ∀ w length, I w → I { w with notices := .slept length :: w.notices }
  /-- Readings of the time do. -/
  now : ∀ r : Run σ α, r.plan = p → (r.call p.time.now).Keeps I E
  /-- Sleeps do. -/
  sleep : ∀ (r : Run σ α) (d : Duration), r.plan = p → (r.call (p.time.sleep d)).Keeps I E
  /-- Waiting for an instant does. -/
  wait : ∀ (r : Run σ α) (wait : Duration → Action σ Timer) (d : Duration), r.plan = p →
    p.time.sleepUntil? = some wait → (r.call (wait d)).Keeps I E

namespace Run

variable {I E : World σ → Prop} {r : Run σ α}

theorem keeps_elapsed {p : Plan σ α} (hp : p.Spares I E) (hr : r.plan = p) :
    (r.call r.elapsed).Keeps I E := by
  rw [r.call_elapsed_eq]
  exact (hr ▸ hp.now r hr).map

theorem keeps_record (hp : r.plan.Spares I E) (o : Observation α) : (r.record o).Keeps I E := by
  refine (keeps_elapsed hp rfl).bind fun capturedAt ↦ ?_
  refine (keeps_elapsed (r := r.publish o.sample capturedAt) hp rfl).bind fun logged ↦ ?_
  exact (Engine.keeps_note fun w ↦ hp.log w _).bind fun _ ↦ .pure _

theorem keeps_finish (hp : r.plan.Spares I E) (cause : Cause) : (r.finish cause).Keeps I E := by
  have hlog : ∀ (entry : Duration → LogEntry) (ending : Option Ending), (do
      let elapsed ← r.call r.elapsed
      Engine.log (entry elapsed)
      return Turn.over r ending : Engine σ (Turn σ α)).Keeps I E := fun entry ending ↦
    (keeps_elapsed hp rfl).bind fun elapsed ↦
      (Engine.keeps_note fun w ↦ hp.log w _).bind fun _ ↦ .pure _
  cases cause with
  | held => exact (Effect.Keeps.pure none).bind fun ending ↦ hlog _ ending
  | _ => exact (keeps_elapsed hp rfl).map.bind fun ending ↦ hlog _ ending

theorem keeps_sleep {p : Plan σ α} (hp : p.Spares I E) (hr : r.plan = p) (d : Duration) :
    (r.sleep d).Keeps I E :=
  (Engine.keeps_note fun w ↦ hp.slept w d).bind fun _ ↦ hr ▸ hp.sleep r d hr

theorem keeps_startWaiting (hp : r.plan.Spares I E) : r.startWaiting.Keeps I E :=
  (keeps_sleep (r := { r with requestedDelay := none }) hp rfl _).bind fun _ ↦ .pure _

theorem keeps_goBy (hp : r.plan.Spares I E) (o : Observation α) : (r.goBy o).Keeps I E := by
  refine (keeps_record hp o).bind_of_ok fun r' w v h ↦ ?_
  obtain ⟨capturedAt, -, -, -, -, rfl, -⟩ := of_record_eq_ok h
  split
  next cause _ => exact keeps_finish (r := r.publish o.sample capturedAt) hp cause
  next passes _ =>
    exact (keeps_startWaiting
      (r := { r.publish o.sample capturedAt with passes := passes }) hp).map

theorem keeps_sleepUntil (hp : r.plan.Spares I E) (instant : Duration) :
    (r.sleepUntil instant).Keeps I E := by
  rw [sleepUntil]
  split
  next wait h => exact hp.wait r wait instant rfl h
  next =>
    refine (hp.now r rfl).bind fun now ↦ ?_
    cases TimeSource.remaining? now instant with
    | none => exact .pure _
    | some length => exact keeps_sleep hp rfl length

theorem keeps_deadlineTimer (hp : r.plan.Spares I E) (deadline : Option Timer) :
    (r.deadlineTimer deadline).Keeps I E := by
  cases deadline with
  | some timer => exact .pure timer
  | none =>
    rw [deadlineTimer, sleepUntilDeadline]
    cases r.deadline? with
    | none => exact .pure _
    | some deadline => exact keeps_sleepUntil hp deadline

theorem keeps_look (hp : r.plan.Spares I E) (tick : Timer) (deadline : Option Timer) :
    (r.look tick deadline).Keeps I E := by
  rw [look_eq]
  have hcancelled : r.isCancelled.Keeps I E := fun w hw ↦ by rwa [isCancelled_apply]
  refine hcancelled.bind fun b ↦ ?_
  cases b with
  | true => exact .pure _
  | false =>
    exact (keeps_deadlineTimer hp deadline).bind fun timer ↦
      Engine.keeps_clock.bind fun _ ↦ .pure _

theorem keeps_waitStep (hp : r.plan.Spares I E) (tick : Timer) (deadline : Option Timer) :
    (r.waitStep tick deadline).Keeps I E := by
  rw [waitStep_eq]
  refine (keeps_look hp tick deadline).bind fun looked ↦ ?_
  rcases looked with ⟨- | wake, found⟩
  · exact .pure _
  · rw [heed_some]
    rcases r.plan.mode.causeOfWake? wake with - | cause
    · exact .pure _
    · exact keeps_finish hp cause

/-- **A step keeps what its observation keeps**, if the time and the notices spare it. -/
theorem keeps_step (hp : r.plan.Spares I E) (ho : r.observe.Keeps I E) : r.step.Keeps I E := by
  rw [step]
  split
  · rw [sampleStep_eq]
    exact ho.bind (keeps_goBy hp)
  · exact keeps_waitStep hp _ _

end Run

/-! ### What is not the user's -/

theorem Run.keeps_call_of_foreign {I : World σ → Prop} (r : Run σ α)
    (huser : ∀ w user, I w → I { w with user := user }) (act : Action σ β) :
    (r.call act).Keeps I I :=
  Engine.keeps_clock.bind fun _ ↦ Engine.keeps_call_of_foreign huser

/-- What neither user code nor notices of the log and of sleeps spoil is spared by every run. -/
theorem Plan.spares_of_foreign {I : World σ → Prop} (p : Plan σ α)
    (huser : ∀ w user, I w → I { w with user := user })
    (hlog : ∀ w entry, I w → I { w with notices := .logged entry :: w.notices })
    (hslept : ∀ w length, I w → I { w with notices := .slept length :: w.notices }) :
    p.Spares I I where
  log := hlog
  slept := hslept
  now r _ := r.keeps_call_of_foreign huser _
  sleep r _ _ := r.keeps_call_of_foreign huser _
  wait r _ _ _ _ := r.keeps_call_of_foreign huser _

/-- No step of a run spoils what neither user code nor its notices spoil. -/
theorem Run.keeps_step_of_foreign {I : World σ → Prop} (r : Run σ α)
    (huser : ∀ w user, I w → I { w with user := user })
    (hlog : ∀ w entry, I w → I { w with notices := .logged entry :: w.notices })
    (hslept : ∀ w length, I w → I { w with notices := .slept length :: w.notices }) :
    r.step.Keeps I I :=
  keeps_step (r.plan.spares_of_foreign huser hlog hslept) (r.keeps_call_of_foreign huser _)

/-- The clock is nothing of a run's: it is kept by whatever a run does but waiting. -/
theorem Plan.spares_clock (p : Plan σ α) (clock : Duration) :
    p.Spares (World.clock · = clock) (World.clock · = clock) :=
  p.spares_of_foreign (fun _ _ hw ↦ hw) (fun _ _ hw ↦ hw) fun _ _ hw ↦ hw

theorem Run.keeps_clock_step (r : Run σ α) (clock : Duration) :
    r.step.Keeps (World.clock · = clock) (World.clock · = clock) :=
  r.keeps_step_of_foreign (fun _ _ hw ↦ hw) (fun _ _ hw ↦ hw) fun _ _ hw ↦ hw

/-! ### What is the user's -/

/-- The matcher keeps `I` of the user's state. -/
structure Matcher.Keeps (I E : σ → Prop) (m : Matcher σ α) : Prop where
  judge : ∀ a, Action.Keeps I E (m.judge a)
  failureText : ∀ a, Action.KeepsNested I E (m.failureText a)
  negatedText : ∀ a, Action.KeepsNested I E (m.negatedText a)
  mayChange : ∀ a, Action.Keeps I E (m.mayChange a)

namespace Matcher.Keeps

variable {I E : σ → Prop} {m : Matcher σ α}

theorem textFor (hm : m.Keeps I E) (desired : Bool) (a : α) :
    Action.KeepsNested I E (m.textFor desired a) := by
  cases desired with
  | true => exact hm.failureText a
  | false => exact hm.negatedText a

theorem check (hm : m.Keeps I E) (desired : Bool) (a : α) :
    Action.Keeps I E (m.check desired a) := by
  refine (hm.judge a).bind fun verdict ↦ ?_
  rcases verdict with fault | matched
  · exact .pure _
  · show Action.Keeps I E (if matched = desired then _ else _)
    split
    · exact .pure _
    · exact (hm.textFor desired a).keeps.map

end Matcher.Keeps

/-- The source of time keeps `I` of the user's state. -/
structure TimeSource.Keeps (I E : σ → Prop) (t : TimeSource σ) : Prop where
  now : Action.KeepsNested I E t.now
  sleep : ∀ d, Action.Keeps I E (t.sleep d)
  wait : ∀ wait, t.sleepUntil? = some wait → ∀ d, Action.Keeps I E (wait d)

/-- A matcher that depends on the value alone touches nothing. -/
theorem Matcher.keeps_ofPure (I E : σ → Prop) (holds : α → Bool) (failure negated : α → String) :
    (Matcher.ofPure holds failure negated).Keeps I E where
  judge _ := .pure _
  failureText _ := .pure _
  negatedText _ := .pure _
  mayChange _ := .pure _

/-- The runtime's clock touches nothing. -/
theorem TimeSource.keeps_runtime (I E : σ → Prop) (epoch : Duration) :
    (TimeSource.runtime epoch).Keeps I E where
  now := Action.KeepsIn.clock.bind fun _ ↦ .pure _
  sleep _ := Action.KeepsIn.clock.bind fun _ ↦ .pure _
  wait := by
    rintro wait ⟨⟩ d
    exact .pure _

/-- The callbacks of a plan, but for those of its source of values, keep `I` of the user's state. -/
structure Plan.CallbacksKeep (I E : σ → Prop) (p : Plan σ α) : Prop where
  matcher : p.matcher.Keeps I E
  time : p.time.Keeps I E
  description : Action.KeepsNested I E p.description.render

namespace Run

variable {I E : σ → Prop} {r : Run σ α}

theorem keeps_compose {d : Description σ} (hd : Action.KeepsNested I E d.render)
    (header detail : String) : Action.KeepsNested I E (d.compose header detail) :=
  hd.bind fun shown ↦ by cases shown <;> exact .pure _

theorem keeps_detail (hp : r.plan.CallbacksKeep I E) : Action.KeepsNested I E r.detail := by
  rw [detail]
  rcases r.latest with - | ⟨sample, capturedAt⟩
  · exact .pure _
  · cases sample with
    | judged a matched => exact hp.matcher.textFor r.plan.desired a
    | unjudged a fault => exact .pure _
    | missed mishap => cases mishap <;> exact .pure _

theorem keeps_elapsed_nested (hp : r.plan.CallbacksKeep I E) : Action.KeepsNested I E r.elapsed :=
  hp.time.now.bind fun _ ↦ .pure _

/-- A report in which the reports that are asked for inside it keep `I` or halt keeps it as well. -/
theorem keeps_snapshot (hp : r.plan.CallbacksKeep I E) {free held : View σ}
    (hfree : free.Keeps I fun s ↦ I s ∨ E s) (hheld : held.Keeps I fun s ↦ I s ∨ E s) :
    (r.snapshot free held).Keeps I E :=
  (keeps_elapsed_nested hp free hfree).bind fun _ ↦
    (keeps_detail hp held hheld).bind fun _ ↦ keeps_compose hp.description _ _ free hfree

/-- A report that is asked for under the lock never returns, and spoils nothing. -/
theorem keeps_heldReport (hp : r.plan.CallbacksKeep I E) (clock : Duration) (room : Nat) :
    (r.heldReport clock room).Keeps I fun s ↦ I s ∨ E s := by
  induction room with
  | zero => exact .halt fun _ ↦ .inl
  | succ room ih =>
    have helapsed : (r.elapsed ⟨clock, some fun _ ↦ r.heldReport clock room⟩).Keeps I E :=
      keeps_elapsed_nested hp _ (by rintro text ⟨⟩ _; exact ih)
    exact (helapsed.mono_halt fun _ ↦ .inr).bind fun _ ↦ .halt fun _ ↦ .inl

/-- **Asking for the report of a run keeps what the callbacks keep**, if the stack has room for it.
By induction on the room: the reports inside one have less, and may have none. -/
theorem keeps_report (hp : r.plan.CallbacksKeep I E) (clock : Duration) (room : Nat) :
    (r.report clock (room + 1)).Keeps I E := by
  have hinside : ∀ room, (r.report clock room).Keeps I fun s ↦ I s ∨ E s := by
    intro room
    induction room with
    | zero => exact .halt fun _ ↦ .inl
    | succ room ih =>
      refine (keeps_snapshot hp ?_ ?_).mono_halt fun _ ↦ .inr
      · rintro text ⟨⟩ _
        exact ih
      · rintro text ⟨⟩ _
        exact keeps_heldReport hp clock room
  refine keeps_snapshot hp ?_ ?_
  · rintro text ⟨⟩ _
    exact hinside room
  · rintro text ⟨⟩ _
    exact keeps_heldReport hp clock room

/-- What the callbacks leave as it is, no report touches, whether it returns or halts. -/
theorem fixes_report {f : σ → γ} (hp : ∀ c, r.plan.CallbacksKeep (f · = c) (f · = c))
    (clock : Duration) (room : Nat) : (r.report clock room).Fixes f := by
  cases room with
  | zero => exact fun _ ↦ rfl
  | succ room => exact Effect.fixes_iff.2 fun c ↦ keeps_report (hp c) clock room

theorem keeps_failureMessage (hp : r.plan.CallbacksKeep I E) (ending : Ending) :
    Action.Keeps I E (r.failureMessage ending) :=
  ((keeps_detail hp).bind fun _ ↦ keeps_compose hp.description _ _).keeps

theorem keeps_call_of_callbacks (hp : r.plan.CallbacksKeep I E) {act : Action σ β}
    (ha : Action.Keeps I E act) : (r.call act).Keeps (fun w ↦ I w.user) fun w ↦ E w.user :=
  fun w ↦ Engine.keeps_call_user (by rintro text ⟨⟩ room; exact keeps_report hp w.clock room) ha w

/-- What is done with a value of the source keeps what the callbacks keep. -/
theorem keeps_ofResult (source : Source σ α) {m : Matcher σ α} (hm : m.Keeps I E)
    (result : Except Mishap α) : Action.Keeps I E (Observation.ofResult source m result) := by
  refine .bind ?_ fun sample ↦ .bind ?_ fun _ ↦ Action.KeepsIn.clock.bind fun _ ↦ .pure _
  · rcases result with mishap | a
    · exact .pure _
    · exact (hm.judge a).bind fun verdict ↦ by cases verdict <;> exact .pure _
  · rw [Sample.askOracle]
    split
    · exact (hm.mayChange _).map
    · exact .pure _

/-- A run whose source keeps `I` as well keeps it when it observes. -/
theorem keeps_observe (hp : r.plan.CallbacksKeep I E)
    (hs : Action.Keeps I E r.plan.source.take) :
    r.observe.Keeps (fun w ↦ I w.user) fun w ↦ E w.user := by
  rw [observe]
  rw [Observation.take_eq]
  exact keeps_call_of_callbacks hp (hs.bind fun result ↦ keeps_ofResult _ hp.matcher result)

end Run

theorem Plan.CallbacksKeep.spares {I E : σ → Prop} {p : Plan σ α} (hp : p.CallbacksKeep I E) :
    p.Spares (fun w ↦ I w.user) fun w ↦ E w.user where
  log _ _ hw := hw
  slept _ _ hw := hw
  now _ hr := Run.keeps_call_of_callbacks (hr ▸ hp) hp.time.now.keeps
  sleep _ d hr := Run.keeps_call_of_callbacks (hr ▸ hp) (hp.time.sleep d)
  wait _ wait d hr h := Run.keeps_call_of_callbacks (hr ▸ hp) (hp.time.wait wait h d)

/-- All the user code of a plan keeps `I` of the user's state. -/
structure Plan.UserKeeps (I E : σ → Prop) (p : Plan σ α) : Prop where
  callbacks : p.CallbacksKeep I E
  source : Action.Keeps I E p.source.take

/-- User code that keeps `I` and never halts while it holds. -/
abbrev Plan.Calm (I : σ → Prop) (p : Plan σ α) : Prop := p.UserKeeps I fun _ ↦ False

/-- **A step keeps what all the user code keeps.** -/
theorem Run.keeps_step_user {I E : σ → Prop} {r : Run σ α} (hp : r.plan.UserKeeps I E) :
    r.step.Keeps (fun w ↦ I w.user) fun w ↦ E w.user :=
  keeps_step hp.callbacks.spares (keeps_observe hp.callbacks hp.source)

/-- **A run over calm user code never halts**: every step of it returns. -/
theorem Run.exists_step_eq_ok {I : σ → Prop} {r : Run σ α} (hp : r.plan.Calm I) {w : World σ}
    (hw : I w.user) : ∃ turn v, r.step w = (.ok turn, v) ∧ I v.user :=
  (keeps_step_user hp).exists_eq_ok hw

end PollAssert
