import PollAssert.Proofs.Flight.Reporter
import PollAssert.Proofs.Run.Cancellation
import PollAssert.Proofs.Run.Requests

/-!
# What the message of a failed assertion tells

The message of a failed assertion is made of a header, which says how the run ended and after how
long, the description if there is one to show, and a detail. The detail explains the **last** sample
that was taken, and depends on nothing but that sample, the mode, the polarity and the matcher.

There are five causes for which a run fails, each of which belongs to what happened on its last step
(`Plan.FailsFor`), and each of which has its own header (`Cause.Heads`).

Header and detail are made independently: the header from the cause for which the run ended, the
detail from the latest sample, which is searched for a signal once more. They agree all the same
(`Message.Tells`). The run was stopped exactly if the last sample asks to stop; then the header has
the message of that very signal, and the detail what it wraps and all that is attached to it. In any
other ending the last sample carries no signal but a request to try again, and the detail names its
delay.

No request to stop is lost on the way: a sample that makes one is the last of its assertion, which
fails with it (`Flight.Voyage.fails_of_stop`). A sample carries the signal that its error holds as
an error, here as everywhere.
-/

namespace PollAssert

variable {σ α : Type}

/-! ### The lines of a text -/

namespace Description

/-- The text of the description, shown or not. -/
def words : Description σ → Action σ String
  | .none => pure ""
  | .text s => pure s
  | .computed describe => describe

/-- The description on a line of its own, if it is not empty. -/
def line (words : String) : String := if words.isEmpty then "" else words ++ "\n"

/-- What is shown is the text that is not empty. -/
theorem render_eq (d : Description σ) :
    d.render = (fun words ↦ if words.isEmpty then Option.none else some words) <$> d.words := by
  cases d with
  | none => rfl
  | text s => rfl
  | computed describe => rw [map_eq_pure_bind]; rfl

/-- The description is left out with its line if it comes out empty. -/
theorem compose_eq_lines (header : String) (d : Description σ) (detail : String) :
    compose header d detail = (fun words ↦ header ++ "\n" ++ line words ++ detail) <$> d.words := by
  rw [compose, render_eq, bind_map_left, map_eq_pure_bind]
  congr 1
  funext words
  rw [line]
  cases words.isEmpty with
  | true => exact congrArg (fun s ↦ pure (s ++ detail)) (String.append_empty).symm
  | false => exact congrArg pure (by simp [String.append_assoc])

end Description

/-! ### The detail of a signal -/

/-- An attachment in a text. -/
def Attachment.paragraph (a : Attachment) : String := "\n" ++ a.description ++ ":\n    " ++ a.value

namespace Signal

/-- The attachments in a text, in the order in which they were attached. -/
def paragraphs (s : Signal) : String := String.join (s.attachments.map Attachment.paragraph)

theorem attachments_attach {β : Type} [Inspect β] (s : Signal) (description : String) (b : β) :
    (s.attach description b).attachments = s.attachments ++ [⟨description, inspectTall b⟩] := by
  cases s <;> rfl

/-- What is attached later comes later. -/
theorem paragraphs_attach {β : Type} [Inspect β] (s : Signal) (description : String) (b : β) :
    (s.attach description b).paragraphs =
      s.paragraphs ++ Attachment.paragraph ⟨description, inspectTall b⟩ := by
  rw [paragraphs, attachments_attach, List.map_append, List.map_singleton, String.join_append,
    String.join_cons, String.join_nil, String.append_empty, paragraphs]

end Signal

namespace Sample

/-- The detail of a request to stop leaves out its message, which is in the header. -/
theorem signalDetail_of_stop {s : Signal} {message : String} (h : s.request = .stop message) :
    signalDetail s = (s.wrapped?.elim "" Fault.text) ++ s.paragraphs := by
  rw [signalDetail, h]
  cases s.wrapped? <;> rfl

/-- The detail of a request to try again begins with its delay. -/
theorem signalDetail_of_retry {s : Signal} {delay : Duration} (h : s.request = .retry delay) :
    signalDetail s = "told to try again after " ++ delay.text ++
      (s.wrapped?.elim "" (": " ++ ·.text)) ++ s.paragraphs := by
  have htext : s.text = "told to try again after " ++ delay.text ++
      (s.wrapped?.elim "" (": " ++ ·.text)) := by
    cases s with
    | bare request attachments =>
      obtain rfl : request = .retry delay := h
      exact String.append_empty.symm
    | wrapping request attachments wrapped =>
      obtain rfl : request = .retry delay := h
      exact String.append_assoc
  rw [signalDetail, h, htext]
  rfl

end Sample

/-! ### Runs that are asked to stop -/

/-- A sample ends the run with its message exactly if it asks to stop. -/
theorem Plan.rule_eq_stopped_iff (p : Plan σ α) (passes : Nat) (o : Observation α)
    {message : String} :
    p.mode.rule p.repeats passes (o.reading p.desired) = .over (.stopped message) ↔
      o.stopMessage? = some message := by
  rw [Observation.stopMessage?]
  obtain ⟨hpassed, hsignal, hsteering⟩ | ⟨hpassed, hsignal, hsteering⟩ |
    ⟨hpassed, signal, message', hsignal, hrequest, hsteering⟩ |
    ⟨hpassed, signal, delay, hsignal, hrequest, hsteering⟩ := o.kind_cases p.desired
  all_goals
    cases p.mode <;>
      grind [Mode.rule, Mode.ruleEventually, Mode.ruleConsistently, Observation.reading]

namespace Run

variable {between : Turn σ α → World σ → World σ → Prop} {p : Plan σ α} {started : Duration}
  {r r₀ r' : Run σ α} {w₀ w u v : World σ} {h : List (Event α)} {turn : Turn σ α} {e : Event α}
  {message : String}

/-- A sample that asks to stop ends the run. -/
theorem Steps.over_of_stop {o : Observation α} (hs : r.Steps u (.sampled o) turn v)
    (hstop : o.stopMessage? = some message) :
    ∃ r' elapsed, turn = .over r' (some (.stopped message elapsed)) := by
  obtain ⟨-, capturedAt, hturn⟩ := hs.turn_of_sampled
  rw [(r.plan.rule_eq_stopped_iff r.passes o).2 hstop] at hturn
  obtain ⟨elapsed, rfl⟩ := hturn
  exact ⟨_, elapsed, rfl⟩

/-- A run is stopped by a step exactly if the step takes a sample that asks for it. -/
theorem Steps.stopped_iff {ending : Ending} (hs : r.Steps u e (.over r' (some ending)) v) :
    (∃ elapsed, ending = .stopped message elapsed) ↔
      ∃ o, e = .sampled o ∧ o.stopMessage? = some message := by
  constructor
  · rintro ⟨elapsed, rfl⟩
    obtain ⟨cause, elapsed', hending, ⟨o, rfl, hrule⟩ | ⟨wake, rfl, hwake⟩⟩ := hs.cause_of_over
    · have hcause : cause = .stopped message := by
        cases cause <;> cases hending
        rfl
      exact ⟨o, rfl, (r.plan.rule_eq_stopped_iff r.passes o).1 (hcause ▸ hrule)⟩
    · -- what ends a wait never asks to stop
      generalize r.plan.mode = mode at hwake
      cases mode <;> cases wake <;> cases hwake <;> cases hending
  · rintro ⟨o, rfl, hstop⟩
    obtain ⟨r'', elapsed, hturn⟩ := hs.over_of_stop hstop
    exact ⟨elapsed, Option.some.inj (Turn.over.inj hturn).2⟩

/-- No sample of a run that goes on has asked it to stop. -/
theorem Course.stopMessage?_eq_none (hc : Course between r₀ w₀ h turn w)
    (hrun : turn.run? = some r) : ∀ o ∈ (transcript h).samples, o.stopMessage? = none := by
  induction hc generalizing r with
  | start => nofun
  | step hc hrun' hbetween hsteps ih =>
    intro o ho
    obtain hold | rfl := mem_samples_concat.1 ho
    · exact ih hrun' o hold
    · rcases hstop : o.stopMessage? with - | message
      · rfl
      · obtain ⟨r', elapsed, rfl⟩ := hsteps.over_of_stop hstop
        cases hrun

/-- So only the last sample of a run can have asked. -/
theorem Course.stopMessage?_eq_none_of_mem_dropLast (hc : Course between r₀ w₀ h turn w)
    (hrun : turn.run? = some r) :
    ∀ o ∈ (transcript (h ++ [e])).samples.dropLast, o.stopMessage? = none := by
  intro o ho
  refine hc.stopMessage?_eq_none hrun o ?_
  cases e with
  | sampled o' => rwa [transcript_concat_sampled, List.dropLast_concat] at ho
  | looked wake =>
    rw [transcript_concat_looked] at ho
    exact List.dropLast_subset _ ho

/-- **A run is stopped exactly if its last sample asks for it.** -/
theorem Course.stopped_iff {ending : Ending} {o : Observation α}
    (hc : Course between r₀ w₀ h turn w) (hrun : turn.run? = some r)
    (hs : r.Steps u e (.over r' (some ending)) v)
    (hlast : (transcript (h ++ [e])).samples.getLast? = some o) :
    (∃ elapsed, ending = .stopped message elapsed) ↔ o.stopMessage? = some message := by
  rw [hs.stopped_iff]
  cases e with
  | sampled o' =>
    rw [transcript_concat_sampled, List.getLast?_concat] at hlast
    obtain rfl := Option.some.inj hlast
    exact ⟨fun ⟨o, ho, hstop⟩ ↦ Event.sampled.inj ho ▸ hstop, fun hstop ↦ ⟨_, rfl, hstop⟩⟩
  | looked wake =>
    -- a step that only looks leaves the samples, and none of them has asked
    rw [transcript_concat_looked] at hlast
    rw [hc.stopMessage?_eq_none hrun o (List.mem_of_getLast? hlast)]
    exact iff_of_false (fun ⟨_, ho, _⟩ ↦ nomatch ho) nofun

end Run

/-- The sample carries a request to stop with the given message. -/
def Sample.AsksToStop (s : Sample α) (message : String) : Prop :=
  ∃ signal, s.signal? = some signal ∧ signal.request = .stop message

theorem Observation.stopMessage?_eq_some_iff {o : Observation α} {message : String} :
    o.stopMessage? = some message ↔ o.sample.AsksToStop message := by
  rw [stopMessage?, Sample.AsksToStop]
  rcases o.sample.signal? with - | signal
  · simp
  · rcases hrequest : signal.request <;> simp [hrequest]

/-! ### Why a run fails -/

/-- A run with the given plan fails for this cause, on a step in the given world on which the given
thing happens. -/
inductive Plan.FailsFor (p : Plan σ α) (w : World σ) : Run.Event α → Cause → Prop
  /-- A sample asks to stop. -/
  | stopped {o : Observation α} {message : String} (hstop : o.sample.AsksToStop message) :
      p.FailsFor w (.sampled o) (.stopped message)
  /-- `eventually` takes a sample of a fixed value that does not pass, and the oracle has ruled out
  that a later one will. -/
  | noFutureChange {o : Observation α} (hmode : p.mode = .eventually)
      (hpassed : o.sample.passed p.desired = false)
      (hstop : ∀ message, ¬ o.sample.AsksToStop message) (hfixed : p.source.isFixed = true)
      (hsettled : o.mayChange = some false) :
      p.FailsFor w (.sampled o) .noFutureChange
  /-- `consistently` takes a sample that does not pass and carries no signal. -/
  | failed {o : Observation α} (hmode : p.mode = .consistently)
      (hpassed : o.sample.passed p.desired = false) (hsignal : o.sample.signal? = none) :
      p.FailsFor w (.sampled o) .failed
  /-- `eventually` finds that the time is up, and that the token has not been cancelled. -/
  | timedOut (hmode : p.mode = .eventually) (htoken : p.isCancelled w = false) :
      p.FailsFor w (.looked (some .deadline)) .timedOut
  /-- The token turns out to have been cancelled. -/
  | cancelled (htoken : p.isCancelled w = true) :
      p.FailsFor w (.looked (some .cancelled)) .cancelled

/-- The header of a message that tells of a run which failed for the given cause after the given
time. -/
inductive Cause.Heads (elapsed : Duration) : Cause → String → Prop
  | stopped {message : String} :
      Cause.Heads elapsed (.stopped message) (message ++ " after " ++ elapsed.text ++ ".")
  | noFutureChange : Cause.Heads elapsed .noFutureChange
      ("No future change is possible.  Bailing out early after " ++ elapsed.text ++ ".")
  | failed : Cause.Heads elapsed .failed ("Failed after " ++ elapsed.text ++ ".")
  | timedOut : Cause.Heads elapsed .timedOut ("Timed out after " ++ elapsed.text ++ ".")
  | cancelled :
      Cause.Heads elapsed .cancelled ("Context was cancelled after " ++ elapsed.text ++ ".")

theorem Cause.heads_of_ending? {cause : Cause} {elapsed : Duration} {ending : Ending}
    (h : cause.ending? elapsed = some ending) : cause.Heads elapsed ending.text := by
  cases cause <;> cases h <;> constructor

theorem Cause.eq_stopped_iff_of_ending? {cause : Cause} {elapsed : Duration} {ending : Ending}
    {message : String} (h : cause.ending? elapsed = some ending) :
    cause = .stopped message ↔ ∃ elapsed, ending = .stopped message elapsed := by
  cases cause <;> cases h <;> simp

/-- A sample that ends a run which does not hold is one for which it fails. -/
theorem Plan.failsFor_of_rule {p : Plan σ α} {o : Observation α} (hfits : o.Fits p.source)
    {passes : Nat} {cause : Cause}
    (hrule : p.mode.rule p.repeats passes (o.reading p.desired) = .over cause)
    (hcause : cause ≠ .held) (w : World σ) : p.FailsFor w (.sampled o) cause := by
  have hfixed : o.mayChange = some false → p.source.isFixed = true := by
    intro hsettled
    rw [Observation.Fits, hsettled] at hfits
    exact (Bool.and_eq_true_iff.1 hfits.symm).1
  have hquiet : (∀ signal, o.sample.signal? = some signal →
      ∃ delay, signal.request = .retry delay) → ∀ message, ¬ o.sample.AsksToStop message := by
    rintro hretry message ⟨signal, hsignal, hstop⟩
    obtain ⟨delay, hdelay⟩ := hretry signal hsignal
    cases hstop.symm.trans hdelay
  rw [Mode.rule.eq_def] at hrule
  obtain ⟨hpassed, hsignal, hsteering⟩ | ⟨hpassed, hsignal, hsteering⟩ |
    ⟨hpassed, signal, message, hsignal, hrequest, hsteering⟩ |
    ⟨hpassed, signal, delay, hsignal, hrequest, hsteering⟩ := o.kind_cases p.desired
  · -- a sample that passes ends a run only if the run holds
    cases hmode : p.mode <;>
      grind [Mode.ruleEventually, Mode.ruleConsistently, Observation.reading]
  · cases hmode : p.mode with
    | eventually =>
      obtain ⟨hsettled, rfl⟩ : o.mayChange = some false ∧ cause = .noFutureChange := by
        grind [Mode.ruleEventually, Observation.reading]
      exact .noFutureChange hmode hpassed (hquiet (by simp [hsignal])) (hfixed hsettled) hsettled
    | consistently =>
      obtain rfl : cause = .failed := by grind [Mode.ruleConsistently, Observation.reading]
      exact .failed hmode hpassed hsignal
  · obtain rfl : cause = .stopped message := by
      cases hmode : p.mode <;>
        grind [Mode.ruleEventually, Mode.ruleConsistently, Observation.reading]
    exact .stopped ⟨signal, hsignal, hrequest⟩
  · -- a request to try again ends only the run of a value that will not change
    obtain ⟨hmode, hsettled, rfl⟩ :
        p.mode = .eventually ∧ o.mayChange = some false ∧ cause = .noFutureChange := by
      cases hmode : p.mode <;>
        grind [Mode.ruleEventually, Mode.ruleConsistently, Observation.reading]
    refine .noFutureChange hmode hpassed (hquiet ?_) (hfixed hsettled) hsettled
    intro signal' hsignal'
    obtain rfl := Option.some.inj (hsignal.symm.trans hsignal')
    exact ⟨delay, hrequest⟩

/-- **A run fails on a step for the cause that belongs to what happens on it.** -/
theorem Run.Steps.failsFor {r r' : Run σ α} {u v : World σ} {e : Run.Event α} {ending : Ending}
    (hs : r.Steps u e (.over r' (some ending)) v) :
    ∃ cause elapsed, cause.ending? elapsed = some ending ∧ r.plan.FailsFor u e cause := by
  obtain ⟨cause, elapsed, hending, hwhy⟩ := hs.cause_of_over
  have hcause : cause ≠ .held := by
    rintro rfl
    cases hending
  refine ⟨cause, elapsed, hending.symm, ?_⟩
  obtain ⟨o, rfl, hrule⟩ | ⟨wake, rfl, hwake⟩ := hwhy
  · exact r.plan.failsFor_of_rule hs.fits.1 hrule hcause u
  generalize hmode : r.plan.mode = mode at hwake
  cases wake with
  | tick => cases mode <;> cases hwake
  | cancelled =>
    obtain rfl : cause = .cancelled := by cases mode <;> exact (Option.some.inj hwake).symm
    exact .cancelled (hs.cancelled_iff.1 rfl)
  | deadline =>
    cases mode with
    | consistently => exact absurd (Option.some.inj hwake).symm hcause
    | eventually =>
      obtain rfl := Option.some.inj hwake
      exact .timedOut hmode (hs.isCancelled_eq_false (by simp))

/-- The time that a failed run tells is the one from its start to a reading that was taken when it
ended. -/
theorem Run.Steps.exists_reading {r r' : Run σ α} {u v : World σ} {e : Run.Event α}
    {ending : Ending} (hs : r.Steps u e (.over r' (some ending)) v) :
    ∃ (view : View σ) (s : σ) (now : Duration) (t : σ), view.clock = u.clock ∧
      r.plan.time.now view s = (.ok now, t) ∧
      ending.elapsed? = some (now.saturatingSub r.started) := by
  obtain ⟨hplan, hstarted, -⟩ := hs.run_eq
  obtain ⟨elapsed, w₁, w₂, hending, hclock, hread⟩ := hs.elapsed_of_over
  rw [call_elapsed_eq] at hread
  obtain ⟨now, hnow, rfl⟩ := Effect.map_eq_ok_iff.1 hread
  obtain ⟨user, hview, -⟩ := Engine.call_eq_ok_iff.1 hnow
  rw [show r'.plan = r.plan from hplan] at hview
  rw [show r'.started = r.started from hstarted] at hending
  exact ⟨_, _, now, user, hclock.trans hs.clock_eq, hview, hending⟩

namespace Flight

variable {a : Assertion σ α} {m : Matcher σ α} {desired : Bool} {d : Description σ} {p : Plan σ α}
  {h : List (Leg α)} {future : Option (Flight σ α)} {f f' : Flight σ α} {waits : Bool}
  {w v : World σ}

/-! ### The run of a voyage -/

/-- A step that leaves a run on is a step of that run. -/
theorem exists_steps_of_polling {a' : Assertion σ α} {handler handler' : Handler σ}
    {run run' : Run σ α}
    (hstep : (polling a handler run).step w = (.ok (.polling a' handler' run', waits), v)) :
    ∃ e turn, run.Steps w e turn v ∧ turn.run? = some run' := by
  cases advances hstep with
  | goesOn hs hrun => exact ⟨_, _, hs, hrun⟩

/-- **The run of a voyage has a course**, on which anything may happen between two steps. -/
theorem Voyage.exists_course (hv : Voyage (.grounded a m desired d) h future) :
    ∀ a' handler run, future = some (.polling a' handler run) → ∃ w₀ events turn w,
      Run.Course (fun _ _ _ ↦ True) (.start run.plan run.started) w₀ events turn w ∧
        turn.run? = some run ∧
        Leg.samples h = (Run.transcript events).samples.map Observation.sample := by
  induction hv with
  | start => rintro a' handler run ⟨⟩
  | panic => rintro a' handler run ⟨⟩
  | drop => rintro a' handler run ⟨⟩
  | @step h f f' waits w v hv hstep ih =>
    rintro a' handler run ⟨⟩
    cases hv.aboard with
    | grounded =>
      obtain ⟨handler', plan, started, -, -, -, hpolling⟩ | ⟨-, hlanded⟩ := takeOff_cases hstep
      · cases hpolling
        exact ⟨w, [], _, w, .start, rfl, rfl⟩
      · cases hlanded
    | @polling _ handler₀ run₀ =>
      obtain ⟨w₀, events, turn, w', hc, hrun, hsamples⟩ := ih _ _ _ rfl
      obtain ⟨e, turn', hs, hrun'⟩ := exists_steps_of_polling hstep
      have hsample : (polling a handler₀ run₀).sampleOn w = e.sample? := sampleOn_of_steps hs
      obtain ⟨hplan, hstarted, -⟩ := hs.run_eq
      rw [Turn.run_of_run? hrun'] at hplan hstarted
      refine ⟨w₀, events ++ [e], turn', v, ?_, hrun', ?_⟩
      · rw [hplan, hstarted]
        exact hc.step hrun trivial hs
      · rw [Leg.samples_concat, Run.map_sample_concat, hsamples, ← hsample]
        rfl
    | ended hfuture =>
      obtain ⟨held, rfl⟩ := hfuture f rfl
      obtain ⟨hland, -⟩ := Effect.pure_eq_ok_iff.1 hstep
      cases hland

/-- The step that takes a sample which asks to stop is the one by which the assertion fails. -/
theorem answer_of_stop {s : Sample α} {message : String}
    (hstep : f.step w = (.ok (f', waits), v)) (hsample : f.sampleOn w = some s)
    (hstop : s.AsksToStop message) : f'.answer? = some false := by
  cases f with
  | grounded | landed => cases hsample
  | polling a handler run =>
    have hover : ∀ {e turn u}, run.Steps w e turn u →
        ∃ run' ending, turn = .over run' (some ending) := by
      intro e turn u hs
      rw [sampleOn_of_steps hs] at hsample
      cases e with
      | looked wake => cases hsample
      | sampled o =>
        obtain rfl : o.sample = s := Option.some.inj hsample
        obtain ⟨run', elapsed, hturn⟩ :=
          hs.over_of_stop (Observation.stopMessage?_eq_some_iff.2 hstop)
        exact ⟨run', _, hturn⟩
    cases advances hstep with
    | goesOn hs hrun =>
      obtain ⟨run', ending, rfl⟩ := hover hs
      cases hrun
    | held hs =>
      obtain ⟨run', ending, hturn⟩ := hover hs
      cases hturn
    | failed => rfl

/-- **A request to stop is not lost**: the sample that makes it is the last of its assertion, which
fails on the step that takes it. -/
theorem Voyage.fails_of_stop (hv : Voyage (.grounded a m desired d) h future) {leg : Leg α}
    (hleg : leg ∈ h) {s : Sample α} (hs : leg.sample? = some s) {message : String}
    (hstop : s.AsksToStop message) :
    ∃ reading?, leg = .stepped reading? (some s) (some false) := by
  induction hv with
  | start => cases hleg
  | panic _ _ ih | drop _ ih =>
    rcases List.mem_append.1 hleg with hold | hnew
    · exact ih hold
    · rw [List.mem_singleton.1 hnew] at hs
      cases hs
  | step _ hstep ih =>
    rcases List.mem_append.1 hleg with hold | hnew
    · exact ih hold
    · obtain rfl := List.mem_singleton.1 hnew
      have hsample : Flight.sampleOn _ _ = some s := hs
      rw [hsample, answer_of_stop hstep hsample hstop]
      exact ⟨_, rfl⟩

end Flight

/-! ### The message -/

/-- A message of a run that failed, in its parts. -/
structure Message (α : Type) where
  /-- Why the run failed. -/
  cause : Cause
  /-- The time from its start to its end. -/
  elapsed : Duration
  /-- The first line. -/
  header : String
  /-- The text of the description. -/
  words : String
  /-- The sample that is explained. -/
  sample : Sample α
  /-- Its explanation. -/
  detail : String

namespace Message

/-- The message: the header, the description if it is not empty, and the detail. -/
def text (msg : Message α) : String :=
  msg.header ++ "\n" ++ Description.line msg.words ++ msg.detail

/-- What the message tells of a run with the given plan that started at the given reading, took the
given samples, and failed in the given world by a step on which the given thing happened. -/
structure Tells (p : Plan σ α) (started : Duration) (w : World σ) (e : Run.Event α)
    (samples : List (Sample α)) (msg : Message α) : Prop where
  /-- The cause is the one that belongs to what happened on the last step. -/
  failsFor : p.FailsFor w e msg.cause
  /-- The time is the one from the start to a reading that was taken when the run ended. -/
  elapsed : ∃ (view : View σ) (s : σ) (now : Duration) (t : σ), view.clock = w.clock ∧
    p.time.now view s = (.ok now, t) ∧ msg.elapsed = now.saturatingSub started
  /-- The header is that of the cause, and names the time. -/
  heads : msg.cause.Heads msg.elapsed msg.header
  /-- The sample that is explained is the last one. -/
  latest : samples.getLast? = some msg.sample
  /-- The detail is the mode's, the polarity's and the matcher's explanation of that sample. -/
  explained : ∃ s t u, msg.sample.detail p.mode p.desired p.matcher ⟨w.clock, none⟩ s =
    (.ok msg.detail, t) ∧ p.description.words ⟨w.clock, none⟩ t = (.ok msg.words, u)
  /-- The run was stopped exactly if that sample asks to stop, and with its message. -/
  stopped_iff : ∀ message, msg.cause = .stopped message ↔ msg.sample.AsksToStop message
  /-- Then the detail is what the signal wraps, and all that is attached to it. -/
  detail_of_stop : ∀ signal message, msg.sample.signal? = some signal →
    signal.request = .stop message →
    msg.detail = (signal.wrapped?.elim "" Fault.text) ++ signal.paragraphs
  /-- In any other ending a signal that the sample carries is a request to try again, and the detail
  names its delay, what it wraps, and all that is attached to it. -/
  detail_of_retry : (∀ message, msg.cause ≠ .stopped message) →
    ∀ signal, msg.sample.signal? = some signal → ∃ delay, signal.request = .retry delay ∧
      msg.detail = "told to try again after " ++ delay.text ++
        (signal.wrapped?.elim "" (": " ++ ·.text)) ++ signal.paragraphs
  /-- No sample before has asked to stop. -/
  none_lost : ∀ s ∈ samples.dropLast, ∀ message, ¬ s.AsksToStop message

end Message

/-- A sample that carries a signal is explained by it. -/
theorem Sample.detail_of_signal? {s : Sample α} {signal : Signal} (h : s.signal? = some signal)
    (mode : Mode) (desired : Bool) (m : Matcher σ α) :
    s.detail mode desired m = pure (signalDetail signal) := by
  have hfault : ∀ {party : String} {f : Fault}, f.signal? = some signal →
      faultDetail mode party f = signalDetail signal := by
    intro party f hf
    rw [faultDetail, hf]
  rcases s with ⟨a, matched⟩ | ⟨a, f⟩ | ⟨f | failure⟩
  · cases h
  · exact congrArg pure (hfault h)
  · exact congrArg pure (hfault h)
  · cases h

namespace Run

variable {between : Turn σ α → World σ → World σ → Prop} {p : Plan σ α} {started : Duration}
  {r r' : Run σ α} {w₀ w u v : World σ} {h : List (Event α)} {turn : Turn σ α} {e : Event α}
  {ending : Ending} {message : String} {t : σ}

/-- **The message of a run tells of its end and of its last sample.** -/
theorem Course.exists_message (hc : Course between (.start p started) w₀ h turn w)
    (hrun : turn.run? = some r) (hbetween : between turn w u)
    (hs : r.Steps u e (.over r' (some ending)) v)
    (hmessage : r'.failureMessage ending ⟨v.clock, none⟩ v.user = (.ok message, t)) :
    ∃ msg : Message α, msg.text = message ∧
      msg.Tells p started u e ((transcript (h ++ [e])).samples.map Observation.sample) := by
  have hc' := hc.step hrun hbetween hs
  have hplan : r.plan = p := hs.run_eq.1.symm.trans hc'.run_eq.1
  have hstarted : r.started = started := hs.run_eq.2.1.symm.trans hc'.run_eq.2.1
  obtain ⟨o, hlast, hfailure⟩ := hc'.explains_latest
  rw [hfailure, hs.clock_eq] at hmessage
  -- the detail is composed first, and then the description
  obtain ⟨detail, s, hdetail, hcompose⟩ := Effect.bind_eq_ok_iff.1 hmessage
  rw [Description.compose_eq_lines] at hcompose
  obtain ⟨words, hwords, rfl⟩ := Effect.map_eq_ok_iff.1 hcompose
  obtain ⟨cause, elapsed, hcause, hfails⟩ := hs.failsFor
  obtain ⟨view, s', now, t', hclock, hnow, helapsed⟩ := hs.exists_reading
  rw [hplan] at hfails hnow
  have helapsed' : elapsed = now.saturatingSub started :=
    hstarted ▸ Option.some.inj ((Cause.elapsed?_of_ending? hcause).symm.trans helapsed)
  have hstopped : ∀ message, cause = .stopped message ↔ o.sample.AsksToStop message := by
    intro message
    rw [Cause.eq_stopped_iff_of_ending? hcause, hc.stopped_iff hrun hs hlast,
      Observation.stopMessage?_eq_some_iff]
  have hexplained : ∀ signal, o.sample.signal? = some signal →
      detail = Sample.signalDetail signal := by
    intro signal hsignal
    rw [Sample.detail_of_signal? hsignal] at hdetail
    exact (Except.ok.inj (Prod.mk.inj hdetail).1).symm
  refine ⟨⟨cause, elapsed, ending.text, words, o.sample, detail⟩, rfl, {
    failsFor := hfails
    elapsed := ⟨view, s', now, t', hclock, hnow, helapsed'⟩
    heads := Cause.heads_of_ending? hcause
    latest := by rw [List.getLast?_map, hlast, Option.map_some]
    explained := ⟨_, s, _, hdetail, hwords⟩
    stopped_iff := hstopped
    detail_of_stop := ?_
    detail_of_retry := ?_
    none_lost := ?_ }⟩
  · intro signal message hsignal hrequest
    rw [hexplained signal hsignal, Sample.signalDetail_of_stop hrequest]
  · intro hother signal hsignal
    cases hrequest : signal.request with
    | stop message =>
      have hstop := (hstopped message).2 ⟨signal, hsignal, hrequest⟩
      exact absurd hstop (hother message)
    | retry delay =>
      exact ⟨delay, rfl, (hexplained signal hsignal).trans (Sample.signalDetail_of_retry hrequest)⟩
  · intro sample hsample message hstop
    rw [← List.map_dropLast] at hsample
    obtain ⟨o', ho', rfl⟩ := List.mem_map.1 hsample
    have hnone := hc.stopMessage?_eq_none_of_mem_dropLast hrun o' ho'
    cases hnone.symm.trans (Observation.stopMessage?_eq_some_iff.2 hstop)

end Run

/-! ### The failure that is handed over -/

theorem World.Quiet.failures_eq {old : List Notice} {w : World σ} (h : w.Quiet old) :
    Notice.failures w.notices = Notice.failures old := by
  obtain ⟨new, hnew, hnone⟩ := h
  rw [hnew, Notice.failures_append, hnone, List.append_nil]

/-- A failure is noticed before the handler is called, whatever comes of that. -/
theorem Engine.notices_hand_bind {β : Type} (handler : Handler σ) (failure : Failure)
    (f : Unit → β) (w : World σ) :
    ((Engine.hand handler failure >>= fun x ↦ pure (f x)) w).2.notices =
      .handed failure :: w.notices := by
  rcases hhand : Engine.hand handler failure w with ⟨halt | ⟨⟩, v⟩
  · rw [Effect.bind_of_error hhand]
    exact (congrArg (World.notices ∘ Prod.snd) hhand).symm
  · rw [Effect.bind_of_ok hhand]
    exact (congrArg (World.notices ∘ Prod.snd) hhand).symm

namespace Flight

variable {a : Assertion σ α} {m : Matcher σ α} {desired : Bool} {d : Description σ} {p : Plan σ α}
  {h : List (Leg α)} {future : Option (Flight σ α)} {f : Flight σ α} {w : World σ}

/-- The assertion fails on this step: the step hands over a failure, even if the handler panics over
it, or answers that the assertion did not hold. -/
def FailsOn (f : Flight σ α) (w : World σ) : Prop :=
  Notice.failures (f.step w).2.notices ≠ Notice.failures w.notices ∨
    ∃ waits v, f.step w = (.ok (landed false, waits), v)

/-- A run fails by a step after which its message has been composed and handed over. -/
theorem FailsOn.exists_message {handler : Handler σ} {run : Run σ α}
    (hfails : (polling a handler run).FailsOn w) : ∃ e run' ending u message t skip,
      run.Steps w e (.over run' (some ending)) u ∧
      run'.failureMessage ending ⟨u.clock, none⟩ u.user = (.ok message, t) ∧
      callerSkip? a.offset = some skip ∧
      Notice.failures ((polling a handler run).step w).2.notices =
        Notice.failures w.notices ++ [⟨message, skip, a.site⟩] := by
  have hsteps : run.step.Keeps (World.Quiet w.notices) (World.Quiet w.notices) :=
    ((polling a handler run).spares_quiet w.notices).1
  rw [FailsOn, step] at hfails
  rw [step]
  rcases hturn : run.step w with ⟨halt | turn, u⟩
  · rw [Effect.bind_of_error hturn] at hfails
    obtain hne | ⟨waits, v, ⟨⟩⟩ := hfails
    exact absurd (hsteps.of_error (.refl w) hturn).failures_eq hne
  have hquiet := (hsteps.of_ok (.refl w) hturn).failures_eq
  rw [Effect.bind_of_ok hturn] at hfails ⊢
  rcases turn with run' | run' | ⟨run', - | ending⟩
  · obtain hne | ⟨waits, v, ⟨⟩⟩ := hfails
    exact absurd hquiet hne
  · obtain hne | ⟨waits, v, ⟨⟩⟩ := hfails
    exact absurd hquiet hne
  · obtain hne | ⟨waits, v, ⟨⟩⟩ := hfails
    exact absurd hquiet hne
  dsimp only at hfails ⊢
  obtain ⟨e, hs⟩ := Run.exists_steps hturn
  rcases hmessage : Engine.call none (run'.failureMessage ending) u with ⟨halt | message, v⟩
  · have hsame : v.notices = u.notices :=
      (congrArg (World.notices ∘ Prod.snd) hmessage).symm
    rw [Effect.bind_of_error hmessage] at hfails
    obtain hne | ⟨waits, v, ⟨⟩⟩ := hfails
    exact absurd ((congrArg Notice.failures hsame).trans hquiet) hne
  obtain ⟨user, hcomposed, rfl⟩ := Engine.call_eq_ok_iff.1 hmessage
  rw [Effect.bind_of_ok hmessage] at hfails ⊢
  rcases hskip : callerSkip? a.offset with - | skip
  · -- nothing is handed over if the calls to skip do not fit
    rw [fail, Engine.handIn_of_eq_none hskip] at hfails
    obtain hne | ⟨waits, v, ⟨⟩⟩ := hfails
    exact absurd hquiet hne
  refine ⟨e, run', ending, u, message, user, skip, hs, hcomposed, rfl, ?_⟩
  rw [fail, Engine.handIn_of_eq_some hskip, bind_assoc]
  simp only [pure_bind]
  rw [Engine.notices_hand_bind, Notice.failures_cons_handed]
  exact congrArg (· ++ _) hquiet

/-- **The failure that a valid assertion hands over tells of the end of its run and of the last
sample that it took**, and no request to stop is lost on the way. -/
theorem message_tells (hp : a.plan m desired d = .ok p) :
    (∀ h f w, Voyage (.grounded a m desired d) h (some f) → f.isRunning = true → f.FailsOn w →
      ∃ (started : Duration) (e : Run.Event α) (msg : Message α) (skip : UInt64),
        h.head? = some (.stepped (some started) none none) ∧
        (∃ handler run turn v, f = .polling a handler run ∧ run.Steps w e turn v) ∧
        callerSkip? a.offset = some skip ∧
        Notice.failures (f.step w).2.notices =
          Notice.failures w.notices ++ [⟨msg.text, skip, a.site⟩] ∧
        msg.Tells p started w e
          (Leg.samples (h ++ [.stepped (f.readingOn w) (f.sampleOn w) (some false)]))) ∧
      ∀ h future, Voyage (.grounded a m desired d) h future → ∀ leg ∈ h, ∀ s message,
        leg.sample? = some s → s.AsksToStop message →
          ∃ reading?, leg = .stepped reading? (some s) (some false) := by
  refine ⟨?_, fun h future hv leg hleg s message hs hstop ↦ hv.fails_of_stop hleg hs hstop⟩
  intro h f w hv hrunning hfails
  cases hv.aboard with
  | grounded => cases hrunning
  | ended hfuture =>
    obtain ⟨held, rfl⟩ := hfuture f rfl
    cases hrunning
  | @polling _ handler run _ hplan hfirst =>
    obtain rfl : p = run.plan := Except.ok.inj (hp.symm.trans hplan)
    obtain ⟨e, run', ending, u, message, t, skip, hs, hmessage, hskip, hfailures⟩ :=
      hfails.exists_message
    obtain ⟨w₀, events, turn, w', hc, hrun, hsamples⟩ := hv.exists_course _ _ _ rfl
    obtain ⟨msg, rfl, htells⟩ := hc.exists_message hrun trivial hs hmessage
    refine ⟨run.started, e, msg, skip, hfirst, ⟨handler, run, _, _, rfl, hs⟩, hskip, hfailures, ?_⟩
    rw [Leg.samples_concat, hsamples, sampleOn_of_steps hs]
    rwa [Run.map_sample_concat] at htells

/-- A request to stop with something wrapped and two things attached. -/
def farewell : Signal :=
  .wrapping (.stop "gone") [⟨"free", "0"⟩, ⟨"used", "7"⟩] (.message "disk full")

/-- A producer that asks to try again, and to stop after that. -/
def faltering : Action Recorder (Except Fault Nat) := do
  if (← Action.clock).isZero then
    return .error (.signal (.retry (.ofMillis 5)))
  else
    return .error (.signal farewell)

/-- An assertion of what the producer never has. -/
def doomed : Assertion Recorder Nat :=
  .make ⟨some (Recorder.handler id), {}, .runtime .zero⟩ .eventually (.produced faltering) "doomed"

/-- The plan of its run. -/
def doomedPlan : Plan Recorder Nat :=
  ⟨.eventually, Budgets.timeout {} .eventually, Budgets.polling {} .eventually, 1, none,
    .produced faltering, .equalTo 2, true, .none, .runtime .zero⟩

/-- It waits after its first sample, and the second one ends its run. -/
theorem exists_voyage_doomed : ∃ run v, Voyage (.grounded doomed (.equalTo 2) true .none)
      [.stepped (some .zero) none none,
        .stepped none (some (.missed (.fault (.signal (.retry (.ofMillis 5)))))) none,
        .stepped none none none]
      (some (.polling doomed (Recorder.handler id) run)) ∧
    (polling doomed (Recorder.handler id) run).sampleOn ⟨{}, .ofMillis 5, []⟩ =
      some (.missed (.fault (.signal farewell))) ∧
    (polling doomed (Recorder.handler id) run).step ⟨{}, .ofMillis 5, []⟩ =
      (.ok (.landed false, false), v) := by
  have hstart : (grounded doomed (.equalTo 2) true .none).step ⟨{}, .zero, []⟩ =
      (.ok (.polling doomed (Recorder.handler id) (.start doomedPlan .zero), false),
        ⟨{}, .zero, []⟩) := rfl
  obtain ⟨run₁, run₂, w₁, w₂, w₃, hsampled, hwaited, hfailed, hnone, hsome⟩ :
      ∃ run₁ run₂ w₁ w₂ w₃,
        (polling doomed (Recorder.handler id) (.start doomedPlan .zero)).step ⟨{}, .zero, []⟩ =
          (.ok (.polling doomed (Recorder.handler id) run₁, false), w₁) ∧
        (polling doomed (Recorder.handler id) run₁).step ⟨{}, .ofMillis 5, []⟩ =
          (.ok (.polling doomed (Recorder.handler id) run₂, false), w₂) ∧
        (polling doomed (Recorder.handler id) run₂).step ⟨{}, .ofMillis 5, []⟩ =
          (.ok (.landed false, false), w₃) ∧
        (polling doomed (Recorder.handler id) run₁).sampleOn ⟨{}, .ofMillis 5, []⟩ = none ∧
        (polling doomed (Recorder.handler id) run₂).sampleOn ⟨{}, .ofMillis 5, []⟩ =
          some (.missed (.fault (.signal farewell))) :=
    ⟨_, _, _, _, _, rfl, rfl, rfl, rfl, rfl⟩
  have hv : Voyage (.grounded doomed (.equalTo 2) true .none)
      [.stepped (some .zero) none none,
        .stepped none (some (.missed (.fault (.signal (.retry (.ofMillis 5)))))) none,
        .stepped none ((polling doomed (Recorder.handler id) run₁).sampleOn
          ⟨{}, .ofMillis 5, []⟩) none]
      (some (.polling doomed (Recorder.handler id) run₂)) :=
    ((Voyage.start.step hstart).step hsampled).step hwaited
  rw [hnone] at hv
  exact ⟨run₂, w₃, hv, hsome, hfailed⟩

/-- It is stopped by its second sample, whose signal is told in full and the first one's not. -/
theorem message_tells_doomed : ∃ h f w msg, Voyage (.grounded doomed (.equalTo 2) true .none) h
      (some f) ∧
    (Leg.samples h).map Sample.signal? = [some (.retry (.ofMillis 5))] ∧ f.FailsOn w ∧
    (∃ e, Message.Tells doomedPlan .zero w e
      (Leg.samples (h ++ [.stepped (f.readingOn w) (f.sampleOn w) (some false)])) msg) ∧
    msg.cause = .stopped "gone" ∧ msg.header = "gone after 5ms." ∧
    msg.detail = "disk full\nfree:\n    0\nused:\n    7" ∧
    Notice.failures (f.step w).2.notices =
      [⟨"gone after 5ms.\ndisk full\nfree:\n    0\nused:\n    7", 2, "doomed"⟩] := by
  obtain ⟨run, v, hv, hsecond, hfailed⟩ := exists_voyage_doomed
  have hfails : (polling doomed (Recorder.handler id) run).FailsOn ⟨{}, .ofMillis 5, []⟩ :=
    .inr ⟨false, v, hfailed⟩
  obtain ⟨started, e, msg, skip, hhead, -, hskip, hfailures, htells⟩ :=
    (message_tells (show doomed.plan (.equalTo 2) true .none = .ok doomedPlan from rfl)).1 _ _ _ hv
      rfl hfails
  cases hhead
  have hsample : msg.sample = .missed (.fault (.signal farewell)) := by
    have hlatest := htells.latest
    rw [Leg.samples_concat, Leg.sample?, hsecond] at hlatest
    exact (Option.some.inj hlatest).symm
  have hsignal : msg.sample.signal? = some farewell := by
    rw [hsample]
    rfl
  have hcause : msg.cause = .stopped "gone" :=
    (htells.stopped_iff "gone").2 ⟨farewell, hsignal, rfl⟩
  have hdetail := htells.detail_of_stop farewell "gone" hsignal rfl
  have helapsed : msg.elapsed = .ofMillis 5 := by
    obtain ⟨view, s, now, t, hclock, hnow, helapsed⟩ := htells.elapsed
    obtain ⟨rfl, -⟩ := Effect.pure_eq_ok_iff.1 hnow
    rw [helapsed, hclock]
    rfl
  have hheader : msg.header = "gone after 5ms." := by
    have hheads := htells.heads
    rw [hcause, helapsed] at hheads
    generalize msg.header = header at hheads
    cases hheads
    rfl
  have hwords : msg.words = "" := by
    obtain ⟨s, t, u, -, hwords⟩ := htells.explained
    exact (Effect.pure_eq_ok_iff.1 hwords).1.symm
  refine ⟨_, _, _, msg, hv, rfl, hfails, ⟨e, htells⟩, hcause, hheader, hdetail, ?_⟩
  rw [hfailures, Message.text, hheader, hdetail, hwords]
  obtain rfl : skip = 2 := (Option.some.inj hskip).symm
  rfl

end Flight

end PollAssert
