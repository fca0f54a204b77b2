import PollAssert.Proofs.Run.Frame
import Mathlib.Data.List.Basic

/-!
# Courses: what a run does in a world that changes between its steps

A run is stepped from outside, and between two steps anything may happen: the clock moves, somebody
cancels the token, another run takes its turn. A `Course` is the history of a run under such
conditions. It is relative to a relation `between` that says which changes of the world are allowed;
a theorem about every `between` is a theorem about every surrounding.

The history is a list of `Event`s, one a step: an observation was made, or a look found what ended
the wait or that the wait goes on. Every step that returns is one event (`exists_steps`), so a
course leaves nothing out, and a run that is over takes no further step. A `Transcript` keeps of a
history what the rules of the modes speak of: the observations, and what ended the waits between
them.

A course can go on until the run is over, unless user code halts (`Course.exists_steps`), and the
source is called once a sample (`Course.calls_eq`).
-/

namespace PollAssert

variable {σ α : Type}

namespace Turn

/-- The run, over or not. -/
def run : Turn σ α → Run σ α
  | .ready r => r
  | .pending r => r
  | .over r _ => r

/-- The run, if it goes on. -/
def run? : Turn σ α → Option (Run σ α)
  | .ready r => some r
  | .pending r => some r
  | .over _ _ => none

theorem run_of_run? {turn : Turn σ α} {r : Run σ α} (h : turn.run? = some r) : turn.run = r := by
  cases turn <;> cases h <;> rfl

/-- A run that does not go on is over. -/
theorem exists_over_of_run? {turn : Turn σ α} (h : turn.run? = none) :
    ∃ r ending, turn = .over r ending := by
  rcases turn with r | r | ⟨r, ending⟩
  · cases h
  · cases h
  · exact ⟨r, ending, rfl⟩

end Turn

namespace Run

/-! ### Events -/

/-- What happens on a step. -/
inductive Event (α : Type) where
  /-- A sample was taken. -/
  | sampled (o : Observation α)
  /-- A look found what ended the wait, or that it goes on. -/
  | looked (wake : Option Wake)

/-- The sample that was taken on the step. -/
def Event.sample? : Event α → Option (Sample α)
  | .sampled o => some o.sample
  | .looked _ => none

/-- In the world `w` the run takes a step on which `e` happens, and stands at `turn` after it. -/
inductive Steps (r : Run σ α) (w : World σ) : Event α → Turn σ α → World σ → Prop
  | sampled {o : Observation α} {u v : World σ} {turn : Turn σ α} (hphase : r.phase = .sampling)
      (hobserve : r.observe w = (.ok o, u)) (hstep : r.step w = (.ok turn, v)) :
      Steps r w (.sampled o) turn v
  | looked {tick : Timer} {deadline found : Option Timer} {wake : Option Wake} {u v : World σ}
      {turn : Turn σ α} (hphase : r.phase = .waiting tick deadline)
      (hlook : r.look tick deadline w = (.ok (wake, found), u))
      (hstep : r.step w = (.ok turn, v)) : Steps r w (.looked wake) turn v

/-- What a step can come to. -/
inductive Leads (r : Run σ α) : Event α → Turn σ α → Prop
  /-- A sample lets the run go on, and the wait after it begins. -/
  | waits {o : Observation α} {capturedAt : Duration} {passes : Nat} {tick : Timer}
      (hrule : r.plan.mode.rule r.plan.repeats r.passes (o.reading r.plan.desired) =
        .goOn passes) :
      Leads r (.sampled o) (.ready { r.publish o.sample capturedAt with
        passes := passes, requestedDelay := none, phase := .waiting tick none })
  /-- A sample ends the run. -/
  | decided {o : Observation α} {capturedAt elapsed : Duration} {cause : Cause}
      (hrule : r.plan.mode.rule r.plan.repeats r.passes (o.reading r.plan.desired) =
        .over cause) :
      Leads r (.sampled o) (.over (r.publish o.sample capturedAt) (cause.ending? elapsed))
  /-- Nothing has ended the wait yet, and the deadline's timer has been started. -/
  | pends {tick timer : Timer} {deadline : Option Timer}
      (hphase : r.phase = .waiting tick deadline) :
      Leads r (.looked none) (.pending { r with phase := .waiting tick (some timer) })
  /-- What ended the wait lets the run sample. -/
  | resumes {wake : Wake} (hcause : r.plan.mode.causeOfWake? wake = none) :
      Leads r (.looked (some wake)) (.ready { r with phase := .sampling })
  /-- What ended the wait ends the run. -/
  | woken {wake : Wake} {cause : Cause} {elapsed : Duration}
      (hcause : r.plan.mode.causeOfWake? wake = some cause) :
      Leads r (.looked (some wake)) (.over r (cause.ending? elapsed))

variable {r : Run σ α} {w v : World σ} {turn : Turn σ α}

theorem step_of_sampling (h : r.phase = .sampling) : r.step = r.observe >>= r.goBy := by
  rw [← sampleStep_eq, step, h]

theorem step_of_waiting {tick : Timer} {deadline : Option Timer}
    (h : r.phase = .waiting tick deadline) : r.step = r.waitStep tick deadline := by
  rw [step, h]

/-- A step that returns is an event. -/
theorem exists_steps (h : r.step w = (.ok turn, v)) : ∃ e, r.Steps w e turn v := by
  cases hphase : r.phase with
  | sampling =>
    obtain ⟨o, u, ho, -⟩ := Effect.bind_eq_ok_iff.1 (step_of_sampling hphase ▸ h)
    exact ⟨_, .sampled hphase ho h⟩
  | waiting tick deadline =>
    obtain ⟨⟨wake, found⟩, u, hlook, -⟩ :=
      Effect.bind_eq_ok_iff.1 (step_of_waiting hphase ▸ h)
    exact ⟨_, .looked hphase hlook h⟩

namespace Steps

theorem step_eq {e : Event α} (h : r.Steps w e turn v) : r.step w = (.ok turn, v) := by
  cases h <;> assumption

/-- A sample is followed by what goes by it. -/
theorem goBy_eq {o : Observation α} (h : r.Steps w (.sampled o) turn v) :
    r.phase = .sampling ∧ ∃ u, r.observe w = (.ok o, u) ∧ r.goBy o u = (.ok turn, v) := by
  obtain ⟨hphase, ho, hstep⟩ := h
  rw [step_of_sampling hphase, Effect.bind_of_ok ho] at hstep
  exact ⟨hphase, _, ho, hstep⟩

/-- The observation is one of the run's source, made now. -/
theorem fits {o : Observation α} (h : r.Steps w (.sampled o) turn v) :
    o.Fits r.plan.source ∧ o.clock = w.clock := by
  obtain ⟨-, u, ho, -⟩ := h.goBy_eq
  rw [observe, call_apply] at ho
  obtain ⟨htake, -⟩ := Prod.mk.inj ho
  exact Observation.of_take_eq_ok (Prod.ext htake rfl)

/-- Where the run stands after a sample: over for the cause of the ruling, or waiting. -/
theorem turn_of_sampled {o : Observation α} (h : r.Steps w (.sampled o) turn v) :
    r.phase = .sampling ∧ ∃ capturedAt,
      match r.plan.mode.rule r.plan.repeats r.passes (o.reading r.plan.desired) with
      | .over cause => ∃ elapsed,
        turn = .over (r.publish o.sample capturedAt) (cause.ending? elapsed)
      | .goOn passes => ∃ tick, turn = .ready { r.publish o.sample capturedAt with
          passes := passes, requestedDelay := none, phase := .waiting tick none } := by
  obtain ⟨hphase, u, -, hgo⟩ := h.goBy_eq
  exact ⟨hphase, turn_of_goBy hgo⟩

/-- A look is followed by what is done about it. -/
theorem heed_eq {wake : Option Wake} (h : r.Steps w (.looked wake) turn v) :
    ∃ tick deadline found u, r.phase = .waiting tick deadline ∧
      r.look tick deadline w = (.ok (wake, found), u) ∧
      r.heed tick wake found u = (.ok turn, v) := by
  cases h with | looked hphase hlook hstep
  rw [step_of_waiting hphase, waitStep_eq, Effect.bind_of_ok hlook] at hstep
  exact ⟨_, _, _, _, hphase, hlook, hstep⟩

/-- After a look that found nothing the run still waits. -/
theorem turn_of_looked_none (h : r.Steps w (.looked none) turn v) :
    ∃ tick found, turn = .pending { r with phase := .waiting tick found } := by
  obtain ⟨tick, -, found, u, -, -, hheed⟩ := h.heed_eq
  obtain ⟨rfl, -⟩ := Effect.pure_eq_ok_iff.1 hheed
  exact ⟨tick, found, rfl⟩

/-- After a look that found what ended the wait the run is over for the cause of the wake, or about
to sample. -/
theorem turn_of_looked_some {wake : Wake} (h : r.Steps w (.looked (some wake)) turn v) :
    match r.plan.mode.causeOfWake? wake with
    | some cause => ∃ elapsed, turn = .over r (cause.ending? elapsed)
    | none => turn = .ready { r with phase := .sampling } := by
  obtain ⟨tick, -, found, u, -, -, hheed⟩ := h.heed_eq
  rw [heed_some] at hheed
  cases hcause : r.plan.mode.causeOfWake? wake with
  | some cause =>
    rw [hcause] at hheed
    obtain ⟨elapsed, -, -, -, hturn, -⟩ := of_finish_eq_ok hheed
    exact ⟨elapsed, hturn⟩
  | none =>
    rw [hcause] at hheed
    exact (Effect.pure_eq_ok_iff.1 hheed).1.symm

/-- **All that a step can come to.** -/
theorem leads {e : Event α} (h : r.Steps w e turn v) : r.Leads e turn := by
  rcases e with o | - | wake
  · obtain ⟨-, capturedAt, hturn⟩ := h.turn_of_sampled
    split at hturn
    next cause hrule =>
      obtain ⟨elapsed, rfl⟩ := hturn
      exact .decided hrule
    next passes hrule =>
      obtain ⟨tick, rfl⟩ := hturn
      exact .waits hrule
  · obtain ⟨tick, deadline, found, u, hphase, hlook, hheed⟩ := h.heed_eq
    obtain ⟨-, hwake, -⟩ | ⟨timer, -, -, -, rfl⟩ := of_look_eq_ok hlook
    · cases hwake
    · obtain ⟨rfl, -⟩ := Effect.pure_eq_ok_iff.1 hheed
      exact .pends hphase
  · have hturn := h.turn_of_looked_some
    split at hturn
    next cause hcause =>
      obtain ⟨elapsed, rfl⟩ := hturn
      exact .woken hcause
    next hcause =>
      subst hturn
      exact .resumes hcause

/-- A step keeps everything of the run but its latest sample and what the rules work on. -/
theorem run_eq {e : Event α} (h : r.Steps w e turn v) :
    turn.run.plan = r.plan ∧ turn.run.started = r.started ∧
      turn.run.samples = r.samples + (match e with
        | .sampled _ => 1
        | .looked _ => 0) := by
  cases e with
  | sampled o =>
    obtain ⟨-, capturedAt, hturn⟩ := h.turn_of_sampled
    split at hturn
    · obtain ⟨elapsed, rfl⟩ := hturn
      exact ⟨rfl, rfl, rfl⟩
    · obtain ⟨tick, rfl⟩ := hturn
      exact ⟨rfl, rfl, rfl⟩
  | looked wake =>
    cases wake with
    | none =>
      obtain ⟨tick, found, rfl⟩ := h.turn_of_looked_none
      exact ⟨rfl, rfl, rfl⟩
    | some wake =>
      have hturn := h.turn_of_looked_some
      split at hturn
      · obtain ⟨elapsed, rfl⟩ := hturn
        exact ⟨rfl, rfl, rfl⟩
      · subst hturn
        exact ⟨rfl, rfl, rfl⟩

end Steps

/-- A step that returns keeps the plan. -/
theorem plan_of_step (h : r.step w = (.ok turn, v)) : turn.run.plan = r.plan := by
  obtain ⟨e, he⟩ := exists_steps h
  exact he.run_eq.1

/-! ### Courses -/

variable {between : Turn σ α → World σ → World σ → Prop} {r₀ : Run σ α} {w₀ : World σ}
  {h : List (Event α)}

/-- The history of a run. The world may change between two steps as `between` says. -/
inductive Course (between : Turn σ α → World σ → World σ → Prop) (r₀ : Run σ α) (w₀ : World σ) :
    List (Event α) → Turn σ α → World σ → Prop
  | start : Course between r₀ w₀ [] (.ready r₀) w₀
  | step {h : List (Event α)} {turn turn' : Turn σ α} {r : Run σ α} {w u v : World σ} {e : Event α}
      (hc : Course between r₀ w₀ h turn w) (hrun : turn.run? = some r) (hbetween : between turn w u)
      (hsteps : r.Steps u e turn' v) : Course between r₀ w₀ (h ++ [e]) turn' v

/-- What the rules of the modes speak of. -/
structure Transcript (α : Type) where
  /-- The samples, with what else came of them. -/
  samples : List (Observation α)
  /-- What ended the waits after them. -/
  wakes : List Wake

/-- The transcript of a history. -/
def transcript : List (Event α) → Transcript α
  | [] => ⟨[], []⟩
  | .sampled o :: h => ⟨o :: (transcript h).samples, (transcript h).wakes⟩
  | .looked none :: h => transcript h
  | .looked (some wake) :: h => ⟨(transcript h).samples, wake :: (transcript h).wakes⟩

theorem transcript_concat_sampled (h : List (Event α)) (o : Observation α) :
    transcript (h ++ [.sampled o]) = ⟨(transcript h).samples ++ [o], (transcript h).wakes⟩ := by
  induction h with
  | nil => rfl
  | cons e h ih => rcases e with o' | - | wake <;> simp [transcript, ih]

theorem transcript_concat_looked (h : List (Event α)) (wake : Option Wake) :
    transcript (h ++ [.looked wake]) =
      ⟨(transcript h).samples, (transcript h).wakes ++ wake.toList⟩ := by
  induction h with
  | nil => cases wake <;> rfl
  | cons e h ih => rcases e with o | - | wake' <;> simp [transcript, ih]

theorem map_sample_concat (h : List (Event α)) (e : Event α) :
    (transcript (h ++ [e])).samples.map Observation.sample =
      (transcript h).samples.map Observation.sample ++ e.sample?.toList := by
  cases e with
  | sampled o => rw [transcript_concat_sampled, List.map_append]; rfl
  | looked wake => rw [transcript_concat_looked]; exact (List.append_nil _).symm

/-- The samples of a longer history are the old ones, and the new one if there is one. -/
theorem mem_samples_concat {h : List (Event α)} {e : Event α} {o : Observation α} :
    o ∈ (transcript (h ++ [e])).samples ↔ o ∈ (transcript h).samples ∨ e = .sampled o := by
  cases e with
  | sampled o' => simp [transcript_concat_sampled, eq_comm]
  | looked wake => simp [transcript_concat_looked]

theorem transcript_append_samples (h rest : List (Event α)) :
    (transcript (h ++ rest)).samples = (transcript h).samples ++ (transcript rest).samples := by
  induction h with
  | nil => rfl
  | cons e h ih => rcases e with o | - | wake <;> simp [transcript, ih]

/-- A course keeps the plan and the start of the run, and counts its samples. -/
theorem Course.run_eq {r₀ : Run σ α} (hc : Course between r₀ w₀ h turn w) :
    turn.run.plan = r₀.plan ∧ turn.run.started = r₀.started ∧
      turn.run.samples = r₀.samples + (transcript h).samples.length := by
  induction hc with
  | start => exact ⟨rfl, rfl, rfl⟩
  | @step h turn turn' r w u v e hc hrun hbetween hsteps ih =>
    rw [Turn.run_of_run? hrun] at ih
    obtain ⟨hplan, hstarted, hsamples⟩ := ih
    obtain ⟨hplan', hstarted', hsamples'⟩ := hsteps.run_eq
    refine ⟨hplan'.trans hplan, hstarted'.trans hstarted, ?_⟩
    rw [hsamples', hsamples, Nat.add_assoc]
    cases e with
    | sampled o => rw [transcript_concat_sampled, List.length_append]; rfl
    | looked wake => rw [transcript_concat_looked]; rfl

/-- The run that goes on has the plan and the start of the run that the course began with. -/
theorem Course.plan_eq (hc : Course between r₀ w₀ h turn w) (hrun : turn.run? = some r) :
    r.plan = r₀.plan := by
  rw [← Turn.run_of_run? hrun, hc.run_eq.1]

theorem Course.started_eq (hc : Course between r₀ w₀ h turn w) (hrun : turn.run? = some r) :
    r.started = r₀.started := by
  rw [← Turn.run_of_run? hrun, hc.run_eq.2.1]

/-- A course under a relation is one under every weaker relation. -/
theorem Course.mono {between' : Turn σ α → World σ → World σ → Prop}
    (hle : ∀ turn w u, between turn w u → between' turn w u)
    (hc : Course between r₀ w₀ h turn w) : Course between' r₀ w₀ h turn w := by
  induction hc with
  | start => exact .start
  | step _ hrun hbetween hsteps ih => exact .step ih hrun (hle _ _ _ hbetween) hsteps

/-- A course keeps what the steps of its run and the surroundings keep. -/
theorem Course.keeps {I E : World σ → Prop}
    (hstep : ∀ r : Run σ α, r.plan = r₀.plan → r.step.Keeps I E)
    (hworld : ∀ turn r w u, turn.run? = some r → between turn w u → I w → I u) (hw₀ : I w₀)
    (hc : Course between r₀ w₀ h turn w) : I w := by
  induction hc with
  | start => exact hw₀
  | step hc hrun hbetween hsteps ih =>
    exact (hstep _ (hc.plan_eq hrun)).of_ok (hworld _ _ _ _ hrun hbetween ih) hsteps.step_eq

/-- Every observation of a course is one that the source and the matcher of the plan make. -/
theorem Course.exists_take (hc : Course between r₀ w₀ h turn w) {o : Observation α}
    (ho : o ∈ (transcript h).samples) :
    ∃ view s t, Observation.take r₀.plan.source r₀.plan.matcher view s = (.ok o, t) := by
  induction hc with
  | start => cases ho
  | @step h turn turn' r w u v e hc hrun hbetween hsteps ih =>
    obtain hold | rfl := mem_samples_concat.1 ho
    · exact ih hold
    · have hplan : r.plan = r₀.plan := hc.plan_eq hrun
      obtain ⟨-, u', hobserve, -⟩ := hsteps.goBy_eq
      rw [observe, call_apply, hplan] at hobserve
      exact ⟨_, _, _, Prod.ext (Prod.mk.inj hobserve).1 rfl⟩

/-- **A course can go on** until the run is over, unless user code halts. -/
theorem Course.exists_steps {I : σ → Prop} (hc : Course between r₀ w₀ h turn w)
    (hrun : turn.run? = some r) (hcalm : r₀.plan.Calm I) {u : World σ} (hu : I u.user) :
    ∃ e turn' v, r.Steps u e turn' v ∧ I v.user := by
  have hplan : r.plan = r₀.plan := hc.plan_eq hrun
  obtain ⟨turn', v, hstep, hv⟩ := exists_step_eq_ok (hplan ▸ hcalm) hu
  obtain ⟨e, he⟩ := Run.exists_steps hstep
  exact ⟨e, turn', v, he, hv⟩

/-- A run that waits for its timers has started the deadline's. -/
theorem Course.phase_of_pending (hc : Course between r₀ w₀ h (.pending r) w) :
    ∃ tick timer, r.phase = .waiting tick (some timer) := by
  generalize hturn : Turn.pending r = turn at hc
  cases hc with
  | start => cases hturn
  | step _ _ _ hsteps =>
    cases hsteps.leads with
    | waits | decided | resumes | woken => cases hturn
    | pends =>
      obtain rfl := Turn.pending.inj hturn
      exact ⟨_, _, rfl⟩

section

variable {p : Plan σ α} {started : Duration} {u v : World σ} {tick timer : Timer}
  (P : Timer → Prop) (hstart : ∀ {r : Run σ α} {u v : World σ} {timer : Timer}, r.plan = p →
    r.started = started → r.deadlineTimer none u = (.ok timer, v) → P timer)
include hstart

/-- What is so of the deadline's timer whenever it is started is so of the one that a run keeps. -/
theorem Course.of_kept_timer (hc : Course between (.start p started) w₀ h turn w)
    (hrun : turn.run? = some r) (hphase : r.phase = .waiting tick (some timer)) : P timer := by
  induction hc generalizing r tick timer with
  | start =>
    obtain rfl := Option.some.inj hrun
    cases hphase
  | @step h turn turn' r' w u v e hc hrun' hbetween hsteps ih =>
    cases hsteps.leads with
    | decided | woken => cases hrun
    | waits | resumes =>
      obtain rfl := Option.some.inj hrun
      cases hphase
    | pends =>
      obtain ⟨tick', deadline, found, w₁, hphase', hlook, hheed⟩ := hsteps.heed_eq
      obtain ⟨rfl, -⟩ := Turn.pending.inj (Effect.pure_eq_ok_iff.1 hheed).1
      obtain rfl := Option.some.inj hrun
      obtain rfl := Option.some.inj (Phase.waiting.inj hphase).2
      obtain ⟨-, hwake, -⟩ | ⟨timer', -, htimer, -, hfound⟩ := of_look_eq_ok hlook
      · cases hwake
      obtain rfl := Option.some.inj hfound
      cases deadline with
      | none => exact hstart (hc.plan_eq hrun') (hc.started_eq hrun') htimer
      | some kept =>
        obtain ⟨rfl, -⟩ := Effect.pure_eq_ok_iff.1 htimer
        exact ih hrun' hphase'

/-- So it is so of the one at every look. -/
theorem Course.of_deadlineTimer (hc : Course between (.start p started) w₀ h turn w)
    (hrun : turn.run? = some r) {deadline : Option Timer}
    (hphase : r.phase = .waiting tick deadline)
    (htimer : r.deadlineTimer deadline u = (.ok timer, v)) : P timer := by
  cases deadline with
  | none => exact hstart (hc.plan_eq hrun) (hc.started_eq hrun) htimer
  | some kept =>
    obtain ⟨rfl, -⟩ := Effect.pure_eq_ok_iff.1 htimer
    exact hc.of_kept_timer P hstart hrun hphase

end

/-! ### Histories read from their beginning -/

/-- How a run goes on from where it stands. A course grows at its end; this is the same history read
from its beginning. -/
inductive Onward (between : Turn σ α → World σ → World σ → Prop) :
    Turn σ α → World σ → List (Event α) → Turn σ α → World σ → Prop
  | refl {turn : Turn σ α} {w : World σ} : Onward between turn w [] turn w
  | step {turn turn' last : Turn σ α} {r : Run σ α} {w u v z : World σ} {e : Event α}
      {h : List (Event α)} (hrun : turn.run? = some r) (hbetween : between turn w u)
      (hsteps : r.Steps u e turn' v) (hrest : Onward between turn' v h last z) :
      Onward between turn w (e :: h) last z

theorem Onward.concat {turn' last : Turn σ α} {u z : World σ} {e : Event α}
    (ho : Onward between turn w h last z) (hrun : last.run? = some r) (hbetween : between last z u)
    (hsteps : r.Steps u e turn' v) : Onward between turn w (h ++ [e]) turn' v := by
  induction ho with
  | refl => exact .step hrun hbetween hsteps .refl
  | step hrun' hbetween' hsteps' _ ih => exact .step hrun' hbetween' hsteps' (ih hrun hbetween)

theorem Course.onward (hc : Course between r₀ w₀ h turn w) :
    Onward between (.ready r₀) w₀ h turn w := by
  induction hc with
  | start => exact .refl
  | step _ hrun hbetween hsteps ih => exact ih.concat hrun hbetween hsteps

theorem Course.trans_onward {rest : List (Event α)} {last : Turn σ α} {z : World σ}
    (hc : Course between r₀ w₀ h turn w) (ho : Onward between turn w rest last z) :
    Course between r₀ w₀ (h ++ rest) last z := by
  induction ho generalizing h with
  | refl => rwa [List.append_nil]
  | step hrun hbetween hsteps _ ih =>
    rw [List.append_cons]
    exact ih (hc.step hrun hbetween hsteps)

/-- A run that is over does not go on. -/
theorem Onward.eq_of_over {ending : Option Ending} {last : Turn σ α}
    (ho : Onward between (.over r ending) w h last v) : last = .over r ending := by
  cases ho with
  | refl => rfl
  | step hrun => cases hrun

/-- A run that is over has nothing left to do. -/
theorem Onward.eq_nil_of_over {ending : Option Ending} {last : Turn σ α}
    (ho : Onward between (.over r ending) w h last v) : h = [] := by
  cases ho with
  | refl => rfl
  | step hrun => cases hrun

/-- The surroundings let the run go on, wherever a course has taken it, and keep `I` of the user's
state. -/
def LetsGoOn (between : Turn σ α → World σ → World σ → Prop) (r₀ : Run σ α) (w₀ : World σ)
    (I : σ → Prop) : Prop :=
  ∀ h turn w r, Course between r₀ w₀ h turn w → turn.run? = some r → I w.user →
    ∃ u, between turn w u ∧ I u.user

/-- In surroundings that let it go on, a run comes to its end or goes on for as many steps as you
like, unless user code halts. -/
theorem Course.exists_onward {I : σ → Prop} (hcalm : r₀.plan.Calm I)
    (hgo : LetsGoOn between r₀ w₀ I) (hc : Course between r₀ w₀ h turn w) (hw : I w.user)
    (n : Nat) :
    ∃ rest last z, Onward between turn w rest last z ∧ I z.user ∧
      ((∃ r ending, last = .over r ending) ∨ rest.length = n) := by
  induction n with
  | zero => exact ⟨[], turn, w, .refl, hw, .inr rfl⟩
  | succ n ih =>
    obtain ⟨rest, last, z, ho, hz, hover | hlength⟩ := ih
    · exact ⟨rest, last, z, ho, hz, .inl hover⟩
    cases hrun : last.run? with
    | none => exact ⟨rest, last, z, ho, hz, .inl (Turn.exists_over_of_run? hrun)⟩
    | some r =>
      have hc' := hc.trans_onward ho
      obtain ⟨u, hbetween, hu⟩ := hgo _ _ _ _ hc' hrun hz
      obtain ⟨e, turn', v, hsteps, hv⟩ := hc'.exists_steps hrun hcalm hu
      refine ⟨rest ++ [e], turn', v, ho.concat hrun hbetween hsteps, hv, .inr ?_⟩
      rw [List.length_append, hlength, List.length_singleton]

end Run

/-! ### Counting the calls of the source -/

/-- Every call of the source adds one to `calls` of the user's state, unless the report that it may
ask for touches them as well. -/
def Source.Adds (calls : σ → Nat) (source : Source σ α) : Prop :=
  ∀ view : View σ, (∀ text, view.report = some text → ∀ room, (text room).Fixes calls) →
    ∀ s, calls (source.take view s).2 = calls s + 1

namespace Run

section Calls

variable {between : Turn σ α → World σ → World σ → Prop} {r₀ r : Run σ α} {w₀ w v : World σ}
  {h : List (Event α)} {turn : Turn σ α} {calls : σ → Nat}

/-- The step that observes adds one to the calls. -/
theorem calls_of_observe_eq_ok (hsource : r.plan.source.Adds calls)
    (hcallbacks : ∀ n, r.plan.CallbacksKeep (calls · = n) (calls · = n)) {o : Observation α}
    (ho : r.observe w = (.ok o, v)) : calls v.user = calls w.user + 1 := by
  rw [observe, Observation.take_eq, call_bind] at ho
  obtain ⟨result, u, htake, hrest⟩ := Effect.bind_eq_ok_iff.1 ho
  have hcalls : calls u.user = calls w.user + 1 := by
    obtain ⟨user, hview, rfl⟩ := Engine.call_eq_ok_iff.1 htake
    have hreport : ∀ text, some (r.report w.clock) = some text →
        ∀ room, (text room).Fixes calls := by
      rintro text ⟨⟩ room
      exact fixes_report hcallbacks w.clock room
    have hadds := hsource ⟨w.clock, some (r.report w.clock)⟩ hreport w.user
    exact (congrArg (fun result ↦ calls result.2) hview).symm.trans hadds
  -- what is done with the value afterwards leaves the calls alone
  have hresult := keeps_ofResult r.plan.source (hcallbacks (calls u.user)).matcher result
  exact ((keeps_call_of_callbacks (hcallbacks (calls u.user)) hresult).of_ok rfl hrest).trans hcalls

/-- **The source is called once a sample**, as far as the calls can be told from the user's state
and nobody else touches what they are told from. -/
theorem Course.calls_eq (hsource : r₀.plan.source.Adds calls)
    (hcallbacks : ∀ n, r₀.plan.CallbacksKeep (calls · = n) (calls · = n))
    (hbetween : ∀ turn w u, between turn w u → calls u.user = calls w.user)
    (hc : Course between r₀ w₀ h turn w) :
    calls w.user = calls w₀.user + (transcript h).samples.length := by
  induction hc with
  | start => rfl
  | @step h turn turn' r w u v e hc hrun hworld hsteps ih =>
    have hplan : r.plan = r₀.plan := hc.plan_eq hrun
    have hspares : ∀ n, r.plan.Spares (fun w ↦ calls w.user = n) fun w ↦ calls w.user = n :=
      fun n ↦ Plan.CallbacksKeep.spares (hplan ▸ hcallbacks n)
    cases e with
    | sampled o =>
      obtain ⟨-, u', ho, hgo⟩ := hsteps.goBy_eq
      have hcalls := calls_of_observe_eq_ok (hplan ▸ hsource) (hplan ▸ hcallbacks) ho
      have hgoBy := (keeps_goBy (hspares (calls u'.user)) o).of_ok rfl hgo
      rw [transcript_concat_sampled, List.length_append, List.length_singleton, hgoBy, hcalls,
        hbetween turn w u hworld, ih, Nat.add_assoc]
    | looked wake =>
      obtain ⟨tick, deadline, -, -, hphase, -⟩ := hsteps.heed_eq
      have hstep := step_of_waiting hphase ▸ hsteps.step_eq
      have hcalls := (keeps_waitStep (hspares (calls u.user)) tick deadline).of_ok rfl hstep
      rw [transcript_concat_looked, hcalls, hbetween turn w u hworld, ih]

end Calls

end Run

end PollAssert
