import PollAssert.Matcher.Combinators
import PollAssert.Proofs.Flight.Alike
import PollAssert.Proofs.Run.Blame

/-!
# When an assertion can be reported on, and what its reports say

A reporter tells whether an assertion is running and, if it is, what its run has come to. Whoever
holds one may ask at any time: other tasks between two steps, and user code in the middle of one,
which asks through its view. Between two steps anything may have happened to the world, and the
assertion may be dropped; a step may end in a panic. A `Voyage` is a history of this kind.

* **Between the steps** the assertion can be reported on exactly from its first step, if that starts
  a run, until it is answered, dropped or unwound, and the report names the elapsed time, the number
  of samples, the description and the detail of the latest of them. Below its header stands what the
  message of a failure would have below its own (`Flight.Tells`).
* **Within a step** the code that takes a sample sees that same report, while the message of a
  failure is composed, and the handler called, where nothing can be reported on. That nothing of it
  is called elsewhere is a statement about all that the code might do there: to change what a
  producer, a judgement or an oracle does where no run can be reported on, or what a handler does
  where one can, makes no difference to anybody (`Flight.indistinguishable_withCode`).
* **Within a report** the run is on as well. The source of time and the description find a report
  there as anywhere else. The matcher, which is asked for its text under the lock of the latest
  sample, finds one too, but it is not answered: it waits for that lock.
-/

namespace PollAssert

variable {σ α β γ : Type}

/-! ### What a report says -/

/-- What stands below the header of a text: the description, if there is one to show, and the
detail. -/
def Description.below (d : Description σ) (detail : String) : Action σ String := do
  match ← d.render with
  | Option.none => return "\n" ++ detail
  | some shown => return "\n" ++ shown ++ "\n" ++ detail

theorem Description.compose_eq (header : String) (d : Description σ) (detail : String) :
    compose header d detail = (header ++ ·) <$> d.below detail := by
  rw [compose, below, map_bind]
  congr 1
  funext shown
  cases shown with
  | none => rw [map_pure, ← String.append_assoc]
  | some shown => rw [map_pure, ← String.append_assoc, ← String.append_assoc, ← String.append_assoc]

namespace Plan

variable (p : Plan σ α)

/-- The detail of the latest sample; the empty text before the first one. -/
def detail (latest : Option (Sample α)) : Action σ String :=
  match latest with
  | none => pure ""
  | some sample => sample.detail p.mode p.desired p.matcher

/-- What stands below the header of every text about a run: the description and the detail of the
latest sample. The detail is composed first, in surroundings that look as in `held`. -/
def below (latest : Option (Sample α)) (free held : View σ) : Effect σ String := do
  let detail ← p.detail latest held
  p.description.below detail free

/-- The header of a report. -/
def header (elapsed : Duration) (samples : Nat) : String :=
  p.mode.text ++ " has been polling for " ++ elapsed.text ++ " (" ++ toString samples ++
    " samples)."

/-- The report on a run that started at the given reading and has taken the given samples. -/
def reportAfter (started : Duration) (samples : List (Sample α)) (free held : View σ) :
    Effect σ String := do
  let now ← p.time.now free
  let below ← p.below samples.getLast? free held
  return p.header (now.saturatingSub started) samples.length ++ below

/-- The message of a run that failed after the given samples. -/
def messageAfter (ending : Ending) (samples : List (Sample α)) : Action σ String := fun view ↦ do
  let below ← p.below samples.getLast? view view
  return ending.text ++ below

end Plan

namespace Run

variable {r : Run σ α} {samples : List (Sample α)}

/-- The run has taken the given samples. -/
structure HasTaken (r : Run σ α) (samples : List (Sample α)) : Prop where
  count : r.samples = samples.length
  latest : r.latest.map Published.sample = samples.getLast?

theorem HasTaken.detail_eq (h : r.HasTaken samples) :
    r.detail = r.plan.detail samples.getLast? := by
  rw [← h.latest, Run.detail]
  cases r.latest <;> rfl

theorem HasTaken.snapshot_eq (h : r.HasTaken samples) :
    r.snapshot = r.plan.reportAfter r.started samples := by
  funext free held
  have hcompose : ∀ header detail, r.plan.description.compose header detail free =
      (header ++ ·) <$> r.plan.description.below detail free := fun header detail ↦
    congrFun (Description.compose_eq header r.plan.description detail) free
  simp only [snapshot, r.elapsed_apply, h.detail_eq, h.count, hcompose, Plan.reportAfter,
    Plan.below, bind_assoc, map_eq_pure_bind, pure_bind]
  rfl

theorem HasTaken.failureMessage_eq (h : r.HasTaken samples) (ending : Ending) :
    r.failureMessage ending = r.plan.messageAfter ending samples := by
  funext view
  have hmessage : r.failureMessage ending view =
      r.detail view >>= fun detail ↦ r.plan.description.compose ending.text detail view := rfl
  have hcompose : ∀ detail, r.plan.description.compose ending.text detail view =
      (ending.text ++ ·) <$> r.plan.description.below detail view := fun detail ↦
    congrFun (Description.compose_eq ending.text r.plan.description detail) view
  simp only [hmessage, h.detail_eq, hcompose, Plan.messageAfter, Plan.below, bind_assoc,
    map_eq_pure_bind]

/-- A step adds its sample to those that the run has taken. -/
theorem Steps.hasTaken {e : Event α} {turn : Turn σ α} {w v : World σ} (hs : r.Steps w e turn v)
    (h : r.HasTaken samples) : turn.run.HasTaken (samples ++ e.sample?.toList) := by
  obtain ⟨-, -, hcount⟩ := hs.run_eq
  have hlatest := hs.latest_eq
  cases e with
  | sampled o =>
    refine ⟨?_, hlatest.trans List.getLast?_concat.symm⟩
    show _ = (samples ++ [o.sample]).length
    rw [hcount, h.count, List.length_append]
    rfl
  | looked wake =>
    have hsame : samples ++ (Event.looked wake : Event α).sample?.toList = samples :=
      List.append_nil samples
    rw [hsame]
    exact ⟨hcount.trans h.count, hlatest.trans h.latest⟩

end Run

/-! ### Voyages -/

/-- What has become of an assertion at some time. -/
inductive Leg (α : Type) where
  /-- It took a step, on which it read the time to start with, took a sample, or came to its answer,
  or did nothing of these. -/
  | stepped (reading? : Option Duration) (sample? : Option (Sample α)) (answer? : Option Bool)
  /-- It ended in a panic. -/
  | panicked
  /-- It was dropped. -/
  | dropped

namespace Leg

/-- Does the assertion go on after this? -/
def goesOn : Leg α → Bool
  | .stepped _ _ none => true
  | _ => false

/-- The sample that was taken. -/
def sample? : Leg α → Option (Sample α)
  | .stepped _ sample? _ => sample?
  | _ => none

/-- The samples that were taken, oldest first. -/
def samples (legs : List (Leg α)) : List (Sample α) := legs.filterMap sample?

theorem samples_concat (legs : List (Leg α)) (leg : Leg α) :
    samples (legs ++ [leg]) = samples legs ++ leg.sample?.toList := by
  rw [samples, List.filterMap_append, samples]
  cases h : leg.sample? <;> simp [h]

end Leg

namespace Flight

/-- The reading that the flight starts with, if its next step is the first one. -/
def readingOn (f : Flight σ α) (w : World σ) : Option Duration :=
  match f with
  | .grounded a _ _ _ => (Engine.call none a.bench.time.now w).1.toOption
  | _ => none

/-- The sample that the next step of the flight takes in the given world. -/
def sampleOn (f : Flight σ α) (w : World σ) : Option (Sample α) :=
  match f with
  | .polling _ _ run =>
    match run.phase with
    | .sampling => (run.observe w).1.toOption.map Observation.sample
    | .waiting _ _ => none
  | _ => none

theorem sampleOn_of_steps {a : Assertion σ α} {handler : Handler σ} {run : Run σ α}
    {e : Run.Event α} {turn : Turn σ α} {w v : World σ} (hs : run.Steps w e turn v) :
    (polling a handler run).sampleOn w = e.sample? := by
  rw [sampleOn]
  cases hs with
  | sampled hphase ho =>
    rw [hphase]
    dsimp only
    rw [ho]
    rfl
  | looked hphase =>
    rw [hphase]
    rfl

/-- A history of an assertion, in surroundings that may do to the world what they like between any
two steps, and what is left of it: its flight, unless it has been dropped or a panic has unwound
it. A step that never comes to an end is followed by nothing. -/
inductive Voyage (f₀ : Flight σ α) : List (Leg α) → Option (Flight σ α) → Prop
  | start : Voyage f₀ [] (some f₀)
  | step {h : List (Leg α)} {f f' : Flight σ α} {waits : Bool} {w v : World σ}
      (hv : Voyage f₀ h (some f)) (hstep : f.step w = (.ok (f', waits), v)) :
      Voyage f₀ (h ++ [.stepped (f.readingOn w) (f.sampleOn w) f'.answer?]) (some f')
  | panic {h : List (Leg α)} {f : Flight σ α} {message : String} {w v : World σ}
      (hv : Voyage f₀ h (some f)) (hstep : f.step w = (.error (.panic message), v)) :
      Voyage f₀ (h ++ [.panicked]) none
  | drop {h : List (Leg α)} {f : Flight σ α} (hv : Voyage f₀ h (some f)) :
      Voyage f₀ (h ++ [.dropped]) none

/-- Where an assertion can be after a history. -/
inductive Aboard (a : Assertion σ α) (m : Matcher σ α) (desired : Bool) (d : Description σ) :
    List (Leg α) → Option (Flight σ α) → Prop
  /-- It has not taken its first step. -/
  | grounded : Aboard a m desired d [] (some (.grounded a m desired d))
  /-- Its run is on. -/
  | polling {h : List (Leg α)} {handler : Handler σ} {run : Run σ α}
      (hhandler : a.bench.handler = some handler) (hplan : a.plan m desired d = .ok run.plan)
      (hfirst : h.head? = some (.stepped (some run.started) none none))
      (hgoesOn : ∀ leg ∈ h, leg.goesOn = true) (htaken : run.HasTaken (Leg.samples h)) :
      Aboard a m desired d h (some (.polling a handler run))
  /-- It has been answered, dropped, or unwound. If it was answered at once, it is invalid. -/
  | ended {h : List (Leg α)} {future : Option (Flight σ α)}
      (hfuture : ∀ f, future = some f → ∃ held, f = .landed held)
      (hlast : ∃ leg ∈ h, leg.goesOn = false)
      (hfirst : ∀ reading? sample? held, h.head? = some (.stepped reading? sample? (some held)) →
        ∃ cause, a.plan m desired d = .error cause) : Aboard a m desired d h future

variable {a : Assertion σ α} {m : Matcher σ α} {desired : Bool} {d : Description σ}
  {h : List (Leg α)} {future future' : Option (Flight σ α)}

/-- The first step starts a run with the reading that it took, or the assertion is invalid and the
step answers. -/
theorem takeOff_cases {f : Flight σ α} {waits : Bool} {w v : World σ}
    (hstep : (grounded a m desired d).step w = (.ok (f, waits), v)) :
    (∃ handler plan started, a.bench.handler = some handler ∧ a.plan m desired d = .ok plan ∧
        (grounded a m desired d).readingOn w = some started ∧
        f = .polling a handler (.start plan started)) ∨
      (∃ cause, a.plan m desired d = .error cause) ∧ f = .landed false := by
  cases advances hstep with
  | takesOff hhandler hnow hplan =>
    refine .inl ⟨_, _, _, hhandler, hplan, ?_, rfl⟩
    rw [readingOn, hnow]
    rfl
  | refused _ _ hplan => exact .inr ⟨⟨_, hplan⟩, rfl⟩

/-- A step of a run that is on leaves it on, with the sample that was taken, or answers. -/
theorem polling_cases {handler : Handler σ} {run : Run σ α} {samples : List (Sample α)}
    (htaken : run.HasTaken samples) {f : Flight σ α} {waits : Bool} {w v : World σ}
    (hstep : (polling a handler run).step w = (.ok (f, waits), v)) :
    (∃ run', f = .polling a handler run' ∧ run'.plan = run.plan ∧ run'.started = run.started ∧
        run'.HasTaken (samples ++ ((polling a handler run).sampleOn w).toList)) ∨
      ∃ held, f = .landed held := by
  cases advances hstep with
  | held | failed => exact .inr ⟨_, rfl⟩
  | goesOn hs hrun =>
    obtain ⟨hplan, hstarted, -⟩ := hs.run_eq
    have htaken' := hs.hasTaken htaken
    rw [Turn.run_of_run? hrun] at hplan hstarted htaken'
    rw [← sampleOn_of_steps hs] at htaken'
    exact .inl ⟨_, rfl, hplan, hstarted, htaken'⟩

/-- Only an invalid assertion is answered on its first step. -/
theorem Aboard.refused (ha : Aboard a m desired d h future) {reading? : Option Duration}
    {sample? : Option (Sample α)} {held : Bool}
    (hhead : h.head? = some (.stepped reading? sample? (some held))) :
    ∃ cause, a.plan m desired d = .error cause := by
  cases ha with
  | grounded => cases hhead
  | polling _ _ hfirst =>
    rw [hfirst] at hhead
    cases hhead
  | ended _ _ hfirst => exact hfirst _ _ _ hhead

/-- A leg that ends the assertion leaves nothing of it but its answer. -/
theorem Aboard.concat_end {leg : Leg α} (ha : Aboard a m desired d h future)
    (hfuture : ∀ f, future' = some f → ∃ held, f = .landed held) (hend : leg.goesOn = false)
    (hfirst : h = [] → ∀ reading? sample? held, leg = .stepped reading? sample? (some held) →
      ∃ cause, a.plan m desired d = .error cause) :
    Aboard a m desired d (h ++ [leg]) future' := by
  refine .ended hfuture ⟨leg, List.mem_append_right h List.mem_cons_self, hend⟩ ?_
  intro reading? sample? held hhead
  cases h with
  | nil => exact hfirst rfl _ _ _ (Option.some.inj hhead)
  | cons first rest => exact ha.refused hhead

/-- **One step keeps to the stages.** -/
theorem Aboard.step {f f' : Flight σ α} {waits : Bool} {w v : World σ}
    (ha : Aboard a m desired d h (some f)) (hstep : f.step w = (.ok (f', waits), v)) :
    Aboard a m desired d (h ++ [.stepped (f.readingOn w) (f.sampleOn w) f'.answer?]) (some f') := by
  have hanswered : ∀ held, f' = .landed held →
      (h = [] → ∃ cause, a.plan m desired d = .error cause) →
      Aboard a m desired d (h ++ [.stepped (f.readingOn w) (f.sampleOn w) f'.answer?])
        (some f') := by
    rintro held rfl hinvalid
    have hfuture : ∀ g : Flight σ α, some (landed held) = some g → ∃ held, g = .landed held :=
      fun g hg ↦ ⟨held, (Option.some.inj hg).symm⟩
    exact ha.concat_end hfuture rfl fun hnil _ _ _ _ ↦ hinvalid hnil
  cases ha with
  | grounded =>
    obtain ⟨handler, plan, started, hhandler, hplan, hreading, rfl⟩ | ⟨hinvalid, hlanded⟩ :=
      takeOff_cases hstep
    · rw [hreading]
      refine .polling hhandler hplan rfl ?_ ⟨rfl, rfl⟩
      intro leg hleg
      rw [List.mem_singleton.1 hleg]
      rfl
    · exact hanswered _ hlanded fun _ ↦ hinvalid
  | @polling _ handler run hhandler hplan hfirst hgoesOn htaken =>
    obtain ⟨run', rfl, hplan', hstarted, htaken'⟩ | ⟨held, hlanded⟩ := polling_cases htaken hstep
    · refine .polling hhandler (hplan' ▸ hplan) ?_ ?_ ?_
      · rw [hstarted, List.head?_append, hfirst]
        rfl
      · intro leg hleg
        rcases List.mem_append.1 hleg with hold | hnew
        · exact hgoesOn leg hold
        · rw [List.mem_singleton.1 hnew]
          rfl
      · rw [Leg.samples_concat]
        exact htaken'
    · refine hanswered held hlanded ?_
      rintro rfl
      cases hfirst
  | ended hfuture hlast =>
    obtain ⟨held, rfl⟩ := hfuture f rfl
    obtain ⟨⟨⟩, -⟩ := Effect.pure_eq_ok_iff.1 hstep
    refine hanswered held rfl ?_
    rintro rfl
    obtain ⟨leg, hleg, -⟩ := hlast
    cases hleg

/-- **Every voyage keeps to the stages.** -/
theorem Voyage.aboard (hv : Voyage (.grounded a m desired d) h future) :
    Aboard a m desired d h future := by
  induction hv with
  | start => exact .grounded
  | step _ hstep ih => exact ih.step hstep
  | panic _ _ ih => exact ih.concat_end (fun _ hnone ↦ nomatch hnone) rfl nofun
  | drop _ ih => exact ih.concat_end (fun _ hnone ↦ nomatch hnone) rfl nofun

/-! ### What a reporter tells -/

/-- What is told of a run that is on and has taken the given samples. -/
structure TellsRun (a : Assertion σ α) (plan : Plan σ α) (handler : Handler σ) (started : Duration)
    (samples : List (Sample α)) (run : Run σ α) : Prop where
  /-- The report names the time since the start, the number of samples, the description and the
  detail of the latest of them. Inside it the run is on, and can be reported on with what room is
  left. -/
  report : ∀ clock room, run.report clock (room + 1) = plan.reportAfter started samples
    ⟨clock, some fun _ ↦ run.report clock room⟩ ⟨clock, some fun _ ↦ run.heldReport clock room⟩
  /-- A report that there is no room for uses up the stack. -/
  noRoom : ∀ clock, run.report clock 0 = .halt .overflow
  /-- A report that is asked for under the lock, by the code that composes the detail, reads the
  time and comes to no end. -/
  held : ∀ clock room, run.heldReport clock (room + 1) =
    plan.time.now ⟨clock, some fun _ ↦ run.heldReport clock room⟩ >>= fun _ ↦ .halt .deadlock
  /-- Below the header stands what the message would have below its own if the run failed now. -/
  message : ∀ ending, run.failureMessage ending = plan.messageAfter ending samples
  /-- Code that takes a sample sees the same report. -/
  sampling : ∀ w, run.phase = .sampling → run.observe w =
    Engine.call (some (run.report w.clock)) (Observation.take plan.source plan.matcher) w
  /-- When the run has failed, its message is of the same form. While the message is composed, and
  while the handler works, there is no report. The handler is called if the calls to skip fit a
  word. -/
  failing : ∀ w run' ending u, run.step w = (.ok (.over run' (some ending)), u) →
    (polling a handler run).step w = (do
      let message ← Engine.call none
        (plan.messageAfter ending (samples ++ ((polling a handler run).sampleOn w).toList))
      let failure ← Failure.ofOffset message a.offset a.site
      Engine.note (.handed failure)
      Engine.call none (handler failure)
      return (landed false, false)) u

/-- What a reporter of the assertion tells after a history. -/
structure Tells (a : Assertion σ α) (m : Matcher σ α) (desired : Bool) (d : Description σ)
    (h : List (Leg α)) (future : Option (Flight σ α)) : Prop where
  /-- The assertion is running if it has taken its first step and has not ended. -/
  isRunning_iff : future.any isRunning = true ↔ h ≠ [] ∧ ∀ leg ∈ h, leg.goesOn = true
  /-- There is a report exactly while it is running. -/
  isSome_report : ∀ clock, (future.bind (report clock)).isSome = future.any isRunning
  /-- A valid assertion is not answered on its first step. -/
  refused : ∀ reading? sample? held, h.head? = some (.stepped reading? sample? (some held)) →
    ∃ cause, a.plan m desired d = .error cause
  /-- Only a valid assertion ever runs. It started with the reading of its first step. -/
  running : future.any isRunning = true → ∃ plan handler started run,
    a.plan m desired d = .ok plan ∧ a.bench.handler = some handler ∧
      h.head? = some (.stepped (some started) none none) ∧ future = some (.polling a handler run) ∧
        TellsRun a plan handler started (Leg.samples h) run

theorem tellsRun {handler : Handler σ} {run : Run σ α} {samples : List (Sample α)}
    (htaken : run.HasTaken samples) :
    TellsRun a run.plan handler run.started samples run where
  report clock room := by rw [Run.report, htaken.snapshot_eq]
  noRoom _ := rfl
  held clock room := by
    rw [Run.heldReport, run.elapsed_apply, bind_map_left]
  message := htaken.failureMessage_eq
  sampling _ _ := rfl
  failing w run' ending u hturn := by
    obtain ⟨e, hs⟩ := Run.exists_steps hturn
    obtain ⟨hplan, -⟩ := hs.run_eq
    have htaken' : run'.HasTaken _ := hs.hasTaken htaken
    have hmessage := htaken'.failureMessage_eq ending
    rw [show run'.plan = run.plan from hplan, ← sampleOn_of_steps hs] at hmessage
    rw [step, Effect.bind_of_ok hturn, ← hmessage]
    simp only [fail, Engine.handIn, Engine.hand, bind_assoc, pure_bind]

/-- **At every stage a reporter tells what it should.** -/
theorem Aboard.tells (ha : Aboard a m desired d h future) : Tells a m desired d h future := by
  have hrefused : ∀ reading? sample? held,
      h.head? = some (.stepped reading? sample? (some held)) →
        ∃ cause, a.plan m desired d = .error cause := fun _ _ _ ↦ ha.refused
  cases ha with
  | grounded => exact ⟨⟨nofun, fun hgone ↦ absurd rfl hgone.1⟩, fun _ ↦ rfl, hrefused, nofun⟩
  | @polling _ handler run hhandler hplan hfirst hgoesOn htaken =>
    have hne : h ≠ [] := by
      rintro rfl
      cases hfirst
    exact ⟨iff_of_true rfl ⟨hne, hgoesOn⟩, fun _ ↦ rfl, hrefused, fun _ ↦
      ⟨run.plan, handler, run.started, run, hplan, hhandler, hfirst, rfl, tellsRun htaken⟩⟩
  | ended hfuture hlast =>
    have hidle : future.any isRunning = false ∧
        ∀ clock, future.bind (Flight.report clock) = none := by
      cases future with
      | none => exact ⟨rfl, fun _ ↦ rfl⟩
      | some f =>
        obtain ⟨held, rfl⟩ := hfuture f rfl
        exact ⟨rfl, fun _ ↦ rfl⟩
    have hgone : ¬(h ≠ [] ∧ ∀ leg ∈ h, leg.goesOn = true) := by
      rintro ⟨-, hall⟩
      obtain ⟨leg, hleg, hend⟩ := hlast
      rw [hall leg hleg] at hend
      cases hend
    refine ⟨iff_of_false (Bool.eq_false_iff.1 hidle.1) hgone, fun clock ↦ ?_, hrefused,
      fun hon ↦ ?_⟩
    · rw [hidle.1, hidle.2 clock]
      rfl
    · rw [hidle.1] at hon
      cases hon

end Flight

/-! ### Code that is called while a run is on, and code that is not -/

/-- The two actions do the same whenever a run can be reported on. -/
def Action.SameWhileRunning (act act' : Action σ β) : Prop :=
  ∀ view : View σ, view.report.isSome = true → act view = act' view

/-- Code that asks whether a run is on is told by its view. -/
theorem Action.isRunning_bind (act : Bool → Action σ β) (view : View σ) :
    (isRunning >>= act) view = act view.report.isSome view := rfl

/-- The two actions do the same whenever no run can be reported on. -/
def Action.SameWhileIdle (act act' : Action σ β) : Prop :=
  ∀ view : View σ, view.report = none → act view = act' view

theorem Action.SameWhileRunning.bind {act act' : Action σ β} {g g' : β → Action σ γ}
    (ha : SameWhileRunning act act') (hg : ∀ b, SameWhileRunning (g b) (g' b)) :
    SameWhileRunning (act >>= g) (act' >>= g') := by
  intro view hview
  show act view >>= (fun b ↦ g b view) = act' view >>= fun b ↦ g' b view
  rw [ha view hview, funext fun b ↦ hg b view hview]

protected theorem Action.SameWhileRunning.refl (act : Action σ β) : SameWhileRunning act act :=
  fun _ _ ↦ rfl

/-- The two subjects are the same value, or producers that do the same while a run is on. -/
inductive Subject.SameWhileRunning : Subject σ α → Subject σ α → Prop
  | fixed (value : α) : SameWhileRunning (.fixed value) (.fixed value)
  | produced {produce produce' : Action σ (Except Fault α)}
      (h : Action.SameWhileRunning produce produce') :
      SameWhileRunning (.produced produce) (.produced produce')
  | checked {produce produce' : Checked σ (Except Fault α)}
      (h : ∀ c, Action.SameWhileRunning (produce.run c) (produce'.run c)) :
      SameWhileRunning (.checked produce) (.checked produce')
  | checkedWithToken {produce produce' : Token σ → Checked σ (Except Fault α)}
      (h : ∀ token c, Action.SameWhileRunning ((produce token).run c) ((produce' token).run c)) :
      SameWhileRunning (.checkedWithToken produce) (.checkedWithToken produce')
  | returnsNothing : SameWhileRunning .returnsNothing .returnsNothing

/-- The judgements and the oracles of the two matchers do the same while a run is on. Their texts
are the same. -/
structure Matcher.SameWhileRunning (m m' : Matcher σ α) : Prop where
  judge : ∀ x, Action.SameWhileRunning (m.judge x) (m'.judge x)
  mayChange : ∀ x, Action.SameWhileRunning (m.mayChange x) (m'.mayChange x)
  failureText : m.failureText = m'.failureText
  negatedText : m.negatedText = m'.negatedText

/-- Matchers with the same texts explain a sample alike. -/
theorem Sample.detail_congr {m m' : Matcher σ α} (hfailure : m.failureText = m'.failureText)
    (hnegated : m.negatedText = m'.negatedText) (mode : Mode) (desired : Bool) (s : Sample α) :
    s.detail mode desired m = s.detail mode desired m' := by
  cases s with
  | judged x matched =>
    show m.textFor desired x = m'.textFor desired x
    rw [Matcher.textFor, Matcher.textFor, hfailure, hnegated]
  | unjudged x fault => rfl
  | missed mishap => cases mishap <;> rfl

/-- Both are refused for the same cause, or come to results that `R` relates. -/
inductive SameDecision {ε : Type} (R : β → γ → Prop) : Except ε β → Except ε γ → Prop
  | refused {cause : ε} : SameDecision R (.error cause) (.error cause)
  | granted {b : β} {c : γ} (h : R b c) : SameDecision R (.ok b) (.ok c)

theorem SameDecision.bind {ε β' γ' : Type} {R : β → γ → Prop} {S : β' → γ' → Prop}
    {x : Except ε β} {y : Except ε γ} {f : β → Except ε β'} {g : γ → Except ε γ'}
    (h : SameDecision R x y) (hf : ∀ b c, R b c → SameDecision S (f b) (g c)) :
    SameDecision S (x >>= f) (y >>= g) := by
  cases h with
  | refused => exact .refused
  | granted hb => exact hf _ _ hb

protected theorem SameDecision.refl {ε : Type} (x : Except ε β) : SameDecision Eq x x := by
  cases x with
  | error cause => exact .refused
  | ok b => exact .granted rfl

/-- The two sources are of the same kind and give the same while a run is on. -/
structure Source.SameWhileRunning (source source' : Source σ α) : Prop where
  isFixed : source.isFixed = source'.isFixed
  take : Action.SameWhileRunning source.take source'.take

/-- Both subjects are refused for the same reason, or come to such sources. -/
theorem Subject.SameWhileRunning.resolve {s s' : Subject σ α} (hs : SameWhileRunning s s')
    (mode : Mode) (token : Option (Token σ)) :
    SameDecision Source.SameWhileRunning (s.resolve mode token) (s'.resolve mode token) := by
  have hchecked : ∀ {produce produce' : Checked σ (Except Fault α)},
      (∀ c, Action.SameWhileRunning (produce.run c) (produce'.run c)) →
        Source.SameWhileRunning (.checked produce) (.checked produce') :=
    fun h ↦ ⟨rfl, (h {}).bind fun _ ↦ .refl _⟩
  cases hs with
  | fixed value => exact .granted ⟨rfl, .refl _⟩
  | produced h => exact .granted ⟨rfl, h.bind fun _ ↦ .refl _⟩
  | checked h => exact .granted (hchecked h)
  | checkedWithToken h =>
    cases token with
    | none => exact .refused
    | some token => exact .granted (hchecked (h token))
  | returnsNothing => exact .refused

/-- The two plans come to the same observations while a run is on, and differ in nothing else. -/
structure Plan.SameWhileRunning (p p' : Plan σ α) : Prop extends Plan.Alike Eq Eq p p' where
  observe : Action.SameWhileRunning (Observation.take p.source p.matcher)
    (Observation.take p'.source p'.matcher)

theorem Observation.sameWhileRunning_take {source source' : Source σ α} {m m' : Matcher σ α}
    (hsource : Source.SameWhileRunning source source') (hm : m.SameWhileRunning m') :
    Action.SameWhileRunning (take source m) (take source' m') := by
  have hsample : Action.SameWhileRunning (Sample.take source m) (Sample.take source' m') := by
    refine hsource.take.bind fun result ↦ ?_
    cases result with
    | error mishap => exact .refl _
    | ok x => exact (hm.judge x).bind fun verdict ↦ .refl _
  have hask : ∀ s, Action.SameWhileRunning (Sample.askOracle source m s)
      (Sample.askOracle source' m' s) := by
    intro s
    rw [Sample.askOracle, Sample.askOracle, hsource.isFixed]
    cases source'.isFixed with
    | false => exact .refl _
    | true =>
      cases s.value? with
      | none => exact .refl _
      | some x =>
        show Action.SameWhileRunning (some <$> m.mayChange x) (some <$> m'.mayChange x)
        rw [map_eq_pure_bind, map_eq_pure_bind]
        exact (hm.mayChange x).bind fun _ ↦ .refl _
  exact hsample.bind fun s ↦ (hask s).bind fun _ ↦ .refl _

namespace Run

variable {r r' : Run σ α}

/-- Two such runs take the same observations, for a run can be reported on while it is on. -/
theorem observe_eq (hr : Run.Alike Eq Eq r r') (hp : r.plan.SameWhileRunning r'.plan) :
    r.observe = r'.observe := by
  funext w
  have hreport : r.report w.clock = r'.report w.clock :=
    funext fun room ↦ (hr.report w.clock room).eq
  rw [observe, observe, call_apply, call_apply, hreport, hp.observe _ rfl]

/-- So their steps are alike. -/
theorem step_of_sameWhileRunning (hr : Run.Alike Eq Eq r r')
    (hp : r.plan.SameWhileRunning r'.plan) :
    Engine.Alike Eq (fun turn turn' ↦ Turn.Alike Eq Eq turn turn' ∧ turn.run.plan = r.plan ∧
      turn'.run.plan = r'.plan) r.step r'.step := by
  have hobserve : Engine.Alike Eq (fun o o' ↦ o.sample = o'.sample ∧ o.mayChange = o'.mayChange)
      r.observe r'.observe := by
    rw [observe_eq hr hp]
    exact (Engine.alike_refl _).mono fun o o' h ↦ ⟨congrArg _ h, congrArg _ h⟩
  exact (hr.step_of_observe hobserve).and_results (fun _ _ _ ↦ plan_of_step)
    fun _ _ _ ↦ plan_of_step

end Run

/-- The assertion with another handler and another subject. -/
def Assertion.withCode (a : Assertion σ α) (handler : Option (Handler σ)) (subject : Subject σ α) :
    Assertion σ α :=
  { a with bench := { a.bench with handler := handler }, subject := subject }

/-- Both assertions are refused for the same reason, or have plans that do the same while a run is
on. -/
theorem Assertion.plan_withCode (a : Assertion σ α) {m m' : Matcher σ α} (desired : Bool)
    (d : Description σ) (handler : Option (Handler σ)) {subject : Subject σ α}
    (hsubject : a.subject.SameWhileRunning subject) (hm : m.SameWhileRunning m') :
    SameDecision Plan.SameWhileRunning (a.plan m desired d)
      ((a.withCode handler subject).plan m' desired d) := by
  refine (SameDecision.refl a.timeout).bind ?_
  rintro timeout _ rfl
  refine (SameDecision.refl a.polling).bind ?_
  rintro polling _ rfl
  refine (SameDecision.refl a.repeats).bind ?_
  rintro repeats _ rfl
  refine (hsubject.resolve a.mode a.token).bind fun source source' hsource ↦ .granted ?_
  refine ⟨⟨rfl, rfl, rfl, rfl, ?_, .refl _, .refl _, ?_, ?_, ?_⟩,
    Observation.sameWhileRunning_take hsource hm⟩
  · rintro s _ rfl
    rfl
  · rintro s _ rfl
    exact s.detail_congr hm.failureText hm.negatedText a.mode desired ▸ .refl _
  · rintro s _ rfl
    rfl
  · rintro s _ rfl
    rfl

namespace Flight

/-- Both handlers do the same while nothing can be reported on, or there is neither. -/
def SameHandlers (handler handler' : Option (Handler σ)) : Prop :=
  Option.Rel (fun h h' ↦ ∀ failure, Action.SameWhileIdle (h failure) (h' failure)) handler handler'

/-- The two flights stand alike. Their handlers do the same while nothing can be reported on, and
all else that they call does the same while a run is on. -/
inductive CallsAlike : Flight σ α → Flight σ α → Prop
  | grounded {a : Assertion σ α} {handler : Option (Handler σ)} {subject : Subject σ α}
      {m m' : Matcher σ α} {desired : Bool} {d : Description σ}
      (hhandler : SameHandlers a.bench.handler handler)
      (hsubject : a.subject.SameWhileRunning subject) (hm : m.SameWhileRunning m') :
      CallsAlike (.grounded a m desired d) (.grounded (a.withCode handler subject) m' desired d)
  | polling {a a' : Assertion σ α} {handler handler' : Handler σ} {r r' : Run σ α}
      (hoffset : a.offset = a'.offset) (hsite : a.site = a'.site)
      (hhandler : ∀ failure, Action.SameWhileIdle (handler failure) (handler' failure))
      (hr : Run.Alike Eq Eq r r') (hp : r.plan.SameWhileRunning r'.plan) :
      CallsAlike (.polling a handler r) (.polling a' handler' r')
  | landed {held : Bool} : CallsAlike (.landed held) (.landed held)

variable {f g : Flight σ α} {a a' : Assertion σ α} {handler handler' : Handler σ}

theorem callsAlike_requireHandler {b b' : Bench σ} (h : SameHandlers b.handler b'.handler) :
    Engine.Alike Eq (fun h h' ↦ ∀ failure, Action.SameWhileIdle (h failure) (h' failure))
      b.requireHandler b'.requireHandler := by
  rw [Bench.requireHandler, Bench.requireHandler]
  generalize b.handler = x at h ⊢
  generalize b'.handler = y at h ⊢
  cases h with
  | none => exact fun w w' hw ↦ .halted hw
  | some hh => exact .pure hh

/-- The handler is called where nothing can be reported on. -/
theorem callsAlike_fail (hoffset : a.offset = a'.offset) (hsite : a.site = a'.site)
    (hhandler : ∀ failure, Action.SameWhileIdle (handler failure) (handler' failure))
    (message : String) :
    Engine.Alike Eq CallsAlike (fail a handler message) (fail a' handler' message) := by
  have hhand : ∀ failure, Engine.hand handler failure = Engine.hand handler' failure := by
    intro failure
    have hcall : Engine.call none (handler failure) = Engine.call none (handler' failure) := by
      funext w
      rw [Engine.call_apply, Engine.call_apply, hhandler failure _ rfl]
    rw [Engine.hand, Engine.hand, hcall]
  rw [fail, fail, hoffset, hsite, Engine.handIn, Engine.handIn, funext hhand]
  exact (Engine.alike_refl _).bind fun _ _ _ ↦ .pure .landed

namespace CallsAlike

theorem report_eq (h : CallsAlike f g) (clock : Duration) : f.report clock = g.report clock := by
  cases h with
  | grounded | landed => rfl
  | polling _ _ _ hr => exact congrArg some (funext fun room ↦ (hr.report clock room).eq)

theorem nextTimer_eq (h : CallsAlike f g) : f.nextTimer = g.nextTimer := by
  cases h with
  | grounded | landed => rfl
  | polling _ _ _ hr => rw [nextTimer, nextTimer, Run.nextTimer, Run.nextTimer, hr.phase]

theorem answer_eq (h : CallsAlike f g) : f.answer? = g.answer? := by
  cases h <;> rfl

theorem step (h : CallsAlike f g) :
    Engine.Alike Eq (fun x y ↦ CallsAlike x.1 y.1 ∧ x.2 = y.2) f.step g.step := by
  cases h with
  | landed => exact .pure ⟨.landed, rfl⟩
  | @grounded a handler subject m m' desired d hhandler hsubject hm =>
    have htakeOff : Engine.Alike Eq CallsAlike (takeOff a m desired d)
        (takeOff (a.withCode handler subject) m' desired d) := by
      refine (callsAlike_requireHandler hhandler).bind fun h h' hh ↦ ?_
      refine (Engine.alike_refl _).bind ?_
      rintro started _ rfl
      have hplan := a.plan_withCode desired d handler hsubject hm
      generalize a.plan m desired d = x at hplan ⊢
      generalize (a.withCode handler subject).plan m' desired d = y at hplan ⊢
      cases hplan with
      | @refused cause =>
        exact (Engine.alike_refl _).bind fun _ _ _ ↦ callsAlike_fail rfl rfl hh cause.text
      | granted hp => exact .pure (.polling rfl rfl hh (.start hp.toAlike started) hp)
    exact htakeOff.bind fun f g hfg ↦ .pure ⟨hfg, rfl⟩
  | @polling a a' handler handler' r r' hoffset hsite hhandler hr hp =>
    refine (Run.step_of_sameWhileRunning hr hp).bind ?_
    rintro turn turn' ⟨hturn, hplan, hplan'⟩
    obtain hr' | hr' | @⟨r, r', ending, hr'⟩ := hturn
    · exact .pure ⟨.polling hoffset hsite hhandler hr' (hplan ▸ hplan' ▸ hp), rfl⟩
    · exact .pure ⟨.polling hoffset hsite hhandler hr' (hplan ▸ hplan' ▸ hp), rfl⟩
    · cases ending with
      | none => exact .pure ⟨.landed, rfl⟩
      | some ending =>
        refine (Engine.alike_call .none (hr'.failureMessage ending)).bind ?_
        rintro message _ rfl
        exact (callsAlike_fail hoffset hsite hhandler message).bind fun f g hfg ↦ .pure ⟨hfg, rfl⟩

end CallsAlike

/-- **Nobody can tell what the code would do where it is not called**: another handler, another
subject and another matcher make no difference if they differ there only. -/
theorem indistinguishable_withCode {m m' : Matcher σ α} (desired : Bool) (d : Description σ)
    {handler : Option (Handler σ)} {subject : Subject σ α}
    (hhandler : SameHandlers a.bench.handler handler)
    (hsubject : a.subject.SameWhileRunning subject) (hm : m.SameWhileRunning m') :
    (grounded a m desired d).Indistinguishable
      (grounded (a.withCode handler subject) m' desired d) :=
  ⟨CallsAlike, ⟨CallsAlike.report_eq, CallsAlike.nextTimer_eq, CallsAlike.answer_eq,
    CallsAlike.step⟩, .grounded hhandler hsubject hm⟩

/-! ### The life of a reporter -/

/-- **A reporter tells of the run while it is on, and of nothing else.** So it is after every
history of the assertion, and so the code that takes the samples finds it, and the handler. There is
one place where it is asked in vain, though the run is on: the code that composes the detail of a
report has to wait for that report to be done (`TellsRun.held`). -/
theorem reporter_tells (a : Assertion σ α) (m : Matcher σ α) (desired : Bool) (d : Description σ) :
    (∀ h future, Voyage (.grounded a m desired d) h future → Tells a m desired d h future) ∧
      ∀ handler subject m', SameHandlers a.bench.handler handler →
        a.subject.SameWhileRunning subject → m.SameWhileRunning m' →
          (grounded a m desired d).Indistinguishable
            (grounded (a.withCode handler subject) m' desired d) :=
  ⟨fun _ _ hv ↦ hv.aboard.tells, fun _ _ _ hhandler hsubject hm ↦
    indistinguishable_withCode desired d hhandler hsubject hm⟩

/-- A producer that panics unless a run is on. -/
def needy : Action Recorder (Except Fault Nat) := do
  if ← Action.isRunning then return .ok 1 else Action.panic "no run"

/-- A handler that panics if a run is on. -/
def wary : Handler Recorder := fun failure ↦ do
  if ← Action.isRunning then Action.panic "a run" else Recorder.handler id failure

/-- An assertion that the number one is two. -/
def hopeless (mode : Mode) : Assertion Recorder Nat :=
  .make ⟨some (Recorder.handler id), {}, .runtime .zero⟩ mode (.produced (return .ok 1)) "hopeless"

/-- Its run, before the first sample. -/
def hopelessRun (mode : Mode) : Run Recorder Nat :=
  .start ⟨mode, Budgets.timeout {} mode, Budgets.polling {} mode, 1, none,
    .produced (return .ok 1), .equalTo 2, true, .none, .runtime .zero⟩ .zero

/-- A matcher that asks for a report before it comes to its verdict, which is negative. -/
def nosy : Matcher Recorder Nat where
  judge _ := do
    let _ ← Action.report 3
    return .ok false
  failureText _ := pure "nosy"
  negatedText _ := pure "not nosy"
  mayChange _ := pure true

/-- The assertion's run starts with its first step. -/
theorem voyage_hopeless (mode : Mode) : Voyage (.grounded (hopeless mode) (.equalTo 2) true .none)
    [.stepped (some .zero) none none]
    (some (.polling (hopeless mode) (Recorder.handler id) (hopelessRun mode))) := by
  have hstep : (grounded (hopeless mode) (.equalTo 2) true .none).step ⟨{}, .zero, []⟩ =
      (.ok (.polling (hopeless mode) (Recorder.handler id) (hopelessRun mode), false),
        ⟨{}, .zero, []⟩) := by
    cases mode <;> rfl
  exact Voyage.start.step hstep

/-- A nosy component gets its report when the first sample is judged. For the second one the report
has a detail to it, for which the component is asked again, under the lock. So it never ends. -/
theorem exists_voyage_nosy : ∃ run v,
    Voyage (.grounded (hopeless .eventually) (.allOf [nosy]) true .none)
      [.stepped (some .zero) none none, .stepped none (some (.judged 1 false)) none,
        .stepped none none none]
      (some (.polling (hopeless .eventually) (Recorder.handler id) run)) ∧
    (polling (hopeless .eventually) (Recorder.handler id) run).step ⟨{}, .ofMillis 10, []⟩ =
      (.error .deadlock, v) := by
  obtain ⟨run₀, run₁, run₂, v₀, v₁, v₂, v₃, hfirst, hsecond, hthird, hnosy, hnone, hsome⟩ :
      ∃ run₀ run₁ run₂ v₀ v₁ v₂ v₃,
        (grounded (hopeless .eventually) (.allOf [nosy]) true .none).step ⟨{}, .zero, []⟩ =
          (.ok (.polling (hopeless .eventually) (Recorder.handler id) run₀, false), v₀) ∧
        (polling (hopeless .eventually) (Recorder.handler id) run₀).step ⟨{}, .zero, []⟩ =
          (.ok (.polling (hopeless .eventually) (Recorder.handler id) run₁, false), v₁) ∧
        (polling (hopeless .eventually) (Recorder.handler id) run₁).step ⟨{}, .ofMillis 10, []⟩ =
          (.ok (.polling (hopeless .eventually) (Recorder.handler id) run₂, false), v₂) ∧
        (polling (hopeless .eventually) (Recorder.handler id) run₂).step ⟨{}, .ofMillis 10, []⟩ =
          (.error .deadlock, v₃) ∧
        (polling (hopeless .eventually) (Recorder.handler id) run₁).sampleOn
          ⟨{}, .ofMillis 10, []⟩ = none ∧
        (polling (hopeless .eventually) (Recorder.handler id) run₀).sampleOn ⟨{}, .zero, []⟩ =
          some (.judged 1 false) :=
    ⟨_, _, _, _, _, _, _, rfl, rfl, rfl, rfl, rfl, rfl⟩
  have hv := ((Voyage.start.step hfirst).step hsecond).step hthird
  rw [hnone, hsome] at hv
  exact ⟨run₂, v₃, hv, hnosy⟩

/-- Of such an assertion a reporter tells after its first steps, and no more once it has failed or
has been dropped. The needy producer and the wary handler never panic there. A nosy component is
told of, and comes to no end. -/
theorem reporter_tells_hopeless :
    (∃ run : Run Recorder Nat, run.samples = 1 ∧
      Tells (hopeless .eventually) (.equalTo 2) true .none
        [.stepped (some .zero) none none, .stepped none (some (.judged 1 false)) none]
        (some (.polling (hopeless .eventually) (Recorder.handler id) run)) ∧
      run.report (.ofMillis 3) 1 {} =
        (.ok "Eventually has been polling for 3ms (1 samples).\nexpected 1 to equal 2", {})) ∧
      Tells (hopeless .eventually) (.equalTo 2) true .none
        [.stepped (some .zero) none none, .dropped] none ∧
      Tells (hopeless .consistently) (.equalTo 2) true .none
        [.stepped (some .zero) none none, .stepped none (some (.judged 1 false)) (some false)]
        (some (.landed false)) ∧
      (grounded (hopeless .eventually) (.equalTo 2) true .none).Indistinguishable
        (grounded ((hopeless .eventually).withCode (some wary) (.produced needy)) (.equalTo 2) true
          .none) ∧
      ∃ run v, Tells (hopeless .eventually) (.allOf [nosy]) true .none
          [.stepped (some .zero) none none, .stepped none (some (.judged 1 false)) none,
            .stepped none none none]
          (some (.polling (hopeless .eventually) (Recorder.handler id) run)) ∧
        (polling (hopeless .eventually) (Recorder.handler id) run).step ⟨{}, .ofMillis 10, []⟩ =
          (.error .deadlock, v) := by
  obtain ⟨run, v, hsampled, hcount, hreport⟩ : ∃ run v,
      (polling (hopeless .eventually) (Recorder.handler id) (hopelessRun .eventually)).step
          ⟨{}, .zero, []⟩ =
        (.ok (.polling (hopeless .eventually) (Recorder.handler id) run, false), v) ∧
      run.samples = 1 ∧ run.report (.ofMillis 3) 1 {} =
        (.ok "Eventually has been polling for 3ms (1 samples).\nexpected 1 to equal 2", {}) :=
    ⟨_, _, rfl, rfl, rfl⟩
  obtain ⟨u, hfailed⟩ : ∃ u,
      (polling (hopeless .consistently) (Recorder.handler id) (hopelessRun .consistently)).step
          ⟨{}, .zero, []⟩ = (.ok (.landed false, false), u) := ⟨_, rfl⟩
  obtain ⟨nosyRun, w, hnosyVoyage, hnosy⟩ := exists_voyage_nosy
  obtain ⟨htells, hsame⟩ := reporter_tells (hopeless .eventually) (.equalTo 2) true .none
  have htells' := (reporter_tells (hopeless .consistently) (.equalTo 2) true .none).1
  have hnosyTells := (reporter_tells (hopeless .eventually) (.allOf [nosy]) true .none).1 _ _
    hnosyVoyage
  refine ⟨⟨run, hcount, htells _ _ ((voyage_hopeless _).step hsampled), hreport⟩,
    htells _ _ (voyage_hopeless _).drop, htells' _ _ ((voyage_hopeless _).step hfailed), ?_,
    nosyRun, w, hnosyTells, hnosy⟩
  refine hsame _ _ _ (.some fun failure view hview ↦ ?_) (.produced fun view hview ↦ ?_)
    ⟨fun _ ↦ .refl _, fun _ ↦ .refl _, rfl, rfl⟩
  · rw [wary, Action.isRunning_bind, hview]
    rfl
  · rw [needy, Action.isRunning_bind, hview]
    rfl

end Flight

end PollAssert
