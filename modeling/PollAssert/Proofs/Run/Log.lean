import PollAssert.Proofs.Run.Blame
import Mathlib.Data.List.Forall2

/-!
# What a run writes to the log

A step writes one entry for the sample that it takes, if it takes one, and one more if the run is
over (`Run.Steps.logs`). Every entry tells the time since the start of the run, by a reading of its
own that is taken when the entry is written.

The entries of a run are in the order of its steps. If the source's time never goes back
(`Plan.Rising`), the times in the log do not either: a step leaves a bound for those that come after
it (`World.Logs.climbs`). `HasWritten` is the invariant that puts the steps together: what a run has
written in the notices goes by the samples that it has taken and the instants of these.

Two facts about the samples themselves make the log easy to read for a simple assertion. Of an
`eventually` that wants one passing sample none passes but the last, and the last one does exactly
if the run holds (`Run.Course.passed_eq`). Of a `consistently` that failed no sample is an ordinary
failure but the last (`Run.Course.isOrdinaryFailure_eq`).
-/

namespace PollAssert

variable {σ α β : Type}

/-! ### The log among the notices -/

namespace Notice

/-- The entry of the log, if the notice is of one. -/
def entry? : Notice → Option LogEntry
  | .logged entry => some entry
  | _ => none

/-- The log, oldest first. The notices are newest first. -/
def entries (notices : List Notice) : List LogEntry := (notices.filterMap entry?).reverse

theorem entries_append (new old : List Notice) :
    entries (new ++ old) = entries old ++ entries new := by
  rw [entries, List.filterMap_append, List.reverse_append, entries, entries]

end Notice

/-- An entry as it is written. -/
structure LogLine where
  /-- How loud it is. -/
  level : String
  /-- What it says. -/
  message : String
  /-- The values that it names, in order. -/
  fields : List (String × String)
  deriving DecidableEq

namespace LogEntry

/-- The entry as it is written. -/
def line (entry : LogEntry) : LogLine := ⟨entry.level, entry.message, entry.fields⟩

/-- What there is to be written for each entry. -/
inductive WrittenAs : LogEntry → LogLine → Prop
  /-- A sample is traced, with its number, the time, and whether it passed. -/
  | sampled {mode : Mode} {number : Nat} {elapsed : Duration} {passed : Bool} :
      WrittenAs (.sampled mode number elapsed passed)
        ⟨"TRACE", "sampled", [("mode", mode.text), ("sample", toString number),
          ("elapsed", elapsed.text), ("passed", if passed then "true" else "false")]⟩
  /-- The end of a run is a debug line, with the number of samples and the whole time, -/
  | held {mode : Mode} {samples : Nat} {elapsed : Duration} :
      WrittenAs (.held mode samples elapsed)
        ⟨"DEBUG", "assertion held", [("mode", mode.text), ("samples", toString samples),
          ("elapsed", elapsed.text)]⟩
  /-- and with the ending in words if the run failed. -/
  | failed {mode : Mode} {samples : Nat} {elapsed : Duration} {ending : Ending} :
      WrittenAs (.failed mode samples elapsed ending)
        ⟨"DEBUG", "assertion failed", [("mode", mode.text), ("samples", toString samples),
          ("elapsed", elapsed.text), ("error", ending.text)]⟩
  /-- A misconfiguration is a warning, which says what is wrong. -/
  | misconfigured {mode : Mode} {ending : Ending} :
      WrittenAs (.misconfigured mode ending)
        ⟨"WARN", "invalid assertion configuration",
          [("mode", mode.text), ("error", ending.text)]⟩

/-- **Every entry is written as it should be.** -/
theorem writtenAs_line (entry : LogEntry) : entry.WrittenAs entry.line := by
  cases entry with
  | sampled => exact .sampled
  | held => exact .held
  | failed => exact .failed
  | misconfigured => exact .misconfigured

/-- The time that the entry tells. -/
def elapsed? : LogEntry → Option Duration
  | .sampled _ _ elapsed _ => some elapsed
  | .held _ _ elapsed => some elapsed
  | .failed _ _ elapsed _ => some elapsed
  | .misconfigured _ _ => none

/-- What the entry of a sample says of its verdict. -/
def passed? : LogEntry → Option Bool
  | .sampled _ _ _ passed => some passed
  | _ => none

/-- The times in the log. -/
def times (log : List LogEntry) : List Duration := log.filterMap elapsed?

end LogEntry

/-- The log as it is written, oldest line first. -/
def Notice.lines (notices : List Notice) : List LogLine := (entries notices).map LogEntry.line

/-! ### Times that do not go back -/

/-- The times go up from the lower bound to the upper one. -/
inductive Climbs : Duration → List Duration → Duration → Prop
  | stay {lower upper : Duration} (h : lower ≤ upper) : Climbs lower [] upper
  | rise {lower upper t : Duration} {ts : List Duration} (h : lower ≤ t)
      (rest : Climbs t ts upper) : Climbs lower (t :: ts) upper

namespace Climbs

variable {lower lower' upper upper' t : Duration} {ts ts' : List Duration}

theorem of_le (h : Climbs lower ts upper) (hle : lower' ≤ lower) : Climbs lower' ts upper := by
  cases h with
  | stay h => exact .stay (Nat.le_trans hle h)
  | rise h rest => exact .rise (Nat.le_trans hle h) rest

theorem trans (h : Climbs lower ts upper) (h' : Climbs upper ts' upper') :
    Climbs lower (ts ++ ts') upper' := by
  induction h with
  | stay hle => exact h'.of_le hle
  | rise hle _ ih => exact .rise hle (ih h')

theorem le_of_mem (h : Climbs lower ts upper) (ht : t ∈ ts) : lower ≤ t := by
  induction h with
  | stay => cases ht
  | rise hle _ ih =>
    rcases List.mem_cons.1 ht with rfl | hrest
    · exact hle
    · exact Nat.le_trans hle (ih hrest)

/-- **No time is before an earlier one.** -/
theorem pairwise (h : Climbs lower ts upper) : ts.Pairwise (· ≤ ·) := by
  induction h with
  | stay => exact .nil
  | rise _ rest ih => exact .cons (fun _ ↦ rest.le_of_mem) ih

end Climbs

theorem Duration.saturatingSub_le_saturatingSub {a b : Duration} (h : a ≤ b) (c : Duration) :
    a.saturatingSub c ≤ b.saturatingSub c :=
  Nat.sub_le_sub_right h c.nanos

/-- The time since the start, by a reading at the given instant of the runtime's clock. -/
def TimeSource.Tells (time : TimeSource σ) (started clock elapsed : Duration) : Prop :=
  ∃ view s now t, view.clock = clock ∧ time.now view s = (.ok now, t) ∧
    elapsed = now.saturatingSub started

/-- The time of the plan never goes back. `floor` is what it has come to in the user's state when
the runtime's clock stands at the given instant: no reading is below it, a reading raises it to
itself at least, and no user code lowers it. -/
structure Plan.Rising (floor : Duration → σ → Duration) (p : Plan σ α) : Prop where
  now : ∀ view s now t, p.time.now view s = (.ok now, t) →
    floor view.clock s ≤ now ∧ now ≤ floor view.clock t
  user : ∀ clock d, p.UserKeeps (d ≤ floor clock ·) fun _ ↦ True

/-- What is not about the user's state is kept by every action. -/
theorem Action.keeps_const (P : Prop) (views : View σ → Prop) (act : Action σ β) :
    act.KeepsIn views (fun _ ↦ P) fun _ ↦ True := by
  intro view _ s hs
  rcases act view s with ⟨p | b, t⟩
  · trivial
  · exact hs

/-- The runtime's clock never goes back, whatever the user code does. -/
theorem Plan.rising_runtime {p : Plan σ α} {epoch : Duration} (htime : p.time = .runtime epoch) :
    p.Rising fun clock _ ↦ clock.saturatingSub epoch where
  now view s now t h := by
    rw [htime] at h
    obtain ⟨hnow, -⟩ := Prod.mk.inj h
    obtain rfl := Except.ok.inj hnow
    exact ⟨Nat.le_refl _, Nat.le_refl _⟩
  user clock d := by
    have hkeeps : ∀ {β : Type} {views : View σ → Prop} (act : Action σ β),
        act.KeepsIn views (fun _ ↦ d ≤ clock.saturatingSub epoch) fun _ ↦ True :=
      Action.keeps_const _ _
    exact ⟨⟨⟨fun _ ↦ hkeeps _, fun _ ↦ hkeeps _, fun _ ↦ hkeeps _, fun _ ↦ hkeeps _⟩,
      ⟨hkeeps _, fun _ ↦ hkeeps _, fun _ _ _ ↦ hkeeps _⟩, hkeeps _⟩, hkeeps _⟩

/-! ### What is written on a step -/

/-- On the way from `u` to `v` the library has written the given entries on behalf of a run with the
given plan and start, and it has handed over no failure. -/
structure World.Logs (p : Plan σ α) (started : Duration) (es : List LogEntry) (u v : World σ) :
    Prop where
  clock : v.clock = u.clock
  notices : ∃ new, v.notices = new ++ u.notices ∧ Notice.entries new = es ∧
    ∀ failure, Notice.handed failure ∉ new
  tells : ∀ t ∈ LogEntry.times es, p.time.Tells started u.clock t
  climbs : ∀ floor, p.Rising floor → Climbs ((floor u.clock u.user).saturatingSub started)
    (LogEntry.times es) ((floor v.clock v.user).saturatingSub started)

namespace World.Logs

variable {p : Plan σ α} {started : Duration} {es es' : List LogEntry} {u v w : World σ}

protected theorem refl (p : Plan σ α) (started : Duration) (w : World σ) :
    w.Logs p started [] w where
  clock := rfl
  notices := ⟨[], rfl, rfl, fun _ ↦ List.not_mem_nil⟩
  tells := nofun
  climbs _ _ := .stay (Nat.le_refl _)

protected theorem trans (h : u.Logs p started es v) (h' : v.Logs p started es' w) :
    u.Logs p started (es ++ es') w := by
  have htimes : LogEntry.times (es ++ es') = LogEntry.times es ++ LogEntry.times es' :=
    List.filterMap_append
  obtain ⟨new, hnew, hentries, hhanded⟩ := h.notices
  obtain ⟨new', hnew', hentries', hhanded'⟩ := h'.notices
  refine ⟨h'.clock.trans h.clock, ⟨new' ++ new, ?_, ?_, fun failure hmem ↦ ?_⟩, fun t ht ↦ ?_,
    fun floor hfloor ↦ ?_⟩
  · rw [hnew', hnew, List.append_assoc]
  · rw [Notice.entries_append, hentries, hentries']
  · rcases List.mem_append.1 hmem with hmem | hmem
    · exact hhanded' failure hmem
    · exact hhanded failure hmem
  · rw [htimes] at ht
    rcases List.mem_append.1 ht with ht | ht
    · exact h.tells t ht
    · exact h.clock ▸ h'.tells t ht
  · rw [htimes]
    exact (h.climbs floor hfloor).trans (h'.climbs floor hfloor)

/-- A notice of a sleep is no entry. -/
theorem slept (p : Plan σ α) (started length : Duration) (w : World σ) :
    w.Logs p started [] { w with notices := .slept length :: w.notices } where
  clock := rfl
  notices := ⟨[.slept length], rfl, rfl, fun _ hmem ↦ by cases List.mem_singleton.1 hmem⟩
  tells := nofun
  climbs _ _ := .stay (Nat.le_refl _)

/-- User code writes nothing, and the time does not go back meanwhile. -/
theorem of_call {r : Run σ α} {act : Action σ β} {b : β} (started : Duration)
    (hact : ∀ I : σ → Prop, r.plan.UserKeeps I (fun _ ↦ True) →
      Action.Keeps I (fun _ ↦ True) act)
    (h : r.call act u = (.ok b, v)) : u.Logs r.plan started [] v := by
  obtain ⟨-, rfl⟩ := Prod.mk.inj (r.call_apply act u ▸ h)
  refine ⟨rfl, ⟨[], rfl, rfl, fun _ ↦ List.not_mem_nil⟩, nofun, fun floor hfloor ↦ .stay ?_⟩
  refine Duration.saturatingSub_le_saturatingSub ?_ started
  have huser := hfloor.user u.clock (floor u.clock u.user)
  exact (Run.keeps_call_of_callbacks huser.callbacks (hact _ huser)).of_ok
    (Nat.le_refl (floor u.clock u.user).nanos) h

end World.Logs

namespace Run

variable {r : Run σ α} {u v w : World σ} {turn : Turn σ α} {elapsed : Duration}

/-- Reading the elapsed time writes nothing. -/
theorem logs_elapsed (h : r.call r.elapsed u = (.ok elapsed, v)) :
    u.Logs r.plan r.started [] v :=
  .of_call r.started (fun _ huser ↦ huser.callbacks.time.now.map.keeps) h

/-- The elapsed time is that of a reading, which lies between what the source's time came to before
it and after it. -/
theorem tells_elapsed (h : r.call r.elapsed u = (.ok elapsed, v)) :
    r.plan.time.Tells r.started u.clock elapsed ∧ ∀ floor, r.plan.Rising floor →
      (floor u.clock u.user).saturatingSub r.started ≤ elapsed ∧
      elapsed ≤ (floor v.clock v.user).saturatingSub r.started := by
  rw [call_elapsed_eq] at h
  obtain ⟨now, hnow, rfl⟩ := Effect.map_eq_ok_iff.1 h
  rw [call_apply] at hnow
  obtain ⟨hok, rfl⟩ := Prod.mk.inj hnow
  have hread : r.plan.time.now ⟨u.clock, some (r.report u.clock)⟩ u.user = (.ok now, _) :=
    Prod.ext hok rfl
  refine ⟨⟨_, _, now, _, rfl, hread, rfl⟩, fun floor hfloor ↦ ?_⟩
  obtain ⟨hlower, hupper⟩ := hfloor.now _ _ _ _ hread
  exact ⟨Duration.saturatingSub_le_saturatingSub hlower _,
    Duration.saturatingSub_le_saturatingSub hupper _⟩

/-- An entry is written with the time that was read for it. -/
theorem logs_entry {entry : LogEntry} (h : r.call r.elapsed u = (.ok elapsed, v))
    (hentry : entry.elapsed? = some elapsed) :
    u.Logs r.plan r.started [entry] { v with notices := .logged entry :: v.notices } := by
  obtain ⟨htells, hbetween⟩ := tells_elapsed h
  have hlogs := logs_elapsed h
  have htimes : LogEntry.times [entry] = [elapsed] := List.filterMap_cons_some hentry
  obtain ⟨new, hnew, hentries, hhanded⟩ := hlogs.notices
  refine ⟨hlogs.clock, ⟨.logged entry :: new, congrArg _ hnew, ?_, fun failure hmem ↦ ?_⟩,
    fun t ht ↦ ?_, fun floor hfloor ↦ ?_⟩
  · show Notice.entries ([.logged entry] ++ new) = [entry]
    rw [Notice.entries_append, hentries]
    rfl
  · obtain hhead | hmem := List.mem_cons.1 hmem
    · cases hhead
    · exact hhanded failure hmem
  · rw [htimes] at ht
    exact List.mem_singleton.1 ht ▸ htells
  · rw [htimes]
    exact .rise (hbetween floor hfloor).1 (.stay (hbetween floor hfloor).2)

/-- The observation writes nothing. -/
theorem logs_observe {o : Observation α} (h : r.observe u = (.ok o, v)) :
    u.Logs r.plan r.started [] v := by
  refine .of_call r.started (fun I huser ↦ ?_) h
  rw [Observation.take_eq]
  exact huser.source.bind fun result ↦ keeps_ofResult _ huser.callbacks.matcher result

/-- A sleep writes nothing to the log. -/
theorem logs_sleep {length : Duration} {timer : Timer} (started : Duration)
    (h : r.sleep length u = (.ok timer, v)) : u.Logs r.plan started [] v := by
  obtain ⟨_, w, hnote, hcall⟩ := Effect.bind_eq_ok_iff.1 h
  obtain ⟨-, rfl⟩ := Prod.mk.inj hnote
  exact (World.Logs.slept r.plan started length u).trans (.of_call started
    (fun _ huser ↦ huser.callbacks.time.sleep length) hcall)

/-- Starting the deadline's timer writes nothing. -/
theorem logs_deadlineTimer {deadline : Option Timer} {timer : Timer}
    (h : r.deadlineTimer deadline u = (.ok timer, v)) : u.Logs r.plan r.started [] v := by
  cases deadline with
  | some timer =>
    obtain ⟨-, rfl⟩ := Effect.pure_eq_ok_iff.1 h
    exact .refl _ _ _
  | none =>
    rw [deadlineTimer, sleepUntilDeadline] at h
    cases hinstant : r.deadline? with
    | none =>
      rw [hinstant] at h
      obtain ⟨-, rfl⟩ := Effect.pure_eq_ok_iff.1 h
      exact .refl _ _ _
    | some instant =>
      rw [hinstant] at h
      dsimp only at h
      rw [sleepUntil] at h
      cases hwait : r.plan.time.sleepUntil? with
      | some wait =>
        rw [hwait] at h
        exact .of_call r.started
          (fun _ huser ↦ huser.callbacks.time.wait wait hwait instant) h
      | none =>
        rw [hwait] at h
        obtain ⟨now, w, hnow, hrest⟩ := Effect.bind_eq_ok_iff.1 h
        have hread : u.Logs r.plan r.started [] w := .of_call r.started
          (fun _ huser ↦ huser.callbacks.time.now.keeps) hnow
        cases hleft : TimeSource.remaining? now instant with
        | none =>
          rw [hleft] at hrest
          obtain ⟨-, rfl⟩ := Effect.pure_eq_ok_iff.1 hrest
          exact hread
        | some length =>
          rw [hleft] at hrest
          exact hread.trans (logs_sleep r.started hrest)

/-- A look writes nothing. -/
theorem logs_look {tick : Timer} {deadline found : Option Timer} {wake : Option Wake}
    (h : r.look tick deadline u = (.ok (wake, found), v)) : u.Logs r.plan r.started [] v := by
  obtain ⟨-, -, -, rfl⟩ | ⟨timer, -, htimer, -, -⟩ := of_look_eq_ok h
  · exact .refl _ _ _
  · exact logs_deadlineTimer htimer

end Run

/-- What is written on an event of a run that has taken the given number of samples, at the given
time. -/
def Run.Event.entries (p : Plan σ α) (samples : Nat) (elapsed : Duration) :
    Run.Event α → List LogEntry
  | .sampled o => [.sampled p.mode (samples + 1) elapsed (o.sample.passed p.desired)]
  | .looked _ => []

/-- What is written about the end of a run, at the given time. -/
def Turn.closing (total : Duration) : Turn σ α → List LogEntry
  | .over r none => [.held r.plan.mode r.samples total]
  | .over r (some ending) => [.failed r.plan.mode r.samples total ending]
  | _ => []

namespace Run

variable {r : Run σ α} {u v w : World σ} {turn : Turn σ α} {elapsed : Duration}

/-- Every sample that is published is written about. -/
theorem logs_record {o : Observation α} {r' : Run σ α} (h : r.record o u = (.ok r', v)) :
    ∃ elapsed, u.Logs r.plan r.started
      ((Event.sampled o).entries r.plan r.samples elapsed) v := by
  obtain ⟨capturedAt, elapsed, w₁, w₂, hcaptured, rfl, helapsed, rfl⟩ := of_record_eq_ok h
  refine ⟨elapsed, (logs_elapsed hcaptured).trans ?_⟩
  exact logs_entry (r := r.publish o.sample capturedAt) helapsed rfl

/-- Starting to wait writes nothing. -/
theorem logs_startWaiting {r' : Run σ α} (h : r.startWaiting u = (.ok r', v)) :
    u.Logs r.plan r.started [] v := by
  obtain ⟨tick, w, hsleep, hrest⟩ := Effect.bind_eq_ok_iff.1 h
  obtain ⟨-, rfl⟩ := Effect.pure_eq_ok_iff.1 hrest
  exact logs_sleep (r := { r with requestedDelay := none }) r.started hsleep

/-- The end of a run is written last. -/
theorem logs_finish {cause : Cause} (h : r.finish cause u = (.ok turn, v)) :
    ∃ total, u.Logs r.plan r.started (turn.closing total) v := by
  obtain ⟨elapsed, total, w₁, w₂, rfl, hending, htotal, rfl⟩ := of_finish_eq_ok h
  have hbefore : u.Logs r.plan r.started [] w₁ := by
    split at hending
    · exact hending ▸ .refl _ _ _
    · exact logs_elapsed hending
  refine ⟨total, hbefore.trans ?_⟩
  cases hcause : cause.ending? elapsed with
  | none => exact logs_entry htotal rfl
  | some ending => exact logs_entry htotal rfl

/-- **What a step writes**: the entry of its sample, if it takes one, and that of the run's end, if
it ends the run. -/
theorem Steps.logs {e : Event α} (hs : r.Steps u e turn v) : ∃ elapsed total,
    u.Logs r.plan r.started (e.entries r.plan r.samples elapsed ++ turn.closing total) v := by
  cases e with
  | sampled o =>
    obtain ⟨-, w, ho, hgo⟩ := hs.goBy_eq
    obtain ⟨r', w', hrecord, hrest⟩ := of_goBy_eq_ok hgo
    obtain ⟨elapsed, hsampled⟩ := logs_record hrecord
    obtain ⟨capturedAt, -, -, -, -, rfl, -⟩ := of_record_eq_ok hrecord
    have hsofar := (logs_observe ho).trans hsampled
    refine ⟨elapsed, ?_⟩
    split at hrest
    next cause _ =>
      obtain ⟨total, hclosing⟩ := logs_finish hrest
      exact ⟨total, hsofar.trans hclosing⟩
    next passes _ =>
      obtain ⟨r', hwait, rfl⟩ := hrest
      exact ⟨.zero, hsofar.trans
        (logs_startWaiting (r := { r.publish o.sample capturedAt with passes := passes }) hwait)⟩
  | looked wake =>
    obtain ⟨tick, deadline, found, w, hphase, hlook, hheed⟩ := hs.heed_eq
    have hlooked := logs_look hlook
    refine ⟨.zero, ?_⟩
    cases wake with
    | none =>
      obtain ⟨rfl, rfl⟩ := Effect.pure_eq_ok_iff.1 hheed
      exact ⟨.zero, hlooked⟩
    | some wake =>
      rw [heed_some] at hheed
      cases hcause : r.plan.mode.causeOfWake? wake with
      | none =>
        rw [hcause] at hheed
        obtain ⟨rfl, rfl⟩ := Effect.pure_eq_ok_iff.1 hheed
        exact ⟨.zero, hlooked⟩
      | some cause =>
        rw [hcause] at hheed
        obtain ⟨total, hclosing⟩ := logs_finish hheed
        exact ⟨total, hlooked.trans hclosing⟩

end Run

/-! ### The log of a run -/

/-- The entry of a sample that was taken at the given instant, the given one of the run. -/
def Plan.Traces (p : Plan σ α) (started : Duration) (x : (Sample α × Duration) × Nat)
    (entry : LogEntry) : Prop :=
  ∃ elapsed, p.time.Tells started x.1.2 elapsed ∧
    entry = .sampled p.mode (x.2 + 1) elapsed (x.1.1.passed p.desired)

namespace Run

/-- A run that started at the given reading and stands as it does has taken the given samples at the
given instants, and these notices were given on its behalf. Between two steps the world has changed
as `between` says. -/
structure HasWritten (between : World σ → World σ → Prop) (p : Plan σ α) (started : Duration)
    (taken : List (Sample α × Duration)) (notices : List Notice) (turn : Turn σ α) (w : World σ) :
    Prop where
  course : ∃ h w₀ w', Course (fun _ _ _ ↦ True) (.start p started) w₀ h turn w' ∧
    (transcript h).samples.map Observation.sample = taken.map Prod.fst
  log : ∃ traces total, Notice.entries notices = traces ++ turn.closing total ∧
    List.Forall₂ (p.Traces started) taken.zipIdx traces ∧
    ∀ t ∈ LogEntry.times (turn.closing total), p.time.Tells started w.clock t
  handed : ∀ failure, Notice.handed failure ∉ notices
  climbs : ∀ floor, p.Rising floor →
    (∀ u v, between u v → floor u.clock u.user ≤ floor v.clock v.user) →
    Climbs .zero (LogEntry.times (Notice.entries notices))
      ((floor w.clock w.user).saturatingSub started)

namespace HasWritten

variable {between : World σ → World σ → Prop} {p : Plan σ α} {started : Duration}
  {taken : List (Sample α × Duration)} {notices : List Notice} {turn turn' : Turn σ α}
  {w u v : World σ} {r : Run σ α} {e : Event α}

/-- A run that has just started has written nothing. -/
theorem start (between : World σ → World σ → Prop) (p : Plan σ α) (started : Duration)
    (w : World σ) : HasWritten between p started [] [] (.ready (.start p started)) w where
  course := ⟨[], w, w, .start, rfl⟩
  log := ⟨[], .zero, rfl, .nil, nofun⟩
  handed _ := List.not_mem_nil
  climbs _ _ _ := .stay (Nat.zero_le _)

/-- It has the plan, and counts its samples. -/
theorem run_eq (hw : HasWritten between p started taken notices turn w) :
    turn.run.plan = p ∧ turn.run.started = started ∧ turn.run.samples = taken.length := by
  obtain ⟨h, w₀, w', hc, hsamples⟩ := hw.course
  obtain ⟨hplan, hstarted, hcount⟩ := hc.run_eq
  refine ⟨hplan, hstarted, hcount.trans ?_⟩
  rw [← List.length_map Observation.sample, hsamples, List.length_map]
  exact Nat.zero_add _

/-- It writes nothing between its steps. -/
theorem meanwhile (hw : HasWritten between p started taken notices turn w)
    (hrun : turn.run? = some r) (hbetween : between w u) :
    HasWritten between p started taken notices turn u where
  course := hw.course
  log := by
    obtain ⟨traces, total, hlog, htraces, -⟩ := hw.log
    refine ⟨traces, total, hlog, htraces, ?_⟩
    cases turn <;> cases hrun <;> nofun
  handed := hw.handed
  climbs floor hfloor hrises := by
    have hlater : Climbs _ [] _ := .stay
      (Duration.saturatingSub_le_saturatingSub (hrises w u hbetween) started)
    exact List.append_nil (LogEntry.times (Notice.entries notices)) ▸
      (hw.climbs floor hfloor hrises).trans hlater

/-- **A step adds its entries to the log**, and its sample to those that were taken. -/
theorem step (hw : HasWritten between p started taken notices turn w) (hrun : turn.run? = some r)
    (hs : r.Steps w e turn' v) {new : List Notice} (hnew : v.notices = new ++ w.notices) :
    HasWritten between p started (taken ++ e.sample?.toList.map (·, w.clock)) (new ++ notices)
      turn' v := by
  obtain ⟨h, w₀, w', hc, hsamples⟩ := hw.course
  obtain ⟨traces, total, hlog, htraces, -⟩ := hw.log
  obtain ⟨elapsed, total', hlogs⟩ := hs.logs
  obtain ⟨hplan, hstarted, hcount⟩ := hw.run_eq
  rw [Turn.run_of_run? hrun] at hplan hstarted hcount
  have hopen : turn.closing total = [] := by cases turn <;> cases hrun <;> rfl
  rw [hopen, List.append_nil] at hlog
  rw [hplan, hstarted, hcount] at hlogs
  obtain ⟨new', hnew', hentries, hhanded⟩ := hlogs.notices
  obtain rfl : new = new' := List.append_cancel_right (hnew.symm.trans hnew')
  have hentries' : Notice.entries (new ++ notices) =
      traces ++ e.entries p taken.length elapsed ++ turn'.closing total' := by
    rw [Notice.entries_append, hlog, hentries, List.append_assoc]
  refine ⟨⟨h ++ [e], w₀, v, hc.step hrun trivial hs, ?_⟩,
    ⟨traces ++ e.entries p taken.length elapsed, total', hentries', ?_, fun t ht ↦ ?_⟩,
    fun failure hmem ↦ ?_, fun floor hfloor hrises ↦ ?_⟩
  · rw [map_sample_concat, hsamples, List.map_append, List.map_map]
    exact congrArg _ (List.map_id _).symm
  · cases e with
    | looked wake =>
      rwa [Event.sample?, Option.toList_none, List.map_nil, List.append_nil, Event.entries,
        List.append_nil]
    | sampled o =>
      rw [List.zipIdx_append]
      refine List.rel_append htraces (.cons ⟨elapsed, ?_, ?_⟩ .nil)
      · refine hlogs.tells elapsed ?_
        rw [LogEntry.times, List.filterMap_append]
        exact List.mem_append_left _ List.mem_cons_self
      · rw [Nat.zero_add]
  · rw [hlogs.clock]
    refine hlogs.tells t ?_
    rw [LogEntry.times, List.filterMap_append]
    exact List.mem_append_right _ ht
  · rcases List.mem_append.1 hmem with hmem | hmem
    · exact hhanded failure hmem
    · exact hw.handed failure hmem
  · rw [Notice.entries_append, LogEntry.times, List.filterMap_append, hentries]
    exact (hw.climbs floor hfloor hrises).trans (hlogs.climbs floor hfloor)

end HasWritten

end Run

/-! ### Simple assertions -/

/-- The answer that a run has come to. -/
def Turn.answer? : Turn σ α → Option Bool
  | .over _ ending => some ending.isNone
  | _ => none

/-- No sample of an `eventually` that wants one passing sample passes without ending it. -/
theorem Plan.passed_eq_false_of_undecided {p : Plan σ α} {os : List (Observation α)}
    (hmode : p.mode = .eventually) (hrepeats : p.repeats = 1)
    (hos : Run.Undecided p.cause? os) : ∀ o ∈ os, o.sample.passed p.desired = false := by
  intro o ho
  obtain ⟨before, after, rfl⟩ := List.append_of_mem ho
  have hcause := hos before o ⟨after, by rw [List.append_assoc, List.singleton_append]⟩
  by_contra hpassed
  obtain ⟨hpos, hlt⟩ := Plan.passesSinceFailure_of_cause? hmode List.getLast?_concat
    (Bool.not_eq_false _ ▸ hpassed) hcause
  omega

/-- No ordinary failure leaves a `consistently` undecided. -/
theorem Plan.isOrdinaryFailure_eq_false_of_undecided {p : Plan σ α} {os : List (Observation α)}
    (hmode : p.mode = .consistently) (hos : Run.Undecided p.cause? os) :
    ∀ o ∈ os, o.sample.isOrdinaryFailure p.desired = false := by
  intro o ho
  obtain ⟨before, after, rfl⟩ := List.append_of_mem ho
  have hcause := hos before o ⟨after, by rw [List.append_assoc, List.singleton_append]⟩
  rw [Plan.cause?, hmode] at hcause
  dsimp only at hcause
  rw [List.getLast?_concat, Option.bind_some] at hcause
  exact (Plan.not_failing_of_consistentlyCause? (.inl hcause)).1

namespace Run

variable {between : Turn σ α → World σ → World σ → Prop} {p : Plan σ α} {started : Duration}
  {w₀ w : World σ} {h : List (Event α)} {turn : Turn σ α} {r : Run σ α}

/-- **Of an `eventually` that wants one passing sample none passes but the last**, and the last one
does exactly if the run held. -/
theorem Course.passed_eq (hmode : p.mode = .eventually) (hrepeats : p.repeats = 1)
    (hc : Course between (.start p started) w₀ h turn w) :
    ∃ n, (transcript h).samples.map (·.sample.passed p.desired) =
      List.replicate n false ++ turn.answer?.toList := by
  have hstanding := hc.standing p.judges
  cases hrun : turn.run? with
  | some r =>
    have hall := Plan.passed_eq_false_of_undecided hmode hrepeats (hstanding.undecided hrun)
    have hanswer : turn.answer? = none := by cases turn <;> cases hrun <;> rfl
    refine ⟨(transcript h).samples.length, ?_⟩
    rw [hanswer, Option.toList_none, List.append_nil]
    exact List.eq_replicate_iff.2 ⟨List.length_map _, by simpa using hall⟩
  | none =>
    obtain ⟨r, ending, rfl⟩ := Turn.exists_over_of_run? hrun
    obtain ⟨before, last, hsamples, hbefore⟩ := hstanding.exists_concat
    have hlast : (transcript h).samples.getLast? = some last := hsamples ▸ List.getLast?_concat
    have hall := Plan.passed_eq_false_of_undecided hmode hrepeats hbefore
    have hheld : last.sample.passed p.desired = ending.isNone := by
      cases ending with
      | none =>
        obtain hpassed | ⟨hconsistently, -⟩ := hstanding.of_held hlast
        · exact hpassed
        · rw [hmode] at hconsistently
          cases hconsistently
      | some ending =>
        refine Bool.eq_false_iff.2 fun hpassed ↦ ?_
        obtain ⟨cause, elapsed, hending, hcause | ⟨hnone, -⟩⟩ := hstanding.exists_cause
        · rw [Plan.eq_held_of_cause? hlast hpassed hcause] at hending
          cases hending
        · obtain ⟨hpos, hlt⟩ := Plan.passesSinceFailure_of_cause? hmode hlast hpassed hnone
          omega
    refine ⟨before.length, ?_⟩
    rw [hsamples, List.map_append, List.map_singleton, hheld]
    refine congrArg (· ++ _) (List.eq_replicate_iff.2 ⟨List.length_map _, ?_⟩)
    simpa using hall

/-- **Of a `consistently` that failed no sample is an ordinary failure but the last.** -/
theorem Course.isOrdinaryFailure_eq {elapsed : Duration} (hmode : p.mode = .consistently)
    (hc : Course between (.start p started) w₀ h (.over r (some (.failed elapsed))) w) :
    ∃ before last, (transcript h).samples = before ++ [last] ∧
      (∀ o ∈ before, o.sample.isOrdinaryFailure p.desired = false) ∧
      last.sample.isOrdinaryFailure p.desired = true := by
  have hstanding := hc.standing p.judges
  obtain ⟨before, last, hsamples, hbefore⟩ := hstanding.exists_concat
  refine ⟨before, last, hsamples,
    Plan.isOrdinaryFailure_eq_false_of_undecided hmode hbefore, ?_⟩
  obtain ⟨cause, elapsed', hending, hcause⟩ := hstanding.exists_cause
  obtain rfl : cause = .failed := by
    cases cause <;> cases hending
    rfl
  obtain hcause | ⟨-, wake, -, hcause⟩ := hcause
  · rw [Plan.cause?, hmode, hsamples] at hcause
    dsimp only at hcause
    rw [List.getLast?_concat, Option.bind_some, Plan.consistentlyCause?] at hcause
    split at hcause
    · cases hcause
    · split_ifs at hcause with hfailure
      · exact hfailure
      · cases hcause
  · -- no wake is a failure
    rw [hmode] at hcause
    cases wake <;> cases hcause

end Run

end PollAssert
