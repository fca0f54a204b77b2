import PollAssert.Proofs.Flight.Message
import PollAssert.Proofs.Flight.Traffic
import PollAssert.Proofs.Run.Log

/-!
# The log as a transcript of an assertion

The log of an assertion can be read as a transcript of what became of it (`Flight.log_faithful`).

* A valid assertion has an entry for each sample that it took, in this order and numbered from one.
  The entry tells whether the sample passed, and the time since the start by a reading at the
  instant of the sample. If the assertion was answered there is one more entry, the last. It says
  whether the assertion held, and tells the number of samples and the whole time; of a failure it
  also tells how the run ended, as the header of the failure's message does.
* One that was dropped, or that ended with a panic of the code that takes a sample, has no such last
  entry. Nor has it one for the sample that was never finished.
* An invalid assertion writes a single entry, which says so.

Each entry is a line of the log, of a loudness, with a message and with named values that depend on
what it is about (`LogEntry.WrittenAs`): the samples are traces, the answer is a debug line, and a
misconfiguration is a warning.

What happens between two steps is open, and so is the user code. Only for the order of the times is
it asked that nothing of this turns the time back.
-/

namespace PollAssert

variable {σ α : Type}

/-! ### Logbooks -/

/-- The message of a failed run begins with its header. -/
theorem Run.header_of_failureMessage {r : Run σ α} {ending : Ending} {message : String}
    {view : View σ} {s t : σ} (h : r.failureMessage ending view s = (.ok message, t)) :
    ∃ below, message = ending.text ++ "\n" ++ below := by
  obtain ⟨detail, u, -, hcompose⟩ := Effect.bind_eq_ok_iff.1 h
  change Description.compose ending.text r.plan.description detail view u = _ at hcompose
  rw [Description.compose_eq_lines] at hcompose
  obtain ⟨words, -, rfl⟩ := Effect.map_eq_ok_iff.1 hcompose
  exact ⟨Description.line words ++ detail, String.append_assoc⟩

namespace Plan

variable {p : Plan σ α} {started : Duration} {xs : List ((Sample α × Duration) × Nat)}
  {taken : List (Sample α × Duration)} {traces : List LogEntry}

theorem exists_traces_of_mem (h : List.Forall₂ (p.Traces started) xs traces) {entry : LogEntry}
    (hentry : entry ∈ traces) : ∃ x ∈ xs, p.Traces started x entry := by
  induction h with
  | nil => cases hentry
  | cons hx _ ih =>
    rcases List.mem_cons.1 hentry with rfl | hrest
    · exact ⟨_, List.mem_cons_self, hx⟩
    · obtain ⟨x, hmem, htraces⟩ := ih hrest
      exact ⟨x, List.mem_cons_of_mem _ hmem, htraces⟩

/-- The entries of the samples tell their verdicts. -/
theorem passed_of_traces (h : List.Forall₂ (p.Traces started) taken.zipIdx traces) :
    traces.filterMap LogEntry.passed? = (taken.map Prod.fst).map (Sample.passed p.desired) := by
  have hall : ∀ {xs : List ((Sample α × Duration) × Nat)} {traces : List LogEntry},
      List.Forall₂ (p.Traces started) xs traces →
        traces.filterMap LogEntry.passed? = xs.map fun x ↦ x.1.1.passed p.desired := by
    intro xs traces h
    induction h with
    | nil => rfl
    | cons hx _ ih =>
      obtain ⟨elapsed, -, rfl⟩ := hx
      exact congrArg (_ :: ·) ih
  rw [hall h, List.map_map, ← List.zipIdx_map_fst 0 taken, List.map_map, List.zipIdx_map_fst]
  rfl

end Plan

theorem Notice.since_self (notices : List Notice) : since notices notices = [] :=
  since_append [] notices

theorem Notice.writtenAs_lines (notices : List Notice) :
    List.Forall₂ LogEntry.WrittenAs (entries notices) (lines notices) :=
  List.forall₂_map_right_iff.2 (List.forall₂_same.2 fun entry _ ↦ entry.writtenAs_line)

theorem Notice.failures_eq_nil {notices : List Notice}
    (h : ∀ failure, Notice.handed failure ∉ notices) : failures notices = [] := by
  rw [failures, List.reverse_eq_nil_iff, List.filterMap_eq_nil_iff]
  intro n hn
  cases n with
  | handed failure => exact absurd hn (h failure)
  | logged | slept => rfl

namespace Flight

/-- A history of an assertion: the reading with which it started, the samples that it has taken and
the instants at which it took them, what was noticed in its turns, newest first, and what is left of
it. Between two turns the world changes as `between` says. The assertion may be dropped between
them, and it ends with the code that takes a sample if that panics, or halts in another way. -/
inductive Logbook (between : World σ → World σ → Prop) (f₀ : Flight σ α) (w₀ : World σ) :
    Option Duration → List (Sample α × Duration) → List Notice → Option (Flight σ α) → World σ →
      Prop
  | start : Logbook between f₀ w₀ none [] [] (some f₀) w₀
  | meanwhile {begun : Option Duration} {taken : List (Sample α × Duration)} {notices : List Notice}
      {f : Flight σ α} {w u : World σ}
      (hl : Logbook between f₀ w₀ begun taken notices (some f) w) (hon : f.answer? = none)
      (hbetween : between w u) : Logbook between f₀ w₀ begun taken notices (some f) u
  | step {begun : Option Duration} {taken : List (Sample α × Duration)} {notices : List Notice}
      {f f' : Flight σ α} {waits : Bool} {w v : World σ}
      (hl : Logbook between f₀ w₀ begun taken notices (some f) w) (hon : f.answer? = none)
      (hstep : f.step w = (.ok (f', waits), v)) :
      Logbook between f₀ w₀ (begun.or (f.readingOn w))
        (taken ++ (f.sampleOn w).toList.map (·, w.clock))
        (Notice.since w.notices v.notices ++ notices) (some f') v
  | halted {begun : Option Duration} {taken : List (Sample α × Duration)} {notices : List Notice}
      {a : Assertion σ α} {handler : Handler σ} {run : Run σ α} {p p' : Halt} {w u v : World σ}
      (hl : Logbook between f₀ w₀ begun taken notices (some (.polling a handler run)) w)
      (hphase : run.phase = .sampling) (hobserve : run.observe w = (.error p, u))
      (hstep : (polling a handler run).step w = (.error p', v)) :
      Logbook between f₀ w₀ begun taken (Notice.since w.notices v.notices ++ notices) none v
  | drop {begun : Option Duration} {taken : List (Sample α × Duration)} {notices : List Notice}
      {f : Flight σ α} {w : World σ}
      (hl : Logbook between f₀ w₀ begun taken notices (some f) w) (hon : f.answer? = none) :
      Logbook between f₀ w₀ begun taken notices none w

/-- The last entry of a log, and the failures that were handed over, of an assertion that took so
many samples. The time is told by a reading at the given instant. -/
inductive Closes (a : Assertion σ α) (p : Plan σ α) (started clock : Duration) (samples : Nat) :
    Option Bool → List LogEntry → List Failure → Prop
  /-- Without an answer there is none. -/
  | unanswered : Closes a p started clock samples none [] []
  | held {total : Duration} (htotal : p.time.Tells started clock total) :
      Closes a p started clock samples (some true) [.held p.mode samples total] []
  /-- The header of the message says how the run ended. -/
  | failed {total : Duration} {ending : Ending} {below : String} {skip : UInt64}
      (htotal : p.time.Tells started clock total) (hskip : callerSkip? a.offset = some skip) :
      Closes a p started clock samples (some false) [.failed p.mode samples total ending]
        [⟨ending.text ++ "\n" ++ below, skip, a.site⟩]

/-- What the log of an assertion tells that is answered as given when the clock stands at the given
instant, or is not. -/
structure Transcribes (between : World σ → World σ → Prop) (a : Assertion σ α) (p : Plan σ α)
    (begun : Option Duration) (taken : List (Sample α × Duration)) (notices : List Notice)
    (clock : Duration) (answer? : Option Bool) : Prop where
  /-- Each sample has an entry, in order, and an answer has one as well. The times count from the
  reading with which the assertion started. -/
  log : ∃ started traces closing,
    (begun = some started ∨ begun = none ∧ taken = [] ∧ answer? = none) ∧
    Notice.entries notices = traces ++ closing ∧
    List.Forall₂ (p.Traces started) taken.zipIdx traces ∧
    Closes a p started clock taken.length answer? closing (Notice.failures notices)
  /-- Every entry is written on a line of its own: as a trace if it is of a sample, and as a debug
  line if it is of the answer. -/
  lines : List.Forall₂ LogEntry.WrittenAs (Notice.entries notices) (Notice.lines notices)
  /-- On a clock that never goes back the times do not either. -/
  times : ∀ floor, p.Rising floor →
    (∀ u v, between u v → floor u.clock u.user ≤ floor v.clock v.user) →
    (LogEntry.times (Notice.entries notices)).Pairwise (· ≤ ·)
  /-- If one passing sample is enough, none passes before the last, and the last one passes exactly
  if the assertion held. -/
  eventually : p.mode = .eventually → p.repeats = 1 → ∃ n,
    (Notice.entries notices).filterMap LogEntry.passed? =
      List.replicate n false ++ answer?.toList
  /-- Of a `consistently` that failed none is an ordinary failure but the last. -/
  consistently : p.mode = .consistently → ∀ samples total elapsed,
    .failed .consistently samples total (.failed elapsed) ∈ Notice.entries notices →
    ∃ before last, taken.map Prod.fst = before ++ [last] ∧
      (∀ s ∈ before, s.isOrdinaryFailure p.desired = false) ∧
      last.isOrdinaryFailure p.desired = true

variable {between : World σ → World σ → Prop} {a : Assertion σ α} {m : Matcher σ α} {desired : Bool}
  {d : Description σ} {p : Plan σ α} {started : Duration} {taken : List (Sample α × Duration)}
  {notices : List Notice} {w₀ w u v : World σ} {f' : Flight σ α} {waits : Bool}

/-- Handing over a failure writes nothing to the log. -/
theorem notices_of_hand {handler : Handler σ} {failure : Failure}
    (hhand : Engine.hand handler failure w = (.ok (), v)) :
    v.notices = .handed failure :: w.notices ∧ v.clock = w.clock := by
  obtain ⟨_, u, hnote, hcall⟩ := Effect.bind_eq_ok_iff.1 hhand
  obtain ⟨-, rfl⟩ := Prod.mk.inj hnote
  obtain ⟨user, -, rfl⟩ := Engine.call_eq_ok_iff.1 hcall
  exact ⟨rfl, rfl⟩

/-- The transcript of a run, if the last entry is right. -/
theorem transcribes_of_hasWritten {turn : Turn σ α} {notices' : List Notice} {clock : Duration}
    (hw : Run.HasWritten between p started taken notices turn w)
    (hentries : Notice.entries notices' = Notice.entries notices)
    (hcloses : ∀ total,
      (∀ t ∈ LogEntry.times (turn.closing total), p.time.Tells started w.clock t) →
      Closes a p started clock taken.length turn.answer? (turn.closing total)
        (Notice.failures notices')) :
    Transcribes between a p (some started) taken notices' clock turn.answer? := by
  obtain ⟨h, w₁, w', hc, hsamples⟩ := hw.course
  obtain ⟨traces, total, hlog, htraces, htells⟩ := hw.log
  rw [← hentries] at hlog
  refine ⟨⟨started, traces, turn.closing total, .inl rfl, hlog, htraces, hcloses total htells⟩,
    Notice.writtenAs_lines notices', fun floor hfloor hrises ↦ ?_, fun hmode hrepeats ↦ ?_,
    fun hmode samples total' elapsed hmem ↦ ?_⟩
  · rw [hentries]
    exact (hw.climbs floor hfloor hrises).pairwise
  · obtain ⟨n, hpassed⟩ := hc.passed_eq hmode hrepeats
    have hclosing : (turn.closing total).filterMap LogEntry.passed? = [] := by
      rcases turn with run | run | ⟨run, - | ending⟩ <;> rfl
    refine ⟨n, ?_⟩
    rw [hlog, List.filterMap_append, hclosing, List.append_nil, p.passed_of_traces htraces,
      ← hpassed, ← hsamples, List.map_map]
    rfl
  · -- such an entry is not that of a sample, so it is the last one
    rw [hlog] at hmem
    rcases List.mem_append.1 hmem with htrace | hclosing
    · obtain ⟨x, -, elapsed', -, hentry⟩ := Plan.exists_traces_of_mem htraces htrace
      cases hentry
    rcases turn with run | run | ⟨run, - | ending⟩
    · cases hclosing
    · cases hclosing
    · cases List.mem_singleton.1 hclosing
    · obtain ⟨-, -, -, rfl⟩ := LogEntry.failed.inj (List.mem_singleton.1 hclosing)
      obtain ⟨before, last, hall, hbefore, hlast⟩ := hc.isOrdinaryFailure_eq hmode
      refine ⟨before.map Observation.sample, last.sample, ?_, ?_, hlast⟩
      · rw [← hsamples, hall, List.map_append, List.map_singleton]
      · intro s hs
        obtain ⟨o, ho, rfl⟩ := List.mem_map.1 hs
        exact hbefore o ho

/-- Where a valid assertion is after a history. -/
inductive Page (between : World σ → World σ → Prop) (a : Assertion σ α) (m : Matcher σ α)
    (desired : Bool) (d : Description σ) (p : Plan σ α) :
    Option Duration → List (Sample α × Duration) → List Notice → Option (Flight σ α) → World σ →
      Prop
  | grounded {w : World σ} :
      Page between a m desired d p none [] [] (some (.grounded a m desired d)) w
  | polling {started : Duration} {taken : List (Sample α × Duration)} {notices : List Notice}
      {handler : Handler σ} {turn : Turn σ α} {run : Run σ α} {w : World σ}
      (hrun : turn.run? = some run)
      (hw : Run.HasWritten between p started taken notices turn w) :
      Page between a m desired d p (some started) taken notices (some (.polling a handler run)) w
  | ended {begun : Option Duration} {taken : List (Sample α × Duration)} {notices : List Notice}
      {future : Option (Flight σ α)} {w : World σ}
      (hended : ∀ f, future = some f → ∃ held, f = .landed held)
      (ht : Transcribes between a p begun taken notices w.clock (future.bind answer?)) :
      Page between a m desired d p begun taken notices future w

/-- The first step writes nothing and starts the run, or writes that the assertion is misconfigured.
-/
theorem notices_of_takeOff (hstep : (grounded a m desired d).step w = (.ok (f', waits), v)) :
    match a.plan m desired d with
    | .ok plan => ∃ handler started, (grounded a m desired d).readingOn w = some started ∧
        f' = .polling a handler (.start plan started) ∧ v.notices = w.notices
    | .error cause => f' = .landed false ∧ ∃ failure,
        v.notices = .handed failure :: .logged (.misconfigured a.mode (.misconfigured cause)) ::
          w.notices := by
  have hread : ∀ {started u}, Engine.call none a.bench.time.now w = (.ok started, u) →
      (grounded a m desired d).readingOn w = some started ∧ u.notices = w.notices := by
    intro started u hnow
    obtain ⟨user, -, hu⟩ := Engine.call_eq_ok_iff.1 hnow
    rw [readingOn, hnow, hu]
    exact ⟨rfl, rfl⟩
  cases advances hstep with
  | @takesOff _ _ _ _ handler plan started _ _ hhandler hnow hplan =>
    obtain ⟨hreading, hnotices⟩ := hread hnow
    rw [hplan]
    exact ⟨handler, started, hreading, rfl, hnotices⟩
  | refused hhandler hnow hplan _ hhand =>
    obtain ⟨-, hnotices⟩ := hread hnow
    rw [hplan]
    exact ⟨rfl, _, hnotices ▸ (notices_of_hand hhand).1⟩

/-- **A step of a run keeps the transcript.** -/
theorem page_of_polling {handler : Handler σ} {turn : Turn σ α} {run : Run σ α}
    (hrun : turn.run? = some run) (hw : Run.HasWritten between p started taken notices turn w)
    (hstep : (polling a handler run).step w = (.ok (f', waits), v)) :
    Page between a m desired d p (some started)
      (taken ++ ((polling a handler run).sampleOn w).toList.map (·, w.clock))
      (Notice.since w.notices v.notices ++ notices) (some f') v := by
  have hwritten : ∀ {e turn' u}, run.Steps w e turn' u → ∃ new, u.notices = new ++ w.notices ∧
      Run.HasWritten between p started
        (taken ++ ((polling a handler run).sampleOn w).toList.map (·, w.clock)) (new ++ notices)
        turn' u := by
    intro e turn' u hs
    obtain ⟨elapsed, total, hlogs⟩ := hs.logs
    obtain ⟨new, hnew, -⟩ := hlogs.notices
    rw [sampleOn_of_steps hs]
    exact ⟨new, hnew, hw.step hrun hs hnew⟩
  cases advances hstep with
  | goesOn hs hrun' =>
    obtain ⟨new, hnew, hw'⟩ := hwritten hs
    rw [hnew, Notice.since_append]
    exact .polling hrun' hw'
  | held hs =>
    obtain ⟨new, hnew, hw'⟩ := hwritten hs
    refine .ended (fun f hf ↦ ⟨true, (Option.some.inj hf).symm⟩) ?_
    rw [hnew, Notice.since_append]
    refine transcribes_of_hasWritten hw' rfl fun total htells ↦ ?_
    rw [Notice.failures_eq_nil hw'.handed, ← hw'.run_eq.1, ← hw'.run_eq.2.2]
    rw [← hw'.run_eq.1] at htells
    exact .held (htells total List.mem_cons_self)
  | failed hs hmessage hskip hhand =>
    obtain ⟨new, hnew, hw'⟩ := hwritten hs
    obtain ⟨hhanded, hclock⟩ := notices_of_hand hhand
    obtain ⟨user, htext, rfl⟩ := Engine.call_eq_ok_iff.1 hmessage
    obtain ⟨below, rfl⟩ := Run.header_of_failureMessage htext
    dsimp only at hhanded hclock
    refine .ended (fun f hf ↦ ⟨false, (Option.some.inj hf).symm⟩) ?_
    rw [hhanded, hclock, hnew, ← List.cons_append, Notice.since_append]
    refine transcribes_of_hasWritten hw' rfl fun total htells ↦ ?_
    rw [List.cons_append, Notice.failures_cons_handed, Notice.failures_eq_nil hw'.handed,
      ← hw'.run_eq.1, ← hw'.run_eq.2.2]
    rw [← hw'.run_eq.1] at htells
    exact .failed (htells total List.mem_cons_self) hskip

/-- At every stage the log is a transcript. -/
theorem Page.transcribes {begun : Option Duration} {future : Option (Flight σ α)}
    (hw : Page between a m desired d p begun taken notices future w) :
    Transcribes between a p begun taken notices w.clock (future.bind answer?) := by
  cases hw with
  | grounded =>
    exact ⟨⟨.zero, [], [], .inr ⟨rfl, rfl, rfl⟩, rfl, .nil, .unanswered⟩, .nil, fun _ _ _ ↦ .nil,
      fun _ _ ↦ ⟨0, rfl⟩, nofun⟩
  | @polling _ _ _ _ turn _ _ hrun hw =>
    have hquiet := Notice.failures_eq_nil hw.handed
    rcases turn with run | run | ⟨run, ending⟩
    · exact transcribes_of_hasWritten hw rfl fun _ _ ↦ hquiet ▸ .unanswered
    · exact transcribes_of_hasWritten hw rfl fun _ _ ↦ hquiet ▸ .unanswered
    · cases hrun
  | ended _ ht => exact ht

/-- If the code that takes a sample halts then it leaves no trace of the sample. -/
theorem notices_of_observe {handler : Handler σ} {run : Run σ α} {p p' : Halt}
    (hphase : run.phase = .sampling) (hobserve : run.observe w = (.error p, u))
    (hstep : (polling a handler run).step w = (.error p', v)) :
    v.notices = w.notices ∧ v.clock = w.clock := by
  have hrun : run.step w = (.error p, u) := by
    rw [Run.step_of_sampling hphase]
    exact Effect.bind_of_error hobserve _
  have hend : (polling a handler run).step w = (.error p, u) := Effect.bind_of_error hrun _
  obtain ⟨-, rfl⟩ := Prod.mk.inj (hstep.symm.trans hend)
  rw [Run.observe, Run.call_apply] at hobserve
  obtain ⟨-, rfl⟩ := Prod.mk.inj hobserve
  exact ⟨rfl, rfl⟩

/-- **Every logbook keeps to the transcript**, if the assertion is valid. -/
theorem Logbook.page {begun : Option Duration} {future : Option (Flight σ α)}
    (hp : a.plan m desired d = .ok p)
    (hl : Logbook between (.grounded a m desired d) w₀ begun taken notices future w) :
    Page between a m desired d p begun taken notices future w := by
  induction hl with
  | start => exact .grounded
  | meanwhile hl hon hbetween ih =>
    cases ih with
    | grounded => exact .grounded
    | polling hrun hw => exact .polling hrun (hw.meanwhile hrun hbetween)
    | ended hended =>
      obtain ⟨held, rfl⟩ := hended _ rfl
      cases hon
  | step hl hon hstep ih =>
    cases ih with
    | grounded =>
      have hstart := notices_of_takeOff hstep
      rw [hp] at hstart
      obtain ⟨handler, started, hreading, rfl, hnotices⟩ := hstart
      rw [hreading, hnotices, Notice.since_self]
      exact .polling rfl (.start between p started _)
    | polling hrun hw => exact page_of_polling hrun hw hstep
    | ended hended =>
      obtain ⟨held, rfl⟩ := hended _ rfl
      cases hon
  | halted hl hphase hobserve hstep ih =>
    obtain ⟨hnotices, hclock⟩ := notices_of_observe hphase hobserve hstep
    rw [hnotices, Notice.since_self, List.nil_append]
    exact .ended (fun _ hnone ↦ nomatch hnone) (hclock ▸ ih.transcribes)
  | drop hl hon ih =>
    have ht := ih.transcribes
    rw [Option.bind_some, hon] at ht
    exact .ended (fun _ hnone ↦ nomatch hnone) ht

/-- A misconfigured assertion takes no samples, and writes nothing but that it is misconfigured. -/
theorem Logbook.of_misconfigured {cause : Misconfiguration} {begun : Option Duration}
    {future : Option (Flight σ α)} (hp : a.plan m desired d = .error cause)
    (hl : Logbook between (.grounded a m desired d) w₀ begun taken notices future w) :
    taken = [] ∧
      ((future = some (.grounded a m desired d) ∨ future = none) ∧ Notice.entries notices = [] ∨
        future = some (.landed false) ∧
          Notice.entries notices = [.misconfigured a.mode (.misconfigured cause)]) := by
  induction hl with
  | start => exact ⟨rfl, .inl ⟨.inl rfl, rfl⟩⟩
  | meanwhile _ _ _ ih => exact ih
  | @step begun taken notices f f' waits w v _ hon hstep ih =>
    obtain ⟨rfl, ⟨hgrounded | hnone, hentries⟩ | ⟨hlanded, -⟩⟩ := ih
    · obtain rfl := Option.some.inj hgrounded
      have hstart := notices_of_takeOff hstep
      rw [hp] at hstart
      obtain ⟨rfl, failure, hnotices⟩ := hstart
      have hsince : Notice.since w.notices v.notices = [.handed failure,
          .logged (.misconfigured a.mode (.misconfigured cause))] := by
        rw [hnotices]
        exact Notice.since_append [_, _] w.notices
      refine ⟨rfl, .inr ⟨rfl, ?_⟩⟩
      rw [hsince, Notice.entries_append, hentries]
      rfl
    · cases hnone
    · cases hlanded
      cases hon
  | halted _ _ _ _ ih =>
    obtain ⟨-, ⟨hgrounded | hnone, -⟩ | ⟨hlanded, -⟩⟩ := ih
    · cases hgrounded
    · cases hnone
    · cases hlanded
  | drop _ hon ih =>
    obtain ⟨rfl, ⟨-, hentries⟩ | ⟨hlanded, -⟩⟩ := ih
    · exact ⟨rfl, .inl ⟨.inr rfl, hentries⟩⟩
    · cases hlanded
      cases hon

/-- **The log is a faithful transcript.** A valid assertion has in it an entry for each sample and
one for its answer, if there is one. An invalid assertion has a single entry, a warning that says
why. -/
theorem log_faithful {begun : Option Duration} {future : Option (Flight σ α)}
    (hl : Logbook between (.demand a m desired d) w₀ begun taken notices future w) :
    (∀ p, a.plan m desired d = .ok p →
      Transcribes between a p begun taken notices w.clock (future.bind answer?)) ∧
    ∀ cause, a.plan m desired d = .error cause → taken = [] ∧
      (future.bind answer? = none ∧ Notice.entries notices = [] ∨
        future.bind answer? = some false ∧
          Notice.entries notices = [.misconfigured a.mode (.misconfigured cause)] ∧
          Notice.lines notices = [⟨"WARN", "invalid assertion configuration",
            [("mode", a.mode.text), ("error", cause.text)]⟩]) := by
  refine ⟨fun p hp ↦ (Logbook.page hp hl).transcribes, fun cause hp ↦ ?_⟩
  obtain ⟨htaken, ⟨rfl | rfl, hentries⟩ | ⟨rfl, hentries⟩⟩ := Logbook.of_misconfigured hp hl
  · exact ⟨htaken, .inl ⟨rfl, hentries⟩⟩
  · exact ⟨htaken, .inl ⟨rfl, hentries⟩⟩
  · have hlines : Notice.lines notices = [(LogEntry.misconfigured a.mode _).line] :=
      congrArg (List.map LogEntry.line) hentries
    exact ⟨htaken, .inr ⟨rfl, hentries, hlines⟩⟩

/-- The clock moves on, and nothing else happens. -/
def clockMovesOn (w u : World σ) : Prop := ∃ clock, w.clock ≤ clock ∧ u = { w with clock := clock }

/-- The first sample of the doomed assertion asks to be tried again after five milliseconds, and the
second one to stop. Both are traced, and the end is a debug line. -/
theorem log_faithful_doomed : ∃ taken notices w,
    Logbook clockMovesOn (.demand doomed (.equalTo 2) true .none) ⟨{}, .zero, []⟩ (some .zero) taken
      notices (some (.landed false)) w ∧
    Notice.entries notices = [.sampled .eventually 1 .zero false,
      .sampled .eventually 2 (.ofMillis 5) false,
      .failed .eventually 2 (.ofMillis 5) (.stopped "gone" (.ofMillis 5))] ∧
    Notice.lines notices =
      [⟨"TRACE", "sampled", [("mode", "Eventually"), ("sample", "1"), ("elapsed", "0ns"),
          ("passed", "false")]⟩,
        ⟨"TRACE", "sampled", [("mode", "Eventually"), ("sample", "2"), ("elapsed", "5ms"),
          ("passed", "false")]⟩,
        ⟨"DEBUG", "assertion failed", [("mode", "Eventually"), ("samples", "2"),
          ("elapsed", "5ms"), ("error", "gone after 5ms.")]⟩] ∧
    Transcribes clockMovesOn doomed doomedPlan (some .zero) taken notices (.ofMillis 5)
      (some false) ∧
    (LogEntry.times (Notice.entries notices)).Pairwise (· ≤ ·) := by
  obtain ⟨taken, notices, w, hl, hentries, hclock⟩ : ∃ taken notices w,
      Logbook clockMovesOn (.demand doomed (.equalTo 2) true .none) ⟨{}, .zero, []⟩ (some .zero)
        taken notices (some (.landed false)) w ∧
      Notice.entries notices = [.sampled .eventually 1 .zero false,
        .sampled .eventually 2 (.ofMillis 5) false,
        .failed .eventually 2 (.ofMillis 5) (.stopped "gone" (.ofMillis 5))] ∧
      w.clock = .ofMillis 5 :=
    ⟨_, _, _, .step (.step (.meanwhile (.step (.step .start rfl rfl) rfl rfl) rfl
      ⟨.ofMillis 5, Nat.zero_le _, rfl⟩) rfl rfl) rfl rfl, rfl, rfl⟩
  obtain ⟨hvalid, -⟩ := log_faithful hl
  have ht : Transcribes _ doomed doomedPlan _ _ _ w.clock (some false) := hvalid doomedPlan rfl
  refine ⟨taken, notices, w, hl, hentries, ?_, hclock ▸ ht, ?_⟩
  · rw [Notice.lines, hentries]
    rfl
  refine ht.times _ (Plan.rising_runtime (show doomedPlan.time = .runtime .zero from rfl)) ?_
  rintro w _ ⟨clock, hle, rfl⟩
  exact Duration.saturatingSub_le_saturatingSub hle .zero

end Flight

end PollAssert
