import PollAssert.Proofs.Flight.Reporter

/-!
# How often the code that judges and explains is called

An assertion calls four callbacks besides the code that produces its values: the judgement and the
oracle of its matcher, the matcher's text of one polarity or the other, and a description that is
computed. This module says exactly which calls are made in the course of an assertion, and in which
order, by a user's state that keeps a list of them (`Assertion.Lists`).

* A sample with a value is judged once, and then put to the oracle if its source is a fixed value. A
  sample without a value calls nothing (`Plan.callsOfSample`).
* A text is composed for each report that is asked for while the run is on, and once more if the run
  fails: the latest sample is explained by the text of the assertion's polarity if it has a verdict,
  and then the description is computed (`Plan.callsOfText`).
* Nothing else calls any of them. An assertion that is misconfigured calls none at all.

The reports are asked for between two steps, any number of times; what else happens there must leave
the list alone (`Flight.Watched`).
-/

namespace PollAssert

variable {σ α β γ : Type}

/-! ### Calls -/

/-- A call of the code that judges and explains. -/
inductive Call (α : Type) where
  /-- The matcher judged the value. -/
  | judged (value : α)
  /-- The oracle was asked about the value. -/
  | asked (value : α)
  /-- The text of the given polarity was asked for. -/
  | explained (desired : Bool) (value : α)
  /-- The description was computed. -/
  | described
  deriving DecidableEq

namespace Call

/-- The value that was judged. -/
def judged? : Call α → Option α
  | .judged a => some a
  | _ => none

/-- The value that the oracle was asked about. -/
def asked? : Call α → Option α
  | .asked a => some a
  | _ => none

/-- The polarity of the text that was asked for. -/
def explained? : Call α → Option Bool
  | .explained desired _ => some desired
  | _ => none

/-- Was the description computed? -/
def isDescribed : Call α → Bool
  | .described => true
  | _ => false

/-- Did the call render a part of a text? -/
def isText (c : Call α) : Bool := c.explained?.isSome || c.isDescribed

end Call

/-- Every call of the action that returns adds the given calls to the list, whatever it sees. -/
def Action.Adds (calls : σ → List (Call α)) (new : List (Call α)) (act : Action σ β) : Prop :=
  ∀ view s b t, act view s = (.ok b, t) → calls t = calls s ++ new

namespace Action.Adds

variable {calls : σ → List (Call α)} {new new' : List (Call α)} {act : Action σ β}

protected theorem pure (b : β) : Action.Adds calls [] (pure b : Action σ β) := by
  intro view s c t h
  obtain ⟨-, rfl⟩ := Effect.pure_eq_ok_iff.1 h
  exact (List.append_nil _).symm

protected theorem clock : Action.Adds calls [] (Action.clock : Action σ Duration) := by
  intro view s c t h
  obtain ⟨-, rfl⟩ := Effect.pure_eq_ok_iff.1 h
  exact (List.append_nil _).symm

protected theorem bind {f : β → Action σ γ} (ha : act.Adds calls new)
    (hf : ∀ b, (f b).Adds calls new') : Action.Adds calls (new ++ new') (act >>= f) := by
  intro view s c u h
  obtain ⟨b, t, hact, hrest⟩ := Effect.bind_eq_ok_iff.1 h
  rw [hf b view t c u hrest, ha view s b t hact, List.append_assoc]

protected theorem map (ha : act.Adds calls new) (f : β → γ) :
    Action.Adds calls new (f <$> act) := by
  intro view s c t h
  obtain ⟨b, hact, -⟩ := Effect.map_eq_ok_iff.1 h
  exact ha view s b t hact

/-- Called by the library, the action adds the same. -/
theorem of_call (ha : act.Adds calls new) {report : Option (Nat → Effect σ String)}
    {w v : World σ} {b : β} (h : Engine.call report act w = (.ok b, v)) :
    calls v.user = calls w.user ++ new := by
  obtain ⟨user, hact, rfl⟩ := Engine.call_eq_ok_iff.1 h
  exact ha _ _ _ _ hact

/-- What adds nothing keeps the list, if it returns. -/
theorem keeps_call (ha : act.Adds calls []) (report : Option (Nat → Effect σ String))
    (list : List (Call α)) :
    (Engine.call report act).Keeps (fun w ↦ calls w.user = list) fun _ ↦ True := by
  intro w hw
  rcases h : Engine.call report act w with ⟨p | b, v⟩
  · trivial
  · exact (ha.of_call h).trans (hw ▸ List.append_nil _)

end Action.Adds

/-- Every call of the matcher adds itself. -/
structure Matcher.Adds (calls : σ → List (Call α)) (m : Matcher σ α) : Prop where
  judge : ∀ a, (m.judge a).Adds calls [.judged a]
  mayChange : ∀ a, (m.mayChange a).Adds calls [.asked a]
  failureText : ∀ a, (m.failureText a).Adds calls [.explained true a]
  negatedText : ∀ a, (m.negatedText a).Adds calls [.explained false a]

theorem Matcher.Adds.textFor {calls : σ → List (Call α)} {m : Matcher σ α} (hm : m.Adds calls)
    (desired : Bool) (a : α) : (m.textFor desired a).Adds calls [.explained desired a] := by
  cases desired with
  | true => exact hm.failureText a
  | false => exact hm.negatedText a

/-- No call of the source of time adds anything. -/
structure TimeSource.AddsNothing (calls : σ → List (Call α)) (t : TimeSource σ) : Prop where
  now : t.now.Adds calls []
  sleep : ∀ d, (t.sleep d).Adds calls []
  wait : ∀ wait, t.sleepUntil? = some wait → ∀ d, (wait d).Adds calls []

theorem TimeSource.AddsNothing.runtime {calls : σ → List (Call α)} (epoch : Duration) :
    (TimeSource.runtime epoch).AddsNothing calls where
  now := Action.Adds.clock.bind fun _ ↦ .pure _
  sleep d := Action.Adds.clock.bind fun _ ↦ .pure _
  wait := by
    rintro wait ⟨⟩ d
    exact .pure _

namespace Description

/-- Is the text computed when it is needed? -/
def isLazy : Description σ → Bool
  | .computed _ => true
  | _ => false

/-- The calls of the description for a text. -/
def calls (d : Description σ) : List (Call α) := if d.isLazy then [.described] else []

/-- Every call of the description adds itself. -/
def Adds (list : σ → List (Call α)) (d : Description σ) : Prop :=
  ∀ describe, d = .computed describe → describe.Adds list [.described]

theorem Adds.compose {list : σ → List (Call α)} {d : Description σ} (hd : d.Adds list)
    (header detail : String) : (d.compose header detail).Adds list d.calls := by
  have hrender : d.render.Adds list d.calls := by
    cases d with
    | none => exact .pure _
    | text s => exact .pure _
    | computed describe => exact (hd describe rfl).bind fun _ ↦ .pure _
  have hshow : ∀ shown, Action.Adds list [] (match shown with
      | Option.none => pure (header ++ "\n" ++ detail)
      | some shown => pure (header ++ "\n" ++ shown ++ "\n" ++ detail) : Action σ String) := by
    intro shown
    cases shown <;> exact .pure _
  exact List.append_nil (d.calls : List (Call α)) ▸ hrender.bind hshow

end Description

/-! ### What a plan calls -/

namespace Plan

variable (p : Plan σ α)

/-- The calls on taking a sample. -/
def callsOfSample (s : Sample α) : List (Call α) :=
  s.value?.toList.map .judged ++ if p.source.isFixed then s.value?.toList.map .asked else []

/-- The calls that explain the latest sample. -/
def callsOfDetail (latest : Option (Sample α)) : List (Call α) :=
  match latest with
  | some (.judged a _) => [.explained p.desired a]
  | _ => []

/-- The calls on composing a text. -/
def callsOfText (latest : Option (Sample α)) : List (Call α) :=
  p.callsOfDetail latest ++ p.description.calls

/-- The callbacks of the plan add themselves, and nothing else that it calls adds anything. -/
structure Lists (calls : σ → List (Call α)) (p : Plan σ α) : Prop where
  matcher : p.matcher.Adds calls
  description : p.description.Adds calls
  source : p.source.take.Adds calls []
  time : p.time.AddsNothing calls

end Plan

namespace Run

variable {calls : σ → List (Call α)} {r : Run σ α} {w v : World σ}

/-- Judging what the source gave adds the judgement, if there is a value. -/
theorem calls_of_ofResult {m : Matcher σ α} (hm : m.Adds calls) {result : Except Mishap α}
    {sample : Sample α} {view : View σ} {s t : σ}
    (h : Sample.ofResult m result view s = (.ok sample, t)) :
    calls t = calls s ++ sample.value?.toList.map Call.judged := by
  cases result with
  | error mishap =>
    obtain ⟨rfl, rfl⟩ := Effect.pure_eq_ok_iff.1 h
    exact (List.append_nil _).symm
  | ok a =>
    obtain ⟨verdict, u, hjudge, hrest⟩ := Effect.bind_eq_ok_iff.1 h
    rw [show calls t = calls s ++ [.judged a] from ?_]
    · cases verdict with
      | ok matched =>
        obtain ⟨rfl, -⟩ := Effect.pure_eq_ok_iff.1 hrest
        rfl
      | error fault =>
        obtain ⟨rfl, -⟩ := Effect.pure_eq_ok_iff.1 hrest
        rfl
    · rw [← hm.judge a _ _ _ _ hjudge]
      cases verdict <;> rw [(Effect.pure_eq_ok_iff.1 hrest).2]

/-- The oracle adds that it was asked, if there is a value and the source is fixed. -/
theorem calls_of_askOracle {source : Source σ α} {m : Matcher σ α} (hm : m.Adds calls)
    {sample : Sample α} {answer : Option Bool} {view : View σ} {s t : σ}
    (h : sample.askOracle source m view s = (.ok answer, t)) :
    calls t = calls s ++ if source.isFixed then sample.value?.toList.map Call.asked else [] := by
  rw [Sample.askOracle] at h
  generalize source.isFixed = fixed at h ⊢
  generalize sample.value? = value at h ⊢
  cases fixed with
  | false => exact Action.Adds.pure _ _ _ _ _ h
  | true =>
    cases value with
    | none => exact Action.Adds.pure _ _ _ _ _ h
    | some a => exact (hm.mayChange a).map some _ _ _ _ h

/-- A sample adds the calls that take it. -/
theorem calls_of_observe (hp : r.plan.Lists calls) {o : Observation α}
    (h : r.observe w = (.ok o, v)) :
    calls v.user = calls w.user ++ r.plan.callsOfSample o.sample := by
  have hcall : Engine.call (some (r.report w.clock))
      (Observation.take r.plan.source r.plan.matcher) w = (.ok o, v) := h
  obtain ⟨user, htake, rfl⟩ := Engine.call_eq_ok_iff.1 hcall
  rw [Observation.take_eq] at htake
  obtain ⟨result, s₁, hresult, hrest⟩ := Effect.bind_eq_ok_iff.1 htake
  obtain ⟨sample, s₂, hsample, hrest⟩ := Effect.bind_eq_ok_iff.1 hrest
  obtain ⟨mayChange, s₃, hask, hrest⟩ := Effect.bind_eq_ok_iff.1 hrest
  obtain ⟨rfl, rfl⟩ := Effect.pure_eq_ok_iff.1 hrest
  show calls s₃ = _
  rw [calls_of_askOracle hp.matcher hask, calls_of_ofResult hp.matcher hsample,
    hp.source _ _ _ _ hresult, List.append_nil, List.append_assoc]
  rfl

/-- The detail adds the calls that explain the latest sample. -/
theorem adds_detail (hp : r.plan.Lists calls) :
    r.detail.Adds calls (r.plan.callsOfDetail (r.latest.map Published.sample)) := by
  rw [detail]
  rcases r.latest with - | ⟨sample, capturedAt⟩
  · exact .pure _
  · cases sample with
    | judged a matched => exact hp.matcher.textFor r.plan.desired a
    | unjudged a fault => exact .pure _
    | missed mishap => cases mishap <;> exact .pure _

theorem adds_failureMessage (hp : r.plan.Lists calls) (ending : Ending) :
    (r.failureMessage ending).Adds calls (r.plan.callsOfText (r.latest.map Published.sample)) :=
  (adds_detail hp).bind fun _ ↦ hp.description.compose _ _

/-- A report that is composed adds the calls of a text. -/
theorem calls_of_report (hp : r.plan.Lists calls) {clock : Duration} {room : Nat} {text : String}
    {s t : σ} (h : r.report clock room s = (.ok text, t)) :
    calls t = calls s ++ r.plan.callsOfText (r.latest.map Published.sample) := by
  cases room with
  | zero => cases h
  | succ room =>
    have helapsed : r.elapsed.Adds calls [] := hp.time.now.map _
    obtain ⟨elapsed, s₁, hnow, h⟩ := Effect.bind_eq_ok_iff.1 h
    obtain ⟨detail, s₂, hdetail, hcompose⟩ := Effect.bind_eq_ok_iff.1 h
    rw [hp.description.compose _ detail _ _ _ _ hcompose, adds_detail hp _ _ _ _ hdetail,
      helapsed _ _ _ _ hnow, List.append_nil, List.append_assoc]
    rfl

/-- Nothing of a run but its observations adds to the list. -/
theorem spares_calls {p : Plan σ α} (hp : p.Lists calls) (list : List (Call α)) :
    p.Spares (fun w ↦ calls w.user = list) fun _ ↦ True where
  log _ _ hw := hw
  slept _ _ hw := hw
  now _ _ := Engine.keeps_clock.bind fun _ ↦ hp.time.now.keeps_call _ list
  sleep _ d _ := Engine.keeps_clock.bind fun _ ↦ (hp.time.sleep d).keeps_call _ list
  wait _ wait d _ h := Engine.keeps_clock.bind fun _ ↦ (hp.time.wait wait h d).keeps_call _ list

/-- A sample of a fixed source has a value. -/
theorem Steps.exists_value {o : Observation α} {turn : Turn σ α}
    (hs : r.Steps w (.sampled o) turn v) (hfixed : r.plan.source.isFixed = true) :
    ∃ a, o.sample.value? = some a := by
  obtain ⟨-, u, ho, -⟩ := hs.goBy_eq
  rw [observe, call_apply, Observation.take_eq] at ho
  obtain ⟨hview, -⟩ := Prod.mk.inj ho
  cases hsource : r.plan.source with
  | produced | checked => rw [hsource] at hfixed; cases hfixed
  | fixed a =>
    rw [hsource] at hview
    have htake : (Source.fixed a).take >>= Observation.ofResult (.fixed a) r.plan.matcher =
        Observation.ofResult (.fixed a) r.plan.matcher (.ok a) := pure_bind _ _
    rw [htake] at hview
    obtain ⟨sample, s₁, hsample, hrest⟩ := Effect.bind_eq_ok_iff.1 (Prod.ext hview rfl)
    obtain ⟨mayChange, s₂, -, hrest⟩ := Effect.bind_eq_ok_iff.1 hrest
    obtain ⟨rfl, -⟩ := Effect.pure_eq_ok_iff.1 hrest
    obtain ⟨verdict, s₃, -, hrest⟩ := Effect.bind_eq_ok_iff.1 hsample
    cases verdict <;> obtain ⟨rfl, -⟩ := Effect.pure_eq_ok_iff.1 hrest <;> exact ⟨a, rfl⟩

/-- **A step adds the calls of its sample**, if it takes one. -/
theorem Steps.calls_eq {e : Event α} {turn : Turn σ α} (hp : r.plan.Lists calls)
    (hs : r.Steps w e turn v) :
    calls v.user = calls w.user ++ e.sample?.elim [] r.plan.callsOfSample := by
  cases e with
  | sampled o =>
    obtain ⟨-, u, ho, hgo⟩ := hs.goBy_eq
    have hrest := (keeps_goBy (spares_calls hp (calls u.user)) o).of_ok rfl hgo
    exact hrest.trans (calls_of_observe hp ho)
  | looked wake =>
    obtain ⟨tick, deadline, -, -, hphase, -⟩ := hs.heed_eq
    have hstep := step_of_waiting hphase ▸ hs.step_eq
    have hcalls := (keeps_waitStep (spares_calls hp (calls w.user)) tick deadline).of_ok rfl hstep
    exact hcalls.trans (List.append_nil _).symm

end Run

/-! ### Watching an assertion -/

/-- What happens to an assertion under way. -/
inductive Moment (α : Type) where
  /-- Somebody asked for its report and got it. -/
  | reported
  /-- It took a step, on which it took a sample or came to its answer, or did neither. -/
  | stepped (sample? : Option (Sample α)) (answer? : Option Bool)

namespace Moment

/-- The sample that was taken. -/
def sample? : Moment α → Option (Sample α)
  | .reported => none
  | .stepped sample? _ => sample?

/-- Was the report asked for? -/
def isReport : Moment α → Bool
  | .reported => true
  | .stepped _ _ => false

/-- Did the assertion fail? -/
def isFailure : Moment α → Bool
  | .reported => false
  | .stepped _ answer? => answer? == some false

/-- The samples that were taken, oldest first. -/
def samples (h : List (Moment α)) : List (Sample α) := h.flatMap (·.sample?.toList)

/-- How often the report was asked for. -/
def reports (h : List (Moment α)) : Nat := h.countP isReport

/-- How often the assertion failed. -/
def failures (h : List (Moment α)) : Nat := h.countP isFailure

theorem samples_concat (h : List (Moment α)) (e : Moment α) :
    samples (h ++ [e]) = samples h ++ e.sample?.toList := by
  rw [samples, List.flatMap_append, List.flatMap_singleton, samples]

end Moment

namespace Plan

variable (p : Plan σ α)

/-- The calls at a moment before which the given sample was the latest. -/
def callsAt (latest : Option (Sample α)) : Moment α → List (Call α)
  | .reported => p.callsOfText latest
  | .stepped sample? answer? => sample?.elim [] p.callsOfSample ++
      if answer? = some false then p.callsOfText (sample?.or latest) else []

/-- The calls in the course of a history before which the given sample was the latest. -/
def callsIn (latest : Option (Sample α)) : List (Moment α) → List (Call α)
  | [] => []
  | e :: h => p.callsAt latest e ++ callsIn (e.sample?.or latest) h

theorem callsIn_concat (latest : Option (Sample α)) (h : List (Moment α)) (e : Moment α) :
    p.callsIn latest (h ++ [e]) =
      p.callsIn latest h ++ p.callsAt ((Moment.samples h).getLast?.or latest) e := by
  induction h generalizing latest with
  | nil => exact List.append_nil _
  | cons first h ih =>
    have hlast : (Moment.samples (first :: h)).getLast?.or latest =
        (Moment.samples h).getLast?.or (first.sample?.or latest) := by
      rw [Moment.samples, List.flatMap_cons, List.getLast?_append, Option.or_assoc]
      cases first.sample? <;> rfl
    rw [List.cons_append, callsIn, ih, callsIn, List.append_assoc, hlast]

end Plan

/-- What is promised of the calls of an assertion that has taken the given samples and composed the
given number of texts. -/
structure Promised (p : Plan σ α) (samples : List (Sample α)) (texts : Nat)
    (calls : List (Call α)) : Prop where
  /-- Every value is judged once, in the order of the samples, and nothing else is. -/
  judged : calls.filterMap Call.judged? = samples.filterMap Sample.value?
  /-- The oracle is asked once about every value of a fixed source, and about no other. -/
  asked : calls.filterMap Call.asked? =
    if p.source.isFixed then samples.filterMap Sample.value? else []
  /-- A sample is explained once a text at most, -/
  explained_le : calls.countP (·.explained?.isSome) ≤ texts
  /-- and by the text of the assertion's polarity only. -/
  explained : ∀ c ∈ calls, ∀ desired, c.explained? = some desired → desired = p.desired
  /-- A description that is computed is computed once a text. -/
  described : calls.countP Call.isDescribed = if p.description.isLazy then texts else 0

namespace Promised

variable {p : Plan σ α} {samples : List (Sample α)} {texts : Nat} {calls : List (Call α)}

theorem nil : Promised p [] 0 [] where
  judged := rfl
  asked := by cases p.source.isFixed <;> rfl
  explained_le := Nat.le_refl 0
  explained := nofun
  described := by cases p.description.isLazy <;> rfl

/-- What is promised of two parts is promised of the whole. -/
protected theorem append {samples' : List (Sample α)} {texts' : Nat} {calls' : List (Call α)}
    (hp : Promised p samples texts calls) (hp' : Promised p samples' texts' calls') :
    Promised p (samples ++ samples') (texts + texts') (calls ++ calls') where
  judged := by rw [List.filterMap_append, List.filterMap_append, hp.judged, hp'.judged]
  asked := by
    rw [List.filterMap_append, List.filterMap_append, hp.asked, hp'.asked]
    cases p.source.isFixed <;> rfl
  explained_le := by
    rw [List.countP_append]
    exact Nat.add_le_add hp.explained_le hp'.explained_le
  explained c hc := by
    rcases List.mem_append.1 hc with hc | hc
    · exact hp.explained c hc
    · exact hp'.explained c hc
  described := by
    rw [List.countP_append, hp.described, hp'.described]
    cases p.description.isLazy <;> rfl

/-- The calls that take a sample. -/
theorem of_sample (s : Sample α) : Promised p [s] 0 (p.callsOfSample s) := by
  rw [Plan.callsOfSample]
  constructor
  all_goals
    cases hvalue : s.value? <;> cases hfixed : p.source.isFixed <;>
      simp [hvalue, List.filterMap_cons, Call.judged?, Call.asked?, Call.explained?,
        Call.isDescribed]

/-- The calls that compose a text. -/
theorem of_text (latest : Option (Sample α)) : Promised p [] 1 (p.callsOfText latest) := by
  have hdetail : p.callsOfDetail latest = [] ∨
      ∃ a, p.callsOfDetail latest = [.explained p.desired a] := by
    rcases latest with - | ⟨a, matched⟩ | ⟨a, fault⟩ | mishap
    · exact .inl rfl
    · exact .inr ⟨a, rfl⟩
    · exact .inl rfl
    · exact .inl rfl
  rw [Plan.callsOfText, Description.calls]
  obtain hnone | ⟨a, hone⟩ := hdetail
  all_goals
    constructor
    all_goals
      cases hlazy : p.description.isLazy <;>
        simp [*, Call.judged?, Call.asked?, Call.explained?, Call.isDescribed]

/-- Where no text is composed nothing is rendered. -/
theorem silent (hp : Promised p samples 0 calls) : ∀ c ∈ calls, c.isText = false := by
  intro c hc
  have hexplained := List.countP_eq_zero.1 (Nat.le_zero.1 hp.explained_le) c hc
  have hdescribed : calls.countP Call.isDescribed = 0 := by
    rw [hp.described, ite_self]
  have hcomputed := List.countP_eq_zero.1 hdescribed c hc
  rw [Call.isText, Bool.eq_false_iff.2 hexplained, Bool.eq_false_iff.2 hcomputed]
  rfl

end Promised

/-- How many texts are composed at the moment. -/
def Moment.texts (e : Moment α) : Nat := if e.isReport || e.isFailure then 1 else 0

namespace Plan

variable (p : Plan σ α)

theorem promised_callsAt (latest : Option (Sample α)) (e : Moment α) :
    Promised p e.sample?.toList e.texts (p.callsAt latest e) := by
  cases e with
  | reported => exact .of_text latest
  | stepped sample? answer? =>
    have hsample : Promised p sample?.toList 0 (sample?.elim [] p.callsOfSample) := by
      cases sample? with
      | none => exact .nil
      | some s => exact .of_sample s
    rw [callsAt, Moment.texts]
    by_cases hfailed : answer? = some false
    · rw [if_pos hfailed, hfailed]
      exact List.append_nil sample?.toList ▸ hsample.append (.of_text _)
    · rw [if_neg hfailed, List.append_nil]
      have hno : (Moment.stepped sample? answer?).isFailure = false := beq_eq_false_iff_ne.2 hfailed
      rw [hno]
      exact hsample

/-- **The calls in the course of a history are as promised.** -/
theorem promised_callsIn (latest : Option (Sample α)) (h : List (Moment α)) :
    Promised p (Moment.samples h) (Moment.reports h + Moment.failures h) (p.callsIn latest h) := by
  induction h generalizing latest with
  | nil => exact .nil
  | cons e h ih =>
    have htexts : Moment.reports (e :: h) + Moment.failures (e :: h) =
        e.texts + (Moment.reports h + Moment.failures h) := by
      simp only [Moment.reports, Moment.failures, List.countP_cons, Moment.texts]
      cases e with
      | reported => simp [Moment.isReport, Moment.isFailure]; omega
      | stepped sample? answer? => simp [Moment.isReport]; omega
    rw [htexts]
    exact (p.promised_callsAt latest e).append (ih _)

end Plan

/-- The callbacks of the assertion add themselves, and nothing else that it calls adds anything. -/
structure Assertion.Lists (calls : σ → List (Call α)) (a : Assertion σ α) (m : Matcher σ α)
    (d : Description σ) : Prop where
  matcher : m.Adds calls
  description : d.Adds calls
  time : a.bench.time.AddsNothing calls
  source : ∀ source, a.subject.resolve a.mode a.token = .ok source → source.take.Adds calls []
  handler : ∀ handler, a.bench.handler = some handler → ∀ failure, (handler failure).Adds calls []

theorem Assertion.Lists.plan {calls : σ → List (Call α)} {a : Assertion σ α} {m : Matcher σ α}
    {d : Description σ} {desired : Bool} {p : Plan σ α} (hl : a.Lists calls m d)
    (hp : a.plan m desired d = .ok p) : p.Lists calls := by
  obtain ⟨hm, ht, hd, hresolve⟩ := Assertion.of_plan_eq_ok hp
  exact ⟨hm ▸ hl.matcher, hd ▸ hl.description, hl.source _ hresolve, ht ▸ hl.time⟩

namespace Flight

/-- A history of an assertion and of the reports that were asked for between its steps. Whatever
else happens between the steps leaves the list of calls alone. -/
inductive Watched (calls : σ → List (Call α)) (f₀ : Flight σ α) (w₀ : World σ) :
    List (Moment α) → Flight σ α → World σ → Prop
  | start : Watched calls f₀ w₀ [] f₀ w₀
  | meanwhile {h : List (Moment α)} {f : Flight σ α} {w u : World σ}
      (hw : Watched calls f₀ w₀ h f w) (hcalls : calls u.user = calls w.user) :
      Watched calls f₀ w₀ h f u
  | reported {h : List (Moment α)} {f : Flight σ α} {w : World σ}
      {text : Nat → Effect σ String} {room : Nat} {shown : String} {user : σ}
      (hw : Watched calls f₀ w₀ h f w) (hreport : f.report w.clock = some text)
      (htext : text room w.user = (.ok shown, user)) :
      Watched calls f₀ w₀ (h ++ [.reported]) f { w with user := user }
  | stepped {h : List (Moment α)} {f f' : Flight σ α} {waits : Bool} {w v : World σ}
      (hw : Watched calls f₀ w₀ h f w) (hon : f.answer? = none)
      (hstep : f.step w = (.ok (f', waits), v)) :
      Watched calls f₀ w₀ (h ++ [.stepped (f.sampleOn w) f'.answer?]) f' v

variable {calls : σ → List (Call α)} {a : Assertion σ α} {m : Matcher σ α} {desired : Bool}
  {d : Description σ} {p : Plan σ α} {h : List (Moment α)} {f f' : Flight σ α} {waits : Bool}
  {w₀ w v : World σ}

/-- Where a valid assertion is after a history. -/
inductive Stage (a : Assertion σ α) (m : Matcher σ α) (desired : Bool) (d : Description σ)
    (p : Plan σ α) : List (Moment α) → Flight σ α → Prop
  | grounded : Stage a m desired d p [] (.grounded a m desired d)
  | polling {h : List (Moment α)} {handler : Handler σ} {run : Run σ α}
      (hhandler : a.bench.handler = some handler) (hplan : run.plan = p)
      (htaken : run.HasTaken (Moment.samples h)) :
      Stage a m desired d p h (.polling a handler run)
  | landed {h : List (Moment α)} {held : Bool} : Stage a m desired d p h (.landed held)

/-- Handing over a failure adds nothing. -/
theorem calls_of_hand (hl : a.Lists calls m d) {handler : Handler σ}
    (hhandler : a.bench.handler = some handler) {failure : Failure}
    (hhand : Engine.hand handler failure w = (.ok (), v)) : calls v.user = calls w.user := by
  obtain ⟨_, u, hnote, hcall⟩ := Effect.bind_eq_ok_iff.1 hhand
  obtain ⟨-, rfl⟩ := Prod.mk.inj hnote
  exact ((hl.handler handler hhandler _).of_call hcall).trans (List.append_nil _)

/-- Nor does the first step, which reads the time and may hand over a failure. -/
theorem calls_of_takeOff (hl : a.Lists calls m d)
    (hstep : (grounded a m desired d).step w = (.ok (f', waits), v)) :
    calls v.user = calls w.user := by
  have hread : ∀ {started u}, Engine.call none a.bench.time.now w = (.ok started, u) →
      calls u.user = calls w.user := fun hnow ↦
    (hl.time.now.of_call hnow).trans (List.append_nil _)
  cases advances hstep with
  | takesOff _ hnow => exact hread hnow
  | refused hhandler hnow _ _ hhand =>
    have hread := hread hnow
    exact (calls_of_hand hl hhandler hhand).trans hread

/-- A step of a run adds the calls of its sample, and those of the message if the run fails. -/
theorem calls_of_polling (hl : a.Lists calls m d) {handler : Handler σ} {run : Run σ α}
    (hhandler : a.bench.handler = some handler) (hp : run.plan.Lists calls)
    {samples : List (Sample α)} (htaken : run.HasTaken samples)
    (hstep : (polling a handler run).step w = (.ok (f', waits), v)) :
    calls v.user = calls w.user ++ run.plan.callsAt samples.getLast?
      (.stepped ((polling a handler run).sampleOn w) f'.answer?) := by
  have hsampled : ∀ {e turn u}, run.Steps w e turn u → calls u.user =
      calls w.user ++ ((polling a handler run).sampleOn w).elim [] run.plan.callsOfSample := by
    intro e turn u hs
    rw [sampleOn_of_steps hs]
    exact hs.calls_eq hp
  rw [Plan.callsAt]
  cases advances hstep with
  | goesOn hs | held hs =>
    rw [hsampled hs, if_neg, List.append_nil]
    nofun
  | @failed _ _ _ run' e ending _ _ _ _ _ _ hs hmessage _ hhand =>
    have hplan : run'.plan = run.plan := hs.run_eq.1
    have hanswer : (landed false : Flight σ α).answer? = some false := rfl
    have htext := (Run.adds_failureMessage (hplan ▸ hp) ending).of_call hmessage
    have hlatest : run'.latest.map Published.sample =
        (samples ++ e.sample?.toList).getLast? := (hs.hasTaken htaken).latest
    rw [calls_of_hand hl hhandler hhand, htext, hsampled hs, hplan, hlatest, if_pos hanswer,
      List.append_assoc, List.getLast?_append, sampleOn_of_steps hs]
    cases e.sample? <;> rfl

/-- **At every stage the calls are those of the history**, if the assertion is valid. -/
theorem Watched.stage (hl : a.Lists calls m d) (hp : a.plan m desired d = .ok p)
    (hw : Watched calls (.grounded a m desired d) w₀ h f w) :
    Stage a m desired d p h f ∧ calls w.user = calls w₀.user ++ p.callsIn none h := by
  have hlists := hl.plan hp
  induction hw with
  | start => exact ⟨.grounded, (List.append_nil _).symm⟩
  | meanwhile _ hcalls ih => exact ⟨ih.1, hcalls.trans ih.2⟩
  | @reported h f w text room shown user _ hreport htext ih =>
    obtain ⟨hstage, hcalls⟩ := ih
    have hsamples : Moment.samples (h ++ [.reported]) = Moment.samples h :=
      (Moment.samples_concat h .reported).trans (List.append_nil _)
    cases hstage with
    | grounded | landed => cases hreport
    | @polling _ handler run hhandler hplan htaken =>
      subst hplan
      obtain rfl := Option.some.inj hreport
      have hadds := Run.calls_of_report hlists htext
      refine ⟨.polling hhandler rfl (hsamples ▸ htaken), ?_⟩
      rw [Plan.callsIn_concat, Option.or_none, ← List.append_assoc, ← hcalls, ← htaken.latest]
      exact hadds
  | @stepped h f f' waits w v _ hon hstep ih =>
    obtain ⟨hstage, hcalls⟩ := ih
    rw [Plan.callsIn_concat, Option.or_none, ← List.append_assoc, ← hcalls]
    cases hstage with
    | landed => cases hon
    | grounded =>
      have hsame := calls_of_takeOff hl hstep
      cases advances hstep with
      | refused _ _ hinvalid => cases hp.symm.trans hinvalid
      | takesOff hhandler _ hplan =>
        obtain rfl := Except.ok.inj (hplan.symm.trans hp)
        exact ⟨.polling hhandler rfl ⟨rfl, rfl⟩, hsame.trans (List.append_nil _).symm⟩
    | @polling _ handler run hhandler hplan htaken =>
      subst hplan
      refine ⟨?_, calls_of_polling hl hhandler hlists htaken hstep⟩
      obtain ⟨run', rfl, hplan', -, htaken'⟩ | ⟨held, rfl⟩ := polling_cases htaken hstep
      · refine .polling hhandler hplan' ?_
        rw [Moment.samples_concat]
        exact htaken'
      · exact .landed

/-- A misconfigured assertion calls nothing. -/
theorem Watched.calls_of_error (hl : a.Lists calls m d) {cause : Misconfiguration}
    (hp : a.plan m desired d = .error cause)
    (hw : Watched calls (.grounded a m desired d) w₀ h f w) :
    calls w.user = calls w₀.user ∧ (f = .grounded a m desired d ∨ f = .landed false) := by
  induction hw with
  | start => exact ⟨rfl, .inl rfl⟩
  | meanwhile _ hcalls ih => exact ⟨hcalls.trans ih.1, ih.2⟩
  | reported _ hreport _ ih => rcases ih.2 with rfl | rfl <;> cases hreport
  | @stepped h f f' waits w v _ hon hstep ih =>
    obtain ⟨hcalls, rfl | rfl⟩ := ih
    · have hsame := calls_of_takeOff hl hstep
      cases advances hstep with
      | takesOff _ _ hplan => cases hp.symm.trans hplan
      | refused => exact ⟨hsame.trans hcalls, .inr rfl⟩
    · cases hon

/-- An assertion fails once at most, and then it is over. -/
theorem Watched.failures_eq (hw : Watched calls (.grounded a m desired d) w₀ h f w) :
    Moment.failures h = if f.answer? = some false then 1 else 0 := by
  induction hw with
  | start => rfl
  | meanwhile _ _ ih => exact ih
  | reported _ _ _ ih => rw [Moment.failures, List.countP_append] ; exact ih
  | @stepped h f f' waits w v _ hon hstep ih =>
    rw [hon, if_neg nofun] at ih
    rw [Moment.failures, List.countP_append, show List.countP _ h = 0 from ih]
    by_cases hanswer : f'.answer? = some false <;>
      simp [Moment.isFailure, hanswer]

/-- Every sample of a fixed source has a value. -/
theorem Watched.exists_value (hl : a.Lists calls m d) (hp : a.plan m desired d = .ok p)
    (hfixed : p.source.isFixed = true) (hw : Watched calls (.grounded a m desired d) w₀ h f w) :
    ∀ s ∈ Moment.samples h, ∃ x, s.value? = some x := by
  induction hw with
  | start => nofun
  | meanwhile _ _ ih => exact ih
  | reported _ _ _ ih =>
    rw [Moment.samples_concat, Moment.sample?, Option.toList_none, List.append_nil]
    exact ih
  | @stepped h f f' waits w v hw hon hstep ih =>
    intro s hs
    rw [Moment.samples_concat] at hs
    rcases List.mem_append.1 hs with hold | hnew
    · exact ih s hold
    have hsample : f.sampleOn w = some s := Option.mem_toList.1 hnew
    cases (hw.stage hl hp).1 with
    | grounded | landed => cases hsample
    | @polling _ handler run _ hplan _ =>
      obtain ⟨turn, u, hturn, -⟩ := Effect.bind_eq_ok_iff.1 hstep
      obtain ⟨e, hsteps⟩ := Run.exists_steps hturn
      rw [sampleOn_of_steps hsteps] at hsample
      cases e with
      | looked wake => cases hsample
      | sampled o =>
        obtain rfl := Option.some.inj hsample
        exact hsteps.exists_value (hplan ▸ hfixed)

/-- **Texts are composed when they are needed, and each callback is called exactly as often as it
is promised.** If the assertion is valid, the calls in the course of a history that ends with an
answer are those of its samples, of the reports that were asked for, and of the failure if there is
one, in this order. If it is misconfigured there are none. -/
theorem calls_as_promised (hl : a.Lists calls m d) {held : Bool}
    (hw : Watched calls (.demand a m desired d) w₀ h (.landed held) w) :
    (∀ p, a.plan m desired d = .ok p →
      calls w.user = calls w₀.user ++ p.callsIn none h ∧
      Promised p (Moment.samples h) (Moment.reports h + if held then 0 else 1) (p.callsIn none h) ∧
      (p.source.isFixed = true →
        ((p.callsIn none h).filterMap Call.asked?).length = (Moment.samples h).length) ∧
      (held = true → Moment.reports h = 0 → ∀ c ∈ p.callsIn none h, c.isText = false)) ∧
    ∀ cause, a.plan m desired d = .error cause → calls w.user = calls w₀.user ∧ held = false := by
  refine ⟨fun p hp ↦ ?_, fun cause hp ↦ ?_⟩
  · have hfailures : Moment.failures h = if held then 0 else 1 := by
      rw [Watched.failures_eq hw]
      cases held <;> rfl
    have hpromised := p.promised_callsIn none h
    rw [hfailures] at hpromised
    refine ⟨(Watched.stage hl hp hw).2, hpromised, fun hfixed ↦ ?_, ?_⟩
    · rw [hpromised.asked, if_pos hfixed]
      refine List.filterMap_length_eq_length.2 fun s hs ↦ ?_
      exact Option.isSome_iff_exists.2 (hw.exists_value hl hp hfixed s hs)
    · rintro rfl hreports
      rw [hreports] at hpromised
      exact hpromised.silent
  · obtain ⟨hcalls, hgrounded | hlanded⟩ := Watched.calls_of_error hl hp hw
    · cases hgrounded
    · exact ⟨hcalls, landed.inj hlanded⟩

/-- Code that adds a call to the list and returns. -/
def jot (c : Call Nat) (b : β) : Action (List (Call Nat)) β := do
  modify (· ++ [c])
  return b

theorem adds_jot (c : Call Nat) (b : β) : (jot c b).Adds id [c] := by
  intro view s b' t h
  obtain ⟨-, rfl⟩ := Prod.mk.inj h
  rfl

/-- An assertion about a fixed number, with a matcher that never matches and adds every call to the
list. -/
def jotted : Assertion (List (Call Nat)) Nat :=
  .make ⟨some fun _ ↦ pure (), {}, .runtime .zero⟩ .eventually (.fixed 1) "jotted"

/-- Its matcher. -/
def jotting : Matcher (List (Call Nat)) Nat where
  judge a := jot (.judged a) (.ok false)
  failureText a := jot (.explained true a) "no"
  negatedText a := jot (.explained false a) "yes"
  mayChange a := jot (.asked a) true

/-- Its description. -/
def jottingWhy : Description (List (Call Nat)) := .computed (jot .described "why")

theorem lists_jotted : jotted.Lists id jotting jottingWhy where
  matcher := ⟨fun a ↦ adds_jot _ _, fun a ↦ adds_jot _ _, fun a ↦ adds_jot _ _,
    fun a ↦ adds_jot _ _⟩
  description := by
    rintro describe ⟨⟩
    exact adds_jot _ _
  time := .runtime .zero
  source := by
    rintro source ⟨⟩
    exact .pure _
  handler := by
    rintro handler ⟨⟩ failure
    exact .pure _

/-- A report is asked for after its only sample, and then the time is up. Both texts ask for the one
text and for the description. -/
theorem calls_as_promised_jotted : ∃ h w, Watched id
      (.demand jotted jotting true jottingWhy) ⟨[], .zero, []⟩ h (.landed false) w ∧
    Moment.reports h = 1 ∧ (Moment.samples h).length = 1 ∧
    w.user =
      [.judged 1, .asked 1, .explained true 1, .described, .explained true 1, .described] := by
  obtain ⟨run₀, run₁, text, shown, u₁, w₁, w₂, w₃, hfirst, hsecond, hreport, htext, hthird, hnone,
      hsome, hlast⟩ : ∃ run₀ run₁ text shown u₁ w₁ w₂ w₃,
        (demand jotted jotting true jottingWhy).step ⟨[], .zero, []⟩ =
          (.ok (.polling jotted (fun _ ↦ pure ()) run₀, false), w₁) ∧
        (polling jotted (fun _ ↦ pure ()) run₀).step w₁ =
          (.ok (.polling jotted (fun _ ↦ pure ()) run₁, false), w₂) ∧
        (polling jotted (fun _ ↦ pure ()) run₁).report w₂.clock = some text ∧
        text 1 w₂.user = (.ok shown, u₁) ∧
        (polling jotted (fun _ ↦ pure ()) run₁).step ⟨u₁, .ofSeconds 1, w₂.notices⟩ =
          (.ok (.landed false, false), w₃) ∧
        (demand jotted jotting true jottingWhy).sampleOn ⟨[], .zero, []⟩ = none ∧
        (polling jotted (fun _ ↦ pure ()) run₀).sampleOn w₁ = some (.judged 1 false) ∧
        (polling jotted (fun _ ↦ pure ()) run₁).sampleOn ⟨u₁, .ofSeconds 1, w₂.notices⟩ = none :=
    ⟨_, _, _, _, _, _, _, _, rfl, rfl, rfl, rfl, rfl, rfl, rfl, rfl⟩
  have hreported : Watched id (demand jotted jotting true jottingWhy) ⟨[], .zero, []⟩ _
      (.polling jotted (fun _ ↦ pure ()) run₁) { w₂ with user := u₁ } :=
    ((Watched.start.stepped rfl hfirst).stepped rfl hsecond).reported hreport htext
  have hlater : Watched id (demand jotted jotting true jottingWhy) ⟨[], .zero, []⟩ _
      (.polling jotted (fun _ ↦ pure ()) run₁) ⟨u₁, .ofSeconds 1, w₂.notices⟩ :=
    hreported.meanwhile rfl
  have hover := hlater.stepped rfl hthird
  rw [hnone, hsome, hlast] at hover
  obtain ⟨hcalls, -⟩ := (calls_as_promised lists_jotted hover).1 _ rfl
  exact ⟨_, w₃, hover, rfl, rfl, hcalls⟩

end Flight

end PollAssert
