import PollAssert.Proofs.Flight.Message
import PollAssert.Proofs.Run.Signals

/-!
# Layers around a signal

A run looks at an error in three places: for what the sample asks of it, for the delay of the next
wait, and for the text of a report. Each of them searches the chain on its own for the signal, and
goes by what it finds. So of an error that carries a signal nothing counts but the `Gist` of that
signal: its request, the text of what it wraps, and what is attached to it. Errors whose signals
have the same gist are **interchangeable** (`Fault.Interchangeable`), whatever else their chains
hold before or behind the signal.

Code that returns interchangeable errors in the same states makes flights that nobody can tell
apart, in whatever worlds they take their steps (`Flight.RunsAs`). In particular this is so if
context texts are put in front of errors that carry a signal, any number of them and at any samples
(`Flight.layers_invisible`). Errors that carry none are a different matter, for they are explained
by their whole chain.
-/

namespace PollAssert

variable {σ α β γ : Type}

/-! ### Interchangeable errors -/

/-- What a sample makes of a signal. -/
structure Gist where
  /-- What it asks for. -/
  request : Request
  /-- The text of what it wraps. -/
  wrapped : Option String
  /-- The values attached to it. -/
  attachments : List Attachment
  deriving DecidableEq

/-- What a sample makes of the signal. -/
def Signal.gist (s : Signal) : Gist := ⟨s.request, s.wrapped?.map Fault.text, s.attachments⟩

/-- The gist in the text of a report. A request to stop is told without its message, which is in the
header. -/
def Gist.detail (g : Gist) : String :=
  (match g.request with
    | .stop _ => g.wrapped.getD ""
    | .retry delay =>
      "told to try again after " ++ delay.text ++ g.wrapped.elim "" (": " ++ ·)) ++
    String.join (g.attachments.map Attachment.paragraph)

/-- **A signal is explained by its gist.** -/
theorem Sample.signalDetail_eq (s : Signal) : signalDetail s = s.gist.detail := by
  cases hrequest : s.request with
  | stop message =>
    rw [signalDetail_of_stop hrequest, Gist.detail, Signal.gist, hrequest]
    cases s.wrapped? <;> rfl
  | retry delay =>
    rw [signalDetail_of_retry hrequest, Gist.detail, Signal.gist, hrequest]
    cases s.wrapped? <;> rfl

/-- The two errors are the same, or carry signals of the same gist. -/
inductive Fault.Interchangeable : Fault → Fault → Prop
  | same (f : Fault) : Interchangeable f f
  | carried {f f' : Fault} {s s' : Signal} (h : f.signal? = some s) (h' : f'.signal? = some s')
      (hgist : s.gist = s'.gist) : Interchangeable f f'

namespace Fault

variable {f f' : Fault}

/-- Interchangeable errors carry signals of the same gist, or none. -/
theorem Interchangeable.gist_eq (h : f.Interchangeable f') :
    f.signal?.map Signal.gist = f'.signal?.map Signal.gist := by
  cases h with
  | same => rfl
  | carried h h' hgist => rw [h, h', Option.map_some, Option.map_some, hgist]

/-- They are explained alike, whoever returned them. -/
theorem Interchangeable.detail_eq (h : f.Interchangeable f') (mode : Mode) (party : String) :
    Sample.faultDetail mode party f = Sample.faultDetail mode party f' := by
  cases h with
  | same => rfl
  | carried h h' hgist =>
    rw [Sample.faultDetail, Sample.faultDetail, h, h']
    dsimp only
    rw [Sample.signalDetail_eq, Sample.signalDetail_eq, hgist]

/-- The error behind context texts, the first of them outermost. -/
def behind (texts : List String) (f : Fault) : Fault := texts.foldr .context f

/-- Context texts do not hide the signal, -/
theorem signal?_behind (texts : List String) (f : Fault) :
    (f.behind texts).signal? = f.signal? := by
  induction texts with
  | nil => rfl
  | cons text texts ih => exact ih

/-- **so errors that differ in the context texts around a signal are interchangeable.** -/
theorem interchangeable_behind {s : Signal} (h : f.signal? = some s) (texts texts' : List String) :
    (f.behind texts).Interchangeable (f.behind texts') :=
  .carried ((f.signal?_behind texts).trans h) ((f.signal?_behind texts').trans h) rfl

end Fault

/-- Two results are the same value or interchangeable errors. -/
inductive Fault.SameUpTo : Except Fault β → Except Fault β → Prop
  | value (b : β) : SameUpTo (.ok b) (.ok b)
  | fault {f f' : Fault} (h : f.Interchangeable f') : SameUpTo (.error f) (.error f')

protected theorem Fault.SameUpTo.refl (x : Except Fault β) : SameUpTo x x := by
  cases x with
  | ok b => exact .value b
  | error f => exact .fault (.same f)

/-- Both mishaps are errors of the producer that are interchangeable, or the same failed check. -/
inductive Mishap.Interchangeable : Mishap → Mishap → Prop
  | fault {f f' : Fault} (h : f.Interchangeable f') : Interchangeable (.fault f) (.fault f')
  | nested (failure : NestedFailure) : Interchangeable (.nested failure) (.nested failure)

/-- Two results of a source are the same value or interchangeable mishaps. -/
inductive Mishap.SameUpTo : Except Mishap α → Except Mishap α → Prop
  | value (a : α) : SameUpTo (.ok a) (.ok a)
  | mishap {x x' : Mishap} (h : x.Interchangeable x') : SameUpTo (.error x) (.error x')

/-- A failed check wins over either result. -/
theorem Checklist.sameUpTo_settle (c : Checklist) {x x' : Except Fault α}
    (h : Fault.SameUpTo x x') : Mishap.SameUpTo (c.settle x) (c.settle x') := by
  rcases c with ⟨- | failure⟩
  · cases h with
    | value a => exact .value a
    | fault h => exact .mishap (.fault h)
  · exact .mishap (.nested failure)

/-! ### Interchangeable samples -/

namespace Sample

/-- The two samples are the same but for errors, which are interchangeable. -/
inductive Interchangeable : Sample α → Sample α → Prop
  | judged (a : α) (matched : Bool) : Interchangeable (.judged a matched) (.judged a matched)
  | unjudged (a : α) {f f' : Fault} (h : f.Interchangeable f') :
      Interchangeable (.unjudged a f) (.unjudged a f')
  | missed {x x' : Mishap} (h : x.Interchangeable x') : Interchangeable (.missed x) (.missed x')

variable {s s' : Sample α}

namespace Interchangeable

theorem value?_eq (h : s.Interchangeable s') : s.value? = s'.value? := by
  cases h <;> rfl

theorem passed_eq (h : s.Interchangeable s') (desired : Bool) :
    s.passed desired = s'.passed desired := by
  cases h <;> rfl

theorem gist_eq (h : s.Interchangeable s') :
    s.signal?.map Signal.gist = s'.signal?.map Signal.gist := by
  cases h with
  | judged => rfl
  | unjudged a h => exact h.gist_eq
  | missed h =>
    cases h with
    | fault h => exact h.gist_eq
    | nested => rfl

/-- **They ask the same of the run**, -/
theorem steering_eq (h : s.Interchangeable s') : s.steering = s'.steering := by
  have hsteering : ∀ s : Sample α, s.steering =
      (s.signal?.map Signal.gist).elim .goOn fun g ↦ g.request.steering := by
    intro s
    cases hsignal : s.signal? with
    | none => rw [steering, hsignal]; rfl
    | some signal => rw [steering_of_signal? hsignal]; rfl
  rw [hsteering s, hsteering s', h.gist_eq]

/-- **and are explained alike.** -/
theorem detail_eq (h : s.Interchangeable s') (mode : Mode) (desired : Bool) (m : Matcher σ α) :
    s.detail mode desired m = s'.detail mode desired m := by
  cases h with
  | judged => rfl
  | unjudged a h => exact congrArg pure (h.detail_eq mode "matcher")
  | missed h =>
    cases h with
    | fault h => exact congrArg pure (h.detail_eq mode "function")
    | nested => rfl

end Interchangeable

end Sample

/-! ### Interchangeable code -/

/-- In the same states and views the two actions come to results that are the same up to
interchangeable errors, and leave the same states behind. -/
abbrev Action.Interchangeable (act act' : Action σ (Except Fault β)) : Prop :=
  Action.Alike Eq Fault.SameUpTo act act'

/-- The same of producers that make checks. The checks come to the same. -/
abbrev Checked.Interchangeable (act act' : Checked σ (Except Fault β)) : Prop :=
  ∀ c, Action.Alike Eq (fun x x' ↦ Fault.SameUpTo x.1 x'.1 ∧ x.2 = x'.2) (act.run c) (act'.run c)

/-- The two subjects are the same value, or producers whose errors are interchangeable. -/
inductive Subject.Interchangeable : Subject σ α → Subject σ α → Prop
  | fixed (value : α) : Interchangeable (.fixed value) (.fixed value)
  | produced {produce produce' : Action σ (Except Fault α)}
      (h : Action.Interchangeable produce produce') :
      Interchangeable (.produced produce) (.produced produce')
  | checked {produce produce' : Checked σ (Except Fault α)}
      (h : Checked.Interchangeable produce produce') :
      Interchangeable (.checked produce) (.checked produce')
  | checkedWithToken {produce produce' : Token σ → Checked σ (Except Fault α)}
      (h : ∀ token, Checked.Interchangeable (produce token) (produce' token)) :
      Interchangeable (.checkedWithToken produce) (.checkedWithToken produce')
  | returnsNothing : Interchangeable .returnsNothing .returnsNothing

/-- The two matchers come to the same verdicts, or to interchangeable errors. Their texts and their
oracles are the same. -/
structure Matcher.Interchangeable (m m' : Matcher σ α) : Prop where
  judge : ∀ a, Action.Interchangeable (m.judge a) (m'.judge a)
  mayChange : m.mayChange = m'.mayChange
  failureText : m.failureText = m'.failureText
  negatedText : m.negatedText = m'.negatedText

/-- The two sources are of the same kind, and come to the same up to interchangeable mishaps. -/
structure Source.Interchangeable (source source' : Source σ α) : Prop where
  isFixed : source.isFixed = source'.isFixed
  take : Action.Alike Eq Mishap.SameUpTo source.take source'.take

/-- Both subjects are refused for the same reason, or come to such sources. -/
theorem Subject.Interchangeable.resolve {s s' : Subject σ α} (hs : Interchangeable s s')
    (mode : Mode) (token : Option (Token σ)) :
    SameDecision Source.Interchangeable (s.resolve mode token) (s'.resolve mode token) := by
  have hchecked : ∀ {produce produce' : Checked σ (Except Fault α)},
      Checked.Interchangeable produce produce' →
        Source.Interchangeable (.checked produce) (.checked produce') := by
    intro produce produce' h
    refine ⟨rfl, (h {}).bind ?_⟩
    rintro ⟨result, c⟩ ⟨result', _⟩ ⟨hresult, rfl⟩
    exact .pure (c.sameUpTo_settle hresult)
  cases hs with
  | fixed value => exact .granted ⟨rfl, .pure (.value value)⟩
  | produced h =>
    refine .granted ⟨rfl, h.bind fun result result' hresult ↦ ?_⟩
    cases hresult with
    | value a => exact .pure (.value a)
    | fault h => exact .pure (.mishap (.fault h))
  | checked h => exact .granted (hchecked h)
  | checkedWithToken h =>
    cases token with
    | none => exact .refused
    | some token => exact .granted (hchecked (h token))
  | returnsNothing => exact .refused

/-- Such sources and matchers make interchangeable observations. The oracle is asked alike. -/
theorem Observation.interchangeable_take {source source' : Source σ α} {m m' : Matcher σ α}
    (hsource : source.Interchangeable source') (hm : m.Interchangeable m') :
    Action.Alike Eq
      (fun o o' ↦ o.sample.Interchangeable o'.sample ∧ o.mayChange = o'.mayChange)
      (take source m) (take source' m') := by
  have hsample : ∀ result result', Mishap.SameUpTo result result' → Action.Alike Eq
      Sample.Interchangeable (Sample.ofResult m result) (Sample.ofResult m' result') := by
    intro result result' hresult
    cases hresult with
    | mishap h => exact .pure (.missed h)
    | value a =>
      refine (hm.judge a).bind fun verdict verdict' hverdict ↦ ?_
      cases hverdict with
      | value matched => exact .pure (.judged a matched)
      | fault h => exact .pure (.unjudged a h)
  have hask : ∀ s s' : Sample α, s.Interchangeable s' →
      s.askOracle source m = s'.askOracle source' m' := by
    intro s s' hs
    rw [Sample.askOracle, Sample.askOracle, hsource.isFixed, hs.value?_eq, hm.mayChange]
  rw [take_eq, take_eq]
  refine hsource.take.bind fun result result' hresult ↦ ?_
  refine (hsample result result' hresult).bind fun s s' hs ↦ ?_
  rw [hask s s' hs]
  refine (Action.Alike.refl _).bind ?_
  rintro mayChange _ rfl
  exact Action.Alike.clock.bind fun _ _ _ ↦ .pure ⟨hs, rfl⟩

/-- The assertion about another subject. -/
def Assertion.about (a : Assertion σ α) (subject : Subject σ α) : Assertion σ α :=
  { a with subject := subject }

/-- Both assertions are refused for the same reason, or have plans that are twins. -/
theorem Assertion.plan_about (a : Assertion σ α) {subject : Subject σ α} {m m' : Matcher σ α}
    (hsubject : a.subject.Interchangeable subject) (hm : m.Interchangeable m') (desired : Bool)
    (d : Description σ) :
    SameDecision (Plan.Twins Sample.Interchangeable) (a.plan m desired d)
      ((a.about subject).plan m' desired d) := by
  refine (SameDecision.refl a.timeout).bind ?_
  rintro timeout _ rfl
  refine (SameDecision.refl a.polling).bind ?_
  rintro polling _ rfl
  refine (SameDecision.refl a.repeats).bind ?_
  rintro repeats _ rfl
  refine (hsubject.resolve a.mode a.token).bind fun source source' hsource ↦ .granted ?_
  refine ⟨⟨rfl, rfl, rfl, rfl, ?_, .refl _, .refl _, ?_, ?_, ?_⟩,
    Observation.interchangeable_take hsource hm⟩
  · rintro s _ rfl
    rfl
  · intro s s' hs
    show Action.Alike Eq Eq (s.detail a.mode desired m) (s'.detail a.mode desired m')
    rw [← Sample.detail_congr hm.failureText hm.negatedText, hs.detail_eq]
    exact .refl _
  · intro s s' hs
    exact hs.passed_eq desired
  · intro s s' hs
    exact hs.steering_eq

/-! ### Code with layers -/

/-- Context texts for the error that a call may return. They may be others at every call. -/
abbrev Layers (σ : Type) : Type := View σ → σ → List String

namespace Fault

variable {f : Fault}

/-- The error behind context texts, if it carries a signal. -/
def dressed (texts : List String) (f : Fault) : Fault :=
  if f.signal?.isSome then f.behind texts else f

theorem interchangeable_dressed (texts texts' : List String) (f : Fault) :
    (f.dressed texts).Interchangeable (f.dressed texts') := by
  rw [dressed, dressed]
  cases hsignal : f.signal? with
  | none => exact .same f
  | some s => exact interchangeable_behind hsignal texts texts'

theorem sameUpTo_dressed (texts texts' : List String) (x : Except Fault β) :
    SameUpTo (x.mapError (dressed texts)) (x.mapError (dressed texts')) := by
  cases x with
  | ok b => exact .value b
  | error f => exact .fault (interchangeable_dressed texts texts' f)

end Fault

/-- The action with another result, which may depend on the call as well. -/
def Action.recast (g : View σ → σ → β → γ) (act : Action σ β) : Action σ γ := fun view s ↦
  ((act view s).1.map (g view s), (act view s).2)

theorem Action.alike_recast {Q : γ → γ → Prop} {g g' : View σ → σ → β → γ}
    (h : ∀ view s b, Q (g view s b) (g' view s b)) (act : Action σ β) :
    Action.Alike Eq Q (act.recast g) (act.recast g') := by
  intro view view' hview
  rw [← hview.eq]
  rintro s _ rfl
  rw [recast, recast]
  rcases act view s with ⟨p | b, t⟩
  · exact .halted rfl
  · exact .returned (h view s b) rfl

/-- The subject with layers around the signals of its producer. -/
def Subject.dressed (layers : Layers σ) : Subject σ α → Subject σ α
  | .fixed value => .fixed value
  | .produced produce =>
    .produced (produce.recast fun view s x ↦ x.mapError (Fault.dressed (layers view s)))
  | .checked produce => .checked fun c ↦ (produce.run c).recast fun view s x ↦
      (x.1.mapError (Fault.dressed (layers view s)), x.2)
  | .checkedWithToken produce => .checkedWithToken fun token c ↦
      ((produce token).run c).recast fun view s x ↦
        (x.1.mapError (Fault.dressed (layers view s)), x.2)
  | .returnsNothing => .returnsNothing

theorem Subject.interchangeable_dressed (layers layers' : Layers σ) (s : Subject σ α) :
    (s.dressed layers).Interchangeable (s.dressed layers') := by
  cases s with
  | fixed value => exact .fixed value
  | produced produce =>
    exact .produced (Action.alike_recast (fun _ _ x ↦ Fault.sameUpTo_dressed _ _ x) produce)
  | checked produce =>
    refine .checked fun c ↦ ?_
    exact Action.alike_recast (fun _ _ x ↦ ⟨Fault.sameUpTo_dressed _ _ x.1, rfl⟩) (produce.run c)
  | checkedWithToken produce =>
    refine .checkedWithToken fun token c ↦ ?_
    exact Action.alike_recast (fun _ _ x ↦ ⟨Fault.sameUpTo_dressed _ _ x.1, rfl⟩)
      ((produce token).run c)
  | returnsNothing => exact .returnsNothing

/-- The matcher with layers around the signals of its judgements. -/
def Matcher.dressed (layers : α → Layers σ) (m : Matcher σ α) : Matcher σ α :=
  { m with judge := fun a ↦ (m.judge a).recast fun view s x ↦
      x.mapError (Fault.dressed (layers a view s)) }

theorem Matcher.interchangeable_dressed (layers layers' : α → Layers σ) (m : Matcher σ α) :
    (m.dressed layers).Interchangeable (m.dressed layers') where
  judge a := Action.alike_recast (fun _ _ x ↦ Fault.sameUpTo_dressed _ _ x) (m.judge a)
  mayChange := rfl
  failureText := rfl
  negatedText := rfl

/-! ### Flights in the same worlds -/

/-- The two samples count for the same: they ask the same of the run, pass alike, and are explained
alike. -/
structure Sample.Counterparts (s s' : Sample α) : Prop where
  steering : s.steering = s'.steering
  passed : ∀ desired, s.passed desired = s'.passed desired
  detail : ∀ {σ : Type} (mode : Mode) (desired : Bool) (m : Matcher σ α),
    s.detail mode desired m = s'.detail mode desired m

theorem Sample.Interchangeable.counterparts {s s' : Sample α} (h : s.Interchangeable s') :
    s.Counterparts s' := ⟨h.steering_eq, h.passed_eq, h.detail_eq⟩

namespace Flight

/-- What has become of the flight after a step in each of the given worlds, unless it has
halted. The worlds may be any, for anything may happen between two steps. -/
def after (f : Flight σ α) : List (World σ) → Option (Flight σ α)
  | [] => some f
  | w :: ws =>
    match (f.step w).1 with
    | .ok (f', _) => f'.after ws
    | .error _ => none

/-- The two flights look the same, and in every world they do the same next. -/
structure InStep (f g : Flight σ α) : Prop where
  /-- Both take a sample or neither does, and the samples count for the same. -/
  sample : ∀ w, Option.Rel Sample.Counterparts (f.sampleOn w) (g.sampleOn w)
  /-- They leave the same world behind: the same log, sleeps and failures, and the same state. -/
  world : ∀ w, (f.step w).2 = (g.step w).2
  /-- Both come to the same answer, go on alike, or halt in the same way. -/
  outcome : ∀ w, (f.step w).1.map (fun x ↦ (x.1.answer?, x.2)) =
    (g.step w).1.map fun x ↦ (x.1.answer?, x.2)
  /-- They are reported on alike. -/
  report : ∀ clock, f.report clock = g.report clock
  /-- They wait for the same. -/
  nextTimer : f.nextTimer = g.nextTimer

/-- The one flight runs as the other does, whatever happens to them, and nobody can tell them
apart. -/
structure RunsAs (f g : Flight σ α) : Prop where
  /-- After steps in the same worlds both are in step, or both have halted. -/
  inStep : ∀ ws, Option.Rel InStep (f.after ws) (g.after ws)
  /-- No question tells them apart. -/
  indistinguishable : f.Indistinguishable g
  /-- Rehearsals of them are equal. -/
  fly_eq : ∀ (fuel : Nat) (errands : List (Errand σ)),
    Rehearsal.fly fuel f errands = Rehearsal.fly fuel g errands
  /-- So are they if they are dropped before their first step. -/
  drop_eq : ∀ errands : List (Errand σ), Rehearsal.drop f errands = Rehearsal.drop g errands

namespace Twins

variable {S : Sample α → Sample α → Prop} {f g : Flight σ α}

/-- The samples that they take next are related. -/
theorem sampleOn (h : Twins S f g) (w : World σ) :
    Option.Rel S (f.sampleOn w) (g.sampleOn w) := by
  cases h with
  | grounded | landed => exact .none
  | @polling _ _ _ r r' _ _ hr hp =>
    rw [Flight.sampleOn, Flight.sampleOn, hr.phase]
    cases r'.phase with
    | waiting => exact .none
    | sampling =>
      have hobserve : Engine.Alike Eq
          (fun o o' ↦ S o.sample o'.sample ∧ o.mayChange = o'.mayChange) r.observe r'.observe :=
        hr.call hp.observe
      have hend := hobserve w w ⟨rfl, rfl, rfl⟩
      dsimp only
      generalize r.observe w = x at hend ⊢
      generalize r'.observe w = y at hend ⊢
      cases hend with
      | returned ho => exact .some ho.1
      | halted => exact .none

theorem inStep (hS : ∀ s s', S s s' → s.Counterparts s') (h : Twins S f g) : InStep f g := by
  refine ⟨fun w ↦ optionRel_mono (h.sampleOn w) hS, fun w ↦ ?_, fun w ↦ ?_, h.report_eq,
    h.nextTimer_eq⟩
  all_goals
    have hend := h.step w w ⟨rfl, rfl, rfl⟩
    generalize f.step w = x at hend ⊢
    generalize g.step w = y at hend ⊢
    cases hend with
    | returned hresult hworld =>
      first
      | exact hworld.eq
      | exact congrArg Except.ok (Prod.ext hresult.1.answer_eq hresult.2)
    | halted hworld => first | exact hworld.eq | rfl

/-- After steps in the same worlds they stand alike still. -/
theorem after (h : Twins S f g) (ws : List (World σ)) :
    Option.Rel (Twins S) (f.after ws) (g.after ws) := by
  induction ws generalizing f g with
  | nil => exact .some h
  | cons w ws ih =>
    have hend := h.step w w ⟨rfl, rfl, rfl⟩
    rw [Flight.after, Flight.after]
    generalize f.step w = x at hend ⊢
    generalize g.step w = y at hend ⊢
    cases hend with
    | @returned b b' _ _ hresult =>
      obtain ⟨f', waits⟩ := b
      obtain ⟨g', waits'⟩ := b'
      exact ih hresult.1
    | halted => exact .none

theorem runsAs (hS : ∀ s s', S s s' → s.Counterparts s') (h : Twins S f g) : RunsAs f g where
  inStep ws := optionRel_mono (h.after ws) fun _ _ hfg ↦ hfg.inStep hS
  indistinguishable := h.indistinguishable
  fly_eq := h.indistinguishable.fly_eq
  drop_eq := h.indistinguishable.drop_eq

end Twins

/-- Flights whose assertions are refused for the same reason or have plans that are twins. -/
theorem Twins.of_plan {S : Sample α → Sample α → Prop} {a a' : Assertion σ α} {m m' : Matcher σ α}
    {desired : Bool} {d : Description σ} (hbench : a.bench = a'.bench) (hmode : a.mode = a'.mode)
    (hoffset : a.offset = a'.offset) (hsite : a.site = a'.site)
    (hplan : SameDecision (Plan.Twins S) (a.plan m desired d) (a'.plan m' desired d)) :
    Twins S (.grounded a m desired d) (.grounded a' m' desired d) := by
  refine .grounded hbench hmode hoffset hsite ?_ ?_
  · intro cause hcause
    rw [hcause] at hplan
    generalize a'.plan m' desired d = decision at hplan ⊢
    cases hplan
    rfl
  · intro p hp
    rw [hp] at hplan
    generalize a'.plan m' desired d = decision at hplan ⊢
    cases hplan with
    | granted h => exact ⟨_, rfl, h⟩

/-- **Interchangeable code makes flights that run alike.** -/
theorem runsAs_of_interchangeable (a : Assertion σ α) {subject : Subject σ α} {m m' : Matcher σ α}
    (hsubject : a.subject.Interchangeable subject) (hm : m.Interchangeable m') (desired : Bool)
    (d : Description σ) :
    (demand a m desired d).RunsAs (demand (a.about subject) m' desired d) := by
  have htwins : Twins Sample.Interchangeable (demand a m desired d)
      (demand (a.about subject) m' desired d) :=
    .of_plan rfl rfl rfl rfl (a.plan_about hsubject hm desired d)
  exact htwins.runsAs fun _ _ ↦ Sample.Interchangeable.counterparts

/-- **Layers around signals are invisible**: context texts in front of errors that carry a signal,
of the producer or of the matcher, any number of them and at any call. More generally, nothing
counts of such an error but what its signal asks for, the text of what that wraps, and what is
attached to it. -/
theorem layers_invisible (a : Assertion σ α) (m : Matcher σ α) (desired : Bool)
    (d : Description σ) :
    (∀ (layers layers' : Layers σ) (worn worn' : α → Layers σ),
      (demand (a.about (a.subject.dressed layers)) (m.dressed worn) desired d).RunsAs
        (demand (a.about (a.subject.dressed layers')) (m.dressed worn') desired d)) ∧
    (∀ subject m', a.subject.Interchangeable subject → m.Interchangeable m' →
      (demand a m desired d).RunsAs (demand (a.about subject) m' desired d)) ∧
    ∀ (f f' : Fault) (s s' : Signal), f.signal? = some s → f'.signal? = some s' →
      s.request = s'.request → s.wrapped?.map Fault.text = s'.wrapped?.map Fault.text →
      s.attachments = s'.attachments → f.Interchangeable f' := by
  refine ⟨fun layers layers' worn worn' ↦ ?_, fun subject m' hsubject hm ↦ ?_, ?_⟩
  · exact runsAs_of_interchangeable (a.about (a.subject.dressed layers))
      (a.subject.interchangeable_dressed layers layers') (m.interchangeable_dressed worn worn')
      desired d
  · exact runsAs_of_interchangeable a hsubject hm desired d
  · intro f f' s s' h h' hrequest hwrapped hattachments
    exact .carried h h' (by rw [Signal.gist, Signal.gist, hrequest, hwrapped, hattachments])

/-- The producer of `doomed` with other errors around its signals. The second one wraps another
error with the same text. -/
def falteringAloud : Action Recorder (Except Fault Nat) := do
  if (← Action.clock).isZero then
    return .error (.context "polling" (.context "while waiting"
      (.signal (.retry (.ofMillis 5)))))
  else
    return .error (.caused "no answer" (.atom "NoAnswer") (.signal (.wrapping (.stop "gone")
      [⟨"free", "0"⟩, ⟨"used", "7"⟩] (.context "disk full" (.message "no space")))))

/-- The assertion about this producer runs as the other one does, and fails by the same message. -/
theorem layers_invisible_doomed :
    doomed.subject.Interchangeable (.produced falteringAloud) ∧
      (demand doomed (.equalTo 2) true .none).RunsAs
        (demand (doomed.about (.produced falteringAloud)) (.equalTo 2) true .none) ∧
      (Rehearsal.fly 6 (demand (doomed.about (.produced falteringAloud)) (.equalTo 2) true .none) []
        ⟨{}, .zero, []⟩).2.user.failures.map Failure.message =
          ["gone after 5ms.\ndisk full\nfree:\n    0\nused:\n    7"] := by
  obtain ⟨-, hruns, hcarried⟩ := layers_invisible doomed (.equalTo 2) true .none
  have hsubject : doomed.subject.Interchangeable (.produced falteringAloud) := by
    refine .produced (Action.Alike.clock.bind ?_)
    rintro clock _ rfl
    show Action.Alike Eq Fault.SameUpTo (if clock.isZero = true then _ else _)
      (if clock.isZero = true then _ else _)
    split
    · exact .pure (.fault (hcarried _ _ _ _ rfl rfl rfl rfl rfl))
    · exact .pure (.fault (hcarried _ _ _ _ rfl rfl rfl rfl rfl))
  have hrunsAs := hruns (.produced falteringAloud) (.equalTo 2) hsubject
    ⟨fun _ ↦ (Action.Alike.refl _).mono fun x _ hx ↦ hx ▸ .refl x, rfl, rfl, rfl⟩
  refine ⟨hsubject, hrunsAs, ?_⟩
  rw [← hrunsAs.fly_eq]
  rfl

end Flight

end PollAssert
