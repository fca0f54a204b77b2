import PollAssert.Proofs.Run.Blame

/-!
# The signal in a chain of errors

An error comes with a chain of causes, and a signal may stand anywhere in it: as the error that was
returned, as the cause of another one, below a signal that wraps it, or as a context in front of an
error. `Fault.links` lists the chain, outermost first, with the way in which each link got there.

What steers a sample is the first link that holds a signal **as an error** (`Fault.signal?_eq`), and
the report explains the sample by that same signal; if there is no such link the sample is an
ordinary failure (`Sample.steered_by_chain`). A signal that is used as a context lends its text to
the chain and is passed over, so the signal that counts is the outermost one of all unless that is a
context (`Fault.signal?_eq_carried?`). A context that asks to stop does not stop the run.
-/

namespace PollAssert

variable {σ α : Type}

/-! ### The links of a chain -/

/-- A link of a chain of errors. -/
inductive Link where
  /-- An error with a text of its own. -/
  | error (text : String)
  /-- A context text in front of an error. -/
  | context (text : String)
  /-- A signal as context in front of an error. -/
  | signalContext (signal : Signal)
  /-- A signal as the error. -/
  | signal (signal : Signal)

namespace Link

/-- What the link adds to the text of the chain. -/
def text : Link → String
  | .error text => text
  | .context text => text
  | .signalContext s => s.text
  | .signal s => s.text

/-- The signal that the link is. -/
def own? : Link → Option Signal
  | .signal s => some s
  | _ => none

/-- The signal that the link holds, be it as an error or as a context. -/
def held? : Link → Option Signal
  | .signal s => some s
  | .signalContext s => some s
  | _ => none

end Link

mutual

/-- The links of a chain, outermost first. -/
def Fault.links : Fault → List Link
  | .plain text _ => [.error text]
  | .caused text _ source => .error text :: source.links
  | .context text inner => .context text :: inner.links
  | .signalContext s inner => .signalContext s :: inner.links
  | .signal s => .signal s :: s.links

/-- The links of the chain below a signal. -/
def Signal.links : Signal → List Link
  | .bare _ _ => []
  | .wrapping _ _ wrapped => wrapped.links

end

mutual

/-- The texts of the links are the texts of the chain, in its order. -/
theorem Fault.map_text_links : (f : Fault) → f.links.map Link.text = f.texts
  | .plain _ _ => rfl
  | .caused text _ source => congrArg (text :: ·) source.map_text_links
  | .context text inner => congrArg (text :: ·) inner.map_text_links
  | .signalContext s inner => congrArg (s.text :: ·) inner.map_text_links
  | .signal s => congrArg (s.text :: ·) s.map_text_links

theorem Signal.map_text_links : (s : Signal) → s.links.map Link.text = s.causeTexts
  | .bare _ _ => rfl
  | .wrapping _ _ wrapped => wrapped.map_text_links

end

namespace Fault

/-- The outermost signal that the chain holds in any way. -/
def carried? (f : Fault) : Option Signal := f.links.findSome? Link.held?

/-- The outermost signal of the chain is a context. -/
def HidesSignal (f : Fault) : Prop :=
  ∃ s, f.links.find? (·.held?.isSome) = some (.signalContext s)

/-- **The signal that is found is the first link that is one.** -/
theorem signal?_eq : ∀ f : Fault, f.signal? = f.links.findSome? Link.own?
  | .plain _ _ => rfl
  | .signal _ => rfl
  | .caused _ _ source => source.signal?_eq
  | .context _ inner => inner.signal?_eq
  | .signalContext _ inner => inner.signal?_eq

end Fault

/-- If the first link that holds a signal is one, searching for either comes to the same. -/
theorem Link.findSome?_own?_eq {links : List Link}
    (h : ∀ s, links.find? (·.held?.isSome) ≠ some (.signalContext s)) :
    links.findSome? own? = links.findSome? held? := by
  induction links with
  | nil => rfl
  | cons link links ih =>
    cases link with
    | error | context => exact ih h
    | signalContext s => exact absurd rfl (h s)
    | signal s => rfl

/-- **It is the outermost signal of all, unless that one is a context.** -/
theorem Fault.signal?_eq_carried? {f : Fault} (h : ¬ f.HidesSignal) : f.signal? = f.carried? := by
  rw [signal?_eq, carried?]
  exact Link.findSome?_own?_eq fun s hs ↦ h ⟨s, hs⟩

/-! ### Samples that meet with an error -/

/-- What the request asks of a run. -/
def Request.steering : Request → Steering
  | .stop message => .stop message
  | .retry delay => .retry delay

namespace Sample

/-- A sample that carries a signal asks for what the signal asks for. -/
theorem steering_of_signal? {sample : Sample α} {signal : Signal}
    (h : sample.signal? = some signal) : sample.steering = signal.request.steering := by
  rw [steering, h]
  dsimp only
  cases signal.request <;> rfl

/-- Taking a sample meets with the error: the source returns it, or the matcher does in place of a
verdict. -/
inductive Meets (source : Source σ α) (m : Matcher σ α) (f : Fault) (view : View σ) (s t : σ) :
    Sample α → Prop
  | returned (h : source.take view s = (.ok (.error (.fault f)), t)) :
      Meets source m f view s t (.missed (.fault f))
  | judged {a : α} {u : σ} (hvalue : source.take view s = (.ok (.ok a), u))
      (hfault : m.judge a view u = (.ok (.error f), t)) : Meets source m f view s t (.unjudged a f)

/-- The chain of the error accounts for what the sample asks of the run and for what is reported of
it. -/
structure FollowsChain (m : Matcher σ α) (f : Fault) (sample : Sample α) : Prop where
  /-- The sample does not pass. -/
  fails : ∀ desired, sample.passed desired = false
  /-- It carries the first link of the chain that is a signal. -/
  signal?_eq : sample.signal? = f.links.findSome? Link.own?
  /-- That signal steers the run, and the sample is explained by it. -/
  steered : ∀ signal, sample.signal? = some signal →
    sample.steering = signal.request.steering ∧
      ∀ mode desired, sample.detail mode desired m = pure (signalDetail signal)
  /-- If there is none, the sample is an ordinary failure, and is explained by the whole chain. -/
  ordinary : sample.signal? = none → sample.steering = .goOn ∧
    ∃ party, (party = "function" ∨ party = "matcher") ∧ ∀ mode desired,
      sample.detail mode desired m = pure ("The " ++ party ++ " passed to " ++ mode.text ++
        " returned the following error:\n    " ++ ": ".intercalate (f.links.map Link.text))
  /-- The signal is the outermost one of the chain, unless that one is a context. -/
  outermost : ¬ f.HidesSignal → sample.signal? = f.carried?

variable {source : Source σ α} {m : Matcher σ α} {f : Fault} {view : View σ} {s t : σ}
  {sample : Sample α}

theorem Meets.take_eq (h : Meets source m f view s t sample) :
    take source m view s = (.ok sample, t) := by
  rw [Sample.take_eq]
  cases h with
  | returned h => exact Effect.bind_of_ok h _
  | judged hvalue hfault =>
    exact (Effect.bind_of_ok hvalue _).trans (Effect.bind_of_ok hfault _)

/-- An error is explained by its signal, or by its whole chain if it has none. -/
theorem faultDetail_eq (mode : Mode) (party : String) (f : Fault) :
    faultDetail mode party f = match f.signal? with
      | some signal => signalDetail signal
      | none => "The " ++ party ++ " passed to " ++ mode.text ++
          " returned the following error:\n    " ++ ": ".intercalate (f.links.map Link.text) := by
  have hchain : f.chainText = ": ".intercalate (f.links.map Link.text) := by
    rw [Fault.chainText, f.map_text_links]
  cases hsignal : f.signal? with
  | some signal => simp only [faultDetail, hsignal]
  | none => simp only [faultDetail, hsignal, hchain]

theorem Meets.followsChain (h : Meets source m f view s t sample) :
    FollowsChain m f sample := by
  obtain ⟨party, hparty, hsignal, hpassed, hdetail⟩ : ∃ party,
      (party = "function" ∨ party = "matcher") ∧ sample.signal? = f.signal? ∧
      (∀ desired, sample.passed desired = false) ∧
      ∀ mode desired, sample.detail mode desired m = pure (faultDetail mode party f) := by
    cases h with
    | returned => exact ⟨_, .inl rfl, rfl, fun _ ↦ rfl, fun _ _ ↦ rfl⟩
    | judged => exact ⟨_, .inr rfl, rfl, fun _ ↦ rfl, fun _ _ ↦ rfl⟩
  refine ⟨hpassed, hsignal.trans f.signal?_eq, ?_, ?_, ?_⟩
  · intro signal hsome
    refine ⟨steering_of_signal? hsome, fun mode desired ↦ ?_⟩
    rw [hdetail, faultDetail_eq, ← hsignal, hsome]
  · intro hnone
    refine ⟨by rw [steering, hnone], party, hparty, fun mode desired ↦ ?_⟩
    rw [hdetail, faultDetail_eq, ← hsignal, hnone]
  · intro hhides
    rw [hsignal, Fault.signal?_eq_carried? hhides]

/-- **A sample that meets with an error is steered by the chain of that error**, wherever in the
chain there is a signal, and is reported on by the same signal. -/
theorem steered_by_chain (h : Meets source m f view s t sample) :
    take source m view s = (.ok sample, t) ∧ FollowsChain m f sample :=
  ⟨h.take_eq, h.followsChain⟩

end Sample

/-- A request to try again below a context and a cause, which wraps a request to stop. -/
def Fault.layered : Fault :=
  .context "while waiting" (.caused "no answer" (.atom "NoAnswer")
    (.signal ((Signal.retry (.ofMillis 5)).wrap (.signal (.stop "gone")))))

/-- The request to try again is found below its context, and it is the one that counts. -/
theorem Sample.steered_by_chain_layered :
    ∃ sample : Sample Nat, take (.produced (return .error .layered)) (.equalTo 1) ⟨.zero, none⟩ () =
        (.ok sample, ()) ∧
      sample.steering = .retry (.ofMillis 5) ∧
      sample.signal? = Fault.layered.carried? ∧
      ∀ mode desired, sample.detail mode desired (.equalTo 1 : Matcher Unit Nat) =
        pure "told to try again after 5ms: gone" := by
  have hmeets : Meets (.produced (return .error .layered)) (.equalTo 1 : Matcher Unit Nat) .layered
      ⟨.zero, none⟩ () () (.missed (.fault .layered)) := .returned rfl
  have hhides : ¬ Fault.layered.HidesSignal := by
    rintro ⟨s, hs⟩
    cases hs
  obtain ⟨htake, hchain⟩ := steered_by_chain hmeets
  obtain ⟨hsteering, hdetail⟩ := hchain.steered _ hchain.signal?_eq
  refine ⟨_, htake, hsteering, hchain.outermost hhides, fun mode desired ↦ ?_⟩
  rw [hdetail mode desired]
  rfl

/-- A request to stop that is used as a context. -/
def Fault.veiled : Fault := .signalContext (.stop "gone") (.message "io")

/-- A producer that returns this error, polled twice in twenty milliseconds. -/
def Plan.veiled : Plan Unit Nat where
  mode := .eventually
  timeout := .ofMillis 20
  polling := .ofMillis 10
  repeats := 1
  token := none
  source := .produced (return .error .veiled)
  matcher := .equalTo 1
  desired := true
  description := .none
  time := .runtime .zero

/-- The request to stop is the outermost signal of the chain, the only one even. The run goes on
after it until its time is up, and explains its latest sample as an ordinary failure. -/
theorem Run.passes_over_context_veiled :
    Fault.veiled.carried? = some (.stop "gone") ∧ Fault.veiled.signal? = none ∧ ∃ h r w,
      Course clockMoves (.start .veiled .zero) ⟨(), .zero, []⟩ h
        (.over r (some (.timedOut (.ofMillis 20)))) w ∧
      (transcript h).samples.map Observation.sample =
        [.missed (.fault .veiled), .missed (.fault .veiled)] ∧
      r.failureMessage (.timedOut (.ofMillis 20)) = pure ("Timed out after 20ms.\n" ++
        "The function passed to Eventually returned the following error:\n    gone: io") := by
  refine ⟨rfl, rfl, ?_⟩
  obtain ⟨h, r, w, hc, hsamples⟩ : ∃ h r w,
      Course clockMoves (.start .veiled .zero) ⟨(), .zero, []⟩ h
        (.over r (some (.timedOut (.ofMillis 20)))) w ∧
      (transcript h).samples.map Observation.sample =
        [.missed (.fault .veiled), .missed (.fault .veiled)] :=
    ⟨_, _, _, .step (.step (.step (.step .start rfl ⟨.zero, rfl⟩ (.sampled rfl rfl rfl))
      rfl ⟨.ofMillis 10, rfl⟩ (.looked rfl rfl rfl)) rfl ⟨.ofMillis 10, rfl⟩
      (.sampled rfl rfl rfl)) rfl ⟨.ofMillis 20, rfl⟩ (.looked rfl rfl rfl), rfl⟩
  have hplan : r.plan = .veiled := hc.run_eq.1
  have hlatest : r.latest.map Published.sample = some (.missed (.fault .veiled)) := by
    refine hc.latest_eq.trans ?_
    rw [← List.getLast?_map, hsamples]
    rfl
  refine ⟨h, r, w, hc, hsamples, ?_⟩
  rw [failureMessage_eq hlatest, hplan]
  rfl

end PollAssert
