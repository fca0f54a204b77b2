import PollAssert.Inspect.Basic

/-!
# Faults and the signals in them

A producer or a matcher that comes to no result returns a `Fault`: an error with a chain of causes.
Somewhere in the chain there may be a `Signal`, by which user code steers the run instead of merely
failing a sample: a request to stop, or to sample again after a delay.

The two types are mutual, for a signal may wrap a fault. Walking down a chain meets, from the
outside in,

* errors with a text of their own, and context texts that were put in front of an error;
* signals put in front as **context**. Such a signal lends its text to the chain and nothing more:
  `signal?` walks past it;
* a signal as an error, behind which the chain goes on with what the signal wraps. This is the one
  that `signal?` finds, so of two signals the outer one counts.

A signal's own text already ends with the text of what it wraps, so in the text of a whole chain
(`chainText`) a wrapped error is told twice.
-/

namespace PollAssert

/-- What a signal asks of the run. -/
inductive Request where
  /-- Give up now; the message says why. -/
  | stop (message : String)
  /-- Sample again after this delay, in place of the next polling interval. -/
  | retry (delay : Duration)
  deriving DecidableEq

/-- The request in words. -/
def Request.message : Request → String
  | .stop message => message
  | .retry delay => "told to try again after " ++ delay.text

/-- A described value that a signal carries into the report. -/
structure Attachment where
  /-- What the value is. -/
  description : String
  /-- The value, in its tall layout. -/
  value : String
  deriving DecidableEq

mutual

/-- An error with its chain of causes. -/
inductive Fault where
  /-- An error without a cause. Its form is how reports show it as a value. -/
  | plain (text : String) (form : Shape)
  /-- An error that another one caused. -/
  | caused (text : String) (form : Shape) (source : Fault)
  /-- A context text in front of an error. -/
  | context (text : String) (inner : Fault)
  /-- A signal used as context text in front of an error. -/
  | signalContext (signal : Signal) (inner : Fault)
  /-- A signal returned as the error itself. -/
  | signal (signal : Signal)

/-- A request to the run, with the values attached to it. -/
inductive Signal where
  /-- A signal that wraps nothing. -/
  | bare (request : Request) (attachments : List Attachment)
  /-- A signal around an underlying error. -/
  | wrapping (request : Request) (attachments : List Attachment) (wrapped : Fault)

end

namespace Signal

/-- A signal to stop and fail now. -/
def stop (message : String) : Signal := .bare (.stop message) []

/-- A signal to sample again after a delay. -/
def retry (delay : Duration) : Signal := .bare (.retry delay) []

/-- What the signal asks for. -/
def request : Signal → Request
  | .bare request _ => request
  | .wrapping request _ _ => request

/-- The values attached to the signal, in the order they were attached. -/
def attachments : Signal → List Attachment
  | .bare _ attachments => attachments
  | .wrapping _ attachments _ => attachments

/-- The wrapped error, if there is one. -/
def wrapped? : Signal → Option Fault
  | .bare _ _ => none
  | .wrapping _ _ wrapped => some wrapped

/-- The signal's own message, without what it wraps. -/
def message (s : Signal) : String := s.request.message

/-- Is this a request to stop? -/
def isStop (s : Signal) : Bool :=
  match s.request with
  | .stop _ => true
  | .retry _ => false

/-- The delay that a request to try again names. -/
def delay? (s : Signal) : Option Duration :=
  match s.request with
  | .stop _ => none
  | .retry delay => some delay

/-- Wrap an underlying error, in place of one wrapped before. -/
def wrap (s : Signal) (f : Fault) : Signal := .wrapping s.request s.attachments f

/-- Attach a described value. -/
def attach {α : Type} [Inspect α] (s : Signal) (description : String) (a : α) : Signal :=
  let attachments := s.attachments ++ [⟨description, inspectTall a⟩]
  match s with
  | .bare request _ => .bare request attachments
  | .wrapping request _ wrapped => .wrapping request attachments wrapped

end Signal

namespace Fault

/-- An error that is only a message. -/
def message (text : String) : Fault := .plain text (.quoted text)

end Fault

/-! ### Texts -/

mutual

/-- The text of the outermost error. -/
def Fault.text : Fault → String
  | .plain text _ => text
  | .caused text _ _ => text
  | .context text _ => text
  | .signalContext s _ => s.text
  | .signal s => s.text

/-- The text of a signal: its message, followed by the text of what it wraps. -/
def Signal.text : Signal → String
  | .bare request _ => request.message
  | .wrapping request _ wrapped => request.message ++ ": " ++ wrapped.text

end

mutual

/-- The texts of an error and of all its causes, outermost first. -/
def Fault.texts : Fault → List String
  | .plain text _ => [text]
  | .caused text _ source => text :: source.texts
  | .context text inner => text :: inner.texts
  | .signalContext s inner => s.text :: inner.texts
  | .signal s => s.text :: s.causeTexts

/-- The texts of the causes below a signal. -/
def Signal.causeTexts : Signal → List String
  | .bare _ _ => []
  | .wrapping _ _ wrapped => wrapped.texts

end

/-- The whole chain in one text. -/
def Fault.chainText (f : Fault) : String := ": ".intercalate f.texts

/-! ### The signal of a chain -/

/-- The outermost signal that a chain holds as an error. -/
def Fault.signal? : Fault → Option Signal
  | .plain _ _ => none
  | .caused _ _ source => source.signal?
  | .context _ inner => inner.signal?
  | .signalContext _ inner => inner.signal?
  | .signal s => some s

/-! ### Shapes -/

/-- The shape of a request. -/
def Request.shape : Request → Shape
  | .stop _ => .atom "StopTrying"
  | .retry delay => .tagged "TryAgainAfter" [Inspect.shape delay]

instance : Inspect Attachment where
  shape a := .whole "Attachment"
    [.field "description" (.quoted a.description), .field "value" (.quoted a.value)]

/-- The shape of a signal around the shape of what it wraps. -/
def signalShape (request : Request) (attachments : List Attachment) (wrapped : Shape) : Shape :=
  .whole "PollSignal"
    [.field "kind" request.shape, .field "message" (.quoted request.message),
      .field "wrapped" wrapped, .field "attachments" (Inspect.shape attachments)]

mutual

/-- The shape of an error. -/
def Fault.shape : Fault → Shape
  | .plain _ form => form
  | .caused _ form _ => form
  | .context text _ => .quoted text
  | .signalContext s _ => s.shape
  | .signal s => s.shape

/-- The shape of a signal. -/
def Signal.shape : Signal → Shape
  | .bare request attachments => signalShape request attachments (.atom "None")
  | .wrapping request attachments wrapped =>
    signalShape request attachments (.tagged "Some" [wrapped.shape])

end

instance : Inspect Fault := ⟨Fault.shape⟩

instance : Inspect Signal := ⟨Signal.shape⟩

end PollAssert
