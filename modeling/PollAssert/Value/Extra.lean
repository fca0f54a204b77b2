import PollAssert.Fault
import PollAssert.Value.Basic

/-!
# Extra results of a producer

A producer may return further values behind the one under test: an error that did not happen, a
flag that should be off. Such an **extra** must be zero in the sense of its kind. The first one that
is not makes the sample an error that names its position, its type and its value. The value under
test has position 0, so the first extra has position 1.
-/

namespace PollAssert

/-- The types of extras, as far as reports name them. -/
inductive ExtraType where
  /-- Signed integers of the given width. -/
  | signed (bits : Nat)
  /-- Unsigned integers of the given width. -/
  | unsigned (bits : Nat)
  /-- Signed integers of the width of an address. -/
  | signedWord
  /-- Unsigned integers of the width of an address. -/
  | unsignedWord
  /-- Floats of the given width. -/
  | float (bits : Nat)
  | bool
  | unit
  /-- A text that is only borrowed. -/
  | borrowedText
  /-- A text of its own. -/
  | text
  | list (element : ExtraType)
  | option (content : ExtraType)
  /-- The result of something that has only an error to tell. -/
  | result (error : ExtraType)
  deriving DecidableEq

/-- The full name of a type. -/
def ExtraType.name : ExtraType → String
  | .signed bits => "i" ++ toString bits
  | .unsigned bits => "u" ++ toString bits
  | .signedWord => "isize"
  | .unsignedWord => "usize"
  | .float bits => "f" ++ toString bits
  | .bool => "bool"
  | .unit => "()"
  | .borrowedText => "&str"
  | .text => "alloc::string::String"
  | .list element => "alloc::vec::Vec<" ++ element.name ++ ">"
  | .option content => "core::option::Option<" ++ content.name ++ ">"
  | .result error => "core::result::Result<(), " ++ error.name ++ ">"

/-- An extra result. -/
structure Extra where
  /-- The type of the value. -/
  type : ExtraType
  /-- The value. -/
  value : Value

/-- An extra that is not zero. -/
structure UnexpectedExtra where
  /-- Its position in the producer's result. -/
  index : Nat
  /-- The full name of its type. -/
  typeName : String
  /-- Its value, in the tall layout. -/
  value : String
  deriving DecidableEq

namespace UnexpectedExtra

/-- The error in words. -/
def message (u : UnexpectedExtra) : String :=
  "Unexpected non-nil/non-zero extra argument at index " ++ toString u.index ++ ":\n\t<" ++
    u.typeName ++ ">: " ++ u.value

instance : Inspect UnexpectedExtra where
  shape u := .whole "UnexpectedExtraValue"
    [.field "index" (Inspect.shape u.index), .field "type_name" (.quoted u.typeName),
      .field "value" (.quoted u.value)]

/-- The error as a fault of the producer. -/
def fault (u : UnexpectedExtra) : Fault := .plain u.message (Inspect.shape u)

end UnexpectedExtra

namespace Extra

/-- The first of the extras that is not zero, if there is one; the first has the given position. -/
def firstUnexpected? : Nat → List Extra → Option UnexpectedExtra
  | _, [] => none
  | index, e :: rest =>
    if e.value.isZero then firstUnexpected? (index + 1) rest
    else some ⟨index, e.type.name, inspectTall e.value⟩

/-- The value under test, provided that all extras are zero. -/
def accept {α : Type} (a : α) (extras : List Extra) : Except UnexpectedExtra α :=
  match firstUnexpected? 1 extras with
  | none => .ok a
  | some u => .error u

end Extra

end PollAssert
