import PollAssert.Text.Quoted

/-!
# Shapes

What a report shows of a value is its `Shape`: a tree of names, texts and brackets. A shape has two
layouts. The **compact** one stands on a single line, inside sentences; the **tall** one gives every
element of a list, every argument and every field a line of its own, indented by four spaces and
closed by a comma, and is used where a value has a paragraph to itself. Leaves and empty lists look
the same in both.
-/

namespace PollAssert

/-- The visible structure of a value. -/
inductive Shape where
  /-- A finished text. -/
  | atom (text : String)
  /-- Elements in square brackets. -/
  | list (items : List Shape)
  /-- A name applied to arguments in parentheses. -/
  | tagged (name : String) (arguments : List Shape)
  /-- A name with fields in braces; an `isPartial` record says that there is more to it. -/
  | record (name : String) (fields : List Shape) (isPartial : Bool)
  /-- A field of a record. -/
  | field (name : String) (value : Shape)

namespace Shape

/-- A text between double quotes. -/
def quoted (s : String) : Shape := .atom (quoteText s)

/-- A record that shows all it has. -/
def whole (name : String) (fields : List Shape) : Shape := .record name fields false

/-! ### One line -/

mutual

/-- The layout on one line. -/
def compact : Shape → String
  | .atom text => text
  | .list items => "[" ++ ", ".intercalate (compactAll items) ++ "]"
  | .tagged name arguments => name ++ "(" ++ ", ".intercalate (compactAll arguments) ++ ")"
  | .record name fields isPartial =>
    name ++ " \x7b " ++
      ", ".intercalate (compactAll fields ++ if isPartial then [".."] else []) ++ " \x7d"
  | .field name value => name ++ ": " ++ compact value

/-- The one-line layouts of several shapes. -/
def compactAll : List Shape → List String
  | [] => []
  | s :: rest => compact s :: compactAll rest

end

/-! ### A line for each part -/

/-- The start of a line at the given depth. -/
def indent (depth : Nat) : String := String.ofList (List.replicate (4 * depth) ' ')

/-- Lines between an opening and a closing bracket, at the given depth. -/
def enclose (depth : Nat) (opening closing : String) (lines : List String) : String :=
  opening ++ "\n" ++ String.join (lines.map fun l ↦ indent (depth + 1) ++ l ++ "\n") ++
    indent depth ++ closing

mutual

/-- The tall layout at a depth of indentation. -/
def tallAt (depth : Nat) : Shape → String
  | .atom text => text
  | .list [] => "[]"
  | .list (s :: rest) => enclose depth "[" "]" (tallAll (depth + 1) (s :: rest))
  | .tagged name arguments => enclose depth (name ++ "(") ")" (tallAll (depth + 1) arguments)
  | .record name fields isPartial =>
    enclose depth (name ++ " \x7b") "\x7d"
      (tallAll (depth + 1) fields ++ if isPartial then [".."] else [])
  | .field name value => name ++ ": " ++ tallAt depth value

/-- The tall layouts of several shapes, each closed by a comma. -/
def tallAll (depth : Nat) : List Shape → List String
  | [] => []
  | s :: rest => (tallAt depth s ++ ",") :: tallAll depth rest

end

/-- The layout with a line for each part. -/
def tall (s : Shape) : String := tallAt 0 s

end Shape

end PollAssert
