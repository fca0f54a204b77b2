import PollAssert.Inspect.Basic

/-!
# Values of any kind

`Value` is the sum of the kinds of value that a scripted scenario and the extras of a producer can
hold. Values of one kind are compared as their kind is; values of different kinds are neither equal
nor ordered.

* Floats are compared as numbers, so a value that is no number differs from itself.
* Nothing is less than anything present.
* Lists are ordered by their first difference; a comparison that meets an undecided pair first is
  itself undecided.
-/

namespace PollAssert

/-- A value of any kind. -/
inductive Value where
  | unit
  | bool (b : Bool)
  | int (n : Int)
  /-- A 64-bit float. -/
  | float (x : Float)
  /-- A 32-bit float. -/
  | single (x : Float32)
  | char (c : Char)
  | text (s : String)
  /-- An optional value that is absent. -/
  | nothing
  /-- An optional value that is present. -/
  | just (v : Value)
  | list (vs : List Value)
  /-- The result of something that went well and has nothing to tell. -/
  | success
  /-- The result of something that went wrong. -/
  | failure (v : Value)

namespace Value

instance : Inhabited Value := ⟨.unit⟩

mutual

/-- The shape of a value. -/
def shape : Value → Shape
  | .unit => .atom "()"
  | .bool b => Inspect.shape b
  | .int n => Inspect.shape n
  | .float x => Inspect.shape x
  | .single x => Inspect.shape x
  | .char c => Inspect.shape c
  | .text s => Inspect.shape s
  | .nothing => .atom "None"
  | .just v => .tagged "Some" [shape v]
  | .list vs => .list (shapes vs)
  | .success => .tagged "Ok" [.atom "()"]
  | .failure v => .tagged "Err" [shape v]

/-- The shapes of several values. -/
def shapes : List Value → List Shape
  | [] => []
  | v :: vs => shape v :: shapes vs

end

instance : Inspect Value := ⟨shape⟩

mutual

/-- Are two values equal? -/
def same : Value → Value → Bool
  | .unit, .unit => true
  | .bool a, .bool b => a == b
  | .int a, .int b => a == b
  | .float a, .float b => a == b
  | .single a, .single b => a == b
  | .char a, .char b => a == b
  | .text a, .text b => a == b
  | .nothing, .nothing => true
  | .just a, .just b => same a b
  | .list as, .list bs => sameAll as bs
  | .success, .success => true
  | .failure a, .failure b => same a b
  | _, _ => false

/-- Are two lists of values equal, element by element? -/
def sameAll : List Value → List Value → Bool
  | [], [] => true
  | a :: as, b :: bs => same a b && sameAll as bs
  | _, _ => false

end

instance : BEq Value := ⟨same⟩

mutual

/-- How one value stands to another of its kind, if it does. -/
def compare? : Value → Value → Option Ordering
  | .unit, .unit => some .eq
  | .bool a, .bool b => some (compare a b)
  | .int a, .int b => some (compare a b)
  | .float a, .float b => compareFloats? a b
  | .char a, .char b => some (compare a b)
  | .text a, .text b => some (compare a b)
  | .nothing, .nothing => some .eq
  | .nothing, .just _ => some .lt
  | .just _, .nothing => some .gt
  | .just a, .just b => compare? a b
  | .list as, .list bs => compareAll? as bs
  | _, _ => none

/-- How one list stands to another, by the first elements that are not equal. -/
def compareAll? : List Value → List Value → Option Ordering
  | [], [] => some .eq
  | [], _ :: _ => some .lt
  | _ :: _, [] => some .gt
  | a :: as, b :: bs =>
    match compare? a b with
    | some .eq => compareAll? as bs
    | decided => decided

end

instance : PartialCompare Value := ⟨compare?⟩

/-- The text that a value holds, empty for values of other kinds. -/
def asText : Value → String
  | .text s => s
  | _ => ""

/-- The elements that a value holds, none for values of other kinds. -/
def asList : Value → List Value
  | .list vs => vs
  | _ => []

/-- Is this the value that its kind regards as nothing: zero, false, absent, empty or gone well? -/
def isZero : Value → Bool
  | .unit => true
  | .bool b => !b
  | .int n => n == 0
  | .float x => x == 0
  | .single x => x == 0
  | .char c => c.toNat == 0
  | .text s => s.isEmpty
  | .nothing => true
  | .just _ => false
  | .list vs => vs.isEmpty
  | .success => true
  | .failure _ => false

end Value

end PollAssert
