import PollAssert.Decimal.Shortest

/-!
# How floating-point values are laid out in reports

Floats are written with the fewest digits that identify them: positionally, and always with a
fraction, while the leading digit stands for a power of ten from `10 ^ (-4)` up to `10 ^ 15`, and
with an unsigned exponent otherwise. The decisions are the fields of one record, `reportStyle`.
-/

namespace PollAssert

/-- The decisions of a decimal layout. -/
structure DecimalStyle where
  /-- The least power of ten of a leading digit that is written positionally. -/
  plainFrom : Int
  /-- The first power of ten of a leading digit that no longer is. -/
  plainBelow : Int
  /-- The mark in front of an exponent. -/
  exponentMark : String
  /-- The text of a value that is no number. -/
  undefined : String
  /-- The text of an infinity, without its sign. -/
  infinite : String

/-- The layout of reports: positional from a ten-thousandth up to sixteen digits. -/
def reportStyle : DecimalStyle where
  plainFrom := -4
  plainBelow := 16
  exponentMark := "e"
  undefined := "NaN"
  infinite := "inf"

namespace DecimalStyle

/-- Digits with a point: the point stands behind, inside or in front of them. -/
def positional (d : Decimal) : String :=
  let digits := Nat.toDigits 10 d.digits
  if 0 ≤ d.exponent then
    String.ofList (digits ++ List.replicate d.exponent.toNat '0') ++ ".0"
  else
    let places := (-d.exponent).toNat
    let padded := List.replicate (places + 1 - digits.length) '0' ++ digits
    let whole := padded.length - places
    String.ofList (padded.take whole ++ '.' :: padded.drop whole)

/-- One digit, the rest of them behind a point if there are any, and the exponent. -/
def scientific (f : DecimalStyle) (d : Decimal) : String :=
  let digits := Nat.toDigits 10 d.digits
  let leading := d.exponent + (digits.length : Int) - 1
  let rest := digits.drop 1
  String.ofList (digits.take 1) ++ (if rest.isEmpty then "" else "." ++ String.ofList rest) ++
    f.exponentMark ++ toString leading

/-- The text of a decimal. -/
def magnitude (f : DecimalStyle) (d : Decimal) : String :=
  let leading := d.exponent + ((Nat.toDigits 10 d.digits).length : Int) - 1
  if f.plainFrom ≤ leading && leading < f.plainBelow then positional d else f.scientific d

/-- Put the sign in front. -/
def signed (negative : Bool) (s : String) : String := if negative then "-" ++ s else s

/-- The text of a 64-bit float. -/
def float (f : DecimalStyle) (x : Float) : String :=
  let negative := decide (twoTo 63 ≤ x.toBits.toNat)
  if x.isNaN then f.undefined
  else if x.isInf then signed negative f.infinite
  else if x == 0 then signed negative "0.0"
  else signed negative (f.magnitude (Binary.ofFloat x).shortest)

/-- The text of a 32-bit float. -/
def float32 (f : DecimalStyle) (x : Float32) : String :=
  let negative := decide (twoTo 31 ≤ x.toBits.toNat)
  if x.isNaN then f.undefined
  else if x.isInf then signed negative f.infinite
  else if x == 0 then signed negative "0.0"
  else signed negative (f.magnitude (Binary.ofFloat32 x).shortest)

end DecimalStyle

end PollAssert
