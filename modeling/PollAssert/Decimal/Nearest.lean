import PollAssert.Decimal.Shortest

/-!
# The binary floating-point number nearest to a decimal

The way back from `Binary.shortest`: a decimal stands for the float nearest to it, and of two
equally near ones for the **even** one. The quotient is rounded once, with exact arithmetic on
naturals, at the least exponent that the format has for its size; so subnormal results are as exact
as all others. What is too great for the format is infinite.

The bits of the result need no case distinction. A significand counted from the bottom of its
binade adds to the exponent field, and one that is rounded up to the next binade carries into it.
-/

namespace PollAssert

namespace Decimal

/-- The integer part of the binary logarithm of `a / b`, both positive. -/
def log2Quotient (a b : Nat) : Int :=
  let guess : Int := (a.log2 : Int) - (b.log2 : Int)
  if b * twoTo guess.toNat ≤ a * twoTo (-guess).toNat then guess else guess - 1

/-- The natural nearest to `a / b`; of two equally near ones the even one. -/
def roundQuotient (a b : Nat) : Nat :=
  let below := a / b
  match compare (2 * (a % b)) b with
  | .lt => below
  | .gt => below + 1
  | .eq => below + below % 2

/-- The bits, without the sign, of the float nearest to a decimal, for a format with `width` stored
significand bits, the least exponent `least` and the bits `infinite` for infinity. -/
def nearestBits (width : Nat) (least : Int) (infinite : Nat) (d : Decimal) : Nat :=
  if d.digits = 0 then 0
  else
    let a := d.digits * tenTo d.exponent.toNat
    let b := tenTo (-d.exponent).toNat
    let exponent := max least (log2Quotient a b - width)
    let significand := roundQuotient (a * twoTo (-exponent).toNat) (b * twoTo exponent.toNat)
    min infinite ((exponent - least).toNat * twoTo width + significand)

/-- The 64-bit float nearest to a decimal, with a sign. -/
def toFloat (negative : Bool) (d : Decimal) : Float :=
  Float.ofBits (UInt64.ofNat
    ((if negative then twoTo 63 else 0) + d.nearestBits 52 (-1074) (2047 * twoTo 52)))

/-- The 32-bit float nearest to a decimal, with a sign. -/
def toFloat32 (negative : Bool) (d : Decimal) : Float32 :=
  Float32.ofBits (UInt32.ofNat
    ((if negative then twoTo 31 else 0) + d.nearestBits 23 (-149) (255 * twoTo 23)))

end Decimal

end PollAssert
