import PollAssert.Powers

/-!
# The shortest decimal of a binary floating-point number

A finite float is `m * 2 ^ q` with naturals `m`, and stands for an interval of reals: those that
round to it. Among the decimals in that interval the ones with the fewest digits are the shortest;
of these the one nearest to the float is chosen, and of two equally near ones the **upper**.

Everything is exact arithmetic on naturals: to compare a decimal with an end of the interval, both
sides are multiplied out. The search tries one digit, then two, and so on; on each grid only the two
neighbours of the float can be nearest, so only they are tested. Seventeen digits (nine for the
32-bit format) always suffice for these formats; were nothing found, the exact value would be taken.
-/

namespace PollAssert

/-- A finite binary floating-point number without its sign. -/
structure Binary where
  /-- The integer significand. -/
  mantissa : Nat
  /-- The power of two it is scaled by. -/
  exponent : Int
  /-- The gap to the number below is half the gap to the number above. -/
  narrowBelow : Bool

/-- A decimal number without its sign: `digits * 10 ^ exponent`. -/
structure Decimal where
  /-- All digits, read as one natural. -/
  digits : Nat
  /-- The power of ten they are scaled by. -/
  exponent : Int
  deriving DecidableEq

namespace Binary

/-- Decode the bits of a number with `width` stored significand bits, whose least exponent is
`least`. The exponent field is given without the sign. -/
def ofFields (width : Nat) (least : Int) (field fraction : Nat) : Binary :=
  if field = 0 then ⟨fraction, least, false⟩
  else ⟨twoTo width + fraction, least + (field : Int) - 1, fraction == 0 && decide (1 < field)⟩

/-- The magnitude of a finite 64-bit float. -/
def ofFloat (x : Float) : Binary :=
  let bits := x.toBits.toNat
  ofFields 52 (-1074) (bits / twoTo 52 % twoTo 11) (bits % twoTo 52)

/-- The magnitude of a finite 32-bit float. -/
def ofFloat32 (x : Float32) : Binary :=
  let bits := x.toBits.toNat
  ofFields 23 (-149) (bits / twoTo 23 % twoTo 8) (bits % twoTo 23)

/-- Compare `a * 10 ^ i` with `n * 2 ^ j`, exactly. -/
def compareScaled (a : Nat) (i : Int) (n : Nat) (j : Int) : Ordering :=
  compare (a * tenTo i.toNat * twoTo (-j).toNat) (n * twoTo j.toNat * tenTo (-i).toNat)

/-- Does the decimal lie among the reals that round to this number? The ends of the interval belong
to it exactly when the significand is even. -/
def readsBack (x : Binary) (d : Decimal) : Bool :=
  let low := if x.narrowBelow then 4 * x.mantissa - 1 else 4 * x.mantissa - 2
  let high := 4 * x.mantissa + 2
  let closed := x.mantissa % 2 == 0
  let atLow := compareScaled d.digits d.exponent low (x.exponent - 2)
  let atHigh := compareScaled d.digits d.exponent high (x.exponent - 2)
  (atLow == .gt || (closed && atLow == .eq)) && (atHigh == .lt || (closed && atHigh == .eq))

/-- The integer part of `m * 2 ^ q / 10 ^ e`. -/
def floorAt (x : Binary) (e : Int) : Nat :=
  (x.mantissa * twoTo x.exponent.toNat * tenTo (-e).toNat) /
    (twoTo (-x.exponent).toNat * tenTo e.toNat)

/-- The least `k` in the given range of integers with `m * 2 ^ q < 10 ^ k`. -/
def scaleFrom (x : Binary) : Nat → Int → Int
  | 0, k => k
  | n + 1, k =>
    if compareScaled 1 k x.mantissa x.exponent == .gt then k else x.scaleFrom n (k + 1)

/-- The least `k` with `m * 2 ^ q < 10 ^ k`: the number of digits in front of the point. -/
def scale (x : Binary) : Int :=
  let log2 : Int := (x.mantissa.log2 : Int) + x.exponent
  x.scaleFrom 4 (log2 * 30103 / 100000 - 1)

/-- The better of the two neighbours on the grid of `10 ^ e`, if one reads back. -/
def onGrid? (x : Binary) (e : Int) : Option Decimal :=
  let below := x.floorAt e
  let lower : Decimal := ⟨below, e⟩
  let upper : Decimal := ⟨below + 1, e⟩
  match x.readsBack lower && below != 0, x.readsBack upper with
  | true, false => some lower
  | false, true => some upper
  | false, false => none
  | true, true =>
    if compareScaled (2 * below + 1) e (2 * x.mantissa) x.exponent == .gt then some lower
    else some upper

/-- The first grid with a hit, from the `n`-th digit on. -/
def searchFrom (x : Binary) (scale : Int) : Nat → Nat → Option Decimal
  | 0, _ => none
  | fuel + 1, n =>
    match x.onGrid? (scale - (n : Int)) with
    | some d => some d
    | none => x.searchFrom scale fuel (n + 1)

/-- The exact value as a decimal. -/
def exactDecimal (x : Binary) : Decimal :=
  ⟨x.mantissa * twoTo x.exponent.toNat * tenTo (-x.exponent).toNat / twoTo (-x.exponent).toNat,
    -((-x.exponent).toNat : Int)⟩

/-- Move trailing zeros of the digits into the exponent, at most `n` of them. -/
def stripZeros : Nat → Decimal → Decimal
  | 0, d => d
  | n + 1, d =>
    if d.digits != 0 && d.digits % 10 == 0 then stripZeros n ⟨d.digits / 10, d.exponent + 1⟩ else d

/-- The shortest decimal that reads back to a non-zero number. -/
def shortest (x : Binary) : Decimal :=
  stripZeros 20 ((x.searchFrom x.scale 17 1).getD x.exactDecimal)

end Binary

end PollAssert
