/-!
# Double precision numbers

A double is its 64-bit word: a sign, eleven bits of exponent and 52 bits of fraction.  Arithmetic
is done on the exact rational values and rounded once, to the nearest double and to the even one of
two equally near, so nothing here depends on the floating point unit.

* `ofQuotient` — the double nearest to a quotient of natural numbers;
* `add`, `mul`, `div`, `pow`, `lt` — arithmetic and order, with infinities and the undefined
  number treated as the standard asks.
-/

set_option autoImplicit false

namespace SearchExport

/-- A double precision number, given by its 64-bit word. -/
structure Binary64 where
  bits : UInt64
  deriving DecidableEq, Repr

namespace Binary64

/-! ## Fields -/

/-- The sign bit. -/
def negative (x : Binary64) : Bool := decide (Nat.pow 2 63 ≤ x.bits.toNat)

/-- The eleven bits of the exponent. -/
def exponentField (x : Binary64) : Nat := x.bits.toNat / Nat.pow 2 52 % Nat.pow 2 11

/-- The 52 bits of the fraction. -/
def fraction (x : Binary64) : Nat := x.bits.toNat % Nat.pow 2 52

/-- Neither infinite nor undefined. -/
def isFinite (x : Binary64) : Bool := x.exponentField != 2047

/-- The undefined number. -/
def isNan (x : Binary64) : Bool := x.exponentField == 2047 && x.fraction != 0

/-- One of the two infinities. -/
def isInfinite (x : Binary64) : Bool := x.exponentField == 2047 && x.fraction == 0

/-- The integer that a finite number is `2 ^ exponent` times. -/
def significand (x : Binary64) : Nat :=
  if x.exponentField = 0 then x.fraction else Nat.pow 2 52 + x.fraction

/-- The exponent that belongs to the significand. -/
def exponent (x : Binary64) : Int :=
  if x.exponentField = 0 then -1074 else (x.exponentField : Int) - 1075

/-- One of the two zeros. -/
def isZero (x : Binary64) : Bool := x.isFinite && x.significand == 0

/-! ## Building -/

/-- The number with the given sign whose other 63 bits are `magnitude`. -/
def ofMagnitude (negative : Bool) (magnitude : Nat) : Binary64 :=
  ⟨UInt64.ofNat ((if negative then Nat.pow 2 63 else 0) + magnitude)⟩

/-- The zero with the given sign. -/
def zero (negative : Bool) : Binary64 := ofMagnitude negative 0

/-- The infinity with the given sign. -/
def infinity (negative : Bool) : Binary64 := ofMagnitude negative (2047 * Nat.pow 2 52)

/-- The undefined number. -/
def nan : Binary64 := ofMagnitude false (2047 * Nat.pow 2 52 + Nat.pow 2 51)

/-- The largest exponent that leaves the quotient `num / den` at least one, when scaled by it. -/
def floorLog2 (num den : Nat) : Int :=
  let e : Int := (Nat.log2 num : Int) - Nat.log2 den
  if num * Nat.pow 2 (-e).toNat < den * Nat.pow 2 e.toNat then e - 1 else e

/-- The double nearest to `num / den`, the even one of two equally near; beyond the largest double
it is infinite. -/
def ofQuotient (negative : Bool) (num den : Nat) : Binary64 :=
  if num = 0 then zero negative
  else
    let e := max (floorLog2 num den - 52) (-1074)
    let n := num * Nat.pow 2 (-e).toNat
    let d := den * Nat.pow 2 e.toNat
    let q := n / d
    let r := n % d
    let m := if d < 2 * r || (2 * r == d && q % 2 == 1) then q + 1 else q
    let magnitude := (e + 1074).toNat * Nat.pow 2 52 + m
    if 2047 * Nat.pow 2 52 ≤ magnitude then infinity negative else ofMagnitude negative magnitude

/-- The double nearest to `m * 2 ^ e`. -/
def ofScaled (negative : Bool) (m : Nat) (e : Int) : Binary64 :=
  ofQuotient negative (m * Nat.pow 2 e.toNat) (Nat.pow 2 (-e).toNat)

/-- The double nearest to a natural number. -/
def ofNat (n : Nat) : Binary64 := ofQuotient false n 1

/-- The double nearest to an integer. -/
def ofInt (i : Int) : Binary64 := ofQuotient (decide (i < 0)) i.natAbs 1

/-- The double nearest to `digits * 10 ^ e`. -/
def ofDecimal (negative : Bool) (digits : Nat) (e : Int) : Binary64 :=
  ofQuotient negative (digits * Nat.pow 10 e.toNat) (Nat.pow 10 (-e).toNat)

/-! ## Arithmetic -/

/-- The number with the opposite sign. -/
def neg (x : Binary64) : Binary64 := ofMagnitude (!x.negative) (x.bits.toNat % Nat.pow 2 63)

/-- The signed integer that a finite number is `2 ^ e` times, for an `e` at most its exponent. -/
def scaledTo (x : Binary64) (e : Int) : Int :=
  let m : Int := x.significand * Int.pow 2 (x.exponent - e).toNat
  if x.negative then -m else m

/-- The rounded sum.  An exact zero is positive unless both numbers are negative. -/
def add (x y : Binary64) : Binary64 :=
  if x.isNan || y.isNan then nan
  else if x.isInfinite then
    if y.isInfinite && x.negative != y.negative then nan else x
  else if y.isInfinite then y
  else
    let e := min x.exponent y.exponent
    let s := x.scaledTo e + y.scaledTo e
    if s = 0 then zero (x.negative && y.negative)
    else ofScaled (decide (s < 0)) s.natAbs e

/-- The rounded product. -/
def mul (x y : Binary64) : Binary64 :=
  let sign := x.negative != y.negative
  if x.isNan || y.isNan then nan
  else if x.isInfinite || y.isInfinite then
    if x.isZero || y.isZero then nan else infinity sign
  else ofScaled sign (x.significand * y.significand) (x.exponent + y.exponent)

/-- The rounded quotient. -/
def div (x y : Binary64) : Binary64 :=
  let sign := x.negative != y.negative
  if x.isNan || y.isNan then nan
  else if x.isInfinite then (if y.isInfinite then nan else infinity sign)
  else if y.isInfinite then zero sign
  else if y.isZero then (if x.isZero then nan else infinity sign)
  else
    let e := x.exponent - y.exponent
    ofQuotient sign (x.significand * Nat.pow 2 e.toNat) (y.significand * Nat.pow 2 (-e).toNat)

/-- Squares `base` once for every binary digit of `n` and collects the factors that `n` asks for;
each product is rounded.  The counter bounds the number of digits. -/
def powFrom : Nat → Binary64 → Nat → Binary64 → Binary64
  | 0, _, _, acc => acc
  | fuel + 1, base, n, acc =>
    let acc := if n % 2 = 1 then acc.mul base else acc
    if n / 2 = 0 then acc else powFrom fuel (base.mul base) (n / 2) acc

/-- A power with a natural exponent, by repeated squaring. -/
def pow (base : Binary64) (n : Nat) : Binary64 := powFrom (n + 1) base n (ofNat 1)

/-- The order of the numbers; nothing is below or above the undefined number. -/
def lt (x y : Binary64) : Bool :=
  if x.isNan || y.isNan then false
  else if x.isInfinite then x.negative && !(y.isInfinite && y.negative)
  else if y.isInfinite then !y.negative
  else
    let e := min x.exponent y.exponent
    decide (x.scaledTo e < y.scaledTo e)

/-- The whole part of the number, cut off at zero below and at `top` above; the undefined number
counts as zero. -/
def toNatWithin (x : Binary64) (top : Nat) : Nat :=
  if x.isNan then 0
  else if x.negative then 0
  else if x.isInfinite then top
  else min top (x.significand * Nat.pow 2 x.exponent.toNat / Nat.pow 2 (-x.exponent).toNat)

end Binary64

end SearchExport
