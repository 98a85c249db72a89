import SearchExport.Binary64.Basic
import SearchExport.Text.Digits

/-!
# The fewest digits that read back

A finite double is written with the fewest decimal digits for which no other double is nearer.  For
one, two, … seventeen digits the two neighbours of the exact value on that decimal grid are tried;
the first grid with a hit decides, and of two hits the nearer one.

* `shortest` — the digits and the power of ten;
* `ScientificText` — how the digits are laid out: positional between two decimal exponents, and
  with an exponent outside.
-/

set_option autoImplicit false

namespace SearchExport.Binary64

/-! ## Digits -/

/-- The number of decimal digits of a natural number. -/
def digitCountFrom : Nat → Nat → Nat
  | 0, _ => 1
  | fuel + 1, n => if n < 10 then 1 else digitCountFrom fuel (n / 10) + 1

/-- The largest power of ten that is at most `num / den`, as an exponent. -/
def floorLog10 (num den : Nat) : Int :=
  let size (n : Nat) : Nat := digitCountFrom (Nat.log2 n + 1) n
  let e : Int := (size num : Int) - size den
  if num * Nat.pow 10 (-e).toNat < den * Nat.pow 10 e.toNat then e - 1 else e

/-- Removes the zeros at the end, moving them into the exponent. -/
def dropZeros : Nat → Nat → Int → Nat × Int
  | 0, n, e => (n, e)
  | fuel + 1, n, e => if n % 10 = 0 then dropZeros fuel (n / 10) (e + 1) else (n, e)

/-- The fewest digits `d` and the exponent `k` for which `d * 10 ^ k` rounds to the absolute value
of a finite number that is not zero. -/
def shortest (x : Binary64) : Nat × Int :=
  let m := x.significand
  let e := x.exponent - 2
  let scale := Nat.pow 2 e.toNat
  let den := Nat.pow 2 (-e).toNat
  let value := 4 * m * scale
  let low := (4 * m - (if x.fraction = 0 && 1 < x.exponentField then 1 else 2)) * scale
  let high := (4 * m + 2) * scale
  let closed := m % 2 == 0
  let top := floorLog10 value den
  let attempt (count : Nat) : Option (Nat × Int) :=
    let k := top - count + 1
    let up := Nat.pow 10 k.toNat
    let down := Nat.pow 10 (-k).toNat
    let unit := den * up
    let d := value * down / unit
    let within (d : Nat) : Bool :=
      let at_ := d * unit
      if closed then low * down ≤ at_ && at_ ≤ high * down
      else low * down < at_ && at_ < high * down
    let below := value * down - d * unit
    let above := (d + 1) * unit - value * down
    match within d, within (d + 1) with
    | true, true =>
      if below < above || (below == above && d % 2 == 0) then some (d, k) else some (d + 1, k)
    | true, false => some (d, k)
    | false, true => some (d + 1, k)
    | false, false => none
  let found := ((List.range 17).findSome? fun i => attempt (i + 1)).getD (value / den, 0)
  dropZeros 20 found.1 found.2

/-! ## Layout -/

/-- How a decimal number is laid out. -/
structure ScientificText where
  /-- The smallest decimal exponent that is written positionally. -/
  least : Int
  /-- The largest decimal exponent that is written positionally. -/
  greatest : Int
  /-- What stands between the digits and a positive exponent. -/
  positive : List Char
  /-- What stands between the digits and a negative exponent. -/
  negative : List Char

/-- The digits, all before the point, with the decimal exponent of the first digit. -/
def ScientificText.lay (layout : ScientificText) (ds : List Char) (e : Int) : List Char :=
  if layout.least ≤ e && e ≤ layout.greatest then
    if e < 0 then '0' :: '.' :: (List.replicate ((-e).toNat - 1) '0' ++ ds)
    else
      let whole := e.toNat + 1
      if ds.length ≤ whole then ds ++ List.replicate (whole - ds.length) '0' ++ ['.', '0']
      else ds.take whole ++ '.' :: ds.drop whole
  else
    let mantissa :=
      match ds with
      | [] => []
      | [d] => [d]
      | d :: ds => d :: '.' :: ds
    mantissa ++ (if e < 0 then layout.negative else layout.positive) ++ Text.digits e.natAbs

/-- The text of a finite number with the fewest digits. -/
def ScientificText.write (layout : ScientificText) (x : Binary64) : List Char :=
  let sign := if x.negative then ['-'] else []
  if x.significand = 0 then sign ++ ['0', '.', '0']
  else
    let d := x.shortest
    let ds := Text.digits d.1
    sign ++ layout.lay ds (d.2 + ds.length - 1)

end SearchExport.Binary64
