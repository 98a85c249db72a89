import SearchExport.Binary64.Basic
import SearchExport.Text.Digits

/-!
# Fixed decimal places

The text of a double with a fixed number of decimal places, rounded to the nearest and to the even one
of two equally near.

* `Binary64.fixed` — the text.
-/

set_option autoImplicit false

namespace SearchExport

/-- The whole number nearest to `num / den`, the even one of two equally near. -/
def roundedQuotient (num den : Nat) : Nat :=
  let q := num / den
  let r := num % den
  if den < 2 * r || (2 * r == den && q % 2 == 1) then q + 1 else q

namespace Binary64

/-- The text of a double with so many places after the point. -/
def fixed (places : Nat) (x : Binary64) : String :=
  if x.isFinite then
    let e := x.exponent
    let n := roundedQuotient (x.significand * Nat.pow 10 places * Nat.pow 2 e.toNat) (Nat.pow 2 (-e).toNat)
    let mark := if x.negative then ['-'] else []
    let whole := Text.digits (n / Nat.pow 10 places)
    let rest := if places = 0 then [] else '.' :: Text.paddedDigits places (n % Nat.pow 10 places)
    String.ofList (mark ++ whole ++ rest)
  else if x.isNan then "NaN"
  else if x.negative then "-inf"
  else "inf"

end Binary64

end SearchExport
