import SearchExport.Text.Digits

/-!
# Durations

A signed span of time in nanoseconds.

* `Duration.times?` — multiplication, which fails beyond 64 bits of whole seconds;
* `Duration.iso` — the text by ISO 8601, in seconds only.
-/

set_option autoImplicit false

namespace SearchExport

/-- A signed span of time. -/
structure Duration where
  /-- The length in nanoseconds. -/
  nanos : Int
  deriving DecidableEq, Repr

namespace Duration

/-- A number of nanoseconds in a second. -/
def perSecond : Int := 1000000000

/-- So many seconds. -/
def ofSeconds (s : Int) : Duration := ⟨s * perSecond⟩

/-- So many milliseconds. -/
def ofMillis (n : Int) : Duration := ⟨n * 1000000⟩

/-- The whole seconds, toward minus infinity. -/
def floorSeconds (d : Duration) : Int := d.nanos / perSecond

/-- The whole milliseconds, toward zero. -/
def millis (d : Duration) : Int := d.nanos.tdiv 1000000

/-- The span in the other direction. -/
def neg (d : Duration) : Duration := ⟨-d.nanos⟩

/-- The span `n` times, as long as its whole seconds stay strictly within 64 bits. -/
def times? (d : Duration) (n : Int) : Option Duration :=
  let product : Duration := ⟨d.nanos * n⟩
  if -Int.pow 2 63 < product.floorSeconds ∧ product.floorSeconds < Int.pow 2 63 - 1 then some product
  else none

/-- Removes the zeros at the end of a list of digits. -/
def stripZeros (ds : List Char) : List Char := (ds.reverse.dropWhile (· = '0')).reverse

/-- The text by ISO 8601: seconds with the digits of the fraction that are needed. -/
def iso (d : Duration) : String :=
  let n := d.nanos.natAbs
  let sign := if d.nanos < 0 then ['-'] else []
  if n = 0 then "P0D"
  else
    let fraction := stripZeros (Text.paddedDigits 9 (n % 1000000000))
    String.ofList (sign ++ ['P', 'T'] ++ Text.digits (n / 1000000000) ++
      (if fraction.isEmpty then [] else '.' :: fraction) ++ ['S'])

end Duration

end SearchExport
