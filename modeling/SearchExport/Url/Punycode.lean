import SearchExport.Text.Split

/-!
# Names in ASCII

The encoding of a label of a host name whose characters are not all ASCII.  The characters that are not
ASCII are taken in ascending order; for each the distance from the one before is written in a variable
number of digits in base 36, whose thresholds adapt to the distances.
-/

set_option autoImplicit false

namespace SearchExport.Punycode

/-- A digit in base 36. -/
def digitChar (d : Nat) : Char :=
  if d < 26 then Char.ofNat (97 + d) else Char.ofNat (22 + d)

/-- The value of a digit in base 36. -/
def digitValue? (c : Char) : Option Nat :=
  let n := c.toNat
  if 97 ≤ n && n ≤ 122 then some (n - 97)
  else if 65 ≤ n && n ≤ 90 then some (n - 65)
  else if 48 ≤ n && n ≤ 57 then some (n - 22)
  else none

/-- The threshold of the digit at the position `k`. -/
def threshold (k bias : Nat) : Nat :=
  if k ≤ bias then 1 else if bias + 26 ≤ k then 26 else k - bias

/-- Divides by 35 while the number is large, counting 36 for every division. -/
def shrink : Nat → Nat → Nat → Nat × Nat
  | 0, delta, k => (delta, k)
  | fuel + 1, delta, k => if 455 < delta then shrink fuel (delta / 35) (k + 36) else (delta, k)

/-- The bias after a distance was written. -/
def adapt (delta points : Nat) (first : Bool) : Nat :=
  let halved := if first then delta / 700 else delta / 2
  let r := shrink delta (halved + halved / points) 0
  r.2 + 36 * r.1 / (r.1 + 38)

/-- The digits of a distance. -/
def encodeDistance : Nat → Nat → Nat → Nat → List Char
  | 0, _, _, _ => []
  | fuel + 1, bias, k, q =>
    let t := threshold k bias
    if q < t then [digitChar q]
    else digitChar (t + (q - t) % (36 - t)) ::
      encodeDistance fuel bias (k + 36) ((q - t) / (36 - t))

/-- The state of an encoding. -/
structure State where
  written : List Char
  delta : Nat
  bias : Nat
  handled : Nat

/-- Looks at one character of the label while those equal to `m` are written. -/
def encodeChar (basic m : Nat) (s : State) (c : Char) : State :=
  if c.toNat < m then { s with delta := s.delta + 1 }
  else if c.toNat = m then
    { written := s.written ++ encodeDistance (s.delta + 1) s.bias 36 s.delta
      delta := 0
      bias := adapt s.delta (s.handled + 1) (s.handled = basic)
      handled := s.handled + 1 }
  else s

/-- Writes the characters one after the other; `n` is the least that was not yet considered. -/
def encodeFrom (label : List Char) (basic : Nat) : List Nat → Nat → State → State
  | [], _, s => s
  | m :: ms, n, s =>
    let s := { s with delta := s.delta + (m - n) * (s.handled + 1) }
    let s := label.foldl (encodeChar basic m) s
    encodeFrom label basic ms (m + 1) { s with delta := s.delta + 1 }

/-- The ASCII form of a label, without its mark. -/
def encode (label : List Char) : List Char :=
  let basic := label.filter fun c => c.toNat < 128
  let others := ((label.filter fun c => 128 ≤ c.toNat).map Char.toNat).mergeSort.eraseDups
  let s := encodeFrom label basic.length others 128 ⟨[], 0, 72, basic.length⟩
  basic ++ (if basic.isEmpty then [] else ['-']) ++ s.written

/-- The distance in front, its weight, and the rest. -/
def decodeDistance (bias : Nat) : Nat → Nat → Nat → List Char → Option (Nat × List Char)
  | _, _, _, [] => none
  | k, weight, i, c :: cs => do
    let d ← digitValue? c
    let i := i + d * weight
    let t := threshold k bias
    if d < t then some (i, cs) else decodeDistance bias (k + 36) (weight * (36 - t)) i cs

/-- Inserts the characters that are written, one after the other. -/
def decodeFrom : Nat → List Char → Nat → Nat → Nat → List Char → Option (List Char)
  | 0, _, _, _, _, _ => none
  | _ + 1, out, _, _, _, [] => some out
  | fuel + 1, out, n, i, bias, cs => do
    let (j, rest) ← decodeDistance bias 36 1 i cs
    let size := out.length + 1
    let n := n + j / size
    let place := j % size
    if 0x10FFFF < n || (0xD800 ≤ n && n ≤ 0xDFFF) then none
    else
      decodeFrom fuel (out.take place ++ Char.ofNat n :: out.drop place) n (place + 1)
        (adapt (j - i) size (i = 0)) rest

/-- The label that an ASCII form stands for. -/
def decode? (written : List Char) : Option (List Char) :=
  let (basic, rest) := (Text.cutLast '-' written).getD ([], written)
  decodeFrom (rest.length + 1) basic 128 0 72 rest

end SearchExport.Punycode
