import SearchExport.Text.Blank
import SearchExport.Text.Lowercase
import SearchExport.Url.Basic
import SearchExport.Url.Punycode

/-!
# Hosts

The host of an address: a number with up to four parts, a long number in brackets, or a name.

* `Host.parse` — the written form of the host of a web address;
* `Host.parseOpaque` — the written form of the host of any other address.
-/

set_option autoImplicit false

namespace SearchExport

/-- Why a text is no address. -/
inductive UrlFault where
  | emptyHost
  | badName
  | badPort
  | badIpv4
  | badIpv6
  | badHostCharacter
  | noBase
  | unusableBase
  deriving DecidableEq, Repr

/-- The fault in words. -/
def UrlFault.message : UrlFault → String
  | .emptyHost => "empty host"
  | .badName => "invalid international domain name"
  | .badPort => "invalid port number"
  | .badIpv4 => "invalid IPv4 address"
  | .badIpv6 => "invalid IPv6 address"
  | .badHostCharacter => "invalid domain character"
  | .noBase => "relative URL without a base"
  | .unusableBase => "relative URL with a cannot-be-a-base base"

namespace Host

/-! ## Numbers with four parts -/

/-- The number that a part denotes: hexadecimal after `0x`, octal after `0`, else decimal. -/
def ipv4Part? (cs : List Char) : Option Nat :=
  let read (base : Nat) (ds : List Char) : Option Nat :=
    if ds.all fun c => (Text.digitValue? base c).isSome then some (Text.number base ds) else none
  match cs with
  | [] => none
  | '0' :: 'x' :: ds => read 16 ds
  | '0' :: 'X' :: ds => read 16 ds
  | ['0'] => some 0
  | '0' :: ds => read 8 ds
  | ds => read 10 ds

/-- The parts of a host between its dots, without an empty one at the end. -/
def dottedParts (cs : List Char) : List (List Char) :=
  let parts := Text.splitChars '.' cs
  if 1 < parts.length && parts.getLast? = some [] then parts.dropLast else parts

/-- Whether the last part of a host is a number, so that the host has to be one. -/
def endsInNumber (cs : List Char) : Bool :=
  match (dottedParts cs).getLast? with
  | none => false
  | some last =>
    (!last.isEmpty && last.all Text.isDigit) ||
      match last with
      | '0' :: 'x' :: ds => ds.all fun c => (Text.digitValue? 16 c).isSome
      | '0' :: 'X' :: ds => ds.all fun c => (Text.digitValue? 16 c).isSome
      | _ => false

/-- The number with 32 bits that the parts denote; the last part fills all places that are left. -/
def ipv4Number? (cs : List Char) : Option Nat := do
  let parts := dottedParts cs
  if 4 < parts.length then none
  let ns ← parts.mapM ipv4Part?
  let last ← ns.getLast?
  let front := ns.dropLast
  if front.any (255 < ·) || Nat.pow 256 (4 - front.length) ≤ last then none
  let high := front.foldl (fun acc n => acc * 256 + n) 0
  return high * Nat.pow 256 (4 - front.length) + last

/-- The written form of a number with 32 bits. -/
def ipv4Text (n : Nat) : List Char :=
  Text.digits (n / Nat.pow 2 24) ++ '.' :: (Text.digits (n / Nat.pow 2 16 % 256) ++
    '.' :: (Text.digits (n / Nat.pow 2 8 % 256) ++ '.' :: Text.digits (n % 256)))

/-! ## Numbers in brackets -/

/-- The number of at most four hexadecimal digits. -/
def ipv6Piece? (cs : List Char) : Option Nat :=
  if !cs.isEmpty && cs.length ≤ 4 && cs.all fun c => (Text.digitValue? 16 c).isSome then
    some (Text.number 16 cs)
  else none

/-- Two pieces from four decimal parts. -/
def ipv6Tail? (cs : List Char) : Option (List Nat) := do
  let parts := Text.splitChars '.' cs
  if parts.length ≠ 4 then none
  let ns ← parts.mapM fun p => do
    let n ← Text.nat? p
    if 255 < n || (1 < p.length && p.head? = some '0') then none
    return n
  match ns with
  | [a, b, c, d] => return [a * 256 + b, c * 256 + d]
  | _ => none

/-- The pieces between colons; the last one may be written as four decimal parts. -/
def ipv6Pieces? (allowTail : Bool) (cs : List Char) : Option (List Nat) :=
  if cs.isEmpty then some []
  else
    let parts := Text.splitChars ':' cs
    match parts.getLast? with
    | none => some []
    | some last =>
      if allowTail && last.contains '.' then do
        let front ← parts.dropLast.mapM ipv6Piece?
        let tail ← ipv6Tail? last
        return front ++ tail
      else parts.mapM ipv6Piece?

/-- What stands before and after the first pair of colons. -/
def cutDoubleColon (cs : List Char) : Option (List Char × List Char) := Text.cutAt [':', ':'] cs

/-- The eight pieces of a number in brackets. -/
def ipv6? (cs : List Char) : Option (List Nat) :=
  match cutDoubleColon cs with
  | none => do
    let ps ← ipv6Pieces? true cs
    if ps.length = 8 then return ps else none
  | some (before, after) => do
    let front ← ipv6Pieces? false before
    let back ← ipv6Pieces? true after
    if 7 < front.length + back.length then none
    return front ++ List.replicate (8 - front.length - back.length) 0 ++ back

/-- The number of zeros in front. -/
def zerosInFront (ps : List Nat) : Nat := (ps.takeWhile (· = 0)).length

/-- Start and length of the first longest run of zeros. -/
def longestZeros : Nat → List Nat → Nat × Nat
  | _, [] => (0, 0)
  | i, p :: ps =>
    let here := zerosInFront (p :: ps)
    let later := longestZeros (i + 1) ps
    if later.2 ≤ here then (i, here) else later

/-- A number in hexadecimal, in lower case and without leading zeros. -/
def hexText (n : Nat) : List Char :=
  (Nat.toDigits 16 n)

/-- The written form of eight pieces; the first longest run of two or more zeros is left out. -/
def ipv6Text (ps : List Nat) : List Char :=
  let join (qs : List Nat) : List Char :=
    List.intercalate [':'] (qs.map hexText)
  let (start, size) := longestZeros 0 ps
  let body :=
    if size < 2 then join ps else join (ps.take start) ++ [':', ':'] ++ join (ps.drop (start + size))
  '[' :: (body ++ [']'])

/-! ## Names -/

/-- An ASCII character that may not stand in a name. -/
def isDenied (c : Char) : Bool :=
  c.toNat ≤ 0x20 || c.toNat = 0x7F ||
    ['%', '#', '/', ':', '<', '>', '?', '@', '[', '\\', ']', '^', '|'].contains c

/-- A character as it counts in a name: full-width forms as ASCII, stops as dots, invisible marks as
nothing, and capitals as small letters. -/
def mapNameChar (c : Char) : List Char :=
  let n := c.toNat
  if 0xFF01 ≤ n && n ≤ 0xFF5E then Text.lowerChar (Char.ofNat (n - 0xFEE0))
  else if n = 0x3002 || n = 0xFF61 then ['.']
  else if n = 0xAD || n = 0x200B || n = 0x2060 || n = 0xFEFF then []
  else Text.lowerChar c

/-- Whether a label of mapped characters, not all of them ASCII, may be part of a name: there are no
blanks, no controls and no joiners in it. -/
def isLabel (cs : List Char) : Bool :=
  cs.all fun c => !isDenied c && !isBlankChar c && (c.toNat < 0x80 || 0xA0 ≤ c.toNat) &&
    c.toNat ≠ 0x200C && c.toNat ≠ 0x200D

/-- The ASCII form of one label. -/
def label? (cs : List Char) : Option (List Char) :=
  if cs.all fun c => c.toNat < 128 then
    match cs with
    | 'x' :: 'n' :: '-' :: '-' :: rest => do
      let decoded ← Punycode.decode? rest
      let isMapped := decoded.flatMap mapNameChar = decoded
      if (decoded.any fun c => 128 ≤ c.toNat) && isMapped && isLabel decoded &&
          Punycode.encode decoded = rest then some cs
      else none
    | _ => if cs.any isDenied then none else some cs
  else if isLabel cs then some ("xn--".toList ++ Punycode.encode cs)
  else none

/-- The ASCII form of a name. -/
def name? (cs : List Char) : Option (List Char) := do
  let labels ← (Text.splitChars '.' (cs.flatMap mapNameChar)).mapM label?
  return List.intercalate ['.'] labels

/-! ## Hosts -/

/-- The written form of a number in brackets. -/
def parseBracketed (cs : List Char) : Except UrlFault (List Char) :=
  if cs.getLast? = some ']' then
    match ipv6? (cs.drop 1).dropLast with
    | some ps => .ok (ipv6Text ps)
    | none => .error .badIpv6
  else .error .badIpv6

/-- The written form of the host of a web address. -/
def parse (cs : List Char) : Except UrlFault (List Char) :=
  if cs.head? = some '[' then parseBracketed cs
  else
    match String.fromUTF8? ⟨(percentDecode cs).toArray⟩ with
    | none => .error .badName
    | some decoded =>
      match name? decoded.toList with
      | none => .error .badName
      | some [] => .error .emptyHost
      | some name =>
        if endsInNumber name then
          match ipv4Number? name with
          | some n => .ok (ipv4Text n)
          | none => .error .badIpv4
        else .ok name

/-- A character that may not stand in the host of any address. -/
def isForbidden (c : Char) : Bool :=
  c.toNat = 0 || ['\t', '\n', '\r', ' ', '#', '/', ':', '<', '>', '?', '@', '[', '\\', ']', '^',
    '|'].contains c

/-- The written form of the host of an address that is not of the web. -/
def parseOpaque (cs : List Char) : Except UrlFault (List Char) :=
  if cs.head? = some '[' then parseBracketed cs
  else if cs.any isForbidden then .error .badHostCharacter
  else .ok (percentEncode [] cs)

end Host

end SearchExport
