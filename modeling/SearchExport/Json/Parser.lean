import SearchExport.Document.Basic
import SearchExport.Text.Digits

/-!
# Reading JSON text

The grammar of JSON, read into a document.  What is grammatical but denotes nothing becomes an
unreadable part: it matters only to those who look at it.

* `NumberLiteral.number?` — the number that a literal denotes;
* `Document.ofJson?` — the document of a whole text;
* `Value.ofJson?` — the value of a whole text.
-/

set_option autoImplicit false

namespace SearchExport

/-! ## Numbers -/

/-- The parts of a number literal. -/
structure NumberLiteral where
  negative : Bool
  /-- The digits before the point. -/
  whole : List Char
  /-- The digits after the point. -/
  fraction : List Char
  /-- Whether the exponent is negative, and its digits. -/
  exponent : Option (Bool × List Char)

namespace NumberLiteral

/-- Appends digits to a number while it stays below 2^64; the digits left over are returned. -/
def fitDigits : Nat → List Char → Nat × List Char
  | n, [] => (n, [])
  | n, c :: cs =>
    let m := n * 10 + (Text.digitValue? 10 c).getD 0
    if m < UInt64.size then fitDigits m cs else (n, c :: cs)

/-- Multiplies by a power of ten, which is rounded itself.  Exponents beyond 308 are taken in
several steps; a result beyond the largest double is refused. -/
def scale : Nat → Binary64 → Int → Option Binary64
  | 0, x, _ => some x
  | fuel + 1, x, e =>
    if e.natAbs ≤ 308 then
      let power := Binary64.ofQuotient false (Nat.pow 10 e.natAbs) 1
      if 0 ≤ e then
        let y := x.mul power
        if y.isInfinite then none else some y
      else some (x.div power)
    else if x.isZero then some x
    else if 0 ≤ e then none
    else scale fuel (x.div (Binary64.ofQuotient false (Nat.pow 10 308) 1)) (e + 308)

/-- The double `digits * 10 ^ e` with a sign, in steps that round. -/
def double? (negative : Bool) (digits : Nat) (e : Int) : Option Binary64 :=
  (scale 8 (Binary64.ofNat digits) e).map fun x => if negative then x.neg else x

/-- An integer literal within 64 bits, or the double for one without digits left over. -/
def integer (negative : Bool) (n : Nat) : Number :=
  if !negative then .int n
  else if n = 0 || Nat.pow 2 63 < n then .double (Binary64.ofNat n).neg
  else .int (-(n : Int))

/-- The number that a literal denotes.  Digits count while the number formed by them fits 64 bits;
those after the first that does not fit only move the point. -/
def number? (l : NumberLiteral) : Option Number :=
  let w := fitDigits 0 l.whole
  if w.2.isEmpty && l.fraction.isEmpty && l.exponent.isNone then some (integer l.negative w.1)
  else
    let f := fitDigits w.1 l.fraction
    let e : Int := w.2.length - ((l.fraction.length - f.2.length : Nat) : Int)
    match l.exponent with
    | none => (double? l.negative f.1 e).map .double
    | some (down, ds) =>
      let n := Text.number 10 ds
      if n < Nat.pow 2 31 then
        (double? l.negative f.1 (if down then e - n else e + n)).map .double
      else if f.1 ≠ 0 && !down then none
      else some (.double (Binary64.zero l.negative))

end NumberLiteral

namespace JsonText

/-- The white space of the grammar. -/
def isSpace (c : Char) : Bool := c = ' ' || c = '\n' || c = '\r' || c = '\t'

/-- The text after leading white space. -/
def skipSpace (cs : List Char) : List Char := cs.dropWhile isSpace

/-- The digits in front, at least one, and the rest. -/
def someDigits? (cs : List Char) : Option (List Char × List Char) :=
  match cs.takeWhile Text.isDigit with
  | [] => none
  | ds => some (ds, cs.dropWhile Text.isDigit)

/-- The exponent in front, if there is one, and the rest. -/
def exponent? (cs : List Char) : Option (Option (Bool × List Char) × List Char) :=
  match cs with
  | c :: rest =>
    if c = 'e' || c = 'E' then
      let (down, rest) := match rest with
        | '+' :: r => (false, r)
        | '-' :: r => (true, r)
        | r => (false, r)
      (someDigits? rest).map fun p => (some (down, p.1), p.2)
    else some (none, cs)
  | [] => some (none, [])

/-- The number literal in front, and the rest. -/
def literal? (cs : List Char) : Option (NumberLiteral × List Char) := do
  let (negative, cs) := match cs with
    | '-' :: r => (true, r)
    | r => (false, r)
  let (whole, cs) ← someDigits? cs
  if whole.head? = some '0' && 1 < whole.length then none
  let (fraction, cs) ← match cs with
    | '.' :: r => someDigits? r
    | r => some ([], r)
  let (exponent, cs) ← exponent? cs
  return (⟨negative, whole, fraction, exponent⟩, cs)

/-! ## Strings -/

/-- The code unit that four hexadecimal digits denote. -/
def codeUnit? (a b c d : Char) : Option Nat :=
  if [a, b, c, d].all fun x => (Text.digitValue? 16 x).isSome then
    some (Text.number 16 [a, b, c, d])
  else none

/-- What a backslash and a letter stand for. -/
def escape? (c : Char) : Option Char :=
  if c = '"' then some '"'
  else if c = '\\' then some '\\'
  else if c = '/' then some '/'
  else if c = 'b' then some (Char.ofNat 8)
  else if c = 'f' then some (Char.ofNat 12)
  else if c = 'n' then some '\n'
  else if c = 'r' then some '\r'
  else if c = 't' then some '\t'
  else none

/-- What has been read of a string: its characters, last one first, or nothing once half a
character stood alone; and the first half of a character that is waiting for its second. -/
structure StringState where
  read : Option (List Char)
  half : Option Nat

namespace StringState

/-- Nothing read yet. -/
def start : StringState := ⟨some [], none⟩

/-- Spoils the string when a half is waiting. -/
def settle (s : StringState) : StringState :=
  if s.half.isSome then ⟨none, none⟩ else s

/-- Appends a whole character. -/
def push (s : StringState) (c : Char) : StringState :=
  let s := s.settle
  ⟨s.read.map (c :: ·), none⟩

/-- Appends a code unit, which may be one half of a character. -/
def pushUnit (s : StringState) (n : Nat) : StringState :=
  if 0xD800 ≤ n && n ≤ 0xDBFF then ⟨s.settle.read, some n⟩
  else if 0xDC00 ≤ n && n ≤ 0xDFFF then
    match s.half with
    | some high =>
      ⟨s.read.map (Char.ofNat (0x10000 + (high - 0xD800) * 0x400 + (n - 0xDC00)) :: ·), none⟩
    | none => ⟨none, none⟩
  else s.push (Char.ofNat n)

end StringState

/-- The rest of a string up to its closing quote, and what follows.  The characters are missing when
half a character stood alone. -/
def stringFrom? : StringState → List Char → Option (Option String × List Char)
  | _, [] => none
  | s, '"' :: rest => some (s.settle.read.map fun r => String.ofList r.reverse, rest)
  | s, '\\' :: 'u' :: a :: b :: c :: d :: rest =>
    match codeUnit? a b c d with
    | some n => stringFrom? (s.pushUnit n) rest
    | none => none
  | s, '\\' :: c :: rest =>
    match escape? c with
    | some e => stringFrom? (s.push e) rest
    | none => none
  | s, c :: rest => if c.toNat < 32 || c = '\\' then none else stringFrom? (s.push c) rest

/-! ## Documents -/

/-- The depth of nesting up to which containers can be read. -/
def depthLimit : Nat := 127

/-- A scalar document in front, and the rest. -/
def scalar? (cs : List Char) : Option (Document × List Char) :=
  match cs with
  | 'n' :: 'u' :: 'l' :: 'l' :: rest => some (.null, rest)
  | 't' :: 'r' :: 'u' :: 'e' :: rest => some (.flag true, rest)
  | 'f' :: 'a' :: 'l' :: 's' :: 'e' :: rest => some (.flag false, rest)
  | '"' :: rest =>
    (stringFrom? .start rest).map fun p => ((p.1.map Document.text).getD .unreadable, p.2)
  | _ => (literal? cs).map fun p => ((p.1.number?.map Document.number).getD .unreadable, p.2)

/-- The record with the entries that were read; one unreadable name spoils it. -/
def recordOf (entries : List (Option String × Document)) : Document :=
  match entries.mapM fun e => e.1.map fun k => (k, e.2) with
  | some es => .record es
  | none => .unreadable

mutual

/-- The document in front, and the rest.  `fuel` bounds the calls, `depth` counts the containers
around. -/
def document? (fuel depth : Nat) (cs : List Char) : Option (Document × List Char) :=
  match fuel with
  | 0 => none
  | fuel + 1 =>
    match skipSpace cs with
    | '[' :: rest =>
      let items := match skipSpace rest with
        | ']' :: rest => some ([], rest)
        | rest => items? fuel (depth + 1) rest
      items.map fun p => (if depth < depthLimit then .list p.1 else .unreadable, p.2)
    | '\x7b' :: rest =>
      let entries := match skipSpace rest with
        | '\x7d' :: rest => some ([], rest)
        | rest => entries? fuel (depth + 1) rest
      entries.map fun p => (if depth < depthLimit then recordOf p.1 else .unreadable, p.2)
    | cs => scalar? cs

/-- The items of a list that is open, and what follows it. -/
def items? (fuel depth : Nat) (cs : List Char) : Option (List Document × List Char) :=
  match fuel with
  | 0 => none
  | fuel + 1 => do
    let (d, cs) ← document? fuel depth cs
    match skipSpace cs with
    | ',' :: rest =>
      let (ds, rest) ← items? fuel depth rest
      return (d :: ds, rest)
    | ']' :: rest => return ([d], rest)
    | _ => none

/-- The entries of a record that is open, and what follows it. -/
def entries? (fuel depth : Nat) (cs : List Char) :
    Option (List (Option String × Document) × List Char) :=
  match fuel with
  | 0 => none
  | fuel + 1 =>
    match skipSpace cs with
    | '"' :: rest => do
      let (name, cs) ← stringFrom? .start rest
      match skipSpace cs with
      | ':' :: rest =>
        let (d, cs) ← document? fuel depth rest
        match skipSpace cs with
        | ',' :: rest =>
          let (es, rest) ← entries? fuel depth rest
          return ((name, d) :: es, rest)
        | '\x7d' :: rest => return ([(name, d)], rest)
        | _ => none
      | _ => none
    | _ => none

end

end JsonText

/-- The document of a whole JSON text. -/
def Document.ofJson? (s : String) : Option Document :=
  let cs := s.toList
  match JsonText.document? (2 * cs.length + 2) 0 cs with
  | some (d, rest) => if (JsonText.skipSpace rest).isEmpty then some d else none
  | none => none

/-- The value of a whole JSON text. -/
def Value.ofJson? (s : String) : Option Value := (Document.ofJson? s).bind Document.toValue?

end SearchExport
