import SearchExport.Text.Blank
import SearchExport.Text.Split
import SearchExport.Timestamp.Basic

/-!
# Reading timestamps

Two readers.  The strict one takes the format of RFC 3339 and says what is wrong with a text; the
lenient one is for data and also takes short numbers, white space and long years.

* `Timestamp.ofRfc3339` — the strict reader;
* `Timestamp.ofText?` — the lenient reader.
-/

set_option autoImplicit false

namespace SearchExport.Timestamp

/-! ## Causes of failure -/

/-- Why a text is no timestamp. -/
inductive Fault where
  /-- A character stands where it may not. -/
  | invalid
  /-- The text ends too soon. -/
  | tooShort
  /-- Something follows the timestamp. -/
  | tooLong
  /-- A part denotes no date, no time or no offset. -/
  | outOfRange
  deriving DecidableEq, Repr

/-- The fault in words. -/
def Fault.message : Fault → String
  | .invalid => "input contains invalid characters"
  | .tooShort => "premature end of input"
  | .tooLong => "trailing input"
  | .outOfRange => "input is out of range"

/-! ## Parts -/

/-- A date and a time of day at an offset from universal time, in seconds. -/
def ofParts? (date : Calendar.Date) (hour minute second nanos : Nat) (offset : Int) :
    Option Timestamp :=
  let leap := second = 60
  let sec := if leap then 59 else second
  if date.isValid ∧ -262143 ≤ date.year ∧ date.year ≤ 262142 ∧
      hour ≤ 23 ∧ minute ≤ 59 ∧ sec ≤ 59 then
    of? (Calendar.daysOfDate date * 86400 + (hour * 3600 + minute * 60 + sec : Nat) - offset)
      (nanos + if leap then 1000000000 else 0)
  else none

/-- The value of the digit in front, and the rest. -/
def digit : List Char → Except Fault (Nat × List Char)
  | [] => .error .tooShort
  | c :: cs =>
    match Text.digitValue? 10 c with
    | some d => .ok (d, cs)
    | none => .error .invalid

/-- The number that exactly `n` digits in front denote, and the rest. -/
def fixedNumber : Nat → Nat → List Char → Except Fault (Nat × List Char)
  | 0, acc, cs => .ok (acc, cs)
  | n + 1, acc, cs => do
    let (d, cs) ← digit cs
    fixedNumber n (acc * 10 + d) cs

/-- The rest after one of the given characters. -/
def oneOf (allowed : List Char) : List Char → Except Fault (List Char)
  | [] => .error .tooShort
  | c :: cs => if allowed.contains c then .ok cs else .error .invalid

/-- The nanoseconds that a fraction denotes, and the rest; digits after the ninth are dropped. -/
def fractionDigits (cs : List Char) : Except Fault (Nat × List Char) :=
  let ds := cs.takeWhile Text.isDigit
  match cs, ds with
  | [], _ => .error .tooShort
  | _, [] => .error .invalid
  | _, _ =>
    let shown := ds.take 9
    .ok (Text.number 10 shown * Nat.pow 10 (9 - shown.length), cs.dropWhile Text.isDigit)

/-- Two characters that should be digits, and the rest. -/
def twoDigits (cs : List Char) : Except Fault ((Option Nat × Option Nat) × List Char) :=
  if Text.byteLength cs < 2 then .error .tooShort
  else
    match cs with
    | a :: b :: rest => .ok ((Text.digitValue? 10 a, Text.digitValue? 10 b), rest)
    | _ => .error .invalid

/-- An offset from universal time in seconds, and the rest.  `separator` takes what stands between
the hours and the minutes. -/
def offset (separator : List Char → Except Fault (List Char)) (cs : List Char) :
    Except Fault (Int × List Char) :=
  match cs with
  | 'Z' :: rest => .ok (0, rest)
  | 'z' :: rest => .ok (0, rest)
  | [] => .error .tooShort
  | sign :: rest => do
    if !(sign = '+' || sign = '-' || sign = '\u2212') then throw .invalid
    let (hours, rest) ← twoDigits rest
    let hours ← match hours with
      | (some a, some b) => pure (a * 10 + b)
      | _ => throw .invalid
    let rest ← separator rest
    let (minutes, rest) ← twoDigits rest
    let minutes ← match minutes with
      | (some a, some b) => if a ≤ 5 then pure (a * 10 + b) else throw .outOfRange
      | _ => throw .invalid
    let seconds : Int := hours * 3600 + minutes * 60
    return (if sign = '+' then seconds else -seconds, rest)

/-! ## The strict reader -/

/-- The timestamp that a text denotes by RFC 3339. -/
def ofRfc3339 (s : String) : Except Fault Timestamp := do
  let cs := s.toList
  if Text.byteLength cs < 19 then throw .tooShort
  let (year, cs) ← fixedNumber 4 0 cs
  let cs ← oneOf ['-'] cs
  let (month, cs) ← fixedNumber 2 0 cs
  let cs ← oneOf ['-'] cs
  let (day, cs) ← fixedNumber 2 0 cs
  let date : Calendar.Date := ⟨year, month, day⟩
  if !date.isValid then throw .outOfRange
  let cs ← oneOf ['T', 't', ' '] cs
  let (hour, cs) ← fixedNumber 2 0 cs
  let cs ← oneOf [':'] cs
  let (minute, cs) ← fixedNumber 2 0 cs
  let cs ← oneOf [':'] cs
  let (second, cs) ← fixedNumber 2 0 cs
  let (nanos, cs) ← match cs with
    | '.' :: rest => fractionDigits rest
    | _ => pure (0, cs)
  if !(hour ≤ 23 && minute ≤ 59 && second ≤ 60) then throw .outOfRange
  let (shift, cs) ← offset (oneOf [':']) cs
  if 86340 < shift.natAbs then throw .outOfRange
  if !cs.isEmpty then throw .tooLong
  match ofParts? date hour minute second nanos shift with
  | some t => return t
  | none => throw .outOfRange

/-! ## The lenient reader -/

/-- The number that up to `width` digits in front denote, after white space, and the rest. -/
def shortNumber? (width : Nat) (cs : List Char) : Option (Nat × List Char) :=
  let cs := Text.trimStartChars cs
  let ds := (cs.take width).takeWhile Text.isDigit
  if ds.isEmpty then none else some (Text.number 10 ds, cs.drop ds.length)

/-- A year, after white space, and the rest: up to four digits, or any number of them after a
sign. -/
def year? (cs : List Char) : Option (Int × List Char) :=
  match Text.trimStartChars cs with
  | '-' :: rest =>
    let ds := rest.takeWhile Text.isDigit
    if ds.isEmpty then none else some (-(Text.number 10 ds : Int), rest.drop ds.length)
  | '+' :: rest =>
    let ds := rest.takeWhile Text.isDigit
    if ds.isEmpty then none else some (Text.number 10 ds, rest.drop ds.length)
  | cs => (shortNumber? 4 cs).map fun p => (p.1, p.2)

/-- The rest after white space and the character `c`. -/
def mark? (c : Char) (cs : List Char) : Option (List Char) :=
  match Text.trimStartChars cs with
  | d :: rest => if d = c then some rest else none
  | [] => none

/-- The rest after colons and white space, which may be missing. -/
def looseSeparator (cs : List Char) : Except Fault (List Char) :=
  .ok (cs.dropWhile fun c => c = ':' || isBlankChar c)

/-- The name of universal time in any letter case, or an offset, and the rest. -/
def zone? (cs : List Char) : Option (Int × List Char) :=
  match cs with
  | a :: b :: c :: rest =>
    if [a, b, c].map Char.toUpper = ['U', 'T', 'C'] then some (0, rest)
    else (offset looseSeparator cs).toOption
  | _ => (offset looseSeparator cs).toOption

/-- The timestamp that a text in data denotes. -/
def ofText? (s : String) : Option Timestamp := do
  let (year, cs) ← year? s.toList
  let cs ← mark? '-' cs
  let (month, cs) ← shortNumber? 2 cs
  let cs ← mark? '-' cs
  let (day, cs) ← shortNumber? 2 cs
  let cs ← (oneOf ['T', 't', ' '] cs).toOption
  let (hour, cs) ← shortNumber? 2 cs
  let cs ← mark? ':' cs
  let (minute, cs) ← shortNumber? 2 cs
  let cs ← mark? ':' cs
  let (second, cs) ← shortNumber? 2 cs
  let (nanos, cs) ← match cs with
    | '.' :: rest => (fractionDigits rest).toOption
    | _ => some (0, cs)
  let (shift, cs) ← zone? (Text.trimStartChars cs)
  if 86400 ≤ shift.natAbs || !(Text.trimStartChars cs).isEmpty then none
  ofParts? ⟨year, month, day⟩ hour minute second nanos shift

end SearchExport.Timestamp
