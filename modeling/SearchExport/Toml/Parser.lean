import SearchExport.Text.Digits
import SearchExport.Timestamp.Calendar
import SearchExport.Toml.Table

/-!
# Reading TOML

The grammar of TOML, read into a document.  A date or a time holds no setting; it becomes a record
without entries.

* `Document.ofToml?` — the document of a whole text.
-/

set_option autoImplicit false

namespace SearchExport.Toml

/-! ## Characters -/

/-- White space within a line. -/
def isSpace (c : Char) : Bool := c = ' ' || c = '\t'

/-- A character that may stand in a comment. -/
def isCommentChar (c : Char) : Bool := c = '\t' || (0x20 ≤ c.toNat && c.toNat ≠ 0x7F)

/-- A character that stands for itself in a text with escapes. -/
def isPlainChar (c : Char) : Bool := isCommentChar c && c ≠ '"' && c ≠ '\\'

/-- A character of a text without escapes. -/
def isLiteralChar (c : Char) : Bool := isCommentChar c && c ≠ '\''

/-- A character of a key without quotes. -/
def isBareChar (c : Char) : Bool := c.isAlphanum || c = '-' || c = '_'

/-- The rest after white space. -/
def skipSpace (cs : List Char) : List Char := cs.dropWhile isSpace

/-- The rest after a line end. -/
def newline? : List Char → Option (List Char)
  | '\n' :: cs => some cs
  | '\r' :: '\n' :: cs => some cs
  | _ => none

/-- The rest after a comment, if there is one. -/
def skipComment : List Char → List Char
  | '#' :: cs => cs.dropWhile isCommentChar
  | cs => cs

/-- The rest after the end of a line: white space, a comment, and a line end unless the text ends. -/
def lineEnd? (cs : List Char) : Option (List Char) :=
  match skipComment (skipSpace cs) with
  | [] => some []
  | rest => newline? rest

/-- The rest after white space, comments and line ends. -/
def skipBlank : Nat → List Char → List Char
  | 0, cs => cs
  | fuel + 1, cs =>
    let rest := skipComment (skipSpace cs)
    match newline? rest with
    | some rest => skipBlank fuel rest
    | none => rest

/-! ## Texts -/

/-- The character that hexadecimal digits denote. -/
def scalar? (ds : List Char) : Option Char :=
  if ds.all fun c => (Text.digitValue? 16 c).isSome then
    let n := Text.number 16 ds
    if n < 0xD800 || (0xDFFF < n && n ≤ 0x10FFFF) then some (Char.ofNat n) else none
  else none

/-- The character that an escape stands for, and the rest. -/
def escape? : List Char → Option (Char × List Char)
  | 'b' :: cs => some (Char.ofNat 8, cs)
  | 't' :: cs => some ('\t', cs)
  | 'n' :: cs => some ('\n', cs)
  | 'f' :: cs => some (Char.ofNat 12, cs)
  | 'r' :: cs => some ('\r', cs)
  | '"' :: cs => some ('"', cs)
  | '\\' :: cs => some ('\\', cs)
  | 'u' :: cs => if cs.length < 4 then none else (scalar? (cs.take 4)).map fun c => (c, cs.drop 4)
  | 'U' :: cs => if cs.length < 8 then none else (scalar? (cs.take 8)).map fun c => (c, cs.drop 8)
  | _ => none

/-- The rest of a text with escapes on one line, and what follows it. -/
def basicText? : Nat → List Char → List Char → Option (String × List Char)
  | 0, _, _ => none
  | _, _, [] => none
  | fuel + 1, read, c :: cs =>
    if c = '"' then some (String.ofList read.reverse, cs)
    else if c = '\\' then do
      let (e, rest) ← escape? cs
      basicText? fuel (e :: read) rest
    else if isPlainChar c then basicText? fuel (c :: read) cs
    else none

/-- The rest of a text without escapes on one line, and what follows it. -/
def literalText? (cs : List Char) : Option (String × List Char) :=
  let body := cs.takeWhile isLiteralChar
  match cs.drop body.length with
  | '\'' :: rest => some (String.ofList body, rest)
  | _ => none

/-- The quotes that end a text over several lines, up to two of which belong to the text, and what
follows. -/
def closing? (quote : Char) (cs : List Char) : Option (List Char × List Char) :=
  let quotes := (cs.take 5).takeWhile (· = quote)
  if quotes.length < 3 then none else some (quotes.drop 3, cs.drop quotes.length)

/-- The rest after white space and line ends. -/
def skipLines : Nat → List Char → List Char
  | 0, cs => cs
  | fuel + 1, cs =>
    let rest := skipSpace cs
    match newline? rest with
    | some rest => skipLines fuel rest
    | none => rest

/-- The rest after a line end inside a text, if only white space stands before it, and after the blank
lines that follow. -/
def continued? (cs : List Char) : Option (List Char) :=
  (newline? (skipSpace cs)).map fun rest => skipLines rest.length rest

/-- The rest of a text with escapes over several lines, and what follows it. -/
def longBasicText? : Nat → List Char → List Char → Option (String × List Char)
  | 0, _, _ => none
  | _, _, [] => none
  | fuel + 1, read, c :: cs =>
    if c = '"' then
      match closing? '"' (c :: cs) with
      | some (quotes, rest) => some (String.ofList (quotes ++ read).reverse, rest)
      | none => longBasicText? fuel (c :: read) cs
    else if c = '\\' then
      match continued? cs with
      | some rest => longBasicText? fuel read rest
      | none => do
        let (e, rest) ← escape? cs
        longBasicText? fuel (e :: read) rest
    else
      match newline? (c :: cs) with
      | some rest => longBasicText? fuel ('\n' :: read) rest
      | none => if isPlainChar c then longBasicText? fuel (c :: read) cs else none

/-- The rest of a text without escapes over several lines, and what follows it. -/
def longLiteralText? : Nat → List Char → List Char → Option (String × List Char)
  | 0, _, _ => none
  | _, _, [] => none
  | fuel + 1, read, c :: cs =>
    if c = '\'' then
      match closing? '\'' (c :: cs) with
      | some (quotes, rest) => some (String.ofList (quotes ++ read).reverse, rest)
      | none => longLiteralText? fuel (c :: read) cs
    else
      match newline? (c :: cs) with
      | some rest => longLiteralText? fuel ('\n' :: read) rest
      | none => if isLiteralChar c then longLiteralText? fuel (c :: read) cs else none

/-- The rest without a line end in front. -/
def dropNewline (cs : List Char) : List Char := (newline? cs).getD cs

/-- A text in quotes, and what follows it. -/
def text? (cs : List Char) : Option (String × List Char) :=
  match cs with
  | '"' :: '"' :: '"' :: rest =>
    longBasicText? (rest.length + 1) [] (dropNewline rest)
  | '"' :: rest => basicText? (rest.length + 1) [] rest
  | '\'' :: '\'' :: '\'' :: rest => longLiteralText? (rest.length + 1) [] (dropNewline rest)
  | '\'' :: rest => literalText? rest
  | _ => none

/-! ## Keys -/

/-- The greatest depth of nesting. -/
def depthLimit : Nat := 80

/-- One part of a key, and what follows it. -/
def keyPart? (cs : List Char) : Option (String × List Char) :=
  match cs with
  | '"' :: rest => basicText? (rest.length + 1) [] rest
  | '\'' :: rest => literalText? rest
  | _ =>
    let bare := cs.takeWhile isBareChar
    if bare.isEmpty then none else some (String.ofList bare, cs.drop bare.length)

/-- The parts of a key between its dots, and what follows the key and white space. -/
def keyParts? : Nat → List Char → Option (List String × List Char)
  | 0, _ => none
  | fuel + 1, cs => do
    let (part, rest) ← keyPart? (skipSpace cs)
    match skipSpace rest with
    | '.' :: rest =>
      let (parts, rest) ← keyParts? fuel rest
      return (part :: parts, rest)
    | rest => return ([part], rest)

/-- A key, and what follows it and white space. -/
def key? (cs : List Char) : Option (List String × List Char) := do
  let (parts, rest) ← keyParts? (cs.length + 1) cs
  if depthLimit ≤ parts.length then none
  return (parts, rest)

/-! ## Numbers -/

/-- Digits with single underscores between them, and the rest. -/
def digitsWithin? (digit : Char → Bool) : List Char → Option (List Char × List Char)
  | [] => none
  | c :: cs =>
    if digit c then
      match cs with
      | '_' :: rest => (digitsWithin? digit rest).map fun p => (c :: p.1, p.2)
      | d :: rest =>
        if digit d then (digitsWithin? digit (d :: rest)).map fun p => (c :: p.1, p.2)
        else some ([c], d :: rest)
      | [] => some ([c], [])
    else none

/-- A sign, true when negative, and the rest. -/
def sign : List Char → Bool × List Char
  | '-' :: cs => (true, cs)
  | '+' :: cs => (false, cs)
  | cs => (false, cs)

/-- Decimal digits without a zero in front, and the rest. -/
def decimal? (cs : List Char) : Option (List Char × List Char) :=
  match cs with
  | '0' :: rest => some (['0'], rest)
  | _ => digitsWithin? Text.isDigit cs

/-- The double with the given digits before and after the point and the given exponent. -/
def double? (negative : Bool) (whole fraction : List Char) (exponent : Int) : Option Binary64 :=
  let digits := Text.number 10 (whole ++ fraction)
  let e := exponent - fraction.length
  let size : Int := ((whole ++ fraction).dropWhile (· = '0')).length
  let x :=
    if digits = 0 || e + size < -400 then Binary64.zero negative
    else if 400 < e + size then Binary64.infinity negative
    else Binary64.ofDecimal negative digits e
  if x.isInfinite && !negative then none else some x

/-- The exponent in front, and the rest. -/
def exponent? (cs : List Char) : Option (Int × List Char) := do
  let (negative, cs) := sign cs
  let (ds, rest) ← digitsWithin? Text.isDigit cs
  let n : Int := Text.number 10 ds
  return (if negative then -n else n, rest)

/-- A number in base ten after its sign: an integer, or a double when a fraction or an exponent
follows. -/
def decimalNumber? (negative : Bool) (cs : List Char) : Option (Document × List Char) := do
  let (whole, rest) ← decimal? cs
  let isExponent (c : Char) : Bool := c = 'e' || c = 'E'
  match rest with
  | '.' :: more =>
    let (fraction, rest) ← digitsWithin? Text.isDigit more
    match rest with
    | c :: more =>
      let (e, rest) ← if isExponent c then exponent? more else some (0, rest)
      let x ← double? negative whole fraction e
      return (.number (.double x), rest)
    | [] =>
      let x ← double? negative whole fraction 0
      return (.number (.double x), [])
  | c :: more =>
    if isExponent c then
      let (e, rest) ← exponent? more
      let x ← double? negative whole [] e
      return (.number (.double x), rest)
    else integer whole rest
  | [] => integer whole rest
where
  /-- The integer with the given digits, within 64 bits. -/
  integer (whole rest : List Char) : Option (Document × List Char) :=
    let n : Int := Text.number 10 whole
    let i := if negative then -n else n
    if -Int.pow 2 63 ≤ i ∧ i < Int.pow 2 63 then some (.number (.int i), rest) else none

/-- An integer in another base, and the rest. -/
def basedInteger? (base : Nat) (cs : List Char) : Option (Document × List Char) := do
  let (ds, rest) ← digitsWithin? (fun c => (Text.digitValue? base c).isSome) cs
  let n := Text.number base ds
  if n < Nat.pow 2 63 then return (.number (.int n), rest) else none

/-- A number, and the rest. -/
def number? (cs : List Char) : Option (Document × List Char) :=
  match cs with
  | '0' :: 'x' :: rest => basedInteger? 16 rest
  | '0' :: 'o' :: rest => basedInteger? 8 rest
  | '0' :: 'b' :: rest => basedInteger? 2 rest
  | _ =>
    let (negative, rest) := sign cs
    match rest with
    | 'i' :: 'n' :: 'f' :: rest => some (.number (.double (Binary64.infinity negative)), rest)
    | 'n' :: 'a' :: 'n' :: rest => some (.number (.double Binary64.nan), rest)
    | _ => decimalNumber? negative rest

/-! ## Dates and times -/

/-- The number of two digits up to `top`, and the rest. -/
def twoDigits? (least top : Nat) : List Char → Option (Nat × List Char)
  | a :: b :: rest => do
    let n ← Text.nat? [a, b]
    if least ≤ n && n ≤ top then return (n, rest) else none
  | _ => none

/-- The rest after a date, which has to exist. -/
def date? (cs : List Char) : Option (List Char) := do
  let year ← Text.nat? (cs.take 4)
  if cs.length < 4 then none
  match cs.drop 4 with
  | '-' :: rest =>
    let (month, rest) ← twoDigits? 1 12 rest
    match rest with
    | '-' :: rest =>
      let (_, rest) ← twoDigits? 1 (Calendar.daysInMonth year month) rest
      return rest
    | _ => none
  | _ => none

/-- The rest after a time of day. -/
def clock? (cs : List Char) : Option (List Char) := do
  let (_, rest) ← twoDigits? 0 23 cs
  match rest with
  | ':' :: rest =>
    let (_, rest) ← twoDigits? 0 59 rest
    match rest with
    | ':' :: rest =>
      let (_, rest) ← twoDigits? 0 60 rest
      match rest with
      | '.' :: more =>
        let ds := more.takeWhile Text.isDigit
        if ds.isEmpty then none else return more.drop ds.length
      | _ => return rest
    | _ => none
  | _ => none

/-- The rest after an offset from universal time, if there is one; nothing when it is malformed. -/
def zone? (cs : List Char) : Option (List Char) :=
  match cs with
  | 'Z' :: rest => some rest
  | 'z' :: rest => some rest
  | c :: rest =>
    if c = '+' || c = '-' then do
      let (_, rest) ← twoDigits? 0 23 rest
      match rest with
      | ':' :: rest =>
        let (_, rest) ← twoDigits? 0 59 rest
        return rest
      | _ => none
    else some cs
  | [] => some []

/-- Whether a text starts like a date or a time of day. -/
def looksLikeDate (cs : List Char) : Bool :=
  let ds := cs.takeWhile Text.isDigit
  (ds.length = 4 && (cs.drop 4).head? = some '-') || (ds.length = 2 && (cs.drop 2).head? = some ':')

/-- The rest after a date, a time of day, or both. -/
def dateTime? (cs : List Char) : Option (List Char) :=
  if (cs.drop 2).head? = some ':' then clock? cs
  else do
    let rest ← date? cs
    match rest with
    | c :: more =>
      if c = 'T' || c = 't' then do
        let rest ← clock? more
        zone? rest
      else if c = ' ' && more.head?.any Text.isDigit then do
        let rest ← clock? more
        zone? rest
      else return rest
    | [] => return []

/-! ## Values -/

/-- A number, a date or a time, and the rest. -/
def numeric? (cs : List Char) : Option (Document × List Char) :=
  if looksLikeDate cs then (dateTime? cs).map fun rest => (.record [], rest)
  else number? cs

mutual

/-- A value, and the rest.  `depth` counts the containers around. -/
def value? (fuel depth : Nat) (cs : List Char) : Option (Document × List Char) :=
  match fuel with
  | 0 => none
  | fuel + 1 =>
    match cs with
    | '[' :: rest =>
      if depth + 1 < depthLimit then (items? fuel (depth + 1) rest).map fun p => (.list p.1, p.2)
      else none
    | '\x7b' :: rest =>
      if depth + 1 < depthLimit then
        match skipSpace rest with
        | '\x7d' :: rest => some (.record [], rest)
        | rest =>
          (pairs? fuel (depth + 1) [] rest).map fun p => (.record (entriesToDocument p.1), p.2)
      else none
    | 't' :: 'r' :: 'u' :: 'e' :: rest => some (.flag true, rest)
    | 'f' :: 'a' :: 'l' :: 's' :: 'e' :: rest => some (.flag false, rest)
    | '"' :: _ => (text? cs).map fun p => (.text p.1, p.2)
    | '\'' :: _ => (text? cs).map fun p => (.text p.1, p.2)
    | _ => numeric? cs

/-- The items of a list that is open, and the rest. -/
def items? (fuel depth : Nat) (cs : List Char) : Option (List Document × List Char) :=
  match fuel with
  | 0 => none
  | fuel + 1 =>
    match skipBlank cs.length cs with
    | ']' :: rest => some ([], rest)
    | cs => do
      let (d, cs) ← value? fuel depth cs
      match skipBlank cs.length cs with
      | ',' :: rest =>
        let (ds, rest) ← items? fuel depth rest
        return (d :: ds, rest)
      | ']' :: rest => return ([d], rest)
      | _ => none

/-- The assignments of a record that is open, made on top of `es`, and the rest. -/
def pairs? (fuel depth : Nat) (es : Entries) (cs : List Char) : Option (Entries × List Char) :=
  match fuel with
  | 0 => none
  | fuel + 1 => do
    let (key, cs) ← key? cs
    match cs with
    | '=' :: rest =>
      let (d, cs) ← value? fuel depth (skipSpace rest)
      let es ← assign key d es
      match skipSpace cs with
      | ',' :: rest => pairs? fuel depth es rest
      | '\x7d' :: rest => return (es, rest)
      | _ => none
    | _ => none

end

/-! ## Statements -/

/-- The header in front, whether it opens one of several tables, and the rest after its line. -/
def header? (cs : List Char) : Option (List String × Bool × List Char) :=
  match cs with
  | '[' :: rest => do
    let (key, rest) ← key? rest
    match rest with
    | ']' :: ']' :: rest =>
      let rest ← lineEnd? rest
      return (key, true, rest)
    | _ => none
  | _ => do
    let (key, rest) ← key? cs
    match rest with
    | ']' :: rest =>
      let rest ← lineEnd? rest
      return (key, false, rest)
    | _ => none

/-- Reads the statements of a text.  `header` is the path of the table that was opened last. -/
def statements? : Nat → List String → Entries → List Char → Option Entries
  | 0, _, _, _ => none
  | fuel + 1, header, es, cs =>
    match skipSpace cs with
    | [] => some es
    | '#' :: _ => do
      let rest ← lineEnd? cs
      statements? fuel header es rest
    | '[' :: rest => do
      let (path, several, rest) ← header? rest
      let es ← if several then openTables path es else openTable path es
      statements? fuel path es rest
    | c :: rest =>
      match newline? (c :: rest) with
      | some rest => statements? fuel header es rest
      | none => do
        let (key, rest) ← key? (c :: rest)
        match rest with
        | '=' :: rest =>
          let (d, rest) ← value? (2 * rest.length + 2) 0 (skipSpace rest)
          let rest ← lineEnd? rest
          let es ← assignIn header key d es
          statements? fuel header es rest
        | _ => none

/-- The text without the mark that may stand in front of it. -/
def dropMark : List Char → List Char
  | c :: cs => if c.toNat = 0xFEFF then cs else c :: cs
  | [] => []

end SearchExport.Toml

namespace SearchExport

/-- The document of a whole TOML text. -/
def Document.ofToml? (s : String) : Option Document :=
  let cs := Toml.dropMark s.toList
  (Toml.statements? (cs.length + 1) [] [] cs).map fun es => .record (Toml.entriesToDocument es)

end SearchExport
