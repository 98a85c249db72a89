import SearchExport.Disk
import SearchExport.Environment.Basic
import SearchExport.Text.Blank
import SearchExport.Text.Split

/-!
# Environment files

A file of variables, one on a line.  A value may stand in quotes, which may reach over several lines,
may hold escapes, and may refer to variables by a dollar sign.  A variable that is set already keeps
its value, and reading stops at the first line that is malformed.

* `EnvironmentFile.logicalLines` — the lines, joined where quotes are open;
* `EnvironmentFile.entry?` — the variable of a line;
* `Environment.withFileOf` — the environment with the file of a disk.
-/

set_option autoImplicit false

namespace SearchExport

namespace EnvironmentFile

/-! ## Lines -/

/-- Where the end of a line falls. -/
inductive Context where
  | plain
  | blank
  | escape
  | single
  | singleEscape
  | double
  | doubleEscape
  deriving DecidableEq, Repr

/-- The context after a character outside of quotes. -/
def afterPlain (c : Char) (other : Context) : Context :=
  if c = '\\' then .escape
  else if c = '"' then .double
  else if c = '\'' then .single
  else other

/-- The context after one more character. -/
def Context.after : Context → Char → Context
  | .plain, c =>
    if isBlankChar c && c ≠ '\n' && c ≠ '\r' then .blank else afterPlain c .plain
  | .blank, c => afterPlain c .plain
  | .escape, _ => .plain
  | .single, c => if c = '\\' then .singleEscape else if c = '\'' then .plain else .single
  | .singleEscape, _ => .single
  | .double, c => if c = '\\' then .doubleEscape else if c = '"' then .plain else .double
  | .doubleEscape, _ => .double

/-- The part of a line before a comment, and the context at the end; no context after a comment. -/
def scanLine : Context → List Char → List Char × Option Context
  | k, [] => ([], some k)
  | k, c :: cs =>
    if k = .blank && c = '#' then ([], none)
    else
      let (kept, last) := scanLine (k.after c) cs
      (c :: kept, last)

/-- The list without the line end at its end. -/
def dropLineEnd (cs : List Char) : List Char :=
  if cs.getLast? = some '\n' then Text.dropReturn cs.dropLast else cs

/-- Lines that belong together as one, from physical lines with their line ends; nothing stands for a
line that is never finished. -/
def joinLines : Context → List Char → List (List Char) → List (Option (List Char))
  | .plain, _, [] => []
  | _, _, [] => [none]
  | k, open_, line :: rest =>
    let whole := open_ ++ line
    if (Text.trimStartChars whole).head? = some '#' then some [] :: joinLines .plain [] rest
    else
      match scanLine k line with
      | (kept, none) => some (open_ ++ kept) :: joinLines .plain [] rest
      | (_, some .plain) => some (dropLineEnd whole) :: joinLines .plain [] rest
      | (_, some k) => joinLines k whole rest

/-- The physical lines of a text with their line ends. -/
def physicalLines (cs : List Char) : List (List Char) :=
  let pieces := Text.splitChars '\n' cs
  let ended := pieces.dropLast.map (· ++ ['\n'])
  let last := pieces.getLast?.getD []
  if last.isEmpty then ended else ended ++ [last]

/-- The lines of a file. -/
def logicalLines (cs : List Char) : List (Option (List Char)) := joinLines .plain [] (physicalLines cs)

/-! ## Values -/

/-- How far a reference to a variable is read. -/
inductive Reference where
  | none
  /-- After a dollar sign. -/
  | bare
  /-- After a dollar sign and an opening brace. -/
  | braced
  deriving DecidableEq, Repr

/-- A value that is being read. -/
structure ValueState where
  single : Bool := false
  double : Bool := false
  escaped : Bool := false
  /-- Only a comment may follow. -/
  ended : Bool := false
  /-- A comment follows. -/
  comment : Bool := false
  reference : Reference := .none
  /-- The name of the variable, last character first. -/
  name : List Char := []
  /-- What was read, last character first. -/
  read : List Char := []

namespace ValueState

/-- One more character of the value. -/
def push (s : ValueState) (c : Char) : ValueState := { s with read := c :: s.read }

/-- The value with the variable that was referred to. -/
def resolve (env : Environment) (s : ValueState) : ValueState :=
  let value := (env.get? (String.ofList s.name.reverse)).getD ""
  { s with name := [], read := value.toList.reverse ++ s.read }

/-- A character of a name after a dollar sign: a letter or a digit. -/
def isNameChar (c : Char) : Bool := c.isAlphanum || 128 ≤ c.toNat

/-- One more character while a variable is referred to. -/
def stepReference (env : Environment) (s : ValueState) (c : Char) : ValueState :=
  if isNameChar c then { s with name := c :: s.name }
  else
    match s.reference with
    | .braced =>
      if c = '\x7d' then { (s.resolve env) with reference := .none }
      else { s with name := c :: s.name }
    | _ =>
      if c = '\x7b' && s.name.isEmpty then { s with reference := .braced }
      else
        let s := s.resolve env
        if c = '$' then { s with reference := .bare }
        else { s with reference := .none, read := c :: s.read }

/-- One more character after a backslash. -/
def stepEscape? (s : ValueState) (c : Char) : Option ValueState :=
  let s := { s with escaped := false }
  if c = 'n' then some (s.push '\n')
  else if c = '\\' || c = '\'' || c = '"' || c = '$' || c = ' ' then some (s.push c)
  else none

/-- One more character. -/
def step? (env : Environment) (s : ValueState) (c : Char) : Option ValueState :=
  if s.comment then some s
  else if s.ended then
    if c = ' ' || c = '\t' then some s
    else if c = '#' then some { s with comment := true }
    else none
  else if s.escaped then s.stepEscape? c
  else if s.single then if c = '\'' then some { s with single := false } else some (s.push c)
  else if s.reference ≠ .none then some (s.stepReference env c)
  else if c = '$' then some { s with reference := .bare }
  else if c = '\\' then some { s with escaped := true }
  else if s.double then if c = '"' then some { s with double := false } else some (s.push c)
  else if c = '\'' then some { s with single := true }
  else if c = '"' then some { s with double := true }
  else if c = ' ' || c = '\t' then some { s with ended := true }
  else some (s.push c)

end ValueState

/-- The value that a text denotes. -/
def value? (env : Environment) (cs : List Char) : Option String := do
  let s ← cs.foldlM (ValueState.step? env) { }
  if s.reference = .braced || s.single || s.double then none
  return String.ofList (s.resolve env).read.reverse

/-! ## Entries -/

/-- The name of a variable, and what follows it and blanks. -/
def name? (cs : List Char) : Option (String × List Char) :=
  let isPart (c : Char) : Bool := c.isAlphanum || c = '_' || c = '.'
  let name := cs.takeWhile isPart
  if name.head?.any fun c => c.isAlpha || c = '_' then
    some (String.ofList name, Text.trimStartChars (cs.drop name.length))
  else none

/-- What follows an equals sign. -/
def afterEquals? : List Char → Option (List Char)
  | '=' :: cs => some cs
  | _ => none

/-- The name of the variable of a line, and what follows the equals sign.  The word `export` may stand
before the name. -/
def assignment? (cs : List Char) : Option (String × List Char) := do
  let (name, rest) ← name? cs
  match afterEquals? rest with
  | some rest => return (name, rest)
  | none =>
    if name = "export" then
      let (name, rest) ← name? rest
      return (name, ← afterEquals? rest)
    else none

/-- What is set by a line: nothing at all when it is blank or a comment.  The outer option is missing
when the line is malformed. -/
def entry? (env : Environment) (line : List Char) : Option (Option (String × String)) :=
  let cs := Text.trimStartChars (Text.trimEndChars line)
  if cs.isEmpty || cs.head? = some '#' then some none
  else do
    let (name, rest) ← assignment? cs
    let rest := Text.trimStartChars rest
    if rest.isEmpty || rest.head? = some '#' then return some (name, "")
    else return some (name, ← value? env rest)

/-- The environment with the variables of lines up to the first malformed one. -/
def define (env : Environment) : List (Option (List Char)) → Environment
  | [] => env
  | none :: _ => env
  | some line :: rest =>
    match entry? env line with
    | none => env
    | some none => define env rest
    | some (some (name, value)) => define (env.define name value) rest

/-- The text without the mark that may stand in front of it. -/
def dropMark (cs : List Char) : List Char :=
  if cs.head?.any fun c => c.toNat = 0xFEFF then cs.drop 1 else cs

/-- The name of the file. -/
def fileName : String := ".env"

/-- The content of the file in a directory, or in the nearest one that it lies in. -/
def contentAt? (disk : Disk) : Nat → Place → Option String
  | depth, p =>
    match disk.node? (p ++ [fileName]), depth with
    | some (.file content), _ => some content
    | _, 0 => none
    | _, depth + 1 => contentAt? disk depth p.dropLast

/-- The paths where a file for a working directory may be. -/
def paths (workingDirectory : Place) : List String :=
  (List.range (workingDirectory.length + 1)).map fun n =>
    Disk.pathOf (workingDirectory.take n ++ [fileName])

end EnvironmentFile

/-- The environment with the variables of the file near the working directory. -/
def Environment.withFileOf (env : Environment) (disk : Disk) : Environment :=
  match EnvironmentFile.contentAt? disk disk.workingDirectory.length disk.workingDirectory with
  | some content =>
    EnvironmentFile.define env
      (EnvironmentFile.logicalLines (EnvironmentFile.dropMark content.toList))
  | none => env

end SearchExport
