import SearchExport.Environment.Basic
import SearchExport.Request
import SearchExport.Text.Scan
import SearchExport.Text.Split

/-!
# Variables in configuration files

In a configuration file a name between a dollar sign with an opening brace and a closing brace stands
for a variable of the environment.  Lines of comment are left alone.

* `Environment.unsetNames` — the variables that a text refers to and that are not set;
* `Environment.substitute` — the text with the values of the variables.
-/

set_option autoImplicit false

namespace SearchExport

/-! ## References -/

/-- A character that may start the name of a variable: an upper-case letter or an underscore. -/
def isVariableStart (c : Char) : Bool := c.isUpper || c = '_'

/-- A character of the name of a variable. -/
def isVariableChar (c : Char) : Bool := isVariableStart c || c.isDigit

/-- A reference to a variable at the head of a text, as a token for `Text.scan`. -/
def variableName? : List Char → Option (List Char × Nat)
  | '$' :: '\x7b' :: rest =>
    let name := rest.takeWhile isVariableChar
    if name.head?.any isVariableStart && (rest.drop name.length).head? = some '\x7d' then
      some (name, name.length + 2)
    else none
  | _ => none

/-- The variables that a line refers to, in order. -/
def referencesOf (line : String) : List String :=
  (Text.tokens (Text.scan variableName? 0 line.toList)).map String.ofList

/-- How a line refers to a variable. -/
def referenceTo (name : String) : String := "$\x7b" ++ name ++ "\x7d"

/-- Whether a line is a comment. -/
def isCommentLine (line : String) : Bool :=
  (Text.trimStartChars line.toList).head? = some '#'

namespace Environment

/-! ## Substitution -/

/-- A line with the values of the variables that it refers to, exchanged one variable after the
other. -/
def substituteLine (env : Environment) (line : String) : String :=
  if isCommentLine line then line
  else
    (referencesOf line).foldl (fun text name =>
      match env.get? name with
      | some value => Text.replace (referenceTo name) value text
      | none => text) line

/-- The variables that a text refers to and that are not set, each once, in order. -/
def unsetNames (env : Environment) (text : String) : List String :=
  let names := ((Text.lines text).filter (!isCommentLine ·)).flatMap referencesOf
  firstsBy id [] (names.filter fun name => (env.get? name).isNone)

/-- A text with the values of its variables, or the variables that are not set. -/
def substitute (env : Environment) (text : String) : Except (List String) String :=
  let unset := env.unsetNames text
  if unset.isEmpty then .ok ("\n".intercalate ((Text.lines text).map env.substituteLine))
  else .error unset

end Environment

end SearchExport
