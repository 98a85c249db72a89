import SearchExport.Error
import SearchExport.Text.Blank
import SearchExport.Text.Split

/-!
# Leading wildcards

A term that starts with a wildcard makes the engine walk through all its terms, so it is refused
unless it is allowed.  A lone asterisk matches everything and is always accepted.

* `startsWithWildcard` — the test of one word;
* `guardQueryString` — the test of a query string.
-/

set_option autoImplicit false

namespace SearchExport

/-- A character that may stand in front of a term. -/
def isTermMark (c : Char) : Bool := c = '+' || c = '-' || c = '!' || c = '('

/-- The term of a word: without the marks in front, and when a field is named the part after the
colon without its opening brackets. -/
def termOf (word : List Char) : List Char :=
  let term := word.dropWhile isTermMark
  match Text.cutFirst ':' term with
  | some (_, value) => value.dropWhile (· = '(')
  | none => term

/-- Whether the term of a word starts with a wildcard and is more than a lone asterisk. -/
def startsWithWildcard (word : List Char) : Bool :=
  match termOf word with
  | ['*'] => false
  | c :: _ => c = '*' || c = '?'
  | [] => false

/-- Refuses a query string for its first word that starts with a wildcard, unless that is allowed. -/
def guardQueryString (queryString : String) (allowLeadingWildcard : Bool) :
    Except EngineError Unit :=
  if allowLeadingWildcard then .ok ()
  else
    match (Text.words queryString).find? fun w => startsWithWildcard w.toList with
    | some word =>
      .error (.query ("Leading wildcard term '" ++ word ++ "' is not allowed in query string"))
    | none => .ok ()

end SearchExport
