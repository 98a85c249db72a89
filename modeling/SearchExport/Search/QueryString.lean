import SearchExport.Error
import SearchExport.Json.Printer
import SearchExport.Search.Basic
import SearchExport.Text.Scan

/-!
# Query strings of a search

The filters of a query and of a message list are joined, and names between dollar signs are exchanged
for the values of the parameters of the search.

* `joinFilters` — the conjunction of two filters that may be missing;
* `Search.substitute` — the exchange of names for values in one pass.
-/

set_option autoImplicit false

namespace SearchExport

/-- A filter that is there and not blank, trimmed. -/
def presentFilter? (filter : Option String) : Option String :=
  (filter.map Text.trim).bind fun f => if f = "" then none else some f

/-- Both filters in brackets joined by AND, or the one that is present. -/
def joinFilters (first second : Option String) : String :=
  match presentFilter? first, presentFilter? second with
  | some a, some b => "(" ++ a ++ ") AND (" ++ b ++ ")"
  | some a, none => a
  | none, some b => b
  | none, none => ""

/-! ## Parameter values -/

mutual

/-- A value as it stands in a query string: texts as they are, lists as alternatives, null as nothing
and all else as JSON text. -/
def Value.queryText : Value → List Char
  | .string s => s.toList
  | .array vs => queryAlternatives vs
  | .null => []
  | .bool b => Value.render (.bool b)
  | .number n => Value.render (.number n)
  | .object ms => Value.render (.object ms)

/-- The texts of the values, joined by OR. -/
def queryAlternatives : List Value → List Char
  | [] => []
  | [v] => v.queryText
  | v :: w :: vs => v.queryText ++ [' ', 'O', 'R', ' '] ++ queryAlternatives (w :: vs)

end

/-- How a name between dollar signs is written. -/
def dollarQuoted (name : List Char) : List Char := '$' :: (name ++ ['$'])

/-! ## Substitution -/

namespace Search

/-- What a name between dollar signs is exchanged for; names of no parameter and of parameters
without a value stay as they are. -/
def parameterText (s : Search) (name : List Char) : List Char :=
  match (s.parameter? (String.ofList name)).bind Parameter.effectiveValue? with
  | some v => v.queryText
  | none => dollarQuoted name

/-- Whether a name belongs to a parameter without a value. -/
def isUnbound (s : Search) (name : List Char) : Bool :=
  match s.parameter? (String.ofList name) with
  | some p => p.effectiveValue?.isNone
  | none => false

/-- The segments of a query string. -/
def querySegments (q : String) : List (Text.Segment (List Char)) :=
  Text.scan Text.dollarName? 0 q.toList

/-- The names of parameters without a value that the query string asks for, in order. -/
def unboundNames (s : Search) (q : String) : List String :=
  ((Text.tokens (querySegments q)).filter s.isUnbound).map String.ofList

/-- The query string with the values of the parameters, or the names that have no value. -/
def substitute (s : Search) (q : String) : Except (List String) String :=
  let unbound := s.unboundNames q
  if unbound.isEmpty then
    .ok (String.ofList (Text.render s.parameterText (querySegments q)))
  else .error unbound

end Search

/-- What happens to the query string of a stored search before it is used. -/
inductive QueryDecorator where
  /-- Nothing. -/
  | plain
  /-- Names between dollar signs are exchanged for the values of parameters. -/
  | parameters
  deriving DecidableEq, Repr

/-- The decorated query string. -/
def QueryDecorator.decorate (d : QueryDecorator) (s : Search) (q : String) :
    Except (List String) String :=
  match d with
  | .plain => .ok q
  | .parameters => s.substitute q

end SearchExport
