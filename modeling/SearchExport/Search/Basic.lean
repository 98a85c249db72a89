import SearchExport.Json.Value
import SearchExport.NameSet
import SearchExport.SortKey
import SearchExport.TimeRange

/-!
# Stored searches

A search holds queries, and each query holds search types: message lists, which can be exported, and
others, which only lend their streams.  Parameters give values to names in query strings.

* `Search.queryFor?` — the query that owns a search type;
* `Query.usedStreams` — every stream that a query refers to.
-/

set_option autoImplicit false

namespace SearchExport

/-! ## Decorators -/

/-- What a decorator does to a message. -/
inductive Decoration where
  /-- Fills a pattern with fields of the message and sets a field to the result. -/
  | formatString (target pattern : String) (requireAll : Bool)
  /-- Sets a field to the name of the severity whose number is in another field. -/
  | syslogSeverity (source target : String)
  /-- Moves the value of one field to another. -/
  | fieldRename (source target : String)
  deriving DecidableEq, Repr

/-- A decorator of a message list.  Decorators are applied by ascending order. -/
structure Decorator where
  id : Option String
  order : Int32
  decoration : Decoration
  deriving DecidableEq

/-! ## Search types -/

/-- A search type whose messages can be exported. -/
structure MessageList where
  id : String
  /-- The time range in place of the one of the query. -/
  timeRange : Option DerivedTimeRange
  /-- A filter in addition to the one of the query. -/
  query : Option String
  streams : NameSet
  sort : List SortKey
  decorators : List Decorator
  deriving DecidableEq

/-- A search type that cannot be exported. -/
structure OtherSearchType where
  id : String
  streams : NameSet
  deriving DecidableEq

/-- A part of a query. -/
inductive SearchType where
  | messages (list : MessageList)
  | pivot (other : OtherSearchType)
  | events (other : OtherSearchType)
  deriving DecidableEq

namespace SearchType

/-- The identifier of the search type. -/
def id : SearchType → String
  | .messages l => l.id
  | .pivot o => o.id
  | .events o => o.id

/-- The name of the kind of search type. -/
def kindName : SearchType → String
  | .messages _ => "messages"
  | .pivot _ => "pivot"
  | .events _ => "events"

/-- The streams that the search type names itself. -/
def streams : SearchType → NameSet
  | .messages l => l.streams
  | .pivot o => o.streams
  | .events o => o.streams

/-- The message list that the search type is. -/
def messageList? : SearchType → Option MessageList
  | .messages l => some l
  | _ => none

end SearchType

/-! ## Queries and searches -/

/-- A query with its search types. -/
structure Query where
  id : String
  timeRange : TimeRange
  query : Option String
  streams : NameSet
  searchTypes : List SearchType
  deriving DecidableEq

namespace Query

/-- The first search type with an identifier. -/
def searchType? (q : Query) (id : String) : Option SearchType :=
  q.searchTypes.find? fun t => t.id = id

/-- The streams of the query and of all its search types. -/
def usedStreams (q : Query) : NameSet :=
  q.searchTypes.foldr (fun t acc => t.streams.union acc) q.streams

end Query

/-- A name with a value. -/
structure Parameter where
  name : String
  value : Option Value
  defaultValue : Option Value

/-- The value, or else the default value. -/
def Parameter.effectiveValue? (p : Parameter) : Option Value := p.value <|> p.defaultValue

/-- A stored search. -/
structure Search where
  id : String
  queries : List Query
  parameters : List Parameter

namespace Search

/-- The first query that has a search type with an identifier. -/
def queryFor? (s : Search) (searchTypeId : String) : Option Query :=
  s.queries.find? fun q => (q.searchType? searchTypeId).isSome

/-- The first parameter with a name. -/
def parameter? (s : Search) (name : String) : Option Parameter :=
  s.parameters.find? fun p => p.name = name

end Search

end SearchExport
