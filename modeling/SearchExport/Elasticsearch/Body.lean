import SearchExport.Engine.Query

/-!
# The body of a search request

A query for one page in the search language of Elasticsearch.

* `EngineQuery.body` — the JSON object that is sent.
-/

set_option autoImplicit false

namespace SearchExport

/-- Whether a query string matches everything. -/
def isMatchAll (queryString : String) : Bool :=
  let trimmed := Text.trim queryString
  trimmed = "" || trimmed = "*"

namespace EngineQuery

/-- The filter by time, with the bounds cut to milliseconds. -/
def timeFilter (q : EngineQuery) : Value :=
  .object [("range", .object [(Field.timestamp, .object [
    ("gte", .string q.timeRange.start.millisText),
    ("lt", .string q.timeRange.stop.millisText),
    ("format", .string "strict_date_optional_time")])])]

/-- The filter by streams. -/
def streamFilter (q : EngineQuery) : Value :=
  .object [("terms", .object [(Field.streams, .ofTexts q.streams.names)])]

/-- The filters that do not score. -/
def filters (q : EngineQuery) : List Value :=
  q.timeFilter :: if q.streams.isEmpty then [] else [q.streamFilter]

/-- The clause for the query string. -/
def textClause (q : EngineQuery) : Value :=
  if isMatchAll q.queryString then .object [("match_all", .object [])]
  else
    .object [("query_string", .object [
      ("query", .string q.queryString),
      ("allow_leading_wildcard", .bool q.allowLeadingWildcard)])]

/-- A sort key in the search language. -/
def sortClause (k : SortKey) : Value :=
  .object [(k.field, .object [("order", .string k.order.text)])]

/-- The members of the body that do not depend on the place of the page. -/
def commonMembers (q : EngineQuery) : List (String × Value) :=
  [("size", .ofNat q.size),
    ("track_total_hits", .bool false),
    ("_source", .object [("includes", .ofTexts q.sourceFields)]),
    ("sort", .array (q.sort.map sortClause)),
    ("query", .object [("bool", .object [
      ("filter", .array q.filters),
      ("must", .array [q.textClause])])])]

/-- The body of the request for one page. -/
def body (q : EngineQuery) : Value :=
  .object (q.commonMembers ++
    match q.searchAfter with
    | some cursor => [("search_after", .array cursor)]
    | none => [])

end EngineQuery

end SearchExport
