import SearchExport.Request

/-!
# Engine queries

What a search engine is asked for one page: the indices, the filters, the sort with its tie-breaker,
the fields to return, and the place after which the page starts.

* `effectiveSort` — the sort that makes every place unique;
* `sourceFields` — the fields that are fetched;
* `EngineQuery.continueAfter` — the query for the next page.
-/

set_option autoImplicit false

namespace SearchExport

/-! ## Sort -/

/-- The sort when the request has none: the newest message first. -/
def defaultSort : List SortKey := [⟨Field.timestamp, .descending⟩]

/-- The sort with the message identifier as the last resort, unless it is among the keys already. -/
def effectiveSort (requested : List SortKey) : List SortKey :=
  let keys := if requested.isEmpty then defaultSort else requested
  if keys.any fun k => k.field = Field.messageId then keys
  else keys ++ [⟨Field.messageId, .ascending⟩]

/-! ## Fields -/

/-- The fields that every message carries, asked for or not. -/
def reservedFields : List String :=
  [Field.messageId, Field.source, Field.message, Field.timestamp, Field.streams]

/-- The given fields and those of the reserved ones that are not among them. -/
def sourceFields (fields : List String) : List String :=
  fields ++ reservedFields.filter fun f => !fields.contains f

/-! ## Queries -/

/-- What the engine is asked for one page. -/
structure EngineQuery where
  indices : NameSet
  timeRange : AbsoluteRange
  /-- The query string; a blank one matches everything. -/
  queryString : String
  /-- The streams of which a message has to be in one; none means no such filter. -/
  streams : NameSet
  sourceFields : List String
  sort : List SortKey
  /-- The largest number of hits. -/
  size : Nat
  /-- The sort values after which the page starts. -/
  searchAfter : Option (List Value)
  /-- Whether the engine may accept terms that start with a wildcard. -/
  allowLeadingWildcard : Bool

/-- The query for the page after the given sort values. -/
def EngineQuery.continueAfter (q : EngineQuery) (cursor : List Value) : EngineQuery :=
  { q with searchAfter := some cursor }

/-- The query for the first page of a request. -/
def ExportRequest.firstQuery (r : ExportRequest) (indices : NameSet) (timeRange : AbsoluteRange)
    (allowLeadingWildcard : Bool) : EngineQuery where
  indices := indices
  timeRange := timeRange
  queryString := r.queryString
  streams := r.streams
  sourceFields := SearchExport.sourceFields r.fields
  sort := effectiveSort r.sort
  size := r.chunkSize
  searchAfter := none
  allowLeadingWildcard := allowLeadingWildcard

end SearchExport
