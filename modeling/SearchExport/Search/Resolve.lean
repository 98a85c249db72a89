import SearchExport.Request
import SearchExport.Search.QueryString

/-!
# The request of a stored search

A search, the identifier of one of its search types and a result format determine the request of an
export.

| value        | source                                                        |
|--------------|---------------------------------------------------------------|
| time range   | message list, seen from the query, else query                 |
| query string | filters of query and message list, then decorated             |
| streams      | message list, else every stream that the query refers to      |
| fields       | result format                                                 |
| sort         | result format, else message list                              |
| limit        | result format                                                 |

* `Search.select` — the query and the message list that are meant;
* `Search.resolve` — the request.
-/

set_option autoImplicit false

namespace SearchExport

/-- Why a search does not determine a request. -/
inductive ResolveFault where
  /-- No query has the search type that is asked for. -/
  | unknownSearchType (search id : String)
  | noQueries (search : String)
  /-- Several queries, and no search type is asked for. -/
  | ambiguous (search : String) (queries : Nat)
  /-- The search type that is asked for cannot be exported. -/
  | noMessageList (id kind : String)
  /-- The query string names parameters that have no value. -/
  | unbound (search : String) (names : List String)
  | range (fault : RangeFault)
  | request (fault : RequestFault)

/-- The error that ends an export because of the fault. -/
def ResolveFault.toError : ResolveFault → ExportError
  | .unknownSearchType search id =>
    .configuration ("Search " ++ search ++ " has no search type with id " ++ id)
  | .noQueries search => .configuration ("Search " ++ search ++ " has no queries")
  | .ambiguous search n =>
    .configuration ("Search " ++ search ++ " is ambiguous: it has " ++ Text.ofNat n ++
      " queries and no search type was given")
  | .noMessageList id kind =>
    .unsupportedSearchType (id ++ " (" ++ kind ++ ") is not a message list")
  | .unbound search names =>
    .configuration ("Unbound query parameter(s) in search " ++ search ++ ": " ++
      ", ".intercalate names)
  | .range fault => .validation fault.message
  | .request fault => .validation fault.message

/-- The part of a search that is to be exported. -/
structure Selection where
  query : Query
  messageList : Option MessageList

/-- The request of a search and where it came from. -/
structure ResolvedExport where
  request : ExportRequest
  messageList : Option MessageList
  /-- The query that the request was made from. -/
  queryId : String

namespace Search

/-- The query that is meant: the one that owns the search type, or the only one. -/
def selectQuery (s : Search) (searchTypeId : Option String) : Except ResolveFault Query :=
  match searchTypeId with
  | some id =>
    match s.queryFor? id with
    | some q => .ok q
    | none => .error (.unknownSearchType s.id id)
  | none =>
    match s.queries with
    | [q] => .ok q
    | [] => .error (.noQueries s.id)
    | qs => .error (.ambiguous s.id qs.length)

/-- The query and the message list that are meant. -/
def select (s : Search) (searchTypeId : Option String) : Except ResolveFault Selection := do
  let q ← s.selectQuery searchTypeId
  match searchTypeId.bind q.searchType? with
  | none => return ⟨q, none⟩
  | some t =>
    match t.messageList? with
    | some l => return ⟨q, some l⟩
    | none => throw (.noMessageList t.id t.kindName)

end Search

namespace Selection

/-- The time range of the export. -/
def timeRange (sel : Selection) (now : Timestamp) : Except RangeFault TimeRange :=
  match sel.messageList.bind MessageList.timeRange with
  | some derived => derived.effective sel.query.timeRange now
  | none => .ok sel.query.timeRange

/-- The filters of the query and of the message list, joined. -/
def filter (sel : Selection) : String :=
  joinFilters sel.query.query (sel.messageList.bind MessageList.query)

/-- The streams of the message list when it names any, else all that the query refers to. -/
def streams (sel : Selection) : NameSet :=
  match sel.messageList with
  | some l => if l.streams.isEmpty then sel.query.usedStreams else l.streams
  | none => sel.query.usedStreams

/-- The sort of the result format, else the one of the message list. -/
def sort (sel : Selection) (format : ResultFormat) : List SortKey :=
  if format.sort.isEmpty then (sel.messageList.map MessageList.sort).getD [] else format.sort

/-- The draft of the request. -/
def draft (sel : Selection) (timeRange : TimeRange) (queryString : String) (format : ResultFormat)
    (chunkSize : Nat) : RequestDraft where
  timeRange := timeRange
  streams := sel.streams
  queryString := queryString
  fields := if format.fields.isEmpty then none else some format.fields
  sort := sel.sort format
  limit := format.limit
  chunkSize := chunkSize

end Selection

namespace Search

/-- The request for a search type of the search, or for its only query. -/
def resolve (s : Search) (decorator : QueryDecorator) (chunkSize : Nat)
    (searchTypeId : Option String) (format : ResultFormat) (now : Timestamp) :
    Except ResolveFault ResolvedExport := do
  let sel ← s.select searchTypeId
  let timeRange ← (sel.timeRange now).mapError .range
  let queryString ← (decorator.decorate s sel.filter).mapError (.unbound s.id)
  let request ← (sel.draft timeRange queryString format chunkSize).build.mapError .request
  return ⟨request, sel.messageList, sel.query.id⟩

end Search

end SearchExport
