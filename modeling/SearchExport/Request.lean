import SearchExport.Error
import SearchExport.Message.Basic
import SearchExport.NameSet
import SearchExport.SortKey
import SearchExport.TimeRange

/-!
# Export requests

A request says which messages are exported and how: a time range, streams, a query string, the fields
in order, the sort, a limit and the size of a chunk.  It is made from a draft, which is checked and
brought into normal form.

* `RequestDraft.build` — the request of a draft;
* `ResultFormat` — the choices for an export that do not belong to a stored search.
-/

set_option autoImplicit false

namespace SearchExport

/-- The size of a chunk when nothing else is said. -/
def defaultChunkSize : Nat := 1000

/-- The fields of an export when nothing else is said. -/
def defaultFields : List String := [Field.timestamp, Field.source, Field.message]

/-- A checked request. -/
structure ExportRequest where
  timeRange : TimeRange
  /-- The streams to search; none means all. -/
  streams : NameSet
  queryString : String
  /-- The fields of the rows, in order. -/
  fields : List String
  sort : List SortKey
  /-- The number of messages after which no further page is fetched. -/
  limit : Option Nat
  /-- The size of a page. -/
  chunkSize : Nat
  deriving DecidableEq

/-- The values that a request is to be made from. -/
structure RequestDraft where
  timeRange : TimeRange
  streams : NameSet := ∅
  queryString : String := ""
  /-- The fields of the rows; when unset the default fields are taken. -/
  fields : Option (List String) := none
  sort : List SortKey := []
  limit : Option Nat := none
  chunkSize : Nat := defaultChunkSize

/-- Why a draft makes no request. -/
inductive RequestFault where
  | zeroChunkSize
  | zeroLimit
  | noFields
  | blankField
  deriving DecidableEq, Repr

/-- The fault in words. -/
def RequestFault.message : RequestFault → String
  | .zeroChunkSize => "chunk_size must be > 0"
  | .zeroLimit => "limit must be > 0 when set"
  | .noFields => "fields_in_order cannot be empty"
  | .blankField => "field names cannot be empty"

/-- The items whose key was not `seen` and does not occur earlier in the list. -/
def firstsBy {α : Type} (key : α → String) : List String → List α → List α
  | _, [] => []
  | seen, x :: xs =>
    if seen.contains (key x) then firstsBy key seen xs else x :: firstsBy key (key x :: seen) xs

/-- The request of a draft: the first of equal fields and of sort keys of one field stays, blank
streams go, and the query string is trimmed. -/
def RequestDraft.build (d : RequestDraft) : Except RequestFault ExportRequest :=
  if d.chunkSize = 0 then .error .zeroChunkSize
  else if d.limit = some 0 then .error .zeroLimit
  else if d.fields = some [] then .error .noFields
  else
    let fields := match d.fields with
      | some fields => firstsBy id [] fields
      | none => defaultFields
    if fields.any Text.isBlank then .error .blankField
    else .ok {
      timeRange := d.timeRange
      streams := d.streams.filter fun s => !Text.isBlank s
      queryString := Text.trim d.queryString
      fields := fields
      sort := firstsBy SortKey.field [] d.sort
      limit := d.limit
      chunkSize := d.chunkSize }

/-- The choices for an export of a stored search. -/
structure ResultFormat where
  /-- The fields of the rows; without any the default fields are taken. -/
  fields : List String := []
  /-- The sort; without any the one of the message list is taken. -/
  sort : List SortKey := []
  limit : Option Nat := none
  deriving DecidableEq

end SearchExport
