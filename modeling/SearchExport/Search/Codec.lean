import SearchExport.Document.Basic
import SearchExport.Request
import SearchExport.Search.Basic

/-!
# Stored searches as documents

How searches and their parts are read from a document and written as a JSON value.  Tagged records
carry their kind under the name `type`; what is written names every field, also unset ones.
-/

set_option autoImplicit false

namespace SearchExport

open Document (fields? required? fieldOr? variant? listOf? optional? natBelow?)

/-! ## Time ranges and sort keys -/

/-- The timestamp that a document denotes. -/
def Timestamp.ofDocument? (d : Document) : Option Timestamp := d.text?.bind Timestamp.ofText?

/-- A natural number of 64 bits. -/
def Document.word? (d : Document) : Option UInt64 := (d.natBelow? UInt64.size).map UInt64.ofNat

/-- The set of the texts in a list. -/
def NameSet.ofDocument? (d : Document) : Option NameSet := (d.listOf? Document.text?).map .ofList

/-- The members as a JSON array. -/
def NameSet.toValue (s : NameSet) : Value := .ofTexts s.names

/-- The bounds of an interval. -/
def readBounds? (d : Document) : Option (Timestamp × Timestamp) := do
  let f ← d.fields? .content ["from", "to"]
  let start ← required? f "from" Timestamp.ofDocument?
  let stop ← required? f "to" Timestamp.ofDocument?
  return (start, stop)

/-- The length of an interval that ends now. -/
def readLength? (d : Document) : Option UInt64 := do
  let f ← d.fields? .content ["range"]
  required? f "range" Document.word?

/-- The written form of an interval with bounds. -/
def boundsValue (start stop : Timestamp) : Value :=
  .object [("type", .string "absolute"), ("from", .string start.text), ("to", .string stop.text)]

/-- The written form of an interval that ends now. -/
def lengthValue (seconds : UInt64) : Value :=
  .object [("type", .string "relative"), ("range", .ofNat seconds.toNat)]

/-- The time range that a document denotes. -/
def TimeRange.ofDocument? (how : Document.Reading) (d : Document) : Option TimeRange := do
  let (tag, rest) ← d.variant? how "type" ["absolute", "relative"]
  if tag = "absolute" then
    let (start, stop) ← readBounds? rest
    return .absolute start stop
  else
    let seconds ← readLength? rest
    return .relative seconds

/-- A time range as a JSON value. -/
def TimeRange.toValue : TimeRange → Value
  | .absolute start stop => boundsValue start stop
  | .relative seconds => lengthValue seconds

/-- The derived time range that a document denotes.  An offset is one interval unless it says
otherwise. -/
def DerivedTimeRange.ofDocument? (how : Document.Reading) (d : Document) :
    Option DerivedTimeRange := do
  let (tag, rest) ← d.variant? how "type" ["absolute", "relative", "offset"]
  if tag = "absolute" then
    let (start, stop) ← readBounds? rest
    return .absolute start stop
  else if tag = "relative" then
    let seconds ← readLength? rest
    return .relative seconds
  else
    let f ← rest.fields? .content ["intervals"]
    let n ← fieldOr? f "intervals" 1 fun d => (d.natBelow? UInt32.size).map UInt32.ofNat
    return .offset n

/-- A derived time range as a JSON value. -/
def DerivedTimeRange.toValue : DerivedTimeRange → Value
  | .absolute start stop => boundsValue start stop
  | .relative seconds => lengthValue seconds
  | .offset n => .object [("type", .string "offset"), ("intervals", .ofNat n.toNat)]

/-- The direction that a document denotes. -/
def SortOrder.ofDocument? (how : Document.Reading) (d : Document) : Option SortOrder := do
  let name ← d.choice? how ["asc", "desc"]
  return if name = "asc" then .ascending else .descending

/-- The sort key that a document denotes. -/
def SortKey.ofDocument? (how : Document.Reading) (d : Document) : Option SortKey := do
  let f ← d.fields? how ["field", "order"]
  let field ← required? f "field" Document.text?
  let order ← required? f "order" (SortOrder.ofDocument? how)
  return ⟨field, order⟩

/-- A sort key as a JSON value. -/
def SortKey.toValue (k : SortKey) : Value :=
  .object [("field", .string k.field), ("order", .string k.order.text)]

/-- The result format that a document denotes. -/
def ResultFormat.ofDocument? (how : Document.Reading) (d : Document) : Option ResultFormat := do
  let f ← d.fields? how ["fields_in_order", "sort", "limit"]
  let fields ← fieldOr? f "fields_in_order" [] (listOf? Document.text?)
  let sort ← fieldOr? f "sort" [] (listOf? (SortKey.ofDocument? how))
  let limit ← fieldOr? f "limit" none (optional? (natBelow? UInt64.size))
  return ⟨fields, sort, limit⟩

/-! ## Decorators -/

/-- What a decorator does, read from a tagged record. -/
def Decoration.ofDocument? (d : Document) : Option Decoration := do
  let (tag, rest) ← d.variant? .content "type" ["format_string", "syslog_severity", "field_rename"]
  if tag = "format_string" then
    let f ← rest.fields? .content ["target_field", "format", "require_all_fields"]
    let target ← required? f "target_field" Document.text?
    let pattern ← required? f "format" Document.text?
    let requireAll ← fieldOr? f "require_all_fields" false Document.flag?
    return .formatString target pattern requireAll
  else if tag = "syslog_severity" then
    let f ← rest.fields? .content ["source_field", "target_field"]
    let source ← required? f "source_field" Document.text?
    let target ← required? f "target_field" Document.text?
    return .syslogSeverity source target
  else
    let f ← rest.fields? .content ["from", "to"]
    let source ← required? f "from" Document.text?
    let target ← required? f "to" Document.text?
    return .fieldRename source target

/-- The members of a tagged record for what a decorator does. -/
def Decoration.members : Decoration → List (String × Value)
  | .formatString target pattern requireAll =>
    [("type", .string "format_string"), ("target_field", .string target),
      ("format", .string pattern), ("require_all_fields", .bool requireAll)]
  | .syslogSeverity source target =>
    [("type", .string "syslog_severity"), ("source_field", .string source),
      ("target_field", .string target)]
  | .fieldRename source target =>
    [("type", .string "field_rename"), ("from", .string source), ("to", .string target)]

/-- The decorator that a document denotes.  What it does stands beside its other fields, so only a
record can be read. -/
def Decorator.ofDocument? (d : Document) : Option Decorator :=
  match d with
  | .record entries => do
    let f ← d.fields? .json ["id", "order"]
    let id ← fieldOr? f "id" none (optional? Document.text?)
    let order ← fieldOr? f "order" 0 fun d => (d.intWithin? (Nat.pow 2 31)).map Int32.ofInt
    let rest := entries.filter fun e => !(["id", "order"].contains e.1)
    let decoration ← Decoration.ofDocument? (.record rest)
    return ⟨id, order, decoration⟩
  | _ => none

/-- A text that may be missing, as a JSON value. -/
def optionalText (s : Option String) : Value := .ofOption (s.map .string)

/-- A decorator as a JSON value. -/
def Decorator.toValue (d : Decorator) : Value :=
  .object (("id", optionalText d.id) :: ("order", .number (.int d.order.toInt)) ::
    d.decoration.members)

/-! ## Search types -/

/-- The message list that a document denotes. -/
def MessageList.ofDocument? (d : Document) : Option MessageList := do
  let f ← d.fields? .content ["id", "timerange", "query", "streams", "sort", "decorators"]
  let id ← required? f "id" Document.text?
  let timeRange ← fieldOr? f "timerange" none (optional? (DerivedTimeRange.ofDocument? .content))
  let query ← fieldOr? f "query" none (optional? Document.text?)
  let streams ← fieldOr? f "streams" ∅ NameSet.ofDocument?
  let sort ← fieldOr? f "sort" [] (listOf? (SortKey.ofDocument? .content))
  let decorators ← fieldOr? f "decorators" [] (listOf? Decorator.ofDocument?)
  return ⟨id, timeRange, query, streams, sort, decorators⟩

/-- The members of a message list as a JSON object. -/
def MessageList.members (l : MessageList) : List (String × Value) :=
  [("id", .string l.id), ("timerange", .ofOption (l.timeRange.map DerivedTimeRange.toValue)),
    ("query", optionalText l.query), ("streams", l.streams.toValue),
    ("sort", .array (l.sort.map SortKey.toValue)),
    ("decorators", .array (l.decorators.map Decorator.toValue))]

/-- A message list as a JSON value. -/
def MessageList.toValue (l : MessageList) : Value := .object l.members

/-- The other search type that a document denotes. -/
def OtherSearchType.ofDocument? (d : Document) : Option OtherSearchType := do
  let f ← d.fields? .content ["id", "streams"]
  let id ← required? f "id" Document.text?
  let streams ← fieldOr? f "streams" ∅ NameSet.ofDocument?
  return ⟨id, streams⟩

/-- The members of another search type as a JSON object. -/
def OtherSearchType.members (o : OtherSearchType) : List (String × Value) :=
  [("id", .string o.id), ("streams", o.streams.toValue)]

/-- The search type that a document denotes. -/
def SearchType.ofDocument? (how : Document.Reading) (d : Document) : Option SearchType := do
  let (tag, rest) ← d.variant? how "type" ["messages", "pivot", "events"]
  if tag = "messages" then (MessageList.ofDocument? rest).map .messages
  else if tag = "pivot" then (OtherSearchType.ofDocument? rest).map .pivot
  else (OtherSearchType.ofDocument? rest).map .events

/-- A search type as a JSON value. -/
def SearchType.toValue (t : SearchType) : Value :=
  .object (("type", .string t.kindName) ::
    match t with
    | .messages l => l.members
    | .pivot o => o.members
    | .events o => o.members)

/-! ## Searches -/

/-- The query that a document denotes. -/
def Query.ofDocument? (how : Document.Reading) (d : Document) : Option Query := do
  let f ← d.fields? how ["id", "timerange", "query", "streams", "search_types"]
  let id ← required? f "id" Document.text?
  let timeRange ← required? f "timerange" (TimeRange.ofDocument? how)
  let query ← fieldOr? f "query" none (optional? Document.text?)
  let streams ← fieldOr? f "streams" ∅ NameSet.ofDocument?
  let searchTypes ← fieldOr? f "search_types" [] (listOf? (SearchType.ofDocument? how))
  return ⟨id, timeRange, query, streams, searchTypes⟩

/-- A query as a JSON value. -/
def Query.toValue (q : Query) : Value :=
  .object [("id", .string q.id), ("timerange", q.timeRange.toValue),
    ("query", optionalText q.query), ("streams", q.streams.toValue),
    ("search_types", .array (q.searchTypes.map SearchType.toValue))]

/-- The parameter that a document denotes. -/
def Parameter.ofDocument? (how : Document.Reading) (d : Document) : Option Parameter := do
  let f ← d.fields? how ["name", "value", "default_value"]
  let name ← required? f "name" Document.text?
  let value ← fieldOr? f "value" none (optional? Document.toValue?)
  let defaultValue ← fieldOr? f "default_value" none (optional? Document.toValue?)
  return ⟨name, value, defaultValue⟩

/-- A parameter as a JSON value. -/
def Parameter.toValue (p : Parameter) : Value :=
  .object [("name", .string p.name), ("value", .ofOption p.value),
    ("default_value", .ofOption p.defaultValue)]

/-- The search that a document denotes. -/
def Search.ofDocument? (how : Document.Reading) (d : Document) : Option Search := do
  let f ← d.fields? how ["id", "queries", "parameters"]
  let id ← required? f "id" Document.text?
  let queries ← fieldOr? f "queries" [] (listOf? (Query.ofDocument? how))
  let parameters ← fieldOr? f "parameters" [] (listOf? (Parameter.ofDocument? how))
  return ⟨id, queries, parameters⟩

/-- A search as a JSON value. -/
def Search.toValue (s : Search) : Value :=
  .object [("id", .string s.id), ("queries", .array (s.queries.map Query.toValue)),
    ("parameters", .array (s.parameters.map Parameter.toValue))]

/-- The search that a JSON value denotes. -/
def Search.ofValue? (v : Value) : Option Search := Search.ofDocument? .json (.ofValue v)

end SearchExport
