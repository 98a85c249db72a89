import SearchExport.Binary64.Fixed
import SearchExport.Elasticsearch.Client
import SearchExport.Export.Run
import SearchExport.Log.Output
import SearchExport.Text.Quoted

/-!
# The journal of an export

What an export tells the log, read off from what it did.

* `Journal.opening` — what is said before the first query;
* `Journal.steps` — what is said about queries and chunks;
* `Journal.outputs` — the whole journal of a run.
-/

set_option autoImplicit false

namespace SearchExport

/-! ## Shutdowns -/

/-- A signal that ends a program. -/
inductive Signal where
  | terminate
  | interrupt
  deriving DecidableEq, Repr

/-- A shutdown that is asked for while the engine works on a page. -/
structure Shutdown where
  /-- The number of chunks that were accepted before. -/
  after : Nat
  /-- The signal that asked for it; missing when it was asked for without one. -/
  signal : Option Signal
  deriving DecidableEq, Repr

/-- What a program shows when a signal arrives. -/
def Signal.outputs (s : Signal) : List Output :=
  let said (message : String) : Output :=
    .notice { level := .info, source := sourceOf [], message := message }
  [said (match s with
    | .terminate => "Received SIGTERM"
    | .interrupt => "Received SIGINT (Ctrl+C)"),
    said "Shutdown signal received, stopping after the current chunk",
    .err "", .err "⚠️  Shutdown signal received, stopping after the current chunk..."]

/-! ## Before the run -/

/-- What is said about the indices that are known. -/
def IndexSettings.notice (s : IndexSettings) : Notice where
  level := .debug
  source := sourceOf ["adapters", "index"]
  message :=
    if s.ranges.isEmpty then "Using pattern index resolver" else "Using index range resolver"
  data :=
    if s.ranges.isEmpty then [("patterns", .plain (Text.quotedList s.defaultPatterns))]
    else [("range_count", .count s.ranges.length)]

/-- What is said about the request of a stored search. -/
def ResolvedExport.notice (r : ResolvedExport) (search : Search) (searchTypeId : Option String) :
    Notice where
  level := .debug
  source := sourceOf ["core", "export", "builder"]
  message := "Built export request"
  data := [("search_id", .plain search.id), ("query_id", .plain r.queryId),
    ("search_type_id", .quoted (searchTypeId.getD "-")), ("streams", .count r.request.streams.size),
    ("query_string", .plain r.request.queryString)]

/-- The part of the program that runs exports. -/
def runSource : String := sourceOf ["core", "export", "backend"]

/-- The activity of an export. -/
def exportSpan (exportId : String) : LogSpan where
  name := "export"
  source := runSource
  level := .info
  data := [("export_id", .plain exportId)]

/-- What the journal of an export has to know. -/
structure Journal where
  exportId : String
  request : ExportRequest
  indices : IndexSettings
  retry : RetrySettings
  /-- The number of decorators of the chunks. -/
  decorators : Nat
  shutdown : Option Shutdown

namespace Journal

/-- A notice of the export. -/
def notice (j : Journal) (level : LogLevel) (source message : String)
    (data : List (String × Datum)) : Output :=
  .notice ⟨level, source, message, data, some (exportSpan j.exportId)⟩

/-- What is said when the indices are known. -/
def found (j : Journal) (timeRange : AbsoluteRange) (indices : NameSet) : List Output :=
  let shown := Datum.plain timeRange.display
  let resolved :=
    if j.indices.ranges.isEmpty then []
    else [j.notice .debug (sourceOf ["adapters", "index"]) "Resolved indices from index ranges"
      [("stream_count", .count j.request.streams.size), ("time_range", shown),
        ("index_count", .count indices.size)]]
  let limit := match j.request.limit with
    | some n => "Some(" ++ Text.ofNat n ++ ")"
    | none => "None"
  resolved ++
    if indices.isEmpty then
      [j.notice .info runSource "No indices to search" [("time_range", shown)]]
    else
      [j.notice .info runSource "Starting export"
        [("engine", .quoted Cluster.name), ("index_count", .count indices.size),
          ("chunk_size", .count j.request.chunkSize), ("limit", .plain limit)]]

/-- What is said before the first query. -/
def opening (j : Journal) (allowLeadingWildcard : Bool) (now : Timestamp) : List Output :=
  match j.request.timeRange.resolve now with
  | .error _ => []
  | .ok timeRange =>
    match guardQueryString j.request.queryString allowLeadingWildcard with
    | .error _ => []
    | .ok () =>
      match j.indices.resolve j.request.streams timeRange with
      | .error _ => []
      | .ok indices => j.found timeRange indices

/-! ## During the run -/

/-- What is said about a search that was sent. -/
def sent (j : Journal) (t : SearchTrace) : List Output :=
  let source := sourceOf ["adapters", "elasticsearch", "client"]
  j.notice .trace source "Executing search request"
    [("url", .plain t.request.url.text), ("body", .plain t.request.body)] ::
  t.retries.map fun r =>
    j.notice .warn source "Retrying search request after error"
      [("attempt", .count r.attempt), ("max_retries", .count j.retry.maxRetries),
        ("delay_ms", .count r.delayMillis), ("error", .plain r.error.message)]

/-- What is said about a chunk on its way to the sink. -/
def decorated (j : Journal) (c : Chunk) : List Output :=
  if j.decorators = 0 then []
  else [j.notice .trace (sourceOf ["core", "decorate", "chunk"]) "Decorated chunk"
    [("decorators", .count j.decorators), ("messages", .count c.size)]]

/-- What is said about the end of a run with an error. -/
def refused (j : Journal) : Option (Except ExportError Summary) → List Output
  | some (.error (.interrupted n)) =>
    [j.notice .warn (sourceOf ["core", "export", "sink"]) "Shutdown requested, stopping export"
      [("chunks", .count n)]]
  | _ => []

/-- Whether a run ended with an error. -/
def failed : Option (Except ExportError Summary) → Bool
  | some (.error _) => true
  | _ => false

/-- What is shown when a shutdown is asked for after so many chunks. -/
def signalled (j : Journal) (chunks : Nat) : List Output :=
  match j.shutdown with
  | some s => if s.after = chunks then (s.signal.map Signal.outputs).getD [] else []
  | none => []

/-- What is shown about the steps of a run after so many accepted chunks and messages. -/
def steps (j : Journal) (result : Option (Except ExportError Summary)) :
    Nat → Nat → List SearchTrace → List Step → List Output
  | _, _, _, [] => []
  | chunks, messages, t :: ts, .asked _ :: rest =>
    j.sent t ++ j.signalled chunks ++ j.steps result chunks messages ts rest
  | chunks, messages, [], .asked _ :: rest => j.steps result chunks messages [] rest
  | chunks, messages, ts, .handed c :: rest =>
    if rest.isEmpty && failed result then j.decorated c ++ j.refused result
    else
      j.decorated c ++
        j.notice .debug runSource "Delivered page"
          [("page", .count (chunks + 1)), ("hits", .count c.size),
            ("delivered", .count (messages + c.size))] ::
        j.steps result (chunks + 1) (messages + c.size) ts rest

/-- What is said at the end of a run. -/
def closing (j : Journal) (indices : Nat) : Option (Except ExportError Summary) → List Output
  | some (.ok s) =>
    if indices = 0 then []
    else [j.notice .info runSource "Export completed"
      [("count", .count s.messages), ("duration_ms", .count (s.nanos / 1000000))]]
  | some (.error e) =>
    [j.notice .error runSource "Error occurred"
      [("error", .plain e.message), ("context", .quoted "Export run failed")]]
  | none => []

/-- The journal of a run. -/
def outputs {ε σ : Type} (j : Journal) (allowLeadingWildcard : Bool) (now : Timestamp)
    (traces : List SearchTrace) (record : Run.Record ε σ) : List Output :=
  let indices := match record.result with
    | some (.ok s) => s.indices
    | _ => 0
  j.opening allowLeadingWildcard now ++ j.steps record.result 0 0 traces record.steps ++
    j.closing indices record.result ++ [.log (.closed (exportSpan j.exportId))]

end Journal

/-! ## After the run -/

/-- What is said about a complete export. -/
def Summary.notice (s : Summary) (exportId : String) : Notice where
  level := .info
  source := sourceOf ["core", "export", "summary"]
  message := "Export summary"
  data := [("export_id", .plain exportId), ("chunks", .count s.chunks),
    ("messages", .count s.messages), ("pages", .count s.pages), ("indices", .count s.indices),
    ("stop_reason", .quoted ((s.stopReason.map StopReason.name).getD "")),
    ("duration_ms", .count (s.nanos / 1000000)),
    ("throughput", .quoted (s.throughput.fixed 1 ++ "/s"))]

end SearchExport
