import SearchExport.Command.Line
import SearchExport.Command.Report
import SearchExport.Config.Load
import SearchExport.Export.Journal
import SearchExport.Json.Parser
import SearchExport.Search.Codec

/-!
# Exporting a stored search

The command that loads a stored search and writes its messages as lines of JSON to a file or to the
standard output.  The output file is made empty once the configuration and the search are loaded, before
anything is asked of the engine.

* `ExportArguments.prepare` — all that has to be there before the export;
* `ExportArguments.perform` — the export;
* `ExportArguments.run` — the whole command.
-/

set_option autoImplicit false

namespace SearchExport

/-- What surrounds an export. -/
structure Surroundings where
  environment : Environment := { }
  now : Timestamp
  /-- The name by which the log knows the export. -/
  exportId : String
  /-- How long the export takes, in nanoseconds. -/
  nanos : Nat := 0
  /-- The shutdown that is asked for while the export runs. -/
  shutdown : Option Shutdown := none
  /-- The number of pages after which an export is cut short. -/
  pageBound : Nat

/-- What an export needs. -/
structure ExportPlan where
  config : Config
  search : Search
  cluster : Cluster

/-- The search that a file holds. -/
def Search.load (disk : Disk) (path : String) : Except ExportError Search :=
  match disk.read path with
  | .error f =>
    .error (.configuration ("Failed to read search file " ++ path ++ ": " ++ f.message))
  | .ok text =>
    match (Document.ofJson? text).bind (Search.ofDocument? .json) with
    | some s => .ok s
    | none => .error (.configuration
      ("Failed to parse search file " ++ path ++ ": the text denotes no search"))

namespace ExportArguments

/-! ## Notices -/

/-- A notice of the command. -/
def notice (level : LogLevel) (message : String) (data : List (String × Datum)) : Output :=
  .notice ⟨level, commandSource "export", message, data, none⟩

/-- A notice of the command about an error. -/
def failure (message : String) (e : ExportError) : Output :=
  notice .error message [("error", .plain e.message)]

/-! ## Preparing -/

/-- The configuration with the size of a chunk that the arguments ask for. -/
def sized (a : ExportArguments) (c : Config) : Config :=
  match a.chunkSize with
  | some n => { c with exporting := { c.exporting with chunkSize := n } }
  | none => c

/-- The check of a configuration whose size of a chunk comes from the arguments. -/
def checkSized (a : ExportArguments) (c : Config) : Except ConfigFault Unit :=
  if a.chunkSize.isSome then c.validate else .ok ()

/-- The choices for the export. -/
def format (a : ExportArguments) (c : Config) : ResultFormat where
  fields := if a.fields.isEmpty then c.exporting.fields else a.fields
  sort := a.sort
  limit := a.limit

/-- All that has to be there before the export, or the exit code without it; what is shown comes
first. -/
def prepare (a : ExportArguments) (env : Environment) (disk : Disk) (configPath : String) :
    List Output × Except Nat ExportPlan :=
  let started := notice .info "Starting export command" [("search", .plain a.search)]
  match Config.load env disk configPath with
  | .error f =>
    let e := f.toError
    ([started, failure "Failed to load configuration" e, .err ("❌ " ++ e.message)], .error 2)
  | .ok loaded =>
    let config := a.sized loaded
    let shown := started :: (a.chunkSize.map fun n =>
      notice .info "Overriding chunk size from CLI" [("chunk_size", .count n)]).toList
    match a.checkSized config with
    | .error f =>
      (shown ++ [.err ("❌ Configuration validation failed: " ++ f.message)], .error 2)
    | .ok () =>
      match Search.load disk a.search with
      | .error e =>
        (shown ++ [failure "Failed to load search" e, .err ("❌ " ++ e.message)], .error 2)
      | .ok search =>
        match Cluster.of config.elasticsearch with
        | .error e =>
          (shown ++ [failure "Failed to create exporter" e,
            .err ("❌ Failed to initialize export: " ++ e.message)], .error e.exitCode)
        | .ok cluster => (shown ++ [.notice config.indices.notice], .ok ⟨config, search, cluster⟩)

/-! ## Exporting -/

/-- The state of the sink of the command: the lines, the chunks that were written, and the chunks that
were let through. -/
abbrev SinkState := (LineWriter × Nat) × Nat

/-- The sink of the command. -/
def sink (shutdown : Option Shutdown) : Sink SinkState :=
  .interruptible (fun s => shutdown.any fun x => x.after ≤ s.2) (.counting .ndjson)

/-- How a run ended.  One that was cut short counts as interrupted. -/
def ending {ε : Type} (record : Run.Record ε SinkState) : Except ExportError Summary :=
  record.result.getD (.error (.interrupted record.sink.2))

/-- Performs the export and takes down how long it took. -/
def perform {π : Type} (a : ExportArguments) (w : Surroundings) (plan : ExportPlan) (peer : Peer π)
    (s : π) : Run.Record (π × List SearchTrace) SinkState :=
  let record := plan.search.export ⟨a.searchTypeId, a.format plan.config⟩ .parameters
    plan.config.exporting.chunkSize
    ⟨plan.config.indices, plan.config.elasticsearch.allowLeadingWildcard⟩ w.now
    (plan.cluster.engine peer) (sink w.shutdown) w.pageBound (s, []) (({ }, 0), 0)
  { record with result := record.result.map fun r => r.map fun s => { s with nanos := w.nanos } }

/-- What the export tells the log. -/
def journal {π : Type} (a : ExportArguments) (w : Surroundings) (plan : ExportPlan)
    (record : Run.Record (π × List SearchTrace) SinkState) : List Output :=
  let c := plan.config
  match plan.search.resolve .parameters c.exporting.chunkSize a.searchTypeId (a.format c) w.now with
  | .error _ => []
  | .ok resolved =>
    let j : Journal := {
      exportId := w.exportId
      request := resolved.request
      indices := c.indices
      retry := c.elasticsearch.retry
      decorators := (resolved.messageList.map fun l => l.decorators.length).getD 0
      shutdown := w.shutdown }
    .notice (resolved.notice plan.search a.searchTypeId) ::
      j.outputs c.elasticsearch.allowLeadingWildcard w.now record.engine.2 record

/-! ## Reporting -/

/-- The summary in words. -/
def summaryLines (w : Surroundings) (s : Summary) : List String :=
  ["", "📊 Export Summary:", "  Export ID: " ++ w.exportId,
    "  Messages: " ++ Text.ofNat s.messages, "  Chunks: " ++ Text.ofNat s.chunks,
    "  Pages fetched: " ++ Text.ofNat s.pages, "  Indices searched: " ++ Text.ofNat s.indices] ++
  (s.stopReason.map fun r => "  Stopped: " ++ r.name).toList ++
  ["  Duration: " ++ s.seconds.fixed 2 ++ "s", "  Throughput: " ++ s.throughput.fixed 1 ++ " msg/s",
    "", "✅ Export completed successfully!"]

/-- What is shown at the end, and the exit code. -/
def conclude (w : Surroundings) (written : Nat) :
    Except ExportError Summary → List Output × Nat
  | .ok s => (.notice (s.notice w.exportId) :: (summaryLines w s).map .err, 0)
  | .error (.interrupted chunks) =>
    ([.err "",
      .err ("⚠️  Export interrupted after " ++ Text.ofNat chunks ++ " chunk(s), " ++
        Text.ofNat written ++ " message(s) written."),
      notice .info "Export interrupted by user signal" []], 130)
  | .error e =>
    ([failure "Export failed" e, .err ("❌ Export failed: " ++ e.message)] ++
      (if written = 0 then []
      else [.err ("   " ++ Text.ofNat written ++ " message(s) were written before the failure")]),
      e.exitCode)

/-- The text that a writer took. -/
def writtenText (w : LineWriter) : String :=
  (String.fromUTF8? ⟨w.target.taken.toArray⟩).getD ""

/-- Exports to the standard output or to a file that is there. -/
def carryOut {π : Type} (a : ExportArguments) (w : Surroundings) (plan : ExportPlan) (disk : Disk)
    (peer : Peer π) (s : π) : Report × π :=
  let record := a.perform w plan peer s
  let writer := record.sink.1.1
  let text := writtenText writer
  let (closing, code) := conclude w writer.written (ending record)
  let (printed, disk) := match a.output with
    | some path => ([], (disk.write path text).toOption.getD disk)
    | none => ((Text.lines text).map Output.out, disk)
  let started : Output := .err ("🚀 Exporting search " ++ plan.search.id ++ "...")
  (⟨started :: a.journal w plan record ++ printed ++ closing, disk, .ok code⟩, record.engine.1)

/-- Carries out the command. -/
def run {π : Type} (a : ExportArguments) (w : Surroundings) (disk : Disk) (configPath : String)
    (peer : Peer π) (s : π) : Report × π :=
  match a.prepare w.environment disk configPath with
  | (shown, .error code) => (⟨shown, disk, .ok code⟩, s)
  | (shown, .ok plan) =>
    let opened := match a.output with
      | some path => disk.write path ""
      | none => .ok disk
    match opened with
    | .error f => (⟨shown, disk, .error f⟩, s)
    | .ok disk =>
      let (report, s) := a.carryOut w plan disk peer s
      ({ report with outputs := shown ++ report.outputs }, s)

end ExportArguments

end SearchExport
