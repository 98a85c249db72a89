import SearchExport.Engine.Guard
import SearchExport.Engine.Indices
import SearchExport.Engine.Page
import SearchExport.Export.Sink
import SearchExport.Export.Summary
import SearchExport.Search.Resolve

/-!
# Running an export

The engine is asked for one page after the other, and every page is handed to the sink as one chunk
before the next one is asked for.  A page is never cut: the run ends after a page that is not full, or
after the first page that brings the number of messages to the limit.

* `ExportRequest.start` — everything that is checked before the engine is asked;
* `Run.receive` — what one page does to a run;
* `Run.perform` — a whole run against an engine and a sink, with the steps it took;
* `ExportRequest.export`, `Search.export` — an export from its request or from a stored search.
-/

set_option autoImplicit false

namespace SearchExport

/-! ## Starting -/

/-- How an export starts. -/
inductive Start where
  /-- There is nothing to search. -/
  | nothing
  /-- The first page has to be fetched. -/
  | fetch (first : EngineQuery)

/-- The settings of a run. -/
structure RunSettings where
  indices : IndexSettings
  /-- Whether terms may start with a wildcard. -/
  allowLeadingWildcard : Bool
  deriving DecidableEq

/-- Resolves the time range, checks the query string and finds the indices, in this order. -/
def ExportRequest.start (r : ExportRequest) (settings : RunSettings) (now : Timestamp) :
    Except ExportError Start := do
  let timeRange ← (r.timeRange.resolve now).mapError fun f => .validation f.message
  (guardQueryString r.queryString settings.allowLeadingWildcard).mapError .engine
  let indices ← (settings.indices.resolve r.streams timeRange).mapError .engine
  if indices.isEmpty then return .nothing
  return .fetch (r.firstQuery indices timeRange settings.allowLeadingWildcard)

/-! ## Fetching -/

/-- Where a run stands before its next query. -/
structure Run (σ : Type) where
  request : ExportRequest
  /-- The next query. -/
  query : EngineQuery
  /-- What has been done up to now. -/
  summary : Summary
  /-- The state of the sink. -/
  sink : σ

/-- What follows a page. -/
inductive Turn (σ : Type) where
  /-- Another query. -/
  | again (run : Run σ)
  /-- The end of the run. -/
  | done (result : Except ExportError Summary) (sink : σ)

/-- Something that a run did. -/
inductive Step where
  /-- It asked the engine. -/
  | asked (query : EngineQuery)
  /-- It handed a chunk to the sink. -/
  | handed (chunk : Chunk)

namespace Run

variable {σ ε : Type}

/-- The chunk of a page that is not empty. -/
def chunkOf (r : Run σ) (p : Page) : Chunk where
  fields := r.request.fields
  messages := p.hits.map Hit.toMessage
  isFirst := r.summary.messages == 0

/-- Whether so many messages reach the limit. -/
def reachesLimit (r : Run σ) (messages : Nat) : Bool :=
  match r.request.limit with
  | some limit => limit ≤ messages
  | none => false

/-- What follows an accepted page. -/
def advance (r : Run σ) (p : Page) (sink : σ) : Turn σ :=
  let hits := p.hits.length
  let summary := { r.summary.record hits with pages := r.summary.pages + 1 }
  if r.reachesLimit summary.messages then
    .done (.ok { summary with stopReason := some .limitReached }) sink
  else if hits < r.request.chunkSize then
    .done (.ok { summary with stopReason := some .exhausted }) sink
  else
    match p.cursor? with
    | some cursor =>
      .again { r with query := r.query.continueAfter cursor, summary := summary, sink := sink }
    | none => .done (.ok { summary with stopReason := some .exhausted }) sink

/-- What the answer of the engine does to a run: the chunk that is handed over, if there is one, and
what follows. -/
def receive (sink : Sink σ) (r : Run σ) (answer : Except EngineError Page) :
    Option Chunk × Turn σ :=
  match answer with
  | .error e => (none, .done (.error (.engine e)) r.sink)
  | .ok p =>
    if p.hits.isEmpty then
      let summary := { r.summary with
        pages := r.summary.pages + 1, stopReason := some .exhausted }
      (none, .done (.ok summary) r.sink)
    else
      let chunk := r.chunkOf p
      match sink.accept r.sink chunk with
      | (s, .ok ()) => (some chunk, r.advance p s)
      | (s, .error e) => (some chunk, .done (.error e) s)

/-- What a run left behind. -/
structure Record (ε σ : Type) where
  /-- What it did, in order. -/
  steps : List Step
  /-- How it ended; missing when it was cut short. -/
  result : Option (Except ExportError Summary)
  engine : ε
  sink : σ

/-- Performs at most `fuel` turns of a run. -/
def perform (engine : Engine ε) (sink : Sink σ) : Nat → ε → Run σ → Record ε σ
  | 0, e, r => ⟨[], none, e, r.sink⟩
  | fuel + 1, e, r =>
    let (e, answer) := engine.ask e r.query
    let (chunk, turn) := r.receive sink answer
    let steps := .asked r.query :: (chunk.map Step.handed).toList
    match turn with
    | .done result s => ⟨steps, some result, e, s⟩
    | .again r =>
      let rest := perform engine sink fuel e r
      { rest with steps := steps ++ rest.steps }

end Run

/-! ## Exports -/

/-- Performs at most `fuel` turns of the export of a request. -/
def ExportRequest.export {ε σ : Type} (r : ExportRequest) (settings : RunSettings) (now : Timestamp)
    (engine : Engine ε) (sink : Sink σ) (fuel : Nat) (e : ε) (s : σ) : Run.Record ε σ :=
  match r.start settings now with
  | .error error => ⟨[], some (.error error), e, s⟩
  | .ok .nothing => ⟨[], some (.ok { stopReason := some .noIndices }), e, s⟩
  | .ok (.fetch first) =>
    Run.perform engine sink fuel e
      { request := r, query := first, summary := { indices := first.indices.size }, sink := s }

/-- What is exported of a stored search. -/
structure SearchTarget where
  searchTypeId : Option String
  format : ResultFormat

/-- Performs at most `fuel` turns of the export of a stored search.  The chunks of a message list are
decorated by its decorators. -/
def Search.export {ε σ : Type} (search : Search) (target : SearchTarget)
    (decorator : QueryDecorator) (chunkSize : Nat) (settings : RunSettings) (now : Timestamp)
    (engine : Engine ε) (sink : Sink σ) (fuel : Nat) (e : ε) (s : σ) : Run.Record ε σ :=
  match search.resolve decorator chunkSize target.searchTypeId target.format now with
  | .error fault => ⟨[], some (.error fault.toError), e, s⟩
  | .ok resolved =>
    match resolved.messageList with
    | some list =>
      resolved.request.export settings now engine (.decorating list.decorators sink) fuel e s
    | none => resolved.request.export settings now engine sink fuel e s

end SearchExport
