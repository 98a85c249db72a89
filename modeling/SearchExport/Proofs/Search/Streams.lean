import SearchExport.Proofs.Elasticsearch.TimeFilter
import SearchExport.Proofs.Export.Start

/-!
# The streams of an export

The part of a search that is exported names streams, and the messages of its export are to be in one of them.
A set without streams stands for all messages, so that a scope must not become empty on its way from the
search to the body of a query.

* `Selection.InScope` — the streams that the part of a search names; `Selection.mem_streams` — they are those
  that its request is drafted with.
* `Value.streamTerms?` — the streams that a body asks for; `EngineQuery.streamTerms?_body` — they are those of
  the query.
* `Search.streams_of_scope` — the streams of the request and of every query of its export, and when there are
  any.
* `Search.streams_of_blank_list` — a message list that names a blank stream only: the streams of its query do
  not take the place of it, and the export is not bound to any stream.
-/

set_option autoImplicit false

namespace SearchExport

/-! ## The scope -/

def Query.RefersTo (q : Query) (stream : String) : Prop :=
  stream ∈ q.streams ∨ ∃ t ∈ q.searchTypes, stream ∈ t.streams

theorem Query.mem_usedStreams (q : Query) (stream : String) :
    stream ∈ q.usedStreams ↔ q.RefersTo stream := by
  unfold usedStreams RefersTo
  induction q.searchTypes with
  | nil => simp
  | cons t ts ih =>
    rw [List.foldr_cons, NameSet.mem_union, ih]
    simp only [List.mem_cons, exists_eq_or_imp]
    exact or_left_comm

namespace Selection

/-- The stream is one that the message list names or, when it names none, one that the query refers to. -/
def InScope (sel : Selection) (stream : String) : Prop :=
  match sel.messageList with
  | some list => stream ∈ list.streams ∨ ((∀ s, s ∉ list.streams) ∧ sel.query.RefersTo stream)
  | none => sel.query.RefersTo stream

theorem mem_streams (sel : Selection) (stream : String) :
    stream ∈ sel.streams ↔ sel.InScope stream := by
  unfold streams InScope
  cases sel.messageList with
  | none => exact sel.query.mem_usedStreams stream
  | some list =>
    by_cases hempty : list.streams.isEmpty = true
    · have hnone : ∀ s, s ∉ list.streams := NameSet.isEmpty_iff.1 hempty
      simp only [hempty, if_true, hnone, false_or, not_false_eq_true, implies_true, true_and]
      exact sel.query.mem_usedStreams stream
    · have hsome : ¬ ∀ s, s ∉ list.streams := fun hnone => hempty (NameSet.isEmpty_iff.2 hnone)
      simp only [hempty, Bool.false_eq_true, if_false, hsome, false_and, or_false]

end Selection

/-- The streams of a request are the ones of its scope that are not blank. -/
theorem Search.mem_streams_of_resolve {search : Search} {decorator : QueryDecorator} {chunkSize : Nat}
    {searchTypeId : Option String} {format : ResultFormat} {now : Timestamp} {x : ResolvedExport}
    (hresolve : search.resolve decorator chunkSize searchTypeId format now = .ok x) :
    ∃ sel, search.select searchTypeId = .ok sel ∧ ∀ stream,
      stream ∈ x.request.streams ↔ sel.InScope stream ∧ Text.isBlank stream = false := by
  obtain ⟨sel, range, queryString, hselect, _, _, hbuild, _⟩ := resolve_eq_ok hresolve
  obtain ⟨_, _, _, _, hrequest⟩ := RequestDraft.build_eq_ok hbuild
  refine ⟨sel, hselect, fun stream => ?_⟩
  rw [hrequest, RequestDraft.normalized, NameSet.mem_filter, ← sel.mem_streams]
  simp [Selection.draft]

/-! ## The body -/

/-- The streams that the first filter by streams of a body asks for. -/
def Value.streamTerms? (body : Value) : Option Value := do
  let filters ← (body.path? ["query", "bool", "filter"]).bind items?
  filters.findSome? (path? ["terms", Field.streams])

/-- **The body of a query** asks for the streams of the query, if there are any. -/
theorem EngineQuery.streamTerms?_body (q : EngineQuery) :
    q.body.streamTerms? = if q.streams.isEmpty then none else some (.ofTexts q.streams.names) := by
  have htime : q.timeFilter.path? ["terms", Field.streams] = none := by
    simp [timeFilter, Value.path?, Value.members?, lookupEntry]
  have hstreams : q.streamFilter.path? ["terms", Field.streams] = some (.ofTexts q.streams.names) := by
    simp [streamFilter, Value.path?, Value.members?, lookupEntry]
  simp only [Value.streamTerms?, path?_filters, Option.bind_eq_bind, Option.bind_some, Value.items?,
    filters, List.findSome?_cons, htime]
  split
  · rfl
  · rw [List.findSome?_singleton, hstreams]

/-! ## Exports -/

namespace Search

/-- **The streams of an export**, for every search, search type and result format with a request, are those of
its scope that are not blank.  There are any exactly when the scope has a stream that is not blank; the body of
every query of every run of the export then asks for them, and otherwise for messages of all streams. -/
theorem streams_of_scope {search : Search} {target : SearchTarget} {decorator : QueryDecorator}
    {chunkSize : Nat} {now : Timestamp} {x : ResolvedExport}
    (hresolve : search.resolve decorator chunkSize target.searchTypeId target.format now = .ok x) :
    ∃ sel, search.select target.searchTypeId = .ok sel ∧
      (∀ stream, stream ∈ x.request.streams ↔ sel.InScope stream ∧ Text.isBlank stream = false) ∧
      (x.request.streams.isEmpty = false ↔ ∃ stream, sel.InScope stream ∧ Text.isBlank stream = false) ∧
      ∀ {σ ε : Type} (settings : RunSettings) (engine : Engine ε) (sink : Sink σ) (fuel : Nat) (e : ε)
        (s : σ), ∀ q ∈ (search.export target decorator chunkSize settings now engine sink fuel e s).queries,
          q.streams = x.request.streams ∧
            q.body.streamTerms? =
              if x.request.streams.isEmpty then none else some (.ofTexts x.request.streams.names) := by
  obtain ⟨sel, hselect, hmem⟩ := mem_streams_of_resolve hresolve
  refine ⟨sel, hselect, hmem, ?_, fun settings engine sink fuel e s q hq => ?_⟩
  · rw [← Bool.not_eq_true, NameSet.isEmpty_iff, Classical.not_forall]
    simp only [Classical.not_not, hmem]
  · rw [export_of_resolve hresolve] at hq
    obtain ⟨_, _, _, _, _, hq⟩ := x.request.query_eq engine _ fuel e s settings now q hq
    have hstreams : q.streams = x.request.streams := by rw [hq]; rfl
    exact ⟨hstreams, by rw [q.streamTerms?_body, hstreams]⟩

/-- A message list that names a stream and a blank one, in a query that names another stream: the query of
the export asks for the one stream. -/
theorem streams_of_scope_of_list :
    let list : MessageList := ⟨"list", none, none, .ofList ["errors", " "], [], []⟩
    let query : Query := ⟨"query", .relative 0, none, .ofList ["audit"], [.messages list]⟩
    let search : Search := ⟨"search", [query], []⟩
    let r := (Selection.draft ⟨query, some list⟩ query.timeRange "" {} 1000).normalized
    let settings : RunSettings := ⟨⟨["graylog_*"], []⟩, true⟩
    let record := search.export ⟨some "list", {}⟩ .plain 1000 settings .epoch
      ⟨fun e _ => (e, .ok ⟨[]⟩)⟩ .collecting 1 () []
    let first := r.firstQuery (.ofList ["graylog_*"]) ⟨.epoch, .epoch⟩ true
    search.resolve .plain 1000 (some "list") {} .epoch = .ok ⟨r, some list, "query"⟩ ∧
      search.select (some "list") = .ok ⟨query, some list⟩ ∧
      Selection.InScope ⟨query, some list⟩ "errors" ∧ r.streams = .ofList ["errors"] ∧
      record.queries = [first] ∧ first.body.streamTerms? = some (.ofTexts ["errors"]) := by
  intro list query search r settings record first
  have hresolve : search.resolve .plain 1000 (some "list") {} .epoch =
      .ok ⟨r, some list, "query"⟩ :=
    resolve_of_draft rfl rfl rfl (RequestDraft.build_of_defaultFields (by decide) (by decide) rfl)
  let target : SearchTarget := ⟨some "list", {}⟩
  have hresolve' : search.resolve .plain 1000 target.searchTypeId target.format .epoch =
      .ok ⟨r, some list, "query"⟩ := hresolve
  have hindices : settings.indices.resolve r.streams ⟨.epoch, .epoch⟩ =
      .ok (.ofList ["graylog_*"]) := rfl
  have hstart : r.start settings .epoch = .ok (.fetch first) :=
    ExportRequest.start_of_ok rfl rfl hindices
  have hqueries : record.queries = [first] := queries_of_dry hresolve' hstart _ 0 [] rfl rfl
  obtain ⟨sel, hselect, _, hsome, hsent⟩ := streams_of_scope hresolve'
  obtain rfl : ⟨query, some list⟩ = sel := by cases hselect; rfl
  have hscope : Selection.InScope ⟨query, some list⟩ "errors" := .inl (by decide)
  have hnonempty : r.streams.isEmpty = false := hsome.2 ⟨"errors", hscope, by decide⟩
  have hstreams : r.streams = .ofList ["errors"] := by decide
  have hterms := hsent settings ⟨fun e _ => (e, .ok ⟨[]⟩)⟩ .collecting 1 () [] first
    (by rw [hqueries]; exact List.mem_singleton_self _)
  refine ⟨hresolve, hselect, hscope, hstreams, hqueries, hterms.2.trans ?_⟩
  rw [hnonempty, hstreams]
  rfl

/-- A message list whose only stream is blank, in a query that names another one.  The blank stream is in the
scope and keeps the stream of the query out of it, and then it is dropped: the body of the query has no filter by
streams.  Without the blank stream the export is bound to the stream of the query. -/
theorem streams_of_blank_list :
    let list : MessageList := ⟨"list", none, none, .ofList [" "], [], []⟩
    let query : Query := ⟨"query", .relative 0, none, .ofList ["audit"], [.messages list]⟩
    let search : Search := ⟨"search", [query], []⟩
    let r := (Selection.draft ⟨query, some list⟩ query.timeRange "" {} 1000).normalized
    let settings : RunSettings := ⟨⟨["graylog_*"], []⟩, true⟩
    let record := search.export ⟨some "list", {}⟩ .plain 1000 settings .epoch
      ⟨fun e _ => (e, .ok ⟨[]⟩)⟩ .collecting 1 () []
    let first := r.firstQuery (.ofList ["graylog_*"]) ⟨.epoch, .epoch⟩ true
    let unnamed : MessageList := { list with streams := ∅ }
    search.resolve .plain 1000 (some "list") {} .epoch = .ok ⟨r, some list, "query"⟩ ∧
      search.select (some "list") = .ok ⟨query, some list⟩ ∧ Selection.InScope ⟨query, some list⟩ " " ∧
      record.queries = [first] ∧ r.streams = ∅ ∧ first.body.streamTerms? = none ∧
      (Selection.draft ⟨{ query with searchTypes := [.messages unnamed] }, some unnamed⟩
        query.timeRange "" {} 1000).normalized.streams = .ofList ["audit"] := by
  intro list query search r settings record first unnamed
  have hresolve : search.resolve .plain 1000 (some "list") {} .epoch =
      .ok ⟨r, some list, "query"⟩ :=
    resolve_of_draft rfl rfl rfl (RequestDraft.build_of_defaultFields (by decide) (by decide) rfl)
  have hindices : settings.indices.resolve r.streams ⟨.epoch, .epoch⟩ =
      .ok (.ofList ["graylog_*"]) := rfl
  have hstart : r.start settings .epoch = .ok (.fetch first) :=
    ExportRequest.start_of_ok rfl rfl hindices
  let target : SearchTarget := ⟨some "list", {}⟩
  have hresolve' : search.resolve .plain 1000 target.searchTypeId target.format .epoch =
      .ok ⟨r, some list, "query"⟩ := hresolve
  have hqueries : record.queries = [first] := queries_of_dry hresolve' hstart _ 0 [] rfl rfl
  have hstreams : r.streams = ∅ := by decide
  have hempty : first.streams.isEmpty = true := congrArg NameSet.isEmpty hstreams
  refine ⟨hresolve, rfl, .inl (by decide), hqueries, hstreams, ?_, by decide⟩
  rw [first.streamTerms?_body, hempty]
  rfl

end Search

end SearchExport
