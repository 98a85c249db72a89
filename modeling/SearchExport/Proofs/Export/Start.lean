import SearchExport.Export.Run
import SearchExport.Proofs.Export.Sinks
import SearchExport.Proofs.Export.Turns
import SearchExport.Proofs.Request.Build

/-!
# How an export starts

Before the engine is asked the time range is resolved, the query string is checked and the indices are
found; the first of these that fails ends the export.

* `ExportRequest.faults` — what is wrong with an export before its first query, in this order.
* `ExportRequest.start_cases` — the first fault, or nothing to search, or the first query.
* `ExportRequest.export_of_error`, `export_of_nothing`, `export_of_fetch` — the export in each case.
* `ExportRequest.fetches_or_ends` — an export without a first query does nothing at all.
* `ExportRequest.query_eq` — what every query of an export is made of.
* `ExportRequest.engine_keeps` — invariants of the state of the engine.
* `Search.resolve_eq_ok` — the steps to the request of a search that has one.
* `Search.export_of_resolve` — the export of a stored search is the one of its request, with the chunks
  decorated on their way.
-/

set_option autoImplicit false

namespace SearchExport

namespace ExportRequest

variable {r : ExportRequest} {settings : RunSettings} {now : Timestamp}

/-- What is wrong with an export before its first query, in the order in which it is checked: the time
range, the query string, and the indices, which are only found within a time range. -/
def faults (r : ExportRequest) (settings : RunSettings) (now : Timestamp) : List ExportError :=
  let guardFaults := match guardQueryString r.queryString settings.allowLeadingWildcard with
    | .error fault => [.engine fault]
    | .ok () => []
  match r.timeRange.resolve now with
  | .error fault => .validation fault.message :: guardFaults
  | .ok range =>
    guardFaults ++ match settings.indices.resolve r.streams range with
      | .error fault => [.engine fault]
      | .ok _ => []

theorem start_of_ok {range : AbsoluteRange} {indices : NameSet}
    (hrange : r.timeRange.resolve now = .ok range)
    (hguard : guardQueryString r.queryString settings.allowLeadingWildcard = .ok ())
    (hindices : settings.indices.resolve r.streams range = .ok indices) :
    r.start settings now =
      if indices.isEmpty then .ok .nothing
      else .ok (.fetch (r.firstQuery indices range settings.allowLeadingWildcard)) := by
  rw [start, hrange, hguard]
  show ((settings.indices.resolve r.streams range).mapError ExportError.engine >>= _) = _
  rw [hindices]
  rfl

/-- **Every export** has a first fault, or it finds its indices and then its first query. -/
theorem start_cases (r : ExportRequest) (settings : RunSettings) (now : Timestamp) :
    (∃ error, (r.faults settings now).head? = some error ∧ r.start settings now = .error error) ∨
      (r.faults settings now = [] ∧
        ∃ range indices, r.timeRange.resolve now = .ok range ∧
          settings.indices.resolve r.streams range = .ok indices ∧
          r.start settings now =
            if indices.isEmpty then .ok .nothing
            else .ok (.fetch (r.firstQuery indices range settings.allowLeadingWildcard))) := by
  unfold faults
  cases hrange : r.timeRange.resolve now with
  | error fault =>
    refine .inl ⟨_, rfl, ?_⟩
    rw [start, hrange]; rfl
  | ok range =>
    cases hguard : guardQueryString r.queryString settings.allowLeadingWildcard with
    | error fault =>
      refine .inl ⟨_, rfl, ?_⟩
      rw [start, hrange, hguard]; rfl
    | ok =>
      cases hindices : settings.indices.resolve r.streams range with
      | error fault =>
        refine .inl ⟨.engine fault, by simp [hindices], ?_⟩
        rw [start, hrange, hguard]
        show ((settings.indices.resolve r.streams range).mapError ExportError.engine >>= _) = _
        rw [hindices]
        rfl
      | ok indices =>
        exact .inr ⟨by simp [hindices], range, indices, rfl, hindices,
          start_of_ok hrange hguard hindices⟩

theorem start_of_fault {error : ExportError} (h : (r.faults settings now).head? = some error) :
    r.start settings now = .error error := by
  rcases start_cases r settings now with ⟨error', herror', hstart⟩ | ⟨hnone, _⟩
  · rw [h] at herror'
    cases herror'
    exact hstart
  · rw [hnone] at h
    cases h

/-! ## Exports -/

variable {σ ε : Type} (engine : Engine ε) (sink : Sink σ) (fuel : Nat) (e : ε) (s : σ)

/-- The run of a request before its first query. -/
def firstRun (r : ExportRequest) (first : EngineQuery) (s : σ) : Run σ where
  request := r
  query := first
  summary := { indices := first.indices.size }
  sink := s

/-- Nothing delivered does not reach the limit, which is not zero. -/
theorem firstRun_below_limit {d : RequestDraft} {r : ExportRequest} (hbuild : d.build = .ok r)
    (first : EngineQuery) (s : σ) :
    (r.firstRun first s).reachesLimit (r.firstRun first s).summary.messages = false := by
  unfold Run.reachesLimit
  split
  · rename_i limit hlimit
    have hzero : limit ≠ 0 := fun hzero => RequestDraft.limit_ne_zero hbuild (hzero ▸ hlimit)
    exact decide_eq_false (Nat.not_le.2 (Nat.pos_of_ne_zero hzero))
  · rfl

theorem export_of_error {error : ExportError} (hstart : r.start settings now = .error error) :
    r.export settings now engine sink fuel e s = ⟨[], some (.error error), e, s⟩ := by
  rw [«export», hstart]

theorem export_of_nothing (hstart : r.start settings now = .ok .nothing) :
    r.export settings now engine sink fuel e s =
      ⟨[], some (.ok { stopReason := some .noIndices }), e, s⟩ := by
  rw [«export», hstart]

theorem export_of_fetch {first : EngineQuery} (hstart : r.start settings now = .ok (.fetch first)) :
    r.export settings now engine sink fuel e s =
      Run.perform engine sink fuel e (r.firstRun first s) := by
  rw [«export», hstart]
  rfl

/-- An export whose first page is empty sends its first query only. -/
theorem queries_of_dry {first : EngineQuery} (hstart : r.start settings now = .ok (.fetch first))
    {e' : ε} {p : Page} (hask : engine.ask e first = (e', .ok p)) (hdry : p.hits = []) :
    (r.export settings now engine sink (fuel + 1) e s).queries = [first] := by
  rw [export_of_fetch engine sink (fuel + 1) e s hstart,
    Run.perform_dry (r := r.firstRun first s) hask hdry]
  rfl

/-- **An export asks the engine or it does nothing**: with its first query it is the run from there, and
without one it ends at once, whatever the engine and the sink are. -/
theorem fetches_or_ends (r : ExportRequest) (settings : RunSettings) (now : Timestamp) :
    (∃ first, r.start settings now = .ok (.fetch first)) ∨
      ∃ result, ∀ {ε σ : Type} (engine : Engine ε) (sink : Sink σ) (fuel : Nat) (e : ε) (s : σ),
        r.export settings now engine sink fuel e s = ⟨[], some result, e, s⟩ := by
  cases hstart : r.start settings now with
  | error error =>
    exact .inr ⟨_, fun engine sink fuel e s => export_of_error engine sink fuel e s hstart⟩
  | ok start =>
    cases start with
    | nothing =>
      exact .inr ⟨_, fun engine sink fuel e s => export_of_nothing engine sink fuel e s hstart⟩
    | fetch first => exact .inl ⟨first, rfl⟩

/-- **Every query of an export** is the first one, from some place on: it is made of the request and of the
indices that were found for it. -/
theorem query_eq (r : ExportRequest) (settings : RunSettings) (now : Timestamp) :
    ∀ q ∈ (r.export settings now engine sink fuel e s).queries,
      ∃ range indices, r.timeRange.resolve now = .ok range ∧
        settings.indices.resolve r.streams range = .ok indices ∧ indices.isEmpty = false ∧
        q = { r.firstQuery indices range settings.allowLeadingWildcard with
          searchAfter := q.searchAfter } := by
  intro q hq
  rcases r.start_cases settings now with
    ⟨error, _, hstart⟩ | ⟨_, range, indices, hrange, hindices, hstart⟩
  · rw [export_of_error _ _ _ _ _ hstart] at hq
    simp at hq
  · split at hstart
    · rw [export_of_nothing _ _ _ _ _ hstart] at hq
      simp at hq
    · rename_i hempty
      rw [export_of_fetch _ _ _ _ _ hstart] at hq
      exact ⟨range, indices, hrange, hindices, by simpa using hempty,
        (Run.performs _ _ _ _ _).query_eq q hq⟩

/-- What every answered query of an export keeps of the state of the engine holds at its end. -/
theorem engine_keeps (r : ExportRequest) (settings : RunSettings) (now : Timestamp) {P : ε → Prop}
    (hstart : P e)
    (hkeeps : ∀ e', ∀ q ∈ (r.export settings now engine sink fuel e s).queries,
      P e' → P (engine.ask e' q).1) :
    P (r.export settings now engine sink fuel e s).engine := by
  rcases r.fetches_or_ends settings now with ⟨first, hfetch⟩ | ⟨result, hends⟩
  · rw [export_of_fetch _ _ _ _ _ hfetch] at hkeeps ⊢
    exact (Run.performs _ _ _ _ _).engine_keeps hstart hkeeps
  · rw [hends]
    exact hstart

end ExportRequest

/-! ## Exports of stored searches -/

/-- A chunk as it leaves the export: decorated when it is one of a message list. -/
def ResolvedExport.deliver (x : ResolvedExport) (c : Chunk) : Chunk :=
  match x.messageList with
  | some list => decorateChunk list.decorators c
  | none => c

/-- A step that succeeded, and the one after it. -/
theorem bind_mapError_eq_ok {α β γ δ : Type} {step : Except γ α} {f : γ → δ} {after : α → Except δ β}
    {b : β} (h : (step.mapError f >>= after) = .ok b) : ∃ a, step = .ok a ∧ after a = .ok b := by
  cases step with
  | error fault => cases h
  | ok a => exact ⟨a, rfl, h⟩

namespace Search

/-- The request of a search, step by step. -/
theorem resolve_of_draft {search : Search} {decorator : QueryDecorator} {chunkSize : Nat}
    {searchTypeId : Option String} {format : ResultFormat} {now : Timestamp} {sel : Selection}
    {range : TimeRange} {queryString : String} {r : ExportRequest}
    (hselect : search.select searchTypeId = .ok sel) (hrange : sel.timeRange now = .ok range)
    (hdecorate : decorator.decorate search sel.filter = .ok queryString)
    (hbuild : (sel.draft range queryString format chunkSize).build = .ok r) :
    search.resolve decorator chunkSize searchTypeId format now =
      .ok ⟨r, sel.messageList, sel.query.id⟩ := by
  rw [resolve, hselect]
  show ((sel.timeRange now).mapError ResolveFault.range >>= _) = _
  rw [hrange]
  show ((decorator.decorate search sel.filter).mapError (ResolveFault.unbound search.id) >>= _) = _
  rw [hdecorate]
  show ((sel.draft range queryString format chunkSize).build.mapError ResolveFault.request >>= _) = _
  rw [hbuild]
  rfl

/-- **A search that has a request** went through all the steps. -/
theorem resolve_eq_ok {search : Search} {decorator : QueryDecorator} {chunkSize : Nat}
    {searchTypeId : Option String} {format : ResultFormat} {now : Timestamp} {x : ResolvedExport}
    (h : search.resolve decorator chunkSize searchTypeId format now = .ok x) :
    ∃ sel range queryString, search.select searchTypeId = .ok sel ∧ sel.timeRange now = .ok range ∧
      decorator.decorate search sel.filter = .ok queryString ∧
      (sel.draft range queryString format chunkSize).build = .ok x.request ∧
      x.messageList = sel.messageList := by
  rw [resolve] at h
  cases hselect : search.select searchTypeId with
  | error fault =>
    rw [hselect] at h
    cases h
  | ok sel =>
    rw [hselect] at h
    obtain ⟨range, hrange, h⟩ := bind_mapError_eq_ok h
    obtain ⟨queryString, hdecorate, h⟩ := bind_mapError_eq_ok h
    obtain ⟨r, hbuild, h⟩ := bind_mapError_eq_ok h
    cases h
    exact ⟨sel, range, queryString, rfl, hrange, hdecorate, hbuild, rfl⟩

theorem export_of_resolve {search : Search} {target : SearchTarget} {decorator : QueryDecorator}
    {chunkSize : Nat} {now : Timestamp} {x : ResolvedExport}
    (hresolve : search.resolve decorator chunkSize target.searchTypeId target.format now = .ok x)
    (settings : RunSettings) {ε σ : Type} (engine : Engine ε) (sink : Sink σ) (fuel : Nat) (e : ε)
    (s : σ) :
    search.export target decorator chunkSize settings now engine sink fuel e s =
      x.request.export settings now engine (sink.mapped x.deliver) fuel e s := by
  rw [«export», hresolve]
  obtain ⟨request, messageList, queryId⟩ := x
  cases messageList <;> rfl

/-- A search whose first page is empty sends the first query of its request only. -/
theorem queries_of_dry {search : Search} {target : SearchTarget} {decorator : QueryDecorator}
    {chunkSize : Nat} {now : Timestamp} {x : ResolvedExport}
    (hresolve : search.resolve decorator chunkSize target.searchTypeId target.format now = .ok x)
    {settings : RunSettings} {first : EngineQuery}
    (hstart : x.request.start settings now = .ok (.fetch first)) {ε σ : Type} {engine : Engine ε}
    (sink : Sink σ) (fuel : Nat) {e e' : ε} (s : σ) {p : Page}
    (hask : engine.ask e first = (e', .ok p)) (hdry : p.hits = []) :
    (search.export target decorator chunkSize settings now engine sink (fuel + 1) e s).queries =
      [first] := by
  rw [export_of_resolve hresolve]
  exact ExportRequest.queries_of_dry engine _ fuel e s hstart hask hdry

end Search

end SearchExport
