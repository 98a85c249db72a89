import SearchExport.Proofs.Export.Prefix
import SearchExport.Proofs.Export.Start
import SearchExport.Proofs.Message.Needs
import SearchExport.Proofs.Request.Build

/-!
# Failures of exports

Wherever an export fails, it did what the same export does without the failure up to that place, and
nothing more.

* `CutsToPrefix` — how an export with a sink that may refuse a chunk, or with a flag that may go up,
  relates to the export with a sink that never fails; `ExportRequest.cutsToPrefix` — every export does.
* `EndsAtEngineFault` — how an export ends at a failure of the engine.
* `Search.faults` — what is wrong with the export of a stored search before its first query.
* `FailuresCut`, `exports_cut_to_prefix` — all failures of all exports.
-/

set_option autoImplicit false

namespace SearchExport

/-! ## Exports -/

/-- How the runs of an export with sinks that may refuse a chunk relate to its full run, when every
chunk is changed by `deliver` on its way to the sink. -/
structure CutsToPrefix {ε τ : Type} (full : Run.Record ε τ) (deliver : Chunk → Chunk)
    (run : ∀ σ : Type, Sink σ → σ → Run.Record ε σ) : Prop where
  /-- A sink that takes `k` chunks and refuses the next one cuts the run there. -/
  refused : ∀ {σ : Type} (sink : Sink σ) (s s₁ s₂ : σ) (k : Nat) (c : Chunk) (error : ExportError),
    full.chunks[k]? = some c → sink.Takes s ((full.chunks.take k).map deliver) s₁ →
    sink.accept s₁ (deliver c) = (s₂, .error error) →
    (run σ sink s).CutAt full k error ∧ (run σ sink s).sink = s₂
  /-- A sink that takes all chunks sees the full run. -/
  taken : ∀ {σ : Type} (sink : Sink σ) (s s₁ : σ), sink.Takes s (full.chunks.map deliver) s₁ →
    run σ sink s = full.withSink s₁
  /-- A flag that goes up after `k` chunks cuts the run there: the sink behind it took these chunks,
  and their number is reported. -/
  interrupted : ∀ {σ : Type} (sink : Sink σ) (stopped : σ → Bool) (s s₁ : σ) (k : Nat),
    k < full.chunks.length → sink.RaisedAfter stopped s (full.chunks.map deliver) k s₁ →
    (run (σ × Nat) (.interruptible stopped sink) (s, 0)).CutAt full k (.interrupted k) ∧
      (run (σ × Nat) (.interruptible stopped sink) (s, 0)).sink = (s₁, k)
  /-- A flag that is down at every chunk changes nothing. -/
  uninterrupted : ∀ {σ : Type} (sink : Sink σ) (stopped : σ → Bool) (s s₁ : σ),
    sink.Takes s (full.chunks.map deliver) s₁ →
    sink.FlagDown stopped s (full.chunks.map deliver) →
    run (σ × Nat) (.interruptible stopped sink) (s, 0) = full.withSink (s₁, full.chunks.length)

variable {τ ε : Type}

/-- What holds of every sink holds of the interruptible ones. -/
theorem CutsToPrefix.of_sinks {full : Run.Record ε τ} {deliver : Chunk → Chunk}
    {run : ∀ σ : Type, Sink σ → σ → Run.Record ε σ}
    (refused : ∀ {σ : Type} (sink : Sink σ) (s s₁ s₂ : σ) (k : Nat) (c : Chunk)
      (error : ExportError), full.chunks[k]? = some c →
      sink.Takes s ((full.chunks.take k).map deliver) s₁ →
      sink.accept s₁ (deliver c) = (s₂, .error error) →
      (run σ sink s).CutAt full k error ∧ (run σ sink s).sink = s₂)
    (taken : ∀ {σ : Type} (sink : Sink σ) (s s₁ : σ),
      sink.Takes s (full.chunks.map deliver) s₁ → run σ sink s = full.withSink s₁) :
    CutsToPrefix full deliver run where
  refused := refused
  taken := taken
  interrupted sink stopped s s₁ k hk h := by
    obtain ⟨c, hc⟩ : ∃ c, full.chunks[k]? = some c := ⟨_, List.getElem?_eq_getElem hk⟩
    have htakes := h.takes (by simpa using Nat.le_of_lt hk)
    rw [← List.map_take] at htakes
    exact refused _ _ _ _ k c _ hc htakes (h.refuses (deliver c))
  uninterrupted sink stopped s s₁ htakes hdown := by
    have := taken _ _ _ (Sink.takes_interruptible htakes hdown 0)
    rwa [List.length_map, Nat.zero_add] at this

/-- **Every export cuts to a prefix**, whatever is done to the chunks before the sink takes them. -/
theorem ExportRequest.cutsToPrefix (r : ExportRequest) (settings : RunSettings) (now : Timestamp)
    (engine : Engine ε) {calm : Sink τ} (hcalm : calm.NeverFails) (fuel : Nat) (e : ε) (t : τ)
    (deliver : Chunk → Chunk) :
    CutsToPrefix (r.export settings now engine calm fuel e t) deliver fun _ sink s =>
      r.export settings now engine (sink.mapped deliver) fuel e s := by
  rcases r.fetches_or_ends settings now with ⟨first, hstart⟩ | ⟨result, hends⟩
  · refine .of_sinks (fun sink s s₁ s₂ k c fault hc htakes hrefuse => ?_)
      (fun sink s s₁ htakes => ?_)
    · rw [export_of_fetch _ _ _ _ _ hstart] at hc htakes ⊢
      rw [export_of_fetch _ _ _ _ _ hstart]
      exact Run.perform_cut hcalm fuel e (r.firstRun first s) t k c s₁ s₂ fault hc
        (Sink.takes_mapped_iff.2 htakes) hrefuse
    · rw [export_of_fetch _ _ _ _ _ hstart] at htakes ⊢
      rw [export_of_fetch _ _ _ _ _ hstart]
      exact Run.perform_taken hcalm fuel e (r.firstRun first s) t s₁
        (Sink.takes_mapped_iff.2 htakes)
  · -- there is no chunk to refuse
    refine .of_sinks (fun sink s s₁ s₂ k c fault hc _ _ => ?_) (fun sink s s₁ htakes => ?_)
    · rw [hends] at hc
      simp at hc
    · rw [hends] at htakes ⊢
      obtain ⟨⟩ := htakes
      rw [hends]
      rfl

/-- A failure of the engine at the query `k + 1` ends an export with that failure, after the sink took
exactly the chunks of the `k` pages before. -/
def EndsAtEngineFault {σ : Type} (answer : List EngineQuery → Except EngineError Page)
    (deliver : Chunk → Chunk) (sink : Sink σ) (s : σ)
    (record : Run.Record (List EngineQuery) σ) : Prop :=
  ∀ k fault, k < record.queries.length → answer (record.queries.take (k + 1)) = .error fault →
    record.queries.length = k + 1 ∧ record.chunks.length = k ∧
      sink.Takes s (record.chunks.map deliver) record.sink ∧
      record.result = some (.error (.engine fault))

theorem ExportRequest.endsAtEngineFault {σ : Type} (r : ExportRequest) (settings : RunSettings)
    (now : Timestamp) (answer : List EngineQuery → Except EngineError Page)
    (deliver : Chunk → Chunk) (sink : Sink σ) (fuel : Nat) (s : σ) :
    EndsAtEngineFault answer deliver sink s
      (r.export settings now (Engine.ofHistory answer) (sink.mapped deliver) fuel [] s) := by
  intro k fault hk hfault
  rcases r.fetches_or_ends settings now with ⟨first, hstart⟩ | ⟨result, hends⟩
  · rw [export_of_fetch _ _ _ _ _ hstart] at hk hfault ⊢
    obtain ⟨hqueries, hchunks, htakes, hresult⟩ :=
      (Run.performs _ _ _ _ _).engine_fault hk (by simpa using hfault)
    exact ⟨hqueries, hchunks, Sink.takes_mapped_iff.1 htakes, hresult⟩
  · rw [hends] at hk
    simp at hk

/-! ## Exports of stored searches -/

namespace Search

variable (search : Search) (target : SearchTarget) (decorator : QueryDecorator) (chunkSize : Nat)
variable (settings : RunSettings) (now : Timestamp)

/-- What is wrong with the export of a stored search before its first query: it makes no request, or
the faults of its request. -/
def faults : List ExportError :=
  match search.resolve decorator chunkSize target.searchTypeId target.format now with
  | .error fault => [fault.toError]
  | .ok x => x.request.faults settings now

theorem export_of_fault {error : ExportError}
    (h : (search.faults target decorator chunkSize settings now).head? = some error) {σ : Type}
    (engine : Engine ε) (sink : Sink σ) (fuel : Nat) (e : ε) (s : σ) :
    search.export target decorator chunkSize settings now engine sink fuel e s =
      ⟨[], some (.error error), e, s⟩ := by
  unfold faults at h
  cases hresolve : search.resolve decorator chunkSize target.searchTypeId target.format now with
  | error fault =>
    rw [hresolve] at h
    cases h
    rw [«export», hresolve]
  | ok x =>
    rw [hresolve] at h
    rw [export_of_resolve hresolve,
      ExportRequest.export_of_error _ _ _ _ _ (ExportRequest.start_of_fault h)]

end Search

/-! ## All failures -/

/-- What failures do to the exports of a request and of a stored search.  The undisturbed exports have
the sink `calm`. -/
structure FailuresCut (r : ExportRequest) (search : Search) (target : SearchTarget)
    (decorator : QueryDecorator) (chunkSize : Nat) (settings : RunSettings) (now : Timestamp)
    (answer : List EngineQuery → Except EngineError Page) (calm : Sink τ) (fuel : Nat) (t : τ) :
    Prop where
  /-- A refused chunk or a raised flag leaves the steps of the undisturbed export up to there. -/
  request_sink :
    CutsToPrefix (r.export settings now (Engine.ofHistory answer) calm fuel [] t) (fun c => c)
      fun _ sink s => r.export settings now (Engine.ofHistory answer) sink fuel [] s
  /-- So it does for a stored search, whose chunks are decorated on their way. -/
  search_sink : ∀ x,
    search.resolve decorator chunkSize target.searchTypeId target.format now = .ok x →
    CutsToPrefix (x.request.export settings now (Engine.ofHistory answer) calm fuel [] t) x.deliver
      fun _ sink s =>
        search.export target decorator chunkSize settings now (Engine.ofHistory answer) sink fuel [] s
  /-- A failure of the engine leaves the chunks of the pages before. -/
  request_engine : ∀ {σ : Type} (sink : Sink σ) (s : σ),
    EndsAtEngineFault answer (fun c => c) sink s
      (r.export settings now (Engine.ofHistory answer) sink fuel [] s)
  search_engine : ∀ {σ : Type} (sink : Sink σ) (s : σ) (x : ResolvedExport),
    search.resolve decorator chunkSize target.searchTypeId target.format now = .ok x →
    EndsAtEngineFault answer x.deliver sink s
      (search.export target decorator chunkSize settings now (Engine.ofHistory answer) sink fuel [] s)
  /-- The first fault before the first query is reported, and nothing is done. -/
  request_fault : ∀ {σ : Type} (sink : Sink σ) (s : σ) (error : ExportError),
    (r.faults settings now).head? = some error →
    r.export settings now (Engine.ofHistory answer) sink fuel [] s =
      ⟨[], some (.error error), [], s⟩
  search_fault : ∀ {σ : Type} (sink : Sink σ) (s : σ) (error : ExportError),
    (search.faults target decorator chunkSize settings now).head? = some error →
    search.export target decorator chunkSize settings now (Engine.ofHistory answer) sink fuel [] s =
      ⟨[], some (.error error), [], s⟩

/-- **Failures cut an export to a prefix**, for every request and every stored search, every engine
and every sink, wherever they occur. -/
theorem exports_cut_to_prefix (r : ExportRequest) (search : Search) (target : SearchTarget)
    (decorator : QueryDecorator) (chunkSize : Nat) (settings : RunSettings) (now : Timestamp)
    (answer : List EngineQuery → Except EngineError Page) {calm : Sink τ}
    (hcalm : calm.NeverFails) (fuel : Nat) (t : τ) :
    FailuresCut r search target decorator chunkSize settings now answer calm fuel t where
  request_sink := r.cutsToPrefix settings now _ hcalm fuel [] t fun c => c
  search_sink x hresolve := by
    have hcut := x.request.cutsToPrefix settings now (Engine.ofHistory answer) hcalm fuel [] t
      x.deliver
    simpa only [Search.export_of_resolve hresolve] using hcut
  request_engine sink s := r.endsAtEngineFault settings now answer (fun c => c) sink fuel s
  search_engine sink s x hresolve := by
    rw [Search.export_of_resolve hresolve]
    exact x.request.endsAtEngineFault settings now answer x.deliver sink fuel s
  request_fault sink s error h :=
    ExportRequest.export_of_error _ _ _ _ _ (ExportRequest.start_of_fault h)
  search_fault sink s error h :=
    search.export_of_fault target decorator chunkSize settings now h _ sink fuel [] s

/-- An engine that fails at the third query.  A sink with room for one chunk refuses the second one, and a flag that
goes up with the first chunk stops the export there; both saw the first chunk as the decorators made it.  With
a search type that the search does not have nothing is sent. -/
theorem exports_cut_to_prefix_collecting :
    let hit : String → Hit := fun id => ⟨"graylog_0", id, .ofList [("message", .string id)], [.string id]⟩
    let answer : List EngineQuery → Except EngineError Page := fun queries =>
      match queries.length with
      | 1 => .ok ⟨[hit "a"]⟩
      | 2 => .ok ⟨[hit "b"]⟩
      | _ => .error (.serverError 503 "shard failure")
    let list : MessageList :=
      ⟨"list", none, none, ∅, [], [⟨none, 0, .fieldRename "message" "text"⟩]⟩
    let query : Query := ⟨"query", .absolute .epoch .epoch, none, ∅, [.messages list]⟩
    let search : Search := ⟨"search", [query], []⟩
    let settings : RunSettings := ⟨⟨["graylog_*"], []⟩, true⟩
    let r := (Selection.draft ⟨query, some list⟩ query.timeRange "" {} 1).normalized
    let first := r.firstQuery (.ofList ["graylog_*"]) ⟨.epoch, .epoch⟩ true
    let read (id : String) (isFirst : Bool) : Chunk :=
      ⟨defaultFields, [⟨"graylog_0", .ofList [("message", .string id), ("_id", .string id)]⟩], isFirst⟩
    let renamed (id : String) (isFirst : Bool) : Chunk :=
      ⟨defaultFields, [⟨"graylog_0", .ofList [("_id", .string id), ("text", .string id)]⟩], isFirst⟩
    let narrow : Sink (List Chunk) := ⟨fun taken c =>
      if taken.isEmpty then ([c], .ok ()) else (taken, .error (.sink "sink closed"))⟩
    let full := r.export settings .epoch (.ofHistory answer) .collecting 5 [] []
    let run (id : String) {σ : Type} (sink : Sink σ) (s : σ) : Run.Record (List EngineQuery) σ :=
      search.export ⟨some id, {}⟩ .plain 1 settings .epoch (.ofHistory answer) sink 5 [] s
    let refused := run "list" narrow []
    let interrupted := run "list" (.interruptible (fun taken => !taken.isEmpty) .collecting) ([], 0)
    let failed := run "list" .collecting []
    Sink.collecting.NeverFails ∧
      full.steps = [.asked first, .handed (read "a" true),
        .asked { first with searchAfter := some [.string "a"] }, .handed (read "b" false),
        .asked { first with searchAfter := some [.string "b"] }] ∧
      refused.steps = full.steps.take 4 ∧ refused.result = some (.error (.sink "sink closed")) ∧
      refused.sink = [renamed "a" true] ∧
      interrupted.steps = full.steps.take 4 ∧ interrupted.result = some (.error (.interrupted 1)) ∧
      interrupted.sink = ([renamed "a" true], 1) ∧
      failed.sink = [renamed "a" true, renamed "b" false] ∧
      failed.result = some (.error (.engine (.serverError 503 "shard failure"))) ∧
      run "absent" .collecting [] = ⟨[], some (.error (.configuration
        "Search search has no search type with id absent")), [], []⟩ := by
  intro hit answer list query search settings r first read renamed narrow full run refused interrupted failed
  have hcalm : Sink.collecting.NeverFails := fun _ _ => rfl
  have hresolve : search.resolve .plain 1 (some "list") {} .epoch = .ok ⟨r, some list, "query"⟩ :=
    Search.resolve_of_draft rfl rfl rfl (RequestDraft.build_of_defaultFields (by decide) (by decide) rfl)
  have hfound : settings.indices.resolve r.streams ⟨.epoch, .epoch⟩ = .ok (.ofList ["graylog_*"]) := rfl
  have hstart : r.start settings .epoch = .ok (.fetch first) := ExportRequest.start_of_ok rfl rfl hfound
  have hfull : full = Run.perform (.ofHistory answer) .collecting 5 [] (r.firstRun first []) :=
    ExportRequest.export_of_fetch _ _ _ _ _ hstart
  have hsteps : full.steps = [.asked first, .handed (read "a" true),
      .asked { first with searchAfter := some [.string "a"] }, .handed (read "b" false),
      .asked { first with searchAfter := some [.string "b"] }] := by
    rw [hfull]
    rfl
  have hchunks : full.chunks = [read "a" true, read "b" false] := by
    rw [Run.Record.chunks, hsteps]
    rfl
  let x : ResolvedExport := ⟨r, some list, "query"⟩
  have hdeliver (id : String) (isFirst : Bool) : x.deliver (read id isFirst) = renamed id isFirst := by
    simp only [x, list, ResolvedExport.deliver, decorateChunk, read, List.map_cons, List.map_nil,
      decorateMessage_singleton]
    rfl
  have hdelivered : full.chunks.map x.deliver = [renamed "a" true, renamed "b" false] := by
    rw [hchunks, List.map_cons, List.map_singleton, hdeliver, hdeliver]
  have hcuts := exports_cut_to_prefix r search ⟨some "list", {}⟩ .plain 1 settings .epoch answer hcalm 5 []
  have hsink : CutsToPrefix full x.deliver fun _ sink s => run "list" sink s := hcuts.search_sink x hresolve
  -- the second chunk is refused
  have hfirst : narrow.Takes [] ((full.chunks.take 1).map x.deliver) [renamed "a" true] := by
    rw [List.map_take, hdelivered]
    exact .cons rfl (.nil _)
  obtain ⟨hrefused, hrefusedSink⟩ := hsink.refused narrow [] _ [renamed "a" true] 1 (read "b" false)
    (.sink "sink closed") (by rw [hchunks]; rfl) hfirst rfl
  -- the flag goes up with the first chunk
  have hraised : Sink.collecting.RaisedAfter (fun taken => !taken.isEmpty) [] (full.chunks.map x.deliver) 1
      [renamed "a" true] := by
    rw [hdelivered]
    refine ⟨.cons rfl (.nil _), fun i hi s htakes => ?_, rfl⟩
    obtain rfl : i = 0 := Nat.lt_one_iff.1 hi
    cases htakes
    rfl
  obtain ⟨hinterrupted, hinterruptedSink⟩ := hsink.interrupted .collecting _ [] _ 1
    (by rw [hchunks]; exact Nat.lt_succ_self 1) hraised
  -- the engine fails at the third query
  have htaken : failed = full.withSink [renamed "a" true, renamed "b" false] :=
    hsink.taken .collecting [] _ (by rw [hdelivered]; exact .cons rfl (.cons rfl (.nil _)))
  have hqueries : failed.queries = [first, { first with searchAfter := some [.string "a"] },
      { first with searchAfter := some [.string "b"] }] := by
    rw [htaken]
    change full.steps.filterMap Step.query? = _
    rw [hsteps]
    rfl
  have hengine : EndsAtEngineFault answer x.deliver .collecting [] failed :=
    hcuts.search_engine .collecting [] x hresolve
  have hfailed := hengine 2 (.serverError 503 "shard failure") (by rw [hqueries]; exact Nat.lt_succ_self 2)
    (by rw [hqueries]; rfl)
  -- the search type is not there
  have hcuts' := exports_cut_to_prefix r search ⟨some "absent", {}⟩ .plain 1 settings .epoch answer hcalm 5 []
  have habsent := hcuts'.search_fault .collecting [] _ rfl
  exact ⟨hcalm, hsteps, hrefused.steps, hrefused.result, hrefusedSink, hinterrupted.steps, hinterrupted.result,
    hinterruptedSink, congrArg Run.Record.sink htaken, hfailed.2.2.2, habsent⟩

end SearchExport
