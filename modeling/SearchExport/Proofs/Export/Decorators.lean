import SearchExport.Proofs.Export.InStep
import SearchExport.Proofs.Message.Untouched

/-!
# Exports with other decorators

Decorators change the fields of the messages on their way to the sink, after the place of the next page was
read off the hits.  What is fetched does not depend on them.

* `Chunk.outline` — what of a chunk no decorator changes.
* `Sink.IgnoresFields` — a sink whose answers depend on the outlines of its chunks only.
* `Search.redecorated` — a search with other decorators; `Search.resolve_redecorated` — its request is the
  same.
* `Search.export_redecorated` — the exports of both: the same queries and results, chunks of the same outlines,
  and nothing that fails because of a decorator.
-/

set_option autoImplicit false

namespace SearchExport

/-! ## Outlines -/

/-- What is left of a chunk without the fields of its messages. -/
structure ChunkOutline where
  fields : List String
  isFirst : Bool
  /-- The index of each message, in order. -/
  indices : List String

def Chunk.outline (c : Chunk) : ChunkOutline := ⟨c.fields, c.isFirst, c.messages.map Message.index⟩

theorem index_decorateMessage (ds : List Decorator) (m : Message) :
    (decorateMessage ds m).index = m.index := (decorateMessage_differsWithin ds m).index

theorem outline_decorateChunk (ds : List Decorator) (c : Chunk) :
    (decorateChunk ds c).outline = c.outline := by
  have hindices : Message.index ∘ decorateMessage ds = Message.index :=
    funext (index_decorateMessage ds)
  simp only [Chunk.outline, decorateChunk, List.map_map, hindices]

/-- **The outline of a chunk** is the same when the chunk leaves the export. -/
theorem ResolvedExport.outline_deliver (x : ResolvedExport) (c : Chunk) :
    (x.deliver c).outline = c.outline := by
  unfold deliver
  cases x.messageList with
  | none => rfl
  | some list => exact outline_decorateChunk list.decorators c

/-! ## Sinks that ignore fields -/

namespace Sink

variable {σ : Type}

/-- The answers of a sink to chunks in order, up to the first one that it refuses. -/
def answers (sink : Sink σ) : σ → List Chunk → List (Except ExportError Unit)
  | _, [] => []
  | s, c :: cs =>
    match sink.accept s c with
    | (s', .ok ()) => .ok () :: answers sink s' cs
    | (_, .error error) => [.error error]

/-- From both states the sink gives the same answers to chunks of the same outlines. -/
def Alike (sink : Sink σ) (s t : σ) : Prop :=
  ∀ cs cs' : List Chunk, cs.map Chunk.outline = cs'.map Chunk.outline →
    sink.answers s cs = sink.answers t cs'

/-- The answers of the sink depend on the outlines of the chunks only. -/
def IgnoresFields (sink : Sink σ) (s : σ) : Prop := sink.Alike s s

theorem Alike.step {sink : Sink σ} {s t : σ} (h : sink.Alike s t) {c c' : Chunk}
    (houtline : c.outline = c'.outline) :
    SameAnswer sink.Alike (fun _ _ => True) (sink.accept s c) (sink.accept t c') := by
  obtain ⟨s', outcome, haccept⟩ : ∃ s' outcome, sink.accept s c = (s', outcome) := ⟨_, _, rfl⟩
  obtain ⟨t', outcome', haccept'⟩ : ∃ t' outcome, sink.accept t c' = (t', outcome) := ⟨_, _, rfl⟩
  -- the answer to the chunk alone; the later ones are those to the chunk and what follows it
  have hfirst := h [c] [c'] (by rw [List.map_singleton, List.map_singleton, houtline])
  simp only [answers, haccept, haccept'] at hfirst
  rw [haccept, haccept']
  cases outcome with
  | error error =>
    cases outcome' with
    | error error' =>
      cases hfirst
      exact .refused error trivial
    | ok => cases hfirst
  | ok =>
    cases outcome' with
    | error error' => cases hfirst
    | ok =>
      refine .taken fun cs cs' hrest => ?_
      have hall := h (c :: cs) (c' :: cs') (by rw [List.map_cons, List.map_cons, houtline, hrest])
      simpa [answers, haccept, haccept'] using hall

/-- A sink ignores the fields when its answers follow from a view of its state that ignores them. -/
theorem ignoresFields_of_view {α : Type} {sink : Sink σ} (view : σ → α)
    (h : ∀ s t c c', view s = view t → c.outline = c'.outline →
      SameAnswer (fun s t => view s = view t) (fun _ _ => True) (sink.accept s c) (sink.accept t c'))
    (s : σ) : sink.IgnoresFields s := by
  -- by induction on the chunks, for any two states of one view
  have halike : ∀ (cs cs' : List Chunk) (s t : σ), view s = view t →
      cs.map Chunk.outline = cs'.map Chunk.outline → sink.answers s cs = sink.answers t cs' := by
    intro cs
    induction cs with
    | nil =>
      intro cs' s t _ houtlines
      obtain rfl : cs' = [] := by simpa using houtlines.symm
      rfl
    | cons c cs ih =>
      intro cs' s t hview houtlines
      cases cs' with
      | nil => cases houtlines
      | cons c' cs' =>
        obtain ⟨houtline, hrest⟩ := List.cons.inj houtlines
        have hanswer := h s t c c' hview houtline
        simp only [answers]
        generalize sink.accept s c = answer at hanswer
        generalize sink.accept t c' = answer' at hanswer
        cases hanswer with
        | @taken s' t' hview' => simp only [ih cs' s' t' hview' hrest]
        | refused => rfl
  exact fun cs cs' => halike cs cs' s s rfl

/-- Recording a sink that ignores fields, behind two ways to change chunks that keep their outlines: what is
recorded has the same outlines. -/
theorem recording_inStep_of_alike (sink : Sink σ) {f g : Chunk → Chunk}
    (hf : ∀ c, (f c).outline = c.outline) (hg : ∀ c, (g c).outline = c.outline) :
    (sink.recording.mapped f).InStep (sink.recording.mapped g)
      (fun s t => sink.Alike s.1 t.1 ∧ s.2.map Chunk.outline = t.2.map Chunk.outline)
      (fun s t => s.2.map Chunk.outline = t.2.map Chunk.outline) where
  answers s t c h := by
    obtain ⟨halike, hrecorded⟩ := h
    have houtline : (f c).outline = (g c).outline := (hf c).trans (hg c).symm
    have hrecorded' : (s.2 ++ [f c]).map Chunk.outline = (t.2 ++ [g c]).map Chunk.outline := by
      simp only [List.map_append, List.map_singleton, hrecorded, houtline]
    have hanswer := halike.step houtline
    simp only [mapped, recording]
    generalize sink.accept s.1 (f c) = answer at hanswer
    generalize sink.accept t.1 (g c) = answer' at hanswer
    cases hanswer with
    | taken halike' => exact .taken ⟨halike', hrecorded'⟩
    | refused error => exact .refused error hrecorded'
  last _ _ h := h.2

end Sink

/-! ## Searches with other decorators -/

section Redecorated

variable (choose : MessageList → List Decorator)

def MessageList.redecorated (list : MessageList) : MessageList := { list with decorators := choose list }

/-- The search type with the chosen decorators, if it is a message list. -/
def SearchType.redecorated : SearchType → SearchType
  | .messages list => .messages (list.redecorated choose)
  | .pivot other => .pivot other
  | .events other => .events other

def Query.redecorated (q : Query) : Query :=
  { q with searchTypes := q.searchTypes.map (SearchType.redecorated choose) }

/-- The search whose message lists have the chosen decorators. -/
def Search.redecorated (search : Search) : Search :=
  { search with queries := search.queries.map (Query.redecorated choose) }

def Selection.redecorated (sel : Selection) : Selection :=
  ⟨sel.query.redecorated choose, sel.messageList.map (MessageList.redecorated choose)⟩

/-- The request with the message list that has the chosen decorators. -/
def ResolvedExport.redecorated (x : ResolvedExport) : ResolvedExport :=
  { x with messageList := x.messageList.map (MessageList.redecorated choose) }

namespace SearchType

@[simp] theorem id_redecorated (t : SearchType) : (t.redecorated choose).id = t.id := by
  cases t <;> rfl

@[simp] theorem streams_redecorated (t : SearchType) :
    (t.redecorated choose).streams = t.streams := by
  cases t <;> rfl

end SearchType

namespace Query

theorem searchType?_redecorated (q : Query) (id : String) :
    (q.redecorated choose).searchType? id =
      (q.searchType? id).map (SearchType.redecorated choose) := by
  simp only [searchType?, redecorated, List.find?_map, Function.comp_def, SearchType.id_redecorated]

theorem usedStreams_redecorated (q : Query) :
    (q.redecorated choose).usedStreams = q.usedStreams := by
  simp only [usedStreams, redecorated, List.foldr_map, SearchType.streams_redecorated]

end Query

namespace Search

theorem queryFor?_redecorated (search : Search) (id : String) :
    (search.redecorated choose).queryFor? id =
      (search.queryFor? id).map (Query.redecorated choose) := by
  simp only [queryFor?, redecorated, List.find?_map, Function.comp_def,
    Query.searchType?_redecorated, Option.isSome_map]

theorem selectQuery_redecorated (search : Search) (searchTypeId : Option String) :
    (search.redecorated choose).selectQuery searchTypeId =
      Query.redecorated choose <$> search.selectQuery searchTypeId := by
  cases searchTypeId with
  | some id =>
    simp only [selectQuery, queryFor?_redecorated]
    cases search.queryFor? id <;> rfl
  | none =>
    obtain ⟨id, queries, parameters⟩ := search
    match queries with
    | [] => rfl
    | [q] => rfl
    | q :: q' :: qs =>
      simp only [selectQuery, redecorated, List.map_cons, List.length_cons, List.length_map]
      rfl

theorem select_redecorated (search : Search) (searchTypeId : Option String) :
    (search.redecorated choose).select searchTypeId =
      Selection.redecorated choose <$> search.select searchTypeId := by
  simp only [select, selectQuery_redecorated, bind_map_left, map_bind]
  refine bind_congr fun q => ?_
  have htype : searchTypeId.bind (q.redecorated choose).searchType? =
      (searchTypeId.bind q.searchType?).map (SearchType.redecorated choose) := by
    cases searchTypeId with
    | none => rfl
    | some id => exact q.searchType?_redecorated choose id
  rw [htype]
  cases searchTypeId.bind q.searchType? with
  | none => rfl
  | some t => cases t <;> rfl

end Search

namespace Selection

theorem timeRange_redecorated (sel : Selection) (now : Timestamp) :
    (sel.redecorated choose).timeRange now = sel.timeRange now := by
  obtain ⟨query, messageList⟩ := sel
  cases messageList <;> rfl

theorem filter_redecorated (sel : Selection) : (sel.redecorated choose).filter = sel.filter := by
  obtain ⟨query, messageList⟩ := sel
  cases messageList <;> rfl

theorem draft_redecorated (sel : Selection) (range : TimeRange) (queryString : String)
    (format : ResultFormat) (chunkSize : Nat) :
    (sel.redecorated choose).draft range queryString format chunkSize =
      sel.draft range queryString format chunkSize := by
  obtain ⟨query, messageList⟩ := sel
  cases messageList with
  | none => simp only [draft, redecorated, streams, Option.map_none, query.usedStreams_redecorated, sort]
  | some list =>
    simp only [draft, redecorated, streams, Option.map_some, query.usedStreams_redecorated, sort]
    rfl

end Selection

/-- **The request of a search** does not depend on its decorators. -/
theorem Search.resolve_redecorated (search : Search) (decorator : QueryDecorator) (chunkSize : Nat)
    (searchTypeId : Option String) (format : ResultFormat) (now : Timestamp) :
    (search.redecorated choose).resolve decorator chunkSize searchTypeId format now =
      ResolvedExport.redecorated choose <$>
        search.resolve decorator chunkSize searchTypeId format now := by
  have hdecorate : ∀ q, decorator.decorate (search.redecorated choose) q = decorator.decorate search q := by
    cases decorator <;> exact fun _ => rfl
  have hid : (search.redecorated choose).id = search.id := rfl
  simp only [resolve, select_redecorated, bind_map_left, map_bind, map_pure,
    Selection.timeRange_redecorated, Selection.filter_redecorated, Selection.draft_redecorated, hdecorate,
    hid]
  rfl

end Redecorated

/-! ## Exports -/

variable {σ ε : Type}

/-- Exports of which one record and the chunks that its sink was offered are `record` and `offered`, and
those of the other are `record'` and `offered'`: the same queries in order, the same result, and chunks with
the same number of messages from the same indices, the same fields in order and the same first-chunk flags,
in the same order. -/
structure FetchesAlike (record record' : Run.Record ε σ) (offered offered' : List Chunk) : Prop where
  queries : record.queries = record'.queries
  result : record.result = record'.result
  engine : record.engine = record'.engine
  outlines : offered.map Chunk.outline = offered'.map Chunk.outline

/-- Two ways to change chunks on their way to a sink that ignores fields: when both keep the outlines, the
exports are alike. -/
theorem ExportRequest.fetchesAlike (r : ExportRequest) (settings : RunSettings) (now : Timestamp)
    (engine : Engine ε) {sink : Sink σ} (fuel : Nat) (e : ε) {s : σ} (hsink : sink.IgnoresFields s)
    {f g : Chunk → Chunk} (hf : ∀ c, (f c).outline = c.outline) (hg : ∀ c, (g c).outline = c.outline) :
    FetchesAlike
      (r.export settings now engine (sink.mapped f) fuel e s)
      (r.export settings now engine (sink.mapped g) fuel e s)
      (r.export settings now engine (sink.recording.mapped f) fuel e (s, [])).sink.2
      (r.export settings now engine (sink.recording.mapped g) fuel e (s, [])).sink.2 := by
  obtain ⟨hsame, houtlines⟩ :=
    r.export_inStep settings now engine fuel e (sink.recording_inStep_of_alike hf hg)
      (s := (s, [])) (t := (s, [])) ⟨hsink, rfl⟩
  have hplain := r.export_recording settings now engine fuel e sink f s
  have hplain' := r.export_recording settings now engine fuel e sink g s
  exact {
    queries := by rw [hplain, hplain', hsame]; rfl
    result := by rw [hplain, hplain', hsame]; rfl
    engine := by rw [hplain, hplain', hsame]; rfl
    outlines := houtlines }

namespace Search

variable (search : Search) (choose : MessageList → List Decorator) (target : SearchTarget)
variable (decorator : QueryDecorator) (chunkSize : Nat) (settings : RunSettings) (now : Timestamp)

/-- The chunks that the sink of an export is offered. -/
def offeredChunks (engine : Engine ε) (sink : Sink σ) (fuel : Nat) (e : ε) (s : σ) : List Chunk :=
  (search.export target decorator chunkSize settings now engine sink.recording fuel e (s, [])).sink.2

theorem faults_redecorated :
    (search.redecorated choose).faults target decorator chunkSize settings now =
      search.faults target decorator chunkSize settings now := by
  simp only [faults, resolve_redecorated]
  cases search.resolve decorator chunkSize target.searchTypeId target.format now <;> rfl

theorem export_failsBy (engine : Engine ε) (sink : Sink σ) (fuel : Nat) (e : ε) (s : σ)
    {error : ExportError}
    (herror : (search.export target decorator chunkSize settings now engine sink fuel e s).result =
      some (.error error)) :
    (search.faults target decorator chunkSize settings now).head? = some error ∨
      ∃ x, search.resolve decorator chunkSize target.searchTypeId target.format now = .ok x ∧
        (search.export target decorator chunkSize settings now engine sink fuel e s).FailsBy engine
          (sink.mapped x.deliver) error := by
  cases hresolve : search.resolve decorator chunkSize target.searchTypeId target.format now with
  | error fault =>
    have hfaults : search.faults target decorator chunkSize settings now = [fault.toError] := by
      rw [faults, hresolve]
    rw [search.export_of_fault target decorator chunkSize settings now (by rw [hfaults]; rfl)] at herror
    cases herror
    exact .inl (by rw [hfaults]; rfl)
  | ok x =>
    have hfaults : search.faults target decorator chunkSize settings now =
        x.request.faults settings now := by
      rw [faults, hresolve]
    rw [export_of_resolve hresolve] at herror ⊢
    rw [hfaults]
    exact (x.request.export_failsBy settings now engine fuel e _ s herror).imp_right
      fun hfails => ⟨x, rfl, hfails⟩

/-- **Decorators do not influence what is fetched**, for every search, every choice of other decorators,
every engine, and every sink that ignores the fields of messages.  And they make no export fail, whatever the
sink is: an export that fails does so by a fault that the search has without any decorators, by the engine,
or because its sink refused a chunk. -/
theorem export_redecorated (engine : Engine ε) {sink : Sink σ} (fuel : Nat) (e : ε) {s : σ}
    (hsink : sink.IgnoresFields s) :
    FetchesAlike
      (search.export target decorator chunkSize settings now engine sink fuel e s)
      ((search.redecorated choose).export target decorator chunkSize settings now engine sink fuel e s)
      (search.offeredChunks target decorator chunkSize settings now engine sink fuel e s)
      ((search.redecorated choose).offeredChunks target decorator chunkSize settings now engine sink fuel e
        s) ∧
    ∀ {τ : Type} (other : Sink τ) (t : τ) (error : ExportError),
      let record := search.export target decorator chunkSize settings now engine other fuel e t
      record.result = some (.error error) →
        ((search.redecorated fun _ => []).faults target decorator chunkSize settings now).head? =
            some error ∨
          ∃ x, search.resolve decorator chunkSize target.searchTypeId target.format now = .ok x ∧
            record.FailsBy engine (other.mapped x.deliver) error := by
  refine ⟨?_, ?_⟩
  · unfold offeredChunks
    cases hresolve : search.resolve decorator chunkSize target.searchTypeId target.format now with
    | error fault =>
      have hfault : (search.faults target decorator chunkSize settings now).head? =
          some fault.toError := by
        rw [faults, hresolve]
        rfl
      have hfault' := hfault
      rw [← search.faults_redecorated choose] at hfault'
      simp only [export_of_fault _ _ _ _ _ _ hfault, export_of_fault _ _ _ _ _ _ hfault']
      exact ⟨rfl, rfl, rfl, rfl⟩
    | ok x =>
      have hresolve' : (search.redecorated choose).resolve decorator chunkSize target.searchTypeId
          target.format now = .ok (x.redecorated choose) := by
        rw [resolve_redecorated, hresolve]
        rfl
      simp only [export_of_resolve hresolve, export_of_resolve hresolve']
      exact x.request.fetchesAlike settings now engine fuel e hsink x.outline_deliver
        (x.redecorated choose).outline_deliver
  · intro τ other t error record herror
    rw [faults_redecorated]
    exact search.export_failsBy target decorator chunkSize settings now engine other fuel e t herror

/-- Decorators that rename the message identifier and overwrite the time, and a sink that is stopped after
the first chunk. -/
theorem export_redecorated_interrupted :
    let list : MessageList := ⟨"list", none, none, ∅, [],
      [⟨none, 0, .fieldRename "gl2_message_id" "id"⟩,
        ⟨none, 1, .formatString "timestamp" "$\x7b_id\x7d" false⟩]⟩
    let search : Search := ⟨"search", [⟨"query", .relative 300, none, ∅, [.messages list]⟩], []⟩
    let answer : List EngineQuery → Except EngineError Page := fun _ =>
      .ok ⟨[⟨"graylog_0", "a", .ofList [("gl2_message_id", .string "01")], [.string "01"]⟩]⟩
    let sink := Sink.interruptible (fun chunks => 0 < chunks.length) Sink.collecting
    let settings : RunSettings := ⟨⟨["graylog_*"], []⟩, true⟩
    sink.IgnoresFields ([], 0) ∧
      (search.export ⟨some "list", {}⟩ .plain 1 settings .epoch (.ofHistory answer) sink 5 []
        ([], 0)).result = some (.error (.interrupted 1)) ∧
      FetchesAlike
        (search.export ⟨some "list", {}⟩ .plain 1 settings .epoch (.ofHistory answer) sink 5 [] ([], 0))
        ((search.redecorated fun _ => []).export ⟨some "list", {}⟩ .plain 1 settings .epoch
          (.ofHistory answer) sink 5 [] ([], 0))
        (search.offeredChunks ⟨some "list", {}⟩ .plain 1 settings .epoch (.ofHistory answer) sink 5 []
          ([], 0))
        ((search.redecorated fun _ => []).offeredChunks ⟨some "list", {}⟩ .plain 1 settings .epoch
          (.ofHistory answer) sink 5 [] ([], 0)) := by
  intro list search answer sink settings
  have hsink : sink.IgnoresFields ([], 0) := by
    refine Sink.ignoresFields_of_view (fun s => (s.1.length, s.2)) (fun s t c c' hview _ => ?_) _
    obtain ⟨hlength, hcount⟩ := Prod.mk.inj hview
    by_cases hstopped : 0 < s.1.length
    · have hstopped' : 0 < t.1.length := hlength ▸ hstopped
      simp only [sink, Sink.interruptible, hstopped, hstopped', decide_true, if_true, hcount]
      exact .refused _ trivial
    · have hstopped' : ¬ 0 < t.1.length := hlength ▸ hstopped
      simp only [sink, Sink.interruptible, Sink.collecting, hstopped, hstopped', decide_false,
        Bool.false_eq_true, if_false]
      exact .taken (by simp [hlength, hcount])
  exact ⟨hsink, rfl, (export_redecorated search _ _ _ _ _ _ (.ofHistory answer) 5 [] hsink).1⟩

end Search

end SearchExport
