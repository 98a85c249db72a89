import SearchExport.Proofs.Export.Failure
import SearchExport.Proofs.Export.Lines
import SearchExport.Proofs.Paging.Exactness

/-!
# The size of a chunk does not show

The size of a chunk decides how often the engine is asked and how many messages are decorated at a time,
but not what is written.

* `ExportRequest.found` — the messages that an export of documents can deliver;
  `ExportRequest.export_found` — it delivers them up to its quota, in whatever chunks.
* `Search.resolve_of_chunkSizes` — a search makes a request for every size of a chunk or for none, and
  these requests differ in it alone.
* `Search.export_writes` — what a stored search writes for one size of a chunk.
* `Search.text_of_chunkSizes` — what it writes for two of them.
-/

set_option autoImplicit false

namespace SearchExport

/-! ## What an export delivers -/

theorem Run.Performs.chunk_fields {σ ε : Type} {engine : Engine ε} {sink : Sink σ} {e : ε}
    {r : Run σ} {record : Run.Record ε σ} (h : Run.Performs engine sink e r record) :
    ∀ c ∈ record.chunks, c.fields = r.request.fields := by
  induction h with
  | cut => simp
  | failed => simp
  | dry => simp
  | refused => simp [Run.chunkOf]
  | last => simp [Run.chunkOf]
  | again _ _ _ _ _ ih =>
    intro c hc
    rw [Run.chunks_after, List.mem_cons] at hc
    rcases hc with rfl | hc
    · rfl
    · exact ih c hc

namespace ExportRequest

variable (o : ValueOrder) (docs : List StoredDocument) (project : List String → Fields → Fields)

/-- The messages that an export of documents can deliver, in order: none when it does not get to its
first query. -/
def found (r : ExportRequest) (settings : RunSettings) (now : Timestamp) : List Message :=
  match r.start settings now with
  | .ok (.fetch _) =>
    (o.sorted (effectiveSort r.sort) docs).map (·.message project (sourceFields r.fields))
  | _ => []

theorem length_found_le (r : ExportRequest) (settings : RunSettings) (now : Timestamp) :
    (r.found o docs project settings now).length ≤ docs.length := by
  unfold found
  split
  · simp
  · exact Nat.zero_le _

variable {o docs} {σ : Type}

/-- **An export delivers what it finds, up to its quota, and ends**, when it may take enough turns. -/
theorem export_found (hdocs : o.Distinct docs) {d : RequestDraft} {r : ExportRequest}
    (hbuild : d.build = .ok r) (settings : RunSettings) (now : Timestamp) {sink : Sink σ}
    (hsink : sink.NeverFails) (s : σ) {fuel : Nat} (hfuel : docs.length / r.chunkSize < fuel) :
    let record := r.export settings now (Engine.reference o docs project) sink fuel () s
    record.result ≠ none ∧
      record.chunks.flatMap Chunk.messages =
        (r.found o docs project settings now).take (r.quota docs.length) ∧
      ∀ c ∈ record.chunks, c.fields = r.fields := by
  intro record
  unfold found
  rcases r.start_cases settings now with ⟨error, _, hstart⟩ | ⟨_, range, indices, _, _, hstart⟩
  · simp only [record, export_of_error _ _ _ _ _ hstart, hstart]
    simp
  · cases hempty : indices.isEmpty with
    | true =>
      rw [hempty, if_pos rfl] at hstart
      simp only [record, export_of_nothing _ _ _ _ _ hstart, hstart]
      simp
    | false =>
      rw [hempty, if_neg Bool.false_ne_true] at hstart
      simp only [record, export_of_fetch _ _ _ _ _ hstart, hstart]
      have haligned := aligned_firstRun hbuild o docs indices range settings.allowLeadingWildcard s
      have hstrict := ValueOrder.sorted_strict r.sort hdocs
      have hrun := haligned.delivers project hsink hstrict (by rwa [ValueOrder.length_sorted])
      -- nothing is delivered before the first query
      have hmessages :
          (r.firstRun (r.firstQuery indices range settings.allowLeadingWildcard) s).summary.messages =
            0 := rfl
      rw [hmessages, Nat.zero_add, Nat.sub_zero, ValueOrder.length_sorted, List.map_take] at hrun
      obtain ⟨summary, hended⟩ := hrun.ended
      exact ⟨by simp [hended], hrun.delivered, (Run.performs _ _ _ _ _).chunk_fields⟩

/-! ## Other sizes of a chunk -/

/-- The request with another size of a chunk. -/
def withChunkSize (r : ExportRequest) (chunkSize : Nat) : ExportRequest :=
  { r with chunkSize := chunkSize }

/-- The size of a chunk does not change what is found. -/
theorem found_withChunkSize (r : ExportRequest) (chunkSize : Nat) (settings : RunSettings)
    (now : Timestamp) :
    (r.withChunkSize chunkSize).found o docs project settings now =
      r.found o docs project settings now := by
  rcases r.start_cases settings now with
    ⟨error, hfault, hstart⟩ | ⟨hnone, range, indices, hrange, hresolve, hstart⟩
  · have hstart' : (r.withChunkSize chunkSize).start settings now = .error error :=
      start_of_fault hfault
    simp only [found, hstart, hstart']
  · rcases (r.withChunkSize chunkSize).start_cases settings now with
      ⟨error, hfault, _⟩ | ⟨_, range', indices', hrange', hresolve', hstart'⟩
    · have hfault' : (r.faults settings now).head? = some error := hfault
      simp [hnone] at hfault'
    · -- the two find the same indices in the same time range
      cases hrange.symm.trans hrange'
      cases hresolve.symm.trans hresolve'
      cases hempty : indices.isEmpty with
      | true => simp [found, hstart, hstart', hempty]
      | false =>
        simp only [found, hstart, hstart', hempty, Bool.false_eq_true, if_false]
        rfl

end ExportRequest

/-- Whether a draft makes a request does not depend on the size of a chunk. -/
theorem RequestDraft.build_of_chunkSizes (d : RequestDraft) :
    (∃ fault, ∀ c, 0 < c → { d with chunkSize := c }.build = .error fault) ∨
      ∀ c, 0 < c → { d with chunkSize := c }.build = .ok (d.normalized.withChunkSize c) := by
  by_cases hlimit : d.limit = some 0
  · exact .inl ⟨.zeroLimit, fun c hc => by simp [build_eq, Nat.ne_of_gt hc, hlimit]⟩
  by_cases hfields : d.fields = some []
  · exact .inl ⟨.noFields, fun c hc => by simp [build_eq, Nat.ne_of_gt hc, hlimit, hfields]⟩
  cases hblank : d.rowFields.any Text.isBlank with
  | true =>
    refine .inl ⟨.blankField, fun c hc => ?_⟩
    have hblank' : { d with chunkSize := c }.rowFields.any Text.isBlank = true := hblank
    simp [build_eq, Nat.ne_of_gt hc, hlimit, hfields, hblank']
  | false =>
    refine .inr fun c hc => ?_
    have hblank' : { d with chunkSize := c }.rowFields.any Text.isBlank = false := hblank
    simp [build_eq, Nat.ne_of_gt hc, hlimit, hfields, hblank']
    rfl

/-- The resolved export with another size of a chunk. -/
def ResolvedExport.withChunkSize (x : ResolvedExport) (chunkSize : Nat) : ResolvedExport :=
  { x with request := x.request.withChunkSize chunkSize }

namespace Search

/-- **A search makes a request for every size of a chunk or for none**, and these differ in it alone. -/
theorem resolve_of_chunkSizes (search : Search) (decorator : QueryDecorator)
    (searchTypeId : Option String) (format : ResultFormat) (now : Timestamp) :
    (∃ fault, ∀ c, 0 < c →
        search.resolve decorator c searchTypeId format now = .error fault) ∨
      ∃ x : ResolvedExport, x.request.limit = format.limit ∧ ∀ c, 0 < c →
        search.resolve decorator c searchTypeId format now = .ok (x.withChunkSize c) ∧
          ∃ d : RequestDraft, d.build = .ok (x.request.withChunkSize c) := by
  have hfault : ∀ {α β γ : Type} (f : α → β) (e : α),
      (Except.error e : Except α γ).mapError f = .error (f e) := fun _ _ => rfl
  have hvalue : ∀ {α β γ : Type} (f : α → β) (a : γ),
      (Except.ok a : Except α γ).mapError f = .ok a := fun _ _ => rfl
  unfold resolve
  cases search.select searchTypeId with
  | error fault => exact .inl ⟨fault, fun _ _ => rfl⟩
  | ok sel =>
    simp only [bind, Except.bind]
    cases sel.timeRange now with
    | error fault => exact .inl ⟨.range fault, fun _ _ => rfl⟩
    | ok range =>
      simp only [hvalue]
      cases decorator.decorate search sel.filter with
      | error names => exact .inl ⟨.unbound search.id names, fun _ _ => rfl⟩
      | ok queryString =>
        rcases (sel.draft range queryString format 0).build_of_chunkSizes with
          ⟨fault, hbuild⟩ | hbuild
        · have hbuild : ∀ c, 0 < c →
              (sel.draft range queryString format c).build = .error fault := hbuild
          exact .inl ⟨.request fault, fun c hc => by simp only [hvalue, hbuild c hc, hfault]⟩
        · have hbuild' : ∀ c, 0 < c → (sel.draft range queryString format c).build =
              .ok ((sel.draft range queryString format 0).normalized.withChunkSize c) := hbuild
          exact .inr ⟨⟨_, sel.messageList, sel.query.id⟩, rfl, fun c hc =>
            ⟨by simp only [hvalue, hbuild' c hc]; rfl, _, hbuild c hc⟩⟩

end Search

/-! ## What a stored search writes -/

/-- A message as it leaves the export: decorated when it is one of a message list. -/
def ResolvedExport.decorate (x : ResolvedExport) (m : Message) : Message :=
  match x.messageList with
  | some list => decorateMessage list.decorators m
  | none => m

theorem ResolvedExport.deliver_eq (x : ResolvedExport) (c : Chunk) :
    x.deliver c = { c with messages := c.messages.map x.decorate } := by
  unfold deliver decorate
  cases x.messageList with
  | none => simp
  | some list => rfl

theorem ResolvedExport.messages_deliver (x : ResolvedExport) (cs : List Chunk) :
    (cs.map x.deliver).flatMap Chunk.messages = (cs.flatMap Chunk.messages).map x.decorate := by
  simp only [List.flatMap_map, List.map_flatMap, deliver_eq]

namespace Search

variable {o : ValueOrder} {docs : List StoredDocument} (project : List String → Fields → Fields)
variable {search : Search} {target : SearchTarget} {decorator : QueryDecorator} {now : Timestamp}

/-- **What a stored search writes** for one size of a chunk: lines of what its request finds, decorated;
all of them when there is no limit and the target can be flushed. -/
theorem export_writes (hdocs : o.Distinct docs) {chunkSize : Nat} {x : ResolvedExport}
    (hresolve : search.resolve decorator chunkSize target.searchTypeId target.format now = .ok x)
    {d : RequestDraft} (hbuild : d.build = .ok x.request) (settings : RunSettings) (w : LineWriter)
    {fuel : Nat} (hfuel : docs.length / x.request.chunkSize < fuel) :
    let record := search.export target decorator chunkSize settings now
      (Engine.reference o docs project) .ndjson fuel () w
    let messages := (x.request.found o docs project settings now).map x.decorate
    record.result ≠ none ∧ ∃ ms, ms <+: messages ∧
      (x.request.limit = none → w.target.flushFails = false → ms = messages) ∧
      record.sink = (LineWriter.writeAll x.request.fields w ms).1 := by
  intro record messages
  have hcalm : Sink.collecting.NeverFails := fun _ _ => rfl
  obtain ⟨hended, hdelivered, hfields⟩ :=
    ExportRequest.export_found project hdocs hbuild settings now hcalm [] hfuel
  obtain ⟨full, hfull⟩ : ∃ full, full = x.request.export settings now
      (Engine.reference o docs project) .collecting fuel () [] := ⟨_, rfl⟩
  rw [← hfull] at hended hdelivered hfields
  -- the writer sees the chunks of the undisturbed export, decorated
  have hcut : CutsToPrefix full x.deliver fun _ sink s => x.request.export settings now
      (Engine.reference o docs project) (sink.mapped x.deliver) fuel () s := by
    rw [hfull]
    exact x.request.cutsToPrefix settings now _ hcalm fuel () [] x.deliver
  obtain ⟨hsink, hends⟩ := hcut.sink_eq .ndjson w
  rw [← export_of_resolve hresolve] at hsink hends
  have hfields' : ∀ c ∈ full.chunks.map x.deliver, c.fields = x.request.fields := by
    intro c hc
    obtain ⟨c', hc', rfl⟩ := List.mem_map.1 hc
    rw [x.deliver_eq]
    exact hfields c' hc'
  obtain ⟨ms, hms, hall, hwritten⟩ := LineWriter.offered_ndjson (w := w) hfields'
  rw [x.messages_deliver, hdelivered, List.map_take] at hms hall
  refine ⟨hends hended, ms, hms.trans (List.take_prefix _ _), fun hlimit hflush => ?_,
    hsink.trans hwritten⟩
  rw [hall hflush, ExportRequest.quota, hlimit, List.take_of_length_le]
  rw [List.length_map]
  exact x.request.length_found_le o docs project settings now

/-- **The exported text does not depend on the size of a chunk.**  For every list of documents that their
message identifiers tell apart, every stored search with its decorators, and every writer, the exports
with two sizes of a chunk end.  Without a limit they write the same bytes and count the same lines, unless
flushing fails; and in any case the bytes of one of them begin with those of the other. -/
theorem text_of_chunkSizes (hdocs : o.Distinct docs) (search : Search) (target : SearchTarget)
    (decorator : QueryDecorator) (settings : RunSettings) (now : Timestamp) (w : LineWriter)
    {c₁ c₂ : Nat} (hc₁ : 0 < c₁) (hc₂ : 0 < c₂) {fuel₁ fuel₂ : Nat}
    (hfuel₁ : docs.length / c₁ < fuel₁) (hfuel₂ : docs.length / c₂ < fuel₂) :
    let engine := Engine.reference o docs project
    let one := search.export target decorator c₁ settings now engine .ndjson fuel₁ () w
    let other := search.export target decorator c₂ settings now engine .ndjson fuel₂ () w
    (one.result ≠ none ∧ other.result ≠ none) ∧
      (target.format.limit = none → w.target.flushFails = false →
        one.sink.target.taken = other.sink.target.taken ∧
          one.sink.written = other.sink.written) ∧
      (one.sink.target.taken <+: other.sink.target.taken ∨
        other.sink.target.taken <+: one.sink.target.taken) := by
  intro engine one other
  rcases search.resolve_of_chunkSizes decorator target.searchTypeId target.format now with
    ⟨fault, hfault⟩ | ⟨x, hlimit, hresolve⟩
  · have hends : ∀ c fuel, 0 < c → search.export target decorator c settings now engine .ndjson fuel () w =
        ⟨[], some (.error fault.toError), (), w⟩ := by
      intro c fuel hc
      rw [«export», hfault c hc]
    simp [one, other, hends c₁ fuel₁ hc₁, hends c₂ fuel₂ hc₂]
  · obtain ⟨messages, hmessages⟩ :
        ∃ ms, ms = (x.request.found o docs project settings now).map x.decorate := ⟨_, rfl⟩
    -- both write the lines of messages at the beginning of the same list
    have hwrites : ∀ c fuel, 0 < c → docs.length / c < fuel →
        let record := search.export target decorator c settings now engine .ndjson fuel () w
        record.result ≠ none ∧ ∃ ms, ms <+: messages ∧
          (target.format.limit = none → w.target.flushFails = false → ms = messages) ∧
          record.sink = (LineWriter.writeAll x.request.fields w ms).1 := by
      intro c fuel hc hfuel
      obtain ⟨hresolve, d, hbuild⟩ := hresolve c hc
      have hrun := export_writes project hdocs hresolve hbuild settings w hfuel
      rw [show (x.withChunkSize c).request = x.request.withChunkSize c from rfl,
        ExportRequest.found_withChunkSize] at hrun
      rw [hmessages, ← hlimit]
      exact hrun
    obtain ⟨hended₁, ms₁, hms₁, hall₁, hsink₁⟩ := hwrites c₁ fuel₁ hc₁ hfuel₁
    obtain ⟨hended₂, ms₂, hms₂, hall₂, hsink₂⟩ := hwrites c₂ fuel₂ hc₂ hfuel₂
    refine ⟨⟨hended₁, hended₂⟩, fun hnone hflush => ?_, ?_⟩
    · have hsame : one.sink = other.sink := by
        rw [hsink₁, hsink₂, hall₁ hnone hflush, hall₂ hnone hflush]
      exact ⟨by rw [hsame], by rw [hsame]⟩
    · rw [hsink₁, hsink₂]
      exact (List.prefix_or_prefix_of_prefix hms₁ hms₂).imp
        (LineWriter.taken_prefix_writeAll _ _) (LineWriter.taken_prefix_writeAll _ _)

/-- Three documents, two of them of the same time, in chunks of one and of two: every chunk of the one
export is decorated on its own. -/
theorem text_of_chunkSizes_of_tie :
    let document : String → String → StoredDocument := fun id time =>
      ⟨"graylog_0", id, .ofList [("gl2_message_id", .string id), ("timestamp", .string time)]⟩
    let docs := [document "a" "01:00", document "b" "02:00", document "c" "01:00"]
    let project : List String → Fields → Fields := fun fields source => source.keep fields
    let list : MessageList :=
      ⟨"list", none, none, ∅, [], [⟨none, 0, .formatString "message" "at $\x7btimestamp\x7d" false⟩]⟩
    let search : Search := ⟨"search", [⟨"query", .relative 300, none, ∅, [.messages list]⟩], []⟩
    let target : SearchTarget := ⟨some "list", {}⟩
    let settings : RunSettings := ⟨⟨["graylog_*"], []⟩, false⟩
    let w : LineWriter := {}
    let ones := search.export target .parameters 1 settings .epoch
      (Engine.reference .byText docs project) .ndjson 4 () w
    let pairs := search.export target .parameters 2 settings .epoch
      (Engine.reference .byText docs project) .ndjson 2 () w
    (ValueOrder.byText.Distinct docs ∧ 0 < 1 ∧ 0 < 2 ∧ docs.length / 1 < 4 ∧ docs.length / 2 < 2 ∧
      target.format.limit = none ∧ w.target.flushFails = false) ∧
    (ones.result ≠ none ∧ pairs.result ≠ none) ∧
      (ones.sink.target.taken = pairs.sink.target.taken ∧ ones.sink.written = pairs.sink.written) ∧
      (ones.sink.target.taken <+: pairs.sink.target.taken ∨
        pairs.sink.target.taken <+: ones.sink.target.taken) := by
  intro document docs project list search target settings w ones pairs
  have hdocs : ValueOrder.byText.Distinct docs := by
    unfold ValueOrder.Distinct
    decide
  have hfuel₁ : docs.length / 1 < 4 := by decide
  have hfuel₂ : docs.length / 2 < 2 := by decide
  have hlimit : target.format.limit = none := rfl
  have hflush : w.target.flushFails = false := rfl
  refine ⟨⟨hdocs, Nat.one_pos, Nat.two_pos, hfuel₁, hfuel₂, hlimit, hflush⟩, ?_⟩
  obtain ⟨hended, hsame, hprefix⟩ := text_of_chunkSizes project hdocs search target .parameters
    settings .epoch w Nat.one_pos Nat.two_pos hfuel₁ hfuel₂
  simp only [ones, pairs]
  exact ⟨hended, hsame hlimit hflush, hprefix⟩

end Search

end SearchExport
