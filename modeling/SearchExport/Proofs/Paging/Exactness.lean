import SearchExport.Proofs.Export.Sinks
import SearchExport.Proofs.Export.Start
import SearchExport.Proofs.Export.Turns
import SearchExport.Proofs.Paging.Reference
import SearchExport.Proofs.Request.Build

/-!
# Pagination is exact

Against an engine over a list of documents an export hands over these documents, sorted, each of them
once, and with a limit the first of them that fill the last chunk it takes to reach the limit.

* `ExportRequest.quota` — how many documents that are.
* `Run.Aligned` — the invariant between two turns: what was delivered are whole chunks below the limit,
  and the next query leaves the rest.  `Run.Aligned.next` — a full page keeps it.
* `Run.Aligned.delivers` — what remains of a run, by induction on its fuel.
* `ExportRequest.pagination_exact` — the whole export.
-/

set_option autoImplicit false

namespace SearchExport

/-! ## Limits -/

/-- The least number of whole chunks that reaches a limit, in messages. -/
def roundUp (limit chunkSize : Nat) : Nat := chunkSize * ((limit + chunkSize - 1) / chunkSize)

theorem le_roundUp (limit : Nat) {c : Nat} (hc : 0 < c) : limit ≤ roundUp limit c := by
  have hdiv := Nat.div_add_mod (limit + c - 1) c
  have hmod := Nat.mod_lt (limit + c - 1) hc
  unfold roundUp
  omega

theorem roundUp_lt (limit : Nat) {c : Nat} (hc : 0 < c) : roundUp limit c < limit + c := by
  have := Nat.mul_div_le (limit + c - 1) c
  unfold roundUp
  omega

/-- A limit that is not reached by `j` chunks takes one more. -/
theorem add_le_roundUp {limit c j : Nat} (hc : 0 < c) (hbelow : c * j < limit) :
    c * j + c ≤ roundUp limit c := by
  have hlt : c * j < c * ((limit + c - 1) / c) := Nat.lt_of_lt_of_le hbelow (le_roundUp limit hc)
  exact Nat.mul_le_mul_left c (Nat.succ_le_of_lt (Nat.lt_of_mul_lt_mul_left hlt))

/-- A limit that is reached by one more chunk takes no further one. -/
theorem roundUp_le {limit c j : Nat} (hc : 0 < c) (hreached : limit ≤ c * j + c) :
    roundUp limit c ≤ c * j + c := by
  have hlt : c * ((limit + c - 1) / c) < c * (j + 2) := by
    have := roundUp_lt limit hc
    unfold roundUp at this
    rw [Nat.mul_add]
    omega
  exact Nat.mul_le_mul_left c (Nat.le_of_lt_succ (Nat.lt_of_mul_lt_mul_left hlt))

/-- How many of `n` documents an export delivers. -/
def ExportRequest.quota (r : ExportRequest) (n : Nat) : Nat :=
  match r.limit with
  | some limit => min n (roundUp limit r.chunkSize)
  | none => n

/-! ## What a record delivers -/

namespace Run

variable {σ ε : Type}

/-- The run ended well and delivered the messages in order, in chunks that are full except possibly the
last one. -/
structure Record.Delivers (record : Record ε σ) (chunkSize : Nat) (messages : List Message) :
    Prop where
  ended : ∃ summary, record.result = some (.ok summary)
  delivered : record.chunks.flatMap Chunk.messages = messages
  full : ∀ c ∈ record.chunks.dropLast, c.size = chunkSize

theorem Record.Delivers.after {record : Record ε σ} {chunkSize : Nat} {messages : List Message}
    (h : record.Delivers chunkSize messages) (q : EngineQuery) {c : Chunk}
    (hc : c.size = chunkSize) :
    (record.after q c).Delivers chunkSize (c.messages ++ messages) where
  ended := h.ended
  delivered := by rw [chunks_after, List.flatMap_cons, h.delivered]
  full := by
    intro c' hc'
    rw [chunks_after] at hc'
    cases hrest : record.chunks with
    | nil => simp [hrest] at hc'
    | cons first rest =>
      rw [hrest, List.dropLast_cons_of_ne_nil (by simp), List.mem_cons, ← hrest] at hc'
      rcases hc' with rfl | hc'
      · exact hc
      · exact h.full c' hc'

/-! ## The invariant -/

variable {o : ValueOrder} {docs : List StoredDocument}

/-- A run between two turns: it delivered whole chunks, not as many as the limit, and its query leaves
the documents `rest`. -/
structure Aligned (o : ValueOrder) (docs : List StoredDocument) (r : Run σ)
    (rest : List StoredDocument) : Prop where
  chunk_pos : 0 < r.request.chunkSize
  size_eq : r.query.size = r.request.chunkSize
  leaves : o.Leaves docs r.query rest
  whole : ∃ j, r.summary.messages = r.request.chunkSize * j
  below_limit : r.reachesLimit r.summary.messages = false

variable {r : Run σ} {rest : List StoredDocument} (project : List String → Fields → Fields)

theorem Aligned.next (h : Aligned o docs r rest)
    (hstrict : (o.sorted r.query.sort docs).Pairwise fun a b =>
      o.compareFields r.query.sort a.source b.source = .lt)
    {last : StoredDocument} (hlast : (rest.take r.request.chunkSize).getLast? = some last)
    (hmore : r.reachesLimit (r.summary.messages + r.request.chunkSize) = false) (s : σ) :
    Aligned o docs (r.next r.request.chunkSize (last.hit project r.query) s)
      (rest.drop r.request.chunkSize) where
  chunk_pos := h.chunk_pos
  size_eq := h.size_eq
  leaves := h.leaves.continueAfter project hstrict hlast
  whole := by
    obtain ⟨j, hj⟩ := h.whole
    refine ⟨j + 1, ?_⟩
    show r.summary.messages + r.request.chunkSize = r.request.chunkSize * (j + 1)
    rw [hj, Nat.mul_succ]
  below_limit := hmore

/-- The quota has room for one more page. -/
theorem Aligned.le_quota (h : Aligned o docs r rest) :
    r.summary.messages + min r.request.chunkSize rest.length ≤
      r.request.quota (r.summary.messages + rest.length) := by
  obtain ⟨j, hj⟩ := h.whole
  unfold ExportRequest.quota
  cases hlimit : r.request.limit with
  | none =>
    simp only
    omega
  | some limit =>
    have hbelow : r.request.chunkSize * j < limit := by
      simpa [reachesLimit, hlimit, hj] using h.below_limit
    have := add_le_roundUp h.chunk_pos hbelow
    simp only [hj]
    omega

/-- The quota ends with the chunk that reaches the limit. -/
theorem Aligned.quota_le (h : Aligned o docs r rest)
    (hreached : r.reachesLimit (r.summary.messages + r.request.chunkSize) = true) (n : Nat) :
    r.request.quota n ≤ r.summary.messages + r.request.chunkSize := by
  obtain ⟨j, hj⟩ := h.whole
  obtain ⟨limit, hlimit, hle⟩ := reachesLimit_iff.1 hreached
  rw [hj] at hle
  have := roundUp_le h.chunk_pos hle
  simp only [ExportRequest.quota, hlimit, hj]
  omega

/-- When a run stops after a page, the page is all that remains to be delivered. -/
theorem Aligned.take_quota_of_stop (h : Aligned o docs r rest) {reason : StopReason}
    (hstop : r.stopAfter (min r.request.chunkSize rest.length) = some reason) :
    rest.take (r.request.quota (r.summary.messages + rest.length) - r.summary.messages) =
      rest.take r.request.chunkSize := by
  have hroom := h.le_quota
  rw [List.take_eq_take_iff]
  by_cases hshort : rest.length < r.request.chunkSize
  · omega
  · -- a full page ends the run at the limit only
    have hfull : min r.request.chunkSize rest.length = r.request.chunkSize := by omega
    rw [hfull] at hstop
    rcases stopAfter_eq_some hstop with ⟨_, hreached⟩ | ⟨_, _, hless⟩
    · have := h.quota_le hreached (r.summary.messages + rest.length)
      omega
    · omega

/-- When a run goes on after a full page, the rest remains to be delivered after it. -/
theorem Aligned.take_quota_of_more (h : Aligned o docs r rest)
    (hrest : r.request.chunkSize ≤ rest.length) :
    rest.take (r.request.quota (r.summary.messages + rest.length) - r.summary.messages) =
      rest.take r.request.chunkSize ++
        (rest.drop r.request.chunkSize).take
          (r.request.quota (r.summary.messages + r.request.chunkSize +
              (rest.drop r.request.chunkSize).length) -
            (r.summary.messages + r.request.chunkSize)) := by
  have hroom := h.le_quota
  have hleft : r.summary.messages + r.request.chunkSize +
      (rest.drop r.request.chunkSize).length = r.summary.messages + rest.length := by
    rw [List.length_drop]
    omega
  rw [hleft, ← List.take_add]
  congr 1
  omega

theorem fuel_of_drop {c n fuel : Nat} (hc : 0 < c) (hn : c ≤ n) (hfuel : n / c < fuel + 1) :
    (n - c) / c < fuel := by
  rw [Nat.div_eq_sub_div hc hn] at hfuel
  exact Nat.lt_of_succ_lt_succ hfuel

/-- **What remains of a run**: it delivers what its query leaves, up to the quota, and ends well when
its fuel suffices for all of it. -/
theorem Aligned.delivers {sink : Sink σ} (hsink : sink.NeverFails) {fuel : Nat}
    (h : Aligned o docs r rest)
    (hstrict : (o.sorted r.query.sort docs).Pairwise fun a b =>
      o.compareFields r.query.sort a.source b.source = .lt)
    (hfuel : rest.length / r.request.chunkSize < fuel) :
    (perform (Engine.reference o docs project) sink fuel () r).Delivers r.request.chunkSize
      ((rest.take (r.request.quota (r.summary.messages + rest.length) - r.summary.messages)).map
        (·.message project r.query.sourceFields)) := by
  induction fuel generalizing r rest with
  | zero => exact absurd hfuel (Nat.not_lt_zero _)
  | succ fuel ih =>
    have hask := h.leaves.page project
    rw [h.size_eq] at hask
    obtain ⟨p, hp⟩ : ∃ p : Page,
        p = ⟨(rest.take r.request.chunkSize).map (·.hit project r.query)⟩ := ⟨_, rfl⟩
    rw [← hp] at hask
    have hlength : p.hits.length = min r.request.chunkSize rest.length := by simp [hp]
    have hmessages : (r.chunkOf p).messages =
        (rest.take r.request.chunkSize).map (·.message project r.query.sourceFields) := by
      rw [chunkOf, hp, List.map_map]
      exact List.map_congr_left fun d _ => d.hit_toMessage project r.query
    by_cases hdry : rest = []
    · have hhits : p.hits = [] := by simp [hp, hdry]
      rw [perform_dry hask hhits]
      exact ⟨⟨_, rfl⟩, by simp [hdry], by simp⟩
    · have hhits : p.hits ≠ [] := by
        have := h.chunk_pos
        simp only [hp, ne_eq, List.map_eq_nil_iff, List.take_eq_nil_iff, hdry, or_false]
        omega
      obtain ⟨s, haccept⟩ := hsink.accept_eq r.sink (r.chunkOf p)
      cases hstop : r.stopAfter p.hits.length with
      | some reason =>
        rw [perform_last hask hhits haccept hstop]
        rw [hlength] at hstop
        exact ⟨⟨_, rfl⟩, by simp [hmessages, h.take_quota_of_stop hstop], by simp⟩
      | none =>
        obtain ⟨hbelow, hfull⟩ := stopAfter_eq_none hstop
        have hrest : r.request.chunkSize ≤ rest.length := by omega
        have hsize : p.hits.length = r.request.chunkSize := by omega
        obtain ⟨last, hlast⟩ : ∃ last, (rest.take r.request.chunkSize).getLast? = some last :=
          ⟨_, List.getLast?_eq_some_getLast (by simpa [hp] using hhits)⟩
        have hlasthit : p.hits.getLast? = some (last.hit project r.query) := by
          rw [hp, List.getLast?_map, hlast]
          rfl
        have hchunk : (r.chunkOf p).size = r.request.chunkSize := by
          simpa [chunkOf, Chunk.size] using hsize
        rw [perform_again hask hlasthit haccept hstop, hsize]
        rw [hsize] at hbelow
        have hnext := h.next project hstrict hlast hbelow s
        have hrun := ih hnext hstrict (by
          rw [List.length_drop]
          exact fuel_of_drop h.chunk_pos hrest hfuel)
        rw [h.take_quota_of_more hrest, List.map_append, ← hmessages]
        exact hrun.after r.query hchunk

end Run

/-! ## Exports -/

namespace ExportRequest

variable {σ : Type}

theorem aligned_firstRun {d : RequestDraft} {r : ExportRequest} (hbuild : d.build = .ok r)
    (o : ValueOrder) (docs : List StoredDocument) (indices : NameSet) (range : AbsoluteRange)
    (allow : Bool) (s : σ) :
    Run.Aligned o docs (r.firstRun (r.firstQuery indices range allow) s)
      (o.sorted (effectiveSort r.sort) docs) where
  chunk_pos := RequestDraft.chunkSize_pos hbuild
  size_eq := rfl
  leaves := ValueOrder.leaves_of_no_cursor rfl
  whole := ⟨0, rfl⟩
  below_limit := firstRun_below_limit hbuild _ s

/-- **Pagination is exact.**  For every order of values, every list of documents that their message
identifiers tell apart, every request, and every sink that never fails, an export over at least one
index ends well with the documents in the order of the sort: all of them without a limit, and with one
those that fill the chunks it takes to reach it.  Every chunk but the last is full. -/
theorem pagination_exact (o : ValueOrder) {docs : List StoredDocument} (hdocs : o.Distinct docs)
    (project : List String → Fields → Fields) {d : RequestDraft} {r : ExportRequest}
    (hbuild : d.build = .ok r) {settings : RunSettings} {now : Timestamp} {range : AbsoluteRange}
    {indices : NameSet} (hrange : r.timeRange.resolve now = .ok range)
    (hguard : guardQueryString r.queryString settings.allowLeadingWildcard = .ok ())
    (hresolve : settings.indices.resolve r.streams range = .ok indices)
    (hindices : indices.isEmpty = false) {sink : Sink σ} (hsink : sink.NeverFails) (s : σ)
    {fuel : Nat} (hfuel : docs.length / r.chunkSize < fuel) :
    (o.sorted (effectiveSort r.sort) docs).Perm docs ∧
      (o.sorted (effectiveSort r.sort) docs).Pairwise (fun a b =>
        o.compareFields (effectiveSort r.sort) a.source b.source = .lt) ∧
      (r.export settings now (Engine.reference o docs project) sink fuel () s).Delivers r.chunkSize
        (((o.sorted (effectiveSort r.sort) docs).take (r.quota docs.length)).map
          (·.message project (sourceFields r.fields))) := by
  have hstrict := ValueOrder.sorted_strict r.sort hdocs
  refine ⟨o.sorted_perm _ docs, hstrict, ?_⟩
  have hstart := start_of_ok hrange hguard hresolve
  rw [hindices] at hstart
  rw [export_of_fetch _ _ _ _ _ hstart]
  have haligned := aligned_firstRun hbuild o docs indices range settings.allowLeadingWildcard s
  have hrun := haligned.delivers project hsink hstrict (by rwa [ValueOrder.length_sorted])
  -- nothing is delivered before the first query
  have hmessages :
      (r.firstRun (r.firstQuery indices range settings.allowLeadingWildcard) s).summary.messages = 0 :=
    rfl
  rw [hmessages, Nat.zero_add, Nat.sub_zero, ValueOrder.length_sorted] at hrun
  exact hrun

/-- Three documents, two of them of the same time, in chunks of two with a limit of one. -/
theorem pagination_exact_of_tie :
    let document : String → String → StoredDocument := fun id time =>
      ⟨"graylog_0", id, .ofList [("gl2_message_id", .string id), ("timestamp", .string time)]⟩
    let docs := [document "a" "01:00", document "b" "02:00", document "c" "01:00"]
    let project : List String → Fields → Fields := fun fields source => source.keep fields
    let draft : RequestDraft :=
      { timeRange := .absolute .epoch .epoch, limit := some 1, chunkSize := 2 }
    let settings : RunSettings := ⟨⟨["graylog_*"], []⟩, false⟩
    let r := draft.normalized
    let sorted := ValueOrder.byText.sorted (effectiveSort r.sort) docs
    (ValueOrder.byText.Distinct docs ∧ draft.build = .ok r ∧
      r.timeRange.resolve .epoch = .ok ⟨.epoch, .epoch⟩ ∧
      guardQueryString r.queryString settings.allowLeadingWildcard = .ok () ∧
      settings.indices.resolve r.streams ⟨.epoch, .epoch⟩ = .ok (NameSet.ofList ["graylog_*"]) ∧
      (NameSet.ofList ["graylog_*"]).isEmpty = false ∧ Sink.collecting.NeverFails ∧
      docs.length / r.chunkSize < 2) ∧
    sorted.Perm docs ∧
      sorted.Pairwise (fun a b =>
        ValueOrder.byText.compareFields (effectiveSort r.sort) a.source b.source = .lt) ∧
      (r.export settings .epoch (Engine.reference .byText docs project) .collecting 2 () []).Delivers
        r.chunkSize ((sorted.take (r.quota docs.length)).map
          (·.message project (sourceFields r.fields))) := by
  intro document docs project draft settings r sorted
  have hdocs : ValueOrder.byText.Distinct docs := by
    unfold ValueOrder.Distinct
    decide
  have hbuild : draft.build = .ok r :=
    RequestDraft.build_of_defaultFields (by decide) (by decide) rfl
  have hrange : r.timeRange.resolve .epoch = .ok ⟨.epoch, .epoch⟩ := by rfl
  have hguard : guardQueryString r.queryString settings.allowLeadingWildcard = .ok () := by rfl
  have hresolve : settings.indices.resolve r.streams ⟨.epoch, .epoch⟩ =
      .ok (NameSet.ofList ["graylog_*"]) := by rfl
  have hindices : (NameSet.ofList ["graylog_*"]).isEmpty = false := by rfl
  have hsink : Sink.collecting.NeverFails := fun _ _ => rfl
  have hfuel : docs.length / r.chunkSize < 2 := by decide
  exact ⟨⟨hdocs, hbuild, hrange, hguard, hresolve, hindices, hsink, hfuel⟩,
    pagination_exact .byText hdocs project hbuild hrange hguard hresolve hindices hsink [] hfuel⟩

end ExportRequest

end SearchExport
