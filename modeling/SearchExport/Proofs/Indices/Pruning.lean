import SearchExport.Proofs.Export.Start
import SearchExport.Proofs.Export.Turns
import SearchExport.Proofs.Indices.Coverage

/-!
# Pruned indices

An export searches the known indices that meet its request.  When the entries tell the truth about the
documents, it exports what it would export from all known indices.

* `Engine.searching` — the engine that answers with the documents that a query selects.
* `Matcher.filter_selects_indicesFor` — a query selects the same documents in the indices of its request
  as in all known ones.
* `Run.perform_within` — a run over other indices in which the engine finds the same is the same run.
* `PrunesExactly`, `indices_pruned_exactly` — nothing is lost, and no index is searched in vain.
-/

set_option autoImplicit false

namespace SearchExport

/-! ## Queries over other indices -/

/-- The query over other indices. -/
def EngineQuery.within (q : EngineQuery) (indices : NameSet) : EngineQuery :=
  { q with indices := indices }

/-- The engine that answers a query from the documents that the query selects. -/
def Engine.searching (o : ValueOrder) (m : Matcher) (docs : List StoredDocument)
    (project : List String → Fields → Fields) : Engine Unit where
  ask e q := (Engine.reference o (docs.filter (m.selects q)) project).ask e q

namespace Matcher

variable {m : Matcher} {ranges : List IndexRange} {docs : List StoredDocument}

/-- **A query selects the same documents** in the indices of its request as in all known ones. -/
theorem filter_selects_indicesFor
    (hcovers : ∀ d ∈ docs, d.index ∈ ranges.map IndexRange.indexName → m.Covers ranges d)
    (q : EngineQuery) :
    docs.filter (m.selects (q.within (IndexRange.indicesFor ranges q.streams q.timeRange))) =
      docs.filter (m.selects (q.within (NameSet.ofList (ranges.map IndexRange.indexName)))) := by
  refine List.filter_congr fun d hd => ?_
  rw [Bool.eq_iff_iff, selects_iff, selects_iff]
  constructor
  · rintro ⟨hindex, hmatches⟩
    exact ⟨IndexRange.mem_known_of_mem_indicesFor hindex, hmatches⟩
  · rintro ⟨hknown, hmatches⟩
    have hcovered := hcovers d hd (NameSet.mem_ofList.1 hknown)
    exact ⟨hcovered.mem_indicesFor hmatches.1, hmatches⟩

/-- The engine finds the same for a query over indices in which it selects the same, at every place. -/
theorem ask_within (o : ValueOrder) (project : List String → Fields → Fields) {q : EngineQuery}
    {indices : NameSet}
    (h : docs.filter (m.selects (q.within indices)) = docs.filter (m.selects q)) (e : Unit)
    (cursor : Option (List Value)) :
    (Engine.searching o m docs project).ask e ({ q with searchAfter := cursor }.within indices) =
      (Engine.searching o m docs project).ask e { q with searchAfter := cursor } := by
  have hdocs : docs.filter (m.selects ({ q with searchAfter := cursor }.within indices)) =
      docs.filter (m.selects { q with searchAfter := cursor }) := h
  simp only [Engine.searching, hdocs]
  rfl

/-- The engine finds nothing for a query that selects nothing. -/
theorem ask_nothing (o : ValueOrder) (project : List String → Fields → Fields) {q : EngineQuery}
    (h : docs.filter (m.selects q) = []) (e : Unit) :
    (Engine.searching o m docs project).ask e q = ((), .ok ⟨[]⟩) := by
  simp [Engine.searching, h, Engine.reference, ValueOrder.sorted]

end Matcher

/-! ## Runs over other indices -/

namespace Run

variable {σ ε : Type}

/-- The run over other indices. -/
def within (r : Run σ) (indices : NameSet) : Run σ :=
  { r with
    query := r.query.within indices
    summary := { r.summary with indices := indices.size } }

/-- The record of the run over other indices. -/
def Record.within (record : Record ε σ) (indices : NameSet) : Record ε σ :=
  { record with
    steps := record.steps.map fun
      | .asked q => .asked (q.within indices)
      | .handed c => .handed c
    result := record.result.map (Except.map fun s => { s with indices := indices.size }) }

@[simp] theorem chunks_within (record : Record ε σ) (indices : NameSet) :
    (record.within indices).chunks = record.chunks := by
  unfold Record.chunks Record.within
  rw [List.filterMap_map]
  congr 1
  funext step
  cases step <;> rfl

@[simp] theorem sink_within (record : Record ε σ) (indices : NameSet) :
    (record.within indices).sink = record.sink := rfl

theorem Record.after_within (record : Record ε σ) (indices : NameSet) (q : EngineQuery) (c : Chunk) :
    (record.within indices).after (q.within indices) c = (record.after q c).within indices := rfl

/-- **A run over other indices** in which the engine finds the same, at every place, is the same run. -/
theorem perform_within {engine : Engine ε} {sink : Sink σ} {indices : NameSet} :
    ∀ (fuel : Nat) (e : ε) (r : Run σ),
      (∀ e cursor, engine.ask e ({ r.query with searchAfter := cursor }.within indices) =
        engine.ask e { r.query with searchAfter := cursor }) →
      perform engine sink fuel e (r.within indices) =
        (perform engine sink fuel e r).within indices
  | 0, e, r, _ => rfl
  | fuel + 1, e, r, hsame => by
    have hask' : engine.ask e (r.within indices).query = engine.ask e r.query :=
      hsame e r.query.searchAfter
    cases answered engine e r with
    | failed hask =>
      rw [perform_failed hask, perform_failed (hask'.trans hask)]
      rfl
    | dry hask hdry =>
      rw [perform_dry hask hdry, perform_dry (hask'.trans hask) hdry]
      rfl
    | @stops e' p reason hask hhits hstop =>
      obtain ⟨s, outcome, haccept⟩ :
          ∃ s outcome, sink.accept r.sink (r.chunkOf p) = (s, outcome) := ⟨_, _, rfl⟩
      cases outcome with
      | error fault =>
        rw [perform_refused hask hhits haccept,
          perform_refused (r := r.within indices) (hask'.trans hask) hhits haccept]
        rfl
      | ok =>
        rw [perform_last hask hhits haccept hstop,
          perform_last (r := r.within indices) (hask'.trans hask) hhits haccept hstop]
        rfl
    | @goesOn e' p last hask hlast hmore =>
      obtain ⟨s, outcome, haccept⟩ :
          ∃ s outcome, sink.accept r.sink (r.chunkOf p) = (s, outcome) := ⟨_, _, rfl⟩
      cases outcome with
      | error fault =>
        have hhits := ne_nil_of_getLast? hlast
        rw [perform_refused hask hhits haccept,
          perform_refused (r := r.within indices) (hask'.trans hask) hhits haccept]
        rfl
      | ok =>
        rw [perform_again hask hlast haccept hmore,
          perform_again (r := r.within indices) (hask'.trans hask) hlast haccept hmore,
          ← Record.after_within, ← perform_within fuel e' (r.next p.hits.length last s) hsame]
        rfl

/-- A run that finds nothing hands nothing over. -/
theorem perform_nothing {engine : Engine ε} (sink : Sink σ) (fuel : Nat) {e e' : ε} {r : Run σ}
    (hask : engine.ask e r.query = (e', .ok ⟨[]⟩)) :
    (perform engine sink fuel e r).chunks = [] ∧ (perform engine sink fuel e r).sink = r.sink := by
  cases fuel with
  | zero => exact ⟨rfl, rfl⟩
  | succ fuel =>
    rw [perform_dry hask rfl]
    exact ⟨rfl, rfl⟩

end Run

/-! ## Exports -/

namespace IndexRange

variable {ranges : List IndexRange}

theorem resolve_known (hknown : ranges ≠ []) (patterns : List String) (streams : NameSet)
    (range : AbsoluteRange) :
    IndexSettings.resolve ⟨patterns, ranges⟩ streams range = .ok (indicesFor ranges streams range) := by
  simp [IndexSettings.resolve, hknown]

theorem known_not_empty (hknown : ranges ≠ []) :
    (NameSet.ofList (ranges.map indexName)).isEmpty = false := by
  obtain ⟨e, rest, rfl⟩ := List.exists_cons_of_ne_nil hknown
  rw [← Bool.not_eq_true, NameSet.isEmpty_iff]
  exact fun hnone => hnone e.indexName (NameSet.mem_ofList.2 List.mem_cons_self)

theorem resolve_all (hknown : ranges ≠ []) (streams : NameSet) (range : AbsoluteRange) :
    IndexSettings.resolve ⟨ranges.map indexName, []⟩ streams range =
      .ok (NameSet.ofList (ranges.map indexName)) := by
  simp [IndexSettings.resolve, known_not_empty hknown]

end IndexRange

namespace ExportRequest

variable {σ : Type} {ranges : List IndexRange} {m : Matcher} {docs : List StoredDocument}

/-- Before the indices are found, an export fails whatever they are, or it comes to them. -/
theorem start_fails_or_resolves (r : ExportRequest) (allow : Bool) (now : Timestamp) :
    (∃ error, ∀ indices : IndexSettings, r.start ⟨indices, allow⟩ now = .error error) ∨
      ∃ range, r.timeRange.resolve now = .ok range ∧
        guardQueryString r.queryString allow = .ok () := by
  cases hrange : r.timeRange.resolve now with
  | error fault =>
    exact .inl ⟨.validation fault.message, fun indices => start_of_fault (by simp [faults, hrange])⟩
  | ok range =>
    cases hguard : guardQueryString r.queryString allow with
    | error fault =>
      exact .inl ⟨.engine fault, fun indices => start_of_fault (by simp [faults, hrange, hguard])⟩
    | ok => exact .inr ⟨range, rfl, rfl⟩

/-- **An export from the indices of its request** hands over what it hands over from all known
indices. -/
theorem export_indicesFor
    (hcovers : ∀ d ∈ docs, d.index ∈ ranges.map IndexRange.indexName → m.Covers ranges d)
    (hknown : ranges ≠ []) (r : ExportRequest) (patterns : List String) (allow : Bool)
    (now : Timestamp) (o : ValueOrder) (project : List String → Fields → Fields) (sink : Sink σ)
    (fuel : Nat) (s : σ) :
    let engine := Engine.searching o m docs project
    let pruned := r.export ⟨⟨patterns, ranges⟩, allow⟩ now engine sink fuel () s
    let full := r.export ⟨⟨ranges.map IndexRange.indexName, []⟩, allow⟩ now engine sink fuel () s
    pruned.chunks = full.chunks ∧ pruned.sink = full.sink := by
  intro engine pruned full
  rcases r.start_fails_or_resolves allow now with ⟨error, hstart⟩ | ⟨range, hrange, hguard⟩
  · have hends : ∀ indices : IndexSettings,
        r.export ⟨indices, allow⟩ now engine sink fuel () s = ⟨[], some (.error error), (), s⟩ :=
      fun indices => export_of_error _ _ _ _ _ (hstart indices)
    simp only [pruned, full, hends, and_self]
  · have hprunedStart : r.start ⟨⟨patterns, ranges⟩, allow⟩ now = _ :=
      start_of_ok hrange hguard (IndexRange.resolve_known hknown patterns r.streams range)
    have hfullStart : r.start ⟨⟨ranges.map IndexRange.indexName, []⟩, allow⟩ now = _ :=
      start_of_ok hrange hguard (IndexRange.resolve_all hknown r.streams range)
    rw [IndexRange.known_not_empty hknown] at hfullStart
    -- the first query of the one, and the same query over all known indices
    obtain ⟨q, hq⟩ :
        ∃ q, q = r.firstQuery (IndexRange.indicesFor ranges r.streams range) range allow := ⟨_, rfl⟩
    obtain ⟨all, hall⟩ : ∃ all, all = NameSet.ofList (ranges.map IndexRange.indexName) := ⟨_, rfl⟩
    have hselects : docs.filter (m.selects (q.within all)) = docs.filter (m.selects q) := by
      subst hq hall
      exact (Matcher.filter_selects_indicesFor hcovers _).symm
    have hfull : full = Run.perform engine sink fuel () ((r.firstRun q s).within all) := by
      subst hq hall
      exact export_of_fetch _ _ _ _ _ hfullStart
    by_cases hempty : (IndexRange.indicesFor ranges r.streams range).isEmpty = true
    · rw [if_pos hempty] at hprunedStart
      have hpruned : pruned = ⟨[], _, (), s⟩ := export_of_nothing _ _ _ _ _ hprunedStart
      have hnone : docs.filter (m.selects (q.within all)) = [] := by
        rw [hselects, List.filter_eq_nil_iff, hq]
        intro d _ hd
        exact NameSet.isEmpty_iff.1 hempty d.index (Matcher.selects_iff.1 hd).1
      obtain ⟨hchunks, hsink⟩ := Run.perform_nothing (r := (r.firstRun q s).within all) sink fuel
        (Matcher.ask_nothing o project hnone ())
      rw [hpruned, hfull, hchunks, hsink]
      exact ⟨rfl, rfl⟩
    · rw [if_neg hempty] at hprunedStart
      have hpruned : pruned = Run.perform engine sink fuel () (r.firstRun q s) := by
        subst hq
        exact export_of_fetch _ _ _ _ _ hprunedStart
      have hsame : Run.perform engine sink fuel () ((r.firstRun q s).within all) = _ :=
        Run.perform_within fuel () (r.firstRun q s) (Matcher.ask_within o project hselects)
      rw [hpruned, hfull, hsame, Run.chunks_within, Run.sink_within]
      exact ⟨rfl, rfl⟩

end ExportRequest

/-! ## Pruning -/

/-- What becomes of the indices of requests when only those that meet them are searched. -/
structure PrunesExactly (ranges : List IndexRange) : Prop where
  /-- A covered document in the scope of a request is in an index that is found. -/
  keeps : ∀ (m : Matcher) (streams : NameSet) (range : AbsoluteRange) (d : StoredDocument),
    m.Covers ranges d → m.inScope streams range d = true →
    d.index ∈ IndexRange.indicesFor ranges streams range
  /-- When all documents of the known indices are covered, a query selects the same documents in the
  indices of its request as in all known ones. -/
  same_documents : ∀ (m : Matcher) (docs : List StoredDocument),
    (∀ d ∈ docs, d.index ∈ ranges.map IndexRange.indexName → m.Covers ranges d) →
    ∀ q : EngineQuery,
      docs.filter (m.selects (q.within (IndexRange.indicesFor ranges q.streams q.timeRange))) =
        docs.filter (m.selects (q.within (NameSet.ofList (ranges.map IndexRange.indexName))))
  /-- So does a whole export: it hands over the same chunks and leaves the sink in the same state. -/
  same_export : ∀ (m : Matcher) (docs : List StoredDocument),
    (∀ d ∈ docs, d.index ∈ ranges.map IndexRange.indexName → m.Covers ranges d) → ranges ≠ [] →
    ∀ {σ : Type} (r : ExportRequest) (patterns : List String) (allow : Bool) (now : Timestamp)
      (o : ValueOrder) (project : List String → Fields → Fields) (sink : Sink σ) (fuel : Nat) (s : σ),
      let engine := Engine.searching o m docs project
      let pruned := r.export ⟨⟨patterns, ranges⟩, allow⟩ now engine sink fuel () s
      let full := r.export ⟨⟨ranges.map IndexRange.indexName, []⟩, allow⟩ now engine sink fuel () s
      pruned.chunks = full.chunks ∧ pruned.sink = full.sink
  /-- For an interval that is not empty, the indices that are found are those with an entry that has an
  instant in common with it and serves the streams. -/
  minimal : ∀ (streams : NameSet) (range : AbsoluteRange), range.start < range.stop → ∀ name,
    name ∈ IndexRange.indicesFor ranges streams range ↔
      ∃ e ∈ ranges, e.indexName = name ∧
        (∃ t, e.first ≤ t ∧ t ≤ e.last ∧ range.contains t = true) ∧
        (e.streams = [] ∨ streams.isEmpty = true ∨ ∃ s ∈ e.streams, s ∈ streams)

/-- **Pruning the indices loses nothing and keeps nothing in vain**, for every list of known indices
whose entries do not end before they begin. -/
theorem indices_pruned_exactly {ranges : List IndexRange} (hspans : ∀ e ∈ ranges, e.first ≤ e.last) :
    PrunesExactly ranges where
  keeps _ _ _ _ hcovers hscope := hcovers.mem_indicesFor hscope
  same_documents _ _ hcovers q := Matcher.filter_selects_indicesFor hcovers q
  same_export _ _ hcovers hknown _ r patterns allow now o project sink fuel s :=
    r.export_indicesFor hcovers hknown patterns allow now o project sink fuel s
  minimal _ _ hrange _ := IndexRange.mem_indicesFor_iff_common hspans hrange

/-- A document at the very end of its index, which is where the interval of the request begins; another
index serves other streams only. -/
theorem indices_pruned_exactly_at_end :
    let noon : Timestamp := ⟨43200, 0, by decide⟩
    let midnight : Timestamp := ⟨86400, 0, by decide⟩
    let ranges : List IndexRange :=
      [⟨"graylog_0", .epoch, noon, []⟩, ⟨"graylog_1", .epoch, midnight, ["alerts"]⟩]
    let m : Matcher := ⟨fun _ => some noon, fun _ => ["audit"], fun _ _ => true⟩
    let document : StoredDocument := ⟨"graylog_0", "a", .empty⟩
    let streams := NameSet.ofList ["audit"]
    let range : AbsoluteRange := ⟨noon, midnight⟩
    (∀ e ∈ ranges, e.first ≤ e.last) ∧ m.Covers ranges document ∧
      m.inScope streams range document = true ∧
      IndexRange.indicesFor ranges streams range = .ofList ["graylog_0"] ∧ PrunesExactly ranges := by
  intro noon midnight ranges m document streams range
  have hspans : ∀ e ∈ ranges, e.first ≤ e.last := by decide
  have hcovers : m.Covers ranges document := by
    refine ⟨⟨"graylog_0", .epoch, noon, []⟩, List.mem_cons_self, rfl, ?_, fun h => absurd rfl h⟩
    rintro t ⟨⟩
    exact ⟨by decide, by decide⟩
  exact ⟨hspans, hcovers, by decide, by decide, indices_pruned_exactly hspans⟩

end SearchExport
