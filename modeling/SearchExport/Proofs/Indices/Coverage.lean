import SearchExport.Engine.Indices
import SearchExport.Proofs.Paging.Reference

/-!
# Which indices are searched

The known indices of a request are those with an entry that meets it: a closed span of time against the
half-open interval of the request, and streams against streams, where none stands for all on either side.

* `AbsoluteRange.overlaps_of_contains`, `AbsoluteRange.overlaps_iff` — spans that meet an interval.
* `IndexRange.mem_indicesFor_iff`, `IndexRange.mem_indicesFor_iff_common` — the indices that are found.
* `Matcher` — what an engine compares documents with; `Matcher.Covers` — entries that tell the truth
  about a document; `Matcher.Covers.mem_indicesFor` — its index is found whenever it is asked for.
-/

set_option autoImplicit false

namespace SearchExport

/-! ## Spans of time -/

namespace AbsoluteRange

variable {r : AbsoluteRange} {first last t : Timestamp}

theorem contains_iff : r.contains t = true ↔ r.start ≤ t ∧ t < r.stop := by
  simp [contains]

/-- An instant of the interval that lies in the span. -/
theorem overlaps_of_contains (hfirst : first ≤ t) (hlast : t ≤ last) (ht : r.contains t = true) :
    r.overlaps first last = true := by
  rw [contains_iff] at ht
  simp only [overlaps, Bool.and_eq_true, decide_eq_true_eq]
  simp only [Timestamp.le_def, Timestamp.lt_def] at *
  omega

/-- **A span meets an interval that is not empty** when they have an instant in common: the later one of
the two beginnings. -/
theorem overlaps_iff (hr : r.start < r.stop) (hspan : first ≤ last) :
    r.overlaps first last = true ↔ ∃ t, first ≤ t ∧ t ≤ last ∧ r.contains t = true := by
  constructor
  · intro hoverlap
    simp only [overlaps, Bool.and_eq_true, decide_eq_true_eq] at hoverlap
    by_cases hlater : first ≤ r.start
    · exact ⟨r.start, hlater, hoverlap.2, contains_iff.2 ⟨.inr ⟨rfl, Nat.le_refl _⟩, hr⟩⟩
    · have hstart : r.start ≤ first := by
        simp only [Timestamp.le_def] at *
        omega
      exact ⟨first, .inr ⟨rfl, Nat.le_refl _⟩, hspan, contains_iff.2 ⟨hstart, hoverlap.1⟩⟩
  · rintro ⟨t, hfirst, hlast, ht⟩
    exact overlaps_of_contains hfirst hlast ht

end AbsoluteRange

/-! ## Indices -/

namespace IndexRange

variable {ranges : List IndexRange} {streams : NameSet} {range : AbsoluteRange}

theorem serves_iff {e : IndexRange} :
    e.serves streams = true ↔
      e.streams = [] ∨ streams.isEmpty = true ∨ ∃ s ∈ e.streams, s ∈ streams := by
  simp [serves, NameSet.meets_iff, or_assoc]

theorem mem_indicesFor_iff {name : String} :
    name ∈ indicesFor ranges streams range ↔
      ∃ e ∈ ranges, e.indexName = name ∧ range.overlaps e.first e.last = true ∧
        e.serves streams = true := by
  simp only [indicesFor, NameSet.mem_ofList, List.mem_map, List.mem_filter, Bool.and_eq_true]
  constructor
  · rintro ⟨e, ⟨he, hmeets⟩, hname⟩
    exact ⟨e, he, hname, hmeets⟩
  · rintro ⟨e, he, hname, hmeets⟩
    exact ⟨e, ⟨he, hmeets⟩, hname⟩

/-- **An index is found** exactly when one of its entries has an instant in common with the request and
serves its streams. -/
theorem mem_indicesFor_iff_common (hspans : ∀ e ∈ ranges, e.first ≤ e.last)
    (hrange : range.start < range.stop) {name : String} :
    name ∈ indicesFor ranges streams range ↔
      ∃ e ∈ ranges, e.indexName = name ∧
        (∃ t, e.first ≤ t ∧ t ≤ e.last ∧ range.contains t = true) ∧
        (e.streams = [] ∨ streams.isEmpty = true ∨ ∃ s ∈ e.streams, s ∈ streams) := by
  rw [mem_indicesFor_iff]
  refine exists_congr fun e => and_congr_right fun he => and_congr_right fun _ => ?_
  rw [AbsoluteRange.overlaps_iff hrange (hspans e he), serves_iff]

/-- Every index that is found is known. -/
theorem mem_known_of_mem_indicesFor {name : String} (h : name ∈ indicesFor ranges streams range) :
    name ∈ NameSet.ofList (ranges.map indexName) := by
  obtain ⟨e, he, hname, _⟩ := mem_indicesFor_iff.1 h
  exact NameSet.mem_ofList.2 (List.mem_map.2 ⟨e, he, hname⟩)

end IndexRange

/-! ## Documents -/

/-- What an engine reads off the documents that it compares with a query. -/
structure Matcher where
  /-- The time of a document; without one it matches no query. -/
  time : StoredDocument → Option Timestamp
  /-- The streams that a document is in. -/
  streams : StoredDocument → List String
  /-- Whether a document matches a query string. -/
  accepts : String → StoredDocument → Bool

namespace Matcher

variable (m : Matcher)

/-- Whether a document is in one of the streams, or in any when there are none, and in the interval. -/
def inScope (streams : NameSet) (range : AbsoluteRange) (d : StoredDocument) : Bool :=
  (m.time d).any range.contains && (streams.isEmpty || (m.streams d).any fun s => decide (s ∈ streams))

/-- Whether a document matches a query. -/
def selects (q : EngineQuery) (d : StoredDocument) : Bool :=
  decide (d.index ∈ q.indices) && m.inScope q.streams q.timeRange d && m.accepts q.queryString d

/-- An entry of the index of a document spans its time and, when it names streams, names all streams of
the document. -/
def Covers (ranges : List IndexRange) (d : StoredDocument) : Prop :=
  ∃ e ∈ ranges, e.indexName = d.index ∧ (∀ t ∈ m.time d, e.first ≤ t ∧ t ≤ e.last) ∧
    (e.streams ≠ [] → ∀ s ∈ m.streams d, s ∈ e.streams)

variable {m} {ranges : List IndexRange} {streams : NameSet} {range : AbsoluteRange}
variable {d : StoredDocument}

theorem inScope_iff :
    m.inScope streams range d = true ↔
      (∃ t ∈ m.time d, range.contains t = true) ∧
        (streams.isEmpty = true ∨ ∃ s ∈ m.streams d, s ∈ streams) := by
  simp only [inScope, Bool.and_eq_true, Bool.or_eq_true, Option.any_eq_true, List.any_eq_true,
    decide_eq_true_eq, Option.mem_def]

theorem selects_iff {q : EngineQuery} :
    m.selects q d = true ↔
      d.index ∈ q.indices ∧ m.inScope q.streams q.timeRange d = true ∧
        m.accepts q.queryString d = true := by
  simp only [selects, Bool.and_eq_true, decide_eq_true_eq, and_assoc]

/-- **The index of a covered document is found** by every request that the document is in the scope
of. -/
theorem Covers.mem_indicesFor (hcovers : m.Covers ranges d)
    (hscope : m.inScope streams range d = true) : d.index ∈ IndexRange.indicesFor ranges streams range := by
  obtain ⟨e, he, hname, htime, hstreams⟩ := hcovers
  obtain ⟨⟨t, ht, hcontains⟩, hmeets⟩ := inScope_iff.1 hscope
  obtain ⟨hfirst, hlast⟩ := htime t ht
  refine IndexRange.mem_indicesFor_iff.2 ⟨e, he, hname,
    AbsoluteRange.overlaps_of_contains hfirst hlast hcontains, IndexRange.serves_iff.2 ?_⟩
  by_cases hall : e.streams = []
  · exact .inl hall
  · -- the stream that the document shares with the request is one of the entry
    rcases hmeets with hempty | ⟨s, hs, hmem⟩
    · exact .inr (.inl hempty)
    · exact .inr (.inr ⟨s, hstreams hall s hs, hmem⟩)

end Matcher

end SearchExport
