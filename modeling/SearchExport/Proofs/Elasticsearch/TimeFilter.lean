import SearchExport.Elasticsearch.Body
import SearchExport.Proofs.Request.Build
import SearchExport.Proofs.Timestamp.Reading

/-!
# The filter by time

The body of a search request names the bounds of the interval with three digits of fraction.  Documents are
dated to the millisecond, so that the filter is exact when the bounds are as well; a bound between two
milliseconds moves to the earlier one.

* `Value.timeBound?` — the instant that a body denotes as a bound; `EngineQuery.timeBound?_body` — it is
  the bound of the interval, cut to milliseconds.
* `Timestamp.floorMillis_le`, `Timestamp.floorMillis_le_iff` — cut instants against whole milliseconds.
* `EngineQuery.time_filter_iff` — which documents of the interval the filter lets through.
-/

set_option autoImplicit false

namespace SearchExport

/-! ## Whole milliseconds -/

namespace Timestamp

/-- Whether nothing is cut off at the end of a millisecond. -/
def IsWholeMillis (t : Timestamp) : Prop := t.nanos % 1000000 = 0

instance (t : Timestamp) : Decidable t.IsWholeMillis := inferInstanceAs (Decidable (_ = 0))

variable {s t : Timestamp}

theorem eq_iff : s = t ↔ s.seconds = t.seconds ∧ s.nanos = t.nanos := by
  obtain ⟨seconds, nanos, _⟩ := s
  obtain ⟨seconds', nanos', _⟩ := t
  simp

theorem floorMillis_of_isWholeMillis (h : t.IsWholeMillis) : t.floorMillis = t := by
  unfold IsWholeMillis at h
  rw [eq_iff]
  exact ⟨rfl, by simp only [floorMillis]; omega⟩

/-- A whole millisecond is not before an instant exactly when it comes after the millisecond of the
instant, or is the instant itself. -/
theorem le_iff_floorMillis (ht : t.IsWholeMillis) :
    s ≤ t ↔ s.floorMillis < t ∨ (s.floorMillis = t ∧ s = t) := by
  unfold IsWholeMillis at ht
  simp only [eq_iff, le_def, lt_def, floorMillis]
  omega

/-- A whole millisecond is before an instant exactly when it comes before the millisecond of the instant,
or when something is cut off after it. -/
theorem lt_iff_floorMillis (ht : t.IsWholeMillis) :
    t < s ↔ t < s.floorMillis ∨ (s.floorMillis = t ∧ t < s) := by
  unfold IsWholeMillis at ht
  simp only [eq_iff, lt_def, floorMillis]
  omega

end Timestamp

/-! ## Bounds -/

namespace Value

/-- The value at the end of a path of names. -/
def path? : List String → Value → Option Value
  | [], v => some v
  | name :: names, v => (v.members?.bind (lookupEntry name)).bind (path? names)

theorem path?_name (name : String) (members : List (String × Value)) :
    path? [name] (.object members) = lookupEntry name members := by
  simp [path?, members?]

/-- The instant that the first filter by time of a body denotes as its bound of the given name. -/
def timeBound? (name : String) (body : Value) : Option Timestamp := do
  let filters ← (body.path? ["query", "bool", "filter"]).bind items?
  let bounds ← filters.findSome? (path? ["range", Field.timestamp])
  let bound ← (bounds.path? [name]).bind text?
  Timestamp.ofText? bound

end Value

namespace EngineQuery

theorem path?_filters (q : EngineQuery) :
    q.body.path? ["query", "bool", "filter"] = some (.array q.filters) := by
  simp [body, commonMembers, Value.path?, Value.members?, lookupEntry]

theorem path?_timeFilter (q : EngineQuery) :
    q.timeFilter.path? ["range", Field.timestamp] = some (.object [
      ("gte", .string q.timeRange.start.millisText), ("lt", .string q.timeRange.stop.millisText),
      ("format", .string "strict_date_optional_time")]) := by
  simp [timeFilter, Value.path?, Value.members?, lookupEntry]

/-- **The bounds of the filter** denote the bounds of the interval, cut to milliseconds. -/
theorem timeBound?_body (q : EngineQuery) :
    q.body.timeBound? "gte" = some q.timeRange.start.floorMillis ∧
      q.body.timeBound? "lt" = some q.timeRange.stop.floorMillis := by
  have hbound : ∀ name text, lookupEntry name [("gte", .string q.timeRange.start.millisText),
      ("lt", .string q.timeRange.stop.millisText), ("format", .string "strict_date_optional_time")] =
        some (Value.string text) → q.body.timeBound? name = Timestamp.ofText? text := by
    intro name text hname
    simp only [Value.timeBound?, path?_filters, Option.bind_eq_bind, Option.bind_some, Value.items?, filters,
      List.findSome?_cons, path?_timeFilter, Value.path?_name, hname, Value.text?]
  constructor
  · rw [hbound "gte" q.timeRange.start.millisText (by simp [lookupEntry])]
    exact q.timeRange.start.ofText?_millisText
  · rw [hbound "lt" q.timeRange.stop.millisText (by simp [lookupEntry])]
    exact q.timeRange.stop.ofText?_millisText

/-- **Which whole milliseconds of the interval the filter lets through**, for every query: the body denotes
bounds between which the two agree.  The lower bound itself is let through although the interval may begin
after it, and the upper bound is not although the interval may go on beyond it; with bounds that are whole
milliseconds the filter is exact. -/
theorem time_filter_iff (q : EngineQuery) :
    ∃ gte lt, q.body.timeBound? "gte" = some gte ∧ q.body.timeBound? "lt" = some lt ∧
      (∀ t : Timestamp, t.IsWholeMillis →
        (q.timeRange.contains t = true ↔
          (gte < t ∨ gte = t ∧ q.timeRange.start = t) ∧
            (t < lt ∨ lt = t ∧ t < q.timeRange.stop))) ∧
      (q.timeRange.start.IsWholeMillis → q.timeRange.stop.IsWholeMillis → ∀ t : Timestamp,
        (q.timeRange.contains t = true ↔ gte ≤ t ∧ t < lt)) := by
  obtain ⟨hgte, hlt⟩ := q.timeBound?_body
  refine ⟨_, _, hgte, hlt, fun t ht => ?_, fun hstart hstop t => ?_⟩
  · simp only [AbsoluteRange.contains, Bool.and_eq_true, decide_eq_true_eq]
    exact and_congr (Timestamp.le_iff_floorMillis ht) (Timestamp.lt_iff_floorMillis ht)
  · rw [Timestamp.floorMillis_of_isWholeMillis hstart, Timestamp.floorMillis_of_isWholeMillis hstop]
    simp [AbsoluteRange.contains]

/-- An interval from half a millisecond after midnight to half a millisecond after the next one: the first
midnight is let through and the second one is not, but only the second one is in the interval. -/
theorem time_filter_of_halfMillis :
    let start : Timestamp := ⟨1420070400, 500000, by decide⟩
    let stop : Timestamp := ⟨1420156800, 500000, by decide⟩
    let draft : RequestDraft := { timeRange := .absolute start stop }
    let q := draft.normalized.firstQuery (.ofList ["graylog_0"]) ⟨start, stop⟩ false
    (draft.timeRange.resolve .epoch = .ok q.timeRange ∧
        q.timeRange.contains start.floorMillis = false ∧
        q.timeRange.contains stop.floorMillis = true) ∧
      ¬ ∃ gte lt, q.body.timeBound? "gte" = some gte ∧ q.body.timeBound? "lt" = some lt ∧
        ∀ t : Timestamp, t.IsWholeMillis → (q.timeRange.contains t = true ↔ gte ≤ t ∧ t < lt) := by
  intro start stop draft q
  have hstart : q.timeRange.contains start.floorMillis = false := by decide
  refine ⟨⟨rfl, hstart, by decide⟩, ?_⟩
  rintro ⟨gte, lt, hgte, hlt, hexact⟩
  obtain ⟨hgte', hlt'⟩ := q.timeBound?_body
  obtain rfl := Option.some.inj (hgte.symm.trans hgte')
  obtain rfl := Option.some.inj (hlt.symm.trans hlt')
  have hselected := (hexact start.floorMillis (by decide)).2 (by decide)
  rw [hstart] at hselected
  cases hselected

end EngineQuery

end SearchExport
