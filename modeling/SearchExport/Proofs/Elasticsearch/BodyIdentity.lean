import SearchExport.Proofs.Elasticsearch.TimeFilter
import SearchExport.Proofs.Json.SameData

/-!
# The body determines the search

Each part of a query has a place in the body that nothing else shares, so that bodies of the same data come
from queries for the same search.  What a body does not show: the indices, the time after the millisecond, and
the query string with its switch when it matches everything.

* `Timestamp.millisText_eq_iff` — written bounds are equal when the bounds are, cut to milliseconds.
* `Value.SameData.path?` — the same data has the same data at the end of every path.
* `EngineQuery.SameSearch` — what two bodies have in common apart from the cursor.
  `EngineQuery.sameSearch_of_sameData` reads it off the bodies, path by path;
  `EngineQuery.commonMembers_congr` builds the bodies from it.
* `EngineQuery.body_determines_search` — the body of a query, and the body of the next one.
-/

set_option autoImplicit false

namespace SearchExport

/-! ## Written bounds -/

namespace Timestamp

/-- Nothing that is cut off is written. -/
theorem millisText_floorMillis (t : Timestamp) : t.floorMillis.millisText = t.millisText := by
  have hnanos : t.floorMillis.nanos = t.nanos / 1000000 * 1000000 := rfl
  have hleap : t.floorMillis.isLeap = t.isLeap := by
    rw [isLeap, isLeap, decide_eq_decide, hnanos]
    omega
  have hclock : t.floorMillis.clockText = t.clockText := by
    rw [clockText, clockText, hleap]
    rfl
  have hmillis : t.floorMillis.subsecond / 1000000 = t.subsecond / 1000000 := by
    rw [subsecond, subsecond, hnanos]
    omega
  rw [millisText, millisText, hclock, hmillis]
  rfl

theorem millisText_eq_iff {s t : Timestamp} :
    s.millisText = t.millisText ↔ s.floorMillis = t.floorMillis := by
  constructor
  · intro h
    have hread : some s.floorMillis = some t.floorMillis := by
      rw [← s.ofText?_millisText, ← t.ofText?_millisText, h]
    exact Option.some.inj hread
  · intro h
    rw [← s.millisText_floorMillis, ← t.millisText_floorMillis, h]

end Timestamp

/-! ## Members -/

/-- A member whose name is not in front is set behind. -/
theorem insertEntry_append {α : Type} {name : String} {front : List (String × α)}
    (h : name ∉ front.map Prod.fst) (v : α) (rest : List (String × α)) :
    insertEntry name v (front ++ rest) = front ++ insertEntry name v rest := by
  induction front with
  | nil => rfl
  | cons e front ih =>
    obtain ⟨k, w⟩ := e
    rw [List.map_cons, List.mem_cons, not_or] at h
    rw [List.cons_append, insertEntry, if_neg (Ne.symm h.1), ih h.2, List.cons_append]

namespace Value

/-- **The same data** has the same data at the end of every path. -/
theorem SameData.path? {v w : Value} (h : v.SameData w) (names : List String) :
    Option.Rel SameData (v.path? names) (w.path? names) := by
  induction names generalizing v w with
  | nil => exact .some h
  | cons name names ih =>
    cases h with
    | @object ms ns h =>
      have hname := h name
      simp only [Value.path?, members?, Option.bind_some]
      generalize lookupEntry name ms = member, lookupEntry name ns = member' at hname
      cases hname with
      | some hmember => exact ih hmember
      | none => exact .none
    | _ => exact .none

theorem SameData.at_path {v w a b : Value} (h : v.SameData w) {names : List String}
    (hv : v.path? names = some a) (hw : w.path? names = some b) : a.SameData b := by
  have hend := h.path? names
  rw [hv, hw] at hend
  cases hend with
  | some hab => exact hab

/-- The value with the member of a name set: in place when there is one, at the end otherwise. -/
def withMember (v : Value) (name : String) (member : Value) : Value :=
  match v with
  | .object ms => .object (insertEntry name member ms)
  | v => v

end Value

theorem SortOrder.text_inj {a b : SortOrder} : a.text = b.text ↔ a = b := by
  cases a <;> cases b <;> decide

namespace EngineQuery

/-! ## What a body shows -/

/-- The query string is blank or a single star, with blanks around it or not. -/
def IsMatchAll (queryString : String) : Prop :=
  Text.isBlank queryString = true ∨ Text.trim queryString = "*"

theorem isMatchAll_iff {queryString : String} : isMatchAll queryString = true ↔ IsMatchAll queryString := by
  simp only [isMatchAll, IsMatchAll, Bool.or_eq_true, decide_eq_true_eq, Text.isBlank_iff_trim]

/-- The queries ask for the same page size, fields, order, streams and milliseconds, and each for everything or
both for the same text under the same switch. -/
structure SameSearch (q p : EngineQuery) : Prop where
  size : q.size = p.size
  sourceFields : q.sourceFields = p.sourceFields
  sort : q.sort = p.sort
  streams : q.streams = p.streams
  start : q.timeRange.start.floorMillis = p.timeRange.start.floorMillis
  stop : q.timeRange.stop.floorMillis = p.timeRange.stop.floorMillis
  text : (IsMatchAll q.queryString ∧ IsMatchAll p.queryString) ∨
    (q.queryString = p.queryString ∧ q.allowLeadingWildcard = p.allowLeadingWildcard)

variable {q p : EngineQuery}

/-! ## From the bodies -/

theorem path?_size (q : EngineQuery) : q.body.path? ["size"] = some (.ofNat q.size) := by
  simp [body, commonMembers, Value.path?, Value.members?, lookupEntry]

theorem path?_sourceFields (q : EngineQuery) :
    q.body.path? ["_source", "includes"] = some (.ofTexts q.sourceFields) := by
  simp [body, commonMembers, Value.path?, Value.members?, lookupEntry]

theorem path?_sort (q : EngineQuery) : q.body.path? ["sort"] = some (.array (q.sort.map sortClause)) := by
  simp [body, commonMembers, Value.path?, Value.members?, lookupEntry]

theorem path?_must (q : EngineQuery) :
    q.body.path? ["query", "bool", "must"] = some (.array [q.textClause]) := by
  simp [body, commonMembers, Value.path?, Value.members?, lookupEntry]

theorem path?_searchAfter (q : EngineQuery) :
    q.body.path? ["search_after"] = q.searchAfter.map .array := by
  cases h : q.searchAfter <;> simp [body, h, commonMembers, Value.path?, Value.members?, lookupEntry]

theorem eq_of_sameData_sortClause {k l : SortKey} (h : (sortClause k).SameData (sortClause l)) : k = l := by
  obtain ⟨field, order⟩ := k
  obtain ⟨field', order'⟩ := l
  have hpath : ∀ k : SortKey, (sortClause k).path? [field, "order"] =
      if k.field = field then some (.string k.order.text) else none := by
    intro k
    by_cases hk : k.field = field <;> simp [sortClause, Value.path?, Value.members?, lookupEntry, hk]
  have hend := h.path? [field, "order"]
  rw [hpath, hpath, if_pos rfl] at hend
  by_cases hfield : field' = field
  · rw [if_pos hfield] at hend
    cases hend with
    | some hdirection =>
      have horder : order = order' := SortOrder.text_inj.1 (Value.sameData_string_iff.1 hdirection)
      rw [hfield, horder]
  · rw [if_neg hfield] at hend
    cases hend

theorem eq_of_sameData_sort {ks ls : List SortKey}
    (h : List.Forall₂ Value.SameData (ks.map sortClause) (ls.map sortClause)) : ks = ls := by
  rw [List.forall₂_map_left_iff, List.forall₂_map_right_iff] at h
  exact List.forall₂_eq_eq_eq ▸ h.imp fun _ _ => eq_of_sameData_sortClause

/-- The bounds stand in the filter by time. -/
theorem bounds_of_sameData (h : q.timeFilter.SameData p.timeFilter) :
    q.timeRange.start.floorMillis = p.timeRange.start.floorMillis ∧
      q.timeRange.stop.floorMillis = p.timeRange.stop.floorMillis := by
  have hbounds := h.at_path q.path?_timeFilter p.path?_timeFilter
  have hgte := hbounds.at_path (Value.path?_name "gte" _) (Value.path?_name "gte" _)
  have hlt := hbounds.at_path (Value.path?_name "lt" _) (Value.path?_name "lt" _)
  exact ⟨Timestamp.millisText_eq_iff.1 (Value.sameData_string_iff.1 hgte),
    Timestamp.millisText_eq_iff.1 (Value.sameData_string_iff.1 hlt)⟩

theorem streams_of_sameData (h : q.streamFilter.SameData p.streamFilter) : q.streams = p.streams := by
  have hpath : ∀ q : EngineQuery, q.streamFilter.path? ["terms", Field.streams] =
      some (.ofTexts q.streams.names) := by
    intro q
    simp [streamFilter, Value.path?, Value.members?, lookupEntry]
  have hnames := Value.sameData_ofTexts_iff.1 (h.at_path (hpath q) (hpath p))
  exact NameSet.ext fun name => by rw [NameSet.mem_def, NameSet.mem_def, hnames]

/-- The filter by time comes first, and one by streams after it when there are any. -/
theorem filters_of_sameData (h : List.Forall₂ Value.SameData q.filters p.filters) :
    q.timeFilter.SameData p.timeFilter ∧ q.streams = p.streams := by
  obtain ⟨htime, hrest⟩ := List.forall₂_cons.1 h
  refine ⟨htime, ?_⟩
  by_cases hq : q.streams.isEmpty = true <;> by_cases hp : p.streams.isEmpty = true
  · have hnone := NameSet.isEmpty_iff.1 hq
    have hnone' := NameSet.isEmpty_iff.1 hp
    exact NameSet.ext fun name => iff_of_false (hnone name) (hnone' name)
  · rw [if_pos hq, if_neg hp] at hrest
    cases hrest
  · rw [if_neg hq, if_pos hp] at hrest
    cases hrest
  · rw [if_neg hq, if_neg hp] at hrest
    exact streams_of_sameData (List.forall₂_cons.1 hrest).1

/-- The clause of a match-all has no place for a query string. -/
theorem path?_textClause (q : EngineQuery) (name : String) :
    q.textClause.path? ["query_string", name] =
      if isMatchAll q.queryString then none
      else lookupEntry name [("query", .string q.queryString),
        ("allow_leading_wildcard", .bool q.allowLeadingWildcard)] := by
  unfold textClause
  split
  · simp [Value.path?, Value.members?, lookupEntry]
  · exact Value.path?_name name _

theorem text_of_sameData (h : q.textClause.SameData p.textClause) :
    (IsMatchAll q.queryString ∧ IsMatchAll p.queryString) ∨
      (q.queryString = p.queryString ∧ q.allowLeadingWildcard = p.allowLeadingWildcard) := by
  simp only [← isMatchAll_iff]
  have hquery := h.path? ["query_string", "query"]
  rw [path?_textClause, path?_textClause] at hquery
  by_cases hq : isMatchAll q.queryString = true <;> by_cases hp : isMatchAll p.queryString = true
  · exact .inl ⟨hq, hp⟩
  · rw [if_pos hq, if_neg hp] at hquery
    cases hquery
  · rw [if_neg hq, if_pos hp] at hquery
    cases hquery
  · have htext := h.at_path ((q.path?_textClause "query").trans (if_neg hq))
      ((p.path?_textClause "query").trans (if_neg hp))
    have hswitch := h.at_path ((q.path?_textClause "allow_leading_wildcard").trans (if_neg hq))
      ((p.path?_textClause "allow_leading_wildcard").trans (if_neg hp))
    exact .inr ⟨Value.sameData_string_iff.1 htext, Value.sameData_bool_iff.1 hswitch⟩

/-- **Bodies of the same data** come from queries for the same search. -/
theorem sameSearch_of_sameData (h : q.body.SameData p.body) : q.SameSearch p := by
  have hfilters := Value.sameData_array_iff.1 (h.at_path q.path?_filters p.path?_filters)
  obtain ⟨htime, hstreams⟩ := filters_of_sameData hfilters
  obtain ⟨hstart, hstop⟩ := bounds_of_sameData htime
  have hsort := Value.sameData_array_iff.1 (h.at_path q.path?_sort p.path?_sort)
  have hmust := Value.sameData_array_iff.1 (h.at_path q.path?_must p.path?_must)
  exact {
    size := Value.sameData_ofNat_iff.1 (h.at_path q.path?_size p.path?_size)
    sourceFields := Value.sameData_ofTexts_iff.1 (h.at_path q.path?_sourceFields p.path?_sourceFields)
    sort := eq_of_sameData_sort hsort
    streams := hstreams
    start := hstart
    stop := hstop
    text := text_of_sameData (List.forall₂_cons.1 hmust).1 }

/-! ## To the bodies -/

theorem textClause_congr (h : (IsMatchAll q.queryString ∧ IsMatchAll p.queryString) ∨
    (q.queryString = p.queryString ∧ q.allowLeadingWildcard = p.allowLeadingWildcard)) :
    q.textClause = p.textClause := by
  rcases h with ⟨hq, hp⟩ | ⟨htext, hswitch⟩
  · rw [textClause, textClause, if_pos (isMatchAll_iff.2 hq), if_pos (isMatchAll_iff.2 hp)]
  · rw [textClause, textClause, htext, hswitch]

/-- **Queries for the same search** have the same members in their bodies, up to the cursor. -/
theorem commonMembers_congr (h : q.SameSearch p) : q.commonMembers = p.commonMembers := by
  have hfilters : q.filters = p.filters := by
    simp only [filters, timeFilter, streamFilter, Timestamp.millisText_eq_iff.2 h.start,
      Timestamp.millisText_eq_iff.2 h.stop, h.streams]
  rw [commonMembers, commonMembers, h.size, h.sourceFields, h.sort, hfilters, textClause_congr h.text]

/-- The member for the cursor, which may be missing. -/
def cursorMembers (cursor : Option (List Value)) : List (String × Value) :=
  match cursor with
  | some values => [("search_after", .array values)]
  | none => []

theorem body_eq (q : EngineQuery) :
    q.body = .object (q.commonMembers ++ cursorMembers q.searchAfter) := rfl

theorem sameData_cursorMembers {a b : Option (List Value)}
    (h : Option.Rel (List.Forall₂ Value.SameData) a b) :
    Value.SameData (.object (cursorMembers a)) (.object (cursorMembers b)) := by
  cases h with
  | none => exact .refl _
  | some hvalues =>
    refine .object fun name => ?_
    simp only [cursorMembers, lookupEntry]
    split
    · exact .some (.array hvalues)
    · exact .none

/-! ## Both ways -/

/-- Bodies are equal when nothing that they show differs. -/
theorem body_eq_iff : q.body = p.body ↔ q.SameSearch p ∧ q.searchAfter = p.searchAfter := by
  constructor
  · intro h
    have hcursor : q.searchAfter.map Value.array = p.searchAfter.map Value.array := by
      rw [← path?_searchAfter, ← path?_searchAfter, h]
    exact ⟨sameSearch_of_sameData (h ▸ .refl _), Option.map_injective (fun _ _ => Value.array.inj) hcursor⟩
  · rintro ⟨hsearch, hcursor⟩
    rw [body_eq, body_eq, commonMembers_congr hsearch, hcursor]

/-- Bodies hold the same data when only the values of their cursors may differ, in what makes no difference. -/
theorem sameData_body_iff :
    q.body.SameData p.body ↔
      q.SameSearch p ∧ Option.Rel (List.Forall₂ Value.SameData) q.searchAfter p.searchAfter := by
  constructor
  · intro h
    refine ⟨sameSearch_of_sameData h, ?_⟩
    have hcursor := h.path? ["search_after"]
    rw [path?_searchAfter, path?_searchAfter] at hcursor
    generalize q.searchAfter = a, p.searchAfter = b at hcursor ⊢
    cases a <;> cases b <;> cases hcursor
    · exact .none
    · next hvalues => exact .some (Value.sameData_array_iff.1 hvalues)
  · rintro ⟨hsearch, hcursor⟩
    rw [body_eq, body_eq, commonMembers_congr hsearch]
    exact .of_append _ (sameData_cursorMembers hcursor)

/-! ## The next query -/

theorem insertEntry_cursorMembers (values : List Value) (cursor : Option (List Value)) :
    insertEntry "search_after" (.array values) (cursorMembers cursor) = cursorMembers (some values) := by
  cases cursor <;> rfl

theorem body_continueAfter (q : EngineQuery) (cursor : List Value) :
    (q.continueAfter cursor).body = q.body.withMember "search_after" (.array cursor) := by
  have hcommon : "search_after" ∉ q.commonMembers.map Prod.fst := by
    simp [commonMembers]
  have hset : q.body.withMember "search_after" (.array cursor) =
      .object (insertEntry "search_after" (.array cursor)
        (q.commonMembers ++ cursorMembers q.searchAfter)) := rfl
  rw [hset, insertEntry_append hcommon, insertEntry_cursorMembers]
  rfl

/-- **The body determines the search**: for any two queries, equal bodies mean equal page sizes, fields, orders
with their directions, streams, bounds up to the millisecond and cursors, and match-alls or equal query strings
under equal switches; and the other way round.  Bodies that only compare as equal mean the same, with cursors
that compare as equal.  The body of the next query is this one with the cursor set. -/
theorem body_determines_search (q p : EngineQuery) :
    (q.body = p.body ↔ q.SameSearch p ∧ q.searchAfter = p.searchAfter) ∧
    (q.body.SameData p.body ↔
      q.SameSearch p ∧ Option.Rel (List.Forall₂ Value.SameData) q.searchAfter p.searchAfter) ∧
    ∀ cursor, (q.continueAfter cursor).body = q.body.withMember "search_after" (.array cursor) :=
  ⟨body_eq_iff, sameData_body_iff, q.body_continueAfter⟩

end EngineQuery

end SearchExport
