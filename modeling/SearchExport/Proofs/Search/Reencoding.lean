import SearchExport.Proofs.Document.Rereading
import SearchExport.Proofs.Timestamp.Reading
import SearchExport.Search.Codec

/-!
# Searches survive re-encoding

Every part of a stored search is read from its written form as it was, with one exception: a parameter
whose value is null is read as one without a value.  A search that was read has no such parameter.

* `TimeRange.rereads`, `DerivedTimeRange.rereads`, `Decorator.rereads`, `SearchType.rereads`,
  `Query.rereads`, … — the parts.
* `Parameter.Settled` — the values of a parameter can be read again; `Parameter.settled_of_ofDocument?` —
  those of a parameter that was read can.
* `Search.survives_reencoding` — the whole search.
-/

set_option autoImplicit false

namespace SearchExport

open Document (Rereads rereads_listOf rereads_optional fields?_ofValue variant?_ofValue fieldOr?
  listOf? optional? natBelow?)

/-! ## Scalars and sets -/

theorem rereads_text (s : String) : Rereads Document.text? .string s := rfl

theorem Timestamp.rereads (t : Timestamp) :
    Rereads Timestamp.ofDocument? (fun t => .string t.text) t := by
  show (some t.text).bind Timestamp.ofText? = some t
  rw [Option.bind_some, t.ofText?_text]

theorem rereads_natBelow {limit n : Nat} (h : n < limit) :
    Rereads (natBelow? limit) .ofNat n := by
  have hrange : (0 : Int) ≤ n ∧ (n : Int) < limit := by omega
  show (if (0 : Int) ≤ n ∧ (n : Int) < limit then some (n : Int).toNat else none) = some n
  rw [if_pos hrange, Int.toNat_natCast]

theorem rereads_word (n : UInt64) : Rereads Document.word? (fun n => .ofNat n.toNat) n := by
  have hread : natBelow? UInt64.size (.ofValue (.ofNat n.toNat)) = some n.toNat :=
    rereads_natBelow n.toNat_lt
  show (natBelow? UInt64.size (.ofValue (.ofNat n.toNat))).map UInt64.ofNat = some n
  rw [hread, Option.map_some, UInt64.ofNat_toNat]

theorem optionalText_rereads (o : Option String) :
    Rereads (optional? Document.text?) optionalText o :=
  rereads_optional fun s _ => ⟨rereads_text s, by simp⟩

theorem NameSet.ofList_names (s : NameSet) : NameSet.ofList s.names = s :=
  NameSet.ext fun _ => NameSet.mem_ofList

theorem NameSet.rereads (s : NameSet) : Rereads NameSet.ofDocument? NameSet.toValue s := by
  have hread : listOf? Document.text? (.ofValue (.ofTexts s.names)) = some s.names :=
    rereads_listOf fun x _ => rereads_text x
  show (listOf? Document.text? (.ofValue (.ofTexts s.names))).map NameSet.ofList = some s
  rw [hread, Option.map_some, NameSet.ofList_names]

/-! ## Time ranges -/

theorem readBounds?_ofValue (start stop : Timestamp) :
    readBounds? (.ofValue (.object [("from", .string start.text), ("to", .string stop.text)])) =
      some (start, stop) := by
  have hstart : Timestamp.ofDocument? (.ofValue (.string start.text)) = some start := start.rereads
  have hstop : Timestamp.ofDocument? (.ofValue (.string stop.text)) = some stop := stop.rereads
  have hfields := fields?_ofValue .content [("from", .string start.text), ("to", .string stop.text)]
    ["from", "to"] rfl (by decide)
  simp [readBounds?, hfields, Document.ofMembers, hstart, hstop]

theorem readLength?_ofValue (seconds : UInt64) :
    readLength? (.ofValue (.object [("range", .ofNat seconds.toNat)])) = some seconds := by
  have hlength : Document.word? (.ofValue (.ofNat seconds.toNat)) = some seconds :=
    rereads_word seconds
  have hfields := fields?_ofValue .content [("range", .ofNat seconds.toNat)] ["range"] rfl
    (by decide)
  rw [readLength?, hfields, Option.bind_eq_bind, Option.bind_some, Document.ofMembers,
    Document.required?_cons, if_pos rfl, hlength]

section Ranges

variable {how : Document.Reading} {d rest : Document}

theorem TimeRange.ofDocument?_absolute {start stop : Timestamp}
    (htag : d.variant? how "type" ["absolute", "relative"] = some ("absolute", rest))
    (hrest : readBounds? rest = some (start, stop)) :
    TimeRange.ofDocument? how d = some (.absolute start stop) := by
  simp [TimeRange.ofDocument?, htag, hrest]

theorem TimeRange.ofDocument?_relative {n : UInt64}
    (htag : d.variant? how "type" ["absolute", "relative"] = some ("relative", rest))
    (hrest : readLength? rest = some n) : TimeRange.ofDocument? how d = some (.relative n) := by
  simp [TimeRange.ofDocument?, htag, hrest]

theorem DerivedTimeRange.ofDocument?_absolute {start stop : Timestamp}
    (htag : d.variant? how "type" ["absolute", "relative", "offset"] = some ("absolute", rest))
    (hrest : readBounds? rest = some (start, stop)) :
    DerivedTimeRange.ofDocument? how d = some (.absolute start stop) := by
  simp [DerivedTimeRange.ofDocument?, htag, hrest]

theorem DerivedTimeRange.ofDocument?_relative {n : UInt64}
    (htag : d.variant? how "type" ["absolute", "relative", "offset"] = some ("relative", rest))
    (hrest : readLength? rest = some n) :
    DerivedTimeRange.ofDocument? how d = some (.relative n) := by
  simp [DerivedTimeRange.ofDocument?, htag, hrest]

theorem DerivedTimeRange.ofDocument?_offset {written : Document} {n : UInt32}
    (htag : d.variant? how "type" ["absolute", "relative", "offset"] = some ("offset", rest))
    (hfields : rest.fields? .content ["intervals"] = some [("intervals", written)])
    (hcount : natBelow? UInt32.size written = some n.toNat) :
    DerivedTimeRange.ofDocument? how d = some (.offset n) := by
  simp [DerivedTimeRange.ofDocument?, htag, hfields, hcount]

end Ranges

theorem TimeRange.rereads (how : Document.Reading) (t : TimeRange) :
    Rereads (TimeRange.ofDocument? how) TimeRange.toValue t := by
  cases t with
  | absolute start stop =>
    exact ofDocument?_absolute (variant?_ofValue how (by decide) (by simp))
      (readBounds?_ofValue start stop)
  | relative seconds =>
    exact ofDocument?_relative (variant?_ofValue how (by decide) (by simp))
      (readLength?_ofValue seconds)

theorem DerivedTimeRange.rereads (how : Document.Reading) (t : DerivedTimeRange) :
    Rereads (DerivedTimeRange.ofDocument? how) DerivedTimeRange.toValue t := by
  cases t with
  | absolute start stop =>
    exact ofDocument?_absolute (variant?_ofValue how (by decide) (by simp))
      (readBounds?_ofValue start stop)
  | relative seconds =>
    exact ofDocument?_relative (variant?_ofValue how (by decide) (by simp))
      (readLength?_ofValue seconds)
  | offset n =>
    exact ofDocument?_offset (variant?_ofValue how (by decide) (by simp))
      (fields?_ofValue .content _ _ rfl (by decide)) (rereads_natBelow n.toNat_lt)

theorem DerivedTimeRange.toValue_ne_null (t : DerivedTimeRange) : t.toValue ≠ .null := by
  cases t <;> nofun

/-! ## Sort keys -/

theorem SortOrder.rereads (how : Document.Reading) (o : SortOrder) :
    Rereads (SortOrder.ofDocument? how) (fun o => .string o.text) o := by
  cases o <;> rfl

theorem SortKey.rereads (how : Document.Reading) (k : SortKey) :
    Rereads (SortKey.ofDocument? how) SortKey.toValue k := by
  have horder : SortOrder.ofDocument? how (.ofValue (.string k.order.text)) = some k.order :=
    SortOrder.rereads how k.order
  have hfield : Document.text? (.ofValue (.string k.field)) = some k.field := rfl
  have hfields := fields?_ofValue how [("field", .string k.field), ("order", .string k.order.text)]
    ["field", "order"] rfl (by decide)
  unfold Rereads SortKey.ofDocument?
  simp [toValue, hfields, Document.ofMembers, hfield, horder]

/-! ## Decorators -/

theorem Decoration.rereads (d : Decoration) :
    Rereads Decoration.ofDocument? (fun d => .object d.members) d := by
  unfold Rereads Decoration.ofDocument?
  have htext : ∀ s, Document.text? (.ofValue (.string s)) = some s := fun _ => rfl
  have hflag : ∀ b, Document.flag? (.ofValue (.bool b)) = some b := fun _ => rfl
  cases d with
  | formatString target pattern requireAll =>
    have hfields := fields?_ofValue .content
      [("target_field", .string target), ("format", .string pattern),
        ("require_all_fields", .bool requireAll)]
      ["target_field", "format", "require_all_fields"] rfl (by decide)
    dsimp only [members]
    rw [variant?_ofValue .content (by decide) (by simp)]
    simp [hfields, Document.ofMembers, htext, hflag]
  | syslogSeverity source target =>
    have hfields := fields?_ofValue .content
      [("source_field", .string source), ("target_field", .string target)]
      ["source_field", "target_field"] rfl (by decide)
    dsimp only [members]
    rw [variant?_ofValue .content (by decide) (by simp)]
    simp [hfields, Document.ofMembers, htext]
  | fieldRename source target =>
    have hfields := fields?_ofValue .content
      [("from", .string source), ("to", .string target)]
      ["from", "to"] rfl (by decide)
    dsimp only [members]
    rw [variant?_ofValue .content (by decide) (by simp)]
    simp [hfields, Document.ofMembers, htext]

theorem rereads_intWithin {limit : Nat} {i : Int} (hlow : -(limit : Int) ≤ i) (hhigh : i < limit) :
    Rereads (Document.intWithin? limit) (fun i => .number (.int i)) i := by
  show (if -(limit : Int) ≤ i ∧ i < limit then some i else none) = some i
  rw [if_pos ⟨hlow, hhigh⟩]

theorem rereads_order (n : Int32) :
    Rereads (fun d => (d.intWithin? (Nat.pow 2 31)).map Int32.ofInt)
      (fun n => .number (.int n.toInt)) n := by
  have hlimit : ((Nat.pow 2 31 : Nat) : Int) = 2 ^ 31 := by decide
  have hread : Document.intWithin? (Nat.pow 2 31) (.ofValue (.number (.int n.toInt))) =
      some n.toInt :=
    rereads_intWithin (hlimit ▸ n.le_toInt) (hlimit ▸ n.toInt_lt)
  show (Document.intWithin? (Nat.pow 2 31) (.ofValue (.number (.int n.toInt)))).map Int32.ofInt =
    some n
  rw [hread, Option.map_some, Int32.ofInt_toInt]

theorem Decoration.own_names (d : Decoration) : ∀ m ∈ d.members, m.1 ∉ ["id", "order"] := by
  cases d <;> simp [members]

theorem Decorator.ofDocument?_record {entries : List (String × Document)} {id order : Document}
    {name : Option String} {n : Int32} {what : Decoration}
    (hfields : Document.fields? .json ["id", "order"] (.record entries) =
      some [("id", id), ("order", order)])
    (hid : optional? Document.text? id = some name)
    (horder : (order.intWithin? (Nat.pow 2 31)).map Int32.ofInt = some n)
    (hrest : Decoration.ofDocument?
      (.record (entries.filter fun e => !(["id", "order"].contains e.1))) = some what) :
    Decorator.ofDocument? (.record entries) = some ⟨name, n, what⟩ := by
  simp only [ofDocument?, hfields, hrest]
  simp [hid, horder]

theorem Decorator.rereads (d : Decorator) : Rereads Decorator.ofDocument? Decorator.toValue d := by
  have hrest : (Document.ofMembers (("id", optionalText d.id) ::
      ("order", .number (.int d.order.toInt)) :: d.decoration.members)).filter
        (fun e => !(["id", "order"].contains e.1)) = Document.ofMembers d.decoration.members := by
    have hown := Document.forall_name_ofMembers (· ∉ ["id", "order"]) d.decoration.own_names
    rw [Document.ofMembers, Document.ofMembers, List.filter_cons_of_neg (by simp),
      List.filter_cons_of_neg (by simp), List.filter_eq_self]
    intro e he
    simpa using hown e he
  refine Decorator.ofDocument?_record ?_ (optionalText_rereads d.id) (rereads_order d.order) ?_
  · exact Document.fields?_ofMembers_append .json
      [("id", optionalText d.id), ("order", .number (.int d.order.toInt))] d.decoration.members
      ["id", "order"] rfl (by decide) d.decoration.own_names
  · rw [hrest]
    exact d.decoration.rereads

/-! ## Search types -/

theorem rereads_sort (how : Document.Reading) (sort : List SortKey) :
    Rereads (listOf? (SortKey.ofDocument? how)) (fun sort => .array (sort.map SortKey.toValue))
      sort :=
  rereads_listOf fun k _ => SortKey.rereads how k

theorem MessageList.rereads (l : MessageList) :
    Rereads MessageList.ofDocument? MessageList.toValue l := by
  have hid : Document.text? (.ofValue (.string l.id)) = some l.id := rfl
  have htimeRange : optional? (DerivedTimeRange.ofDocument? .content)
      (.ofValue (.ofOption (l.timeRange.map DerivedTimeRange.toValue))) = some l.timeRange :=
    rereads_optional fun t _ => ⟨t.rereads .content, t.toValue_ne_null⟩
  have hquery : optional? Document.text? (.ofValue (optionalText l.query)) = some l.query :=
    optionalText_rereads l.query
  have hstreams : NameSet.ofDocument? (.ofValue l.streams.toValue) = some l.streams :=
    l.streams.rereads
  have hsort : listOf? (SortKey.ofDocument? .content)
      (.ofValue (.array (l.sort.map SortKey.toValue))) = some l.sort := rereads_sort .content l.sort
  have hdecorators : listOf? Decorator.ofDocument?
      (.ofValue (.array (l.decorators.map Decorator.toValue))) = some l.decorators :=
    rereads_listOf fun d _ => d.rereads
  have hfields := fields?_ofValue .content l.members
    ["id", "timerange", "query", "streams", "sort", "decorators"] rfl (by decide)
  show MessageList.ofDocument? (.ofValue (.object l.members)) = some l
  rw [ofDocument?, hfields, members]
  simp [Document.ofMembers, hid, htimeRange, hquery, hstreams, hsort, hdecorators]

theorem OtherSearchType.rereads (o : OtherSearchType) :
    Rereads OtherSearchType.ofDocument? (fun o => .object o.members) o := by
  have hid : Document.text? (.ofValue (.string o.id)) = some o.id := rfl
  have hstreams : NameSet.ofDocument? (.ofValue o.streams.toValue) = some o.streams :=
    o.streams.rereads
  have hfields := fields?_ofValue .content o.members ["id", "streams"] rfl (by decide)
  show OtherSearchType.ofDocument? (.ofValue (.object o.members)) = some o
  rw [ofDocument?, hfields, members]
  simp [Document.ofMembers, hid, hstreams]

theorem SearchType.rereads (how : Document.Reading) (t : SearchType) :
    Rereads (SearchType.ofDocument? how) SearchType.toValue t := by
  unfold Rereads SearchType.ofDocument?
  cases t with
  | messages l =>
    have hrest : MessageList.ofDocument? (.ofValue (.object l.members)) = some l := l.rereads
    simp only [toValue, kindName]
    rw [variant?_ofValue how (by decide) (by simp [MessageList.members])]
    simp [hrest]
  | pivot o =>
    have hrest : OtherSearchType.ofDocument? (.ofValue (.object o.members)) = some o := o.rereads
    simp only [toValue, kindName]
    rw [variant?_ofValue how (by decide) (by simp [OtherSearchType.members])]
    simp [hrest]
  | events o =>
    have hrest : OtherSearchType.ofDocument? (.ofValue (.object o.members)) = some o := o.rereads
    simp only [toValue, kindName]
    rw [variant?_ofValue how (by decide) (by simp [OtherSearchType.members])]
    simp [hrest]

/-! ## Queries -/

theorem Query.rereads (how : Document.Reading) (q : Query) :
    Rereads (Query.ofDocument? how) Query.toValue q := by
  have hid : Document.text? (.ofValue (.string q.id)) = some q.id := rfl
  have htimeRange : TimeRange.ofDocument? how (.ofValue q.timeRange.toValue) = some q.timeRange :=
    q.timeRange.rereads how
  have hquery : optional? Document.text? (.ofValue (optionalText q.query)) = some q.query :=
    optionalText_rereads q.query
  have hstreams : NameSet.ofDocument? (.ofValue q.streams.toValue) = some q.streams :=
    q.streams.rereads
  have htypes : listOf? (SearchType.ofDocument? how)
      (.ofValue (.array (q.searchTypes.map SearchType.toValue))) = some q.searchTypes :=
    rereads_listOf fun t _ => t.rereads how
  have hfields := fields?_ofValue how
    [("id", .string q.id), ("timerange", q.timeRange.toValue),
      ("query", optionalText q.query), ("streams", q.streams.toValue),
      ("search_types", .array (q.searchTypes.map SearchType.toValue))]
    ["id", "timerange", "query", "streams", "search_types"] rfl (by decide)
  show Query.ofDocument? how (.ofValue q.toValue) = some q
  rw [ofDocument?, toValue, hfields]
  simp [Document.ofMembers, hid, htimeRange, hquery, hstreams, htypes]

/-! ## Parameters -/

/-- A value that is not null and is read from its written form. -/
def Value.Settled (v : Value) : Prop := Rereads Document.toValue? id v ∧ v ≠ .null

/-- The values of a parameter can be read again. -/
structure Parameter.Settled (p : Parameter) : Prop where
  value : ∀ v ∈ p.value, v.Settled
  defaultValue : ∀ v ∈ p.defaultValue, v.Settled

theorem rereads_settled {o : Option Value} (h : ∀ v ∈ o, v.Settled) :
    Rereads (optional? Document.toValue?) .ofOption o := by
  have hread : Rereads (optional? Document.toValue?) (fun o => .ofOption (o.map id)) o :=
    rereads_optional h
  rwa [Rereads, Option.map_id] at hread

theorem Parameter.rereads (how : Document.Reading) {p : Parameter} (h : p.Settled) :
    Rereads (Parameter.ofDocument? how) Parameter.toValue p := by
  have hname : Document.text? (.ofValue (.string p.name)) = some p.name := rfl
  have hvalue : optional? Document.toValue? (.ofValue (.ofOption p.value)) = some p.value :=
    rereads_settled h.value
  have hdefault : optional? Document.toValue? (.ofValue (.ofOption p.defaultValue)) =
      some p.defaultValue := rereads_settled h.defaultValue
  have hfields := fields?_ofValue how
    [("name", .string p.name), ("value", .ofOption p.value),
      ("default_value", .ofOption p.defaultValue)]
    ["name", "value", "default_value"] rfl (by decide)
  show Parameter.ofDocument? how (.ofValue p.toValue) = some p
  rw [ofDocument?, toValue, hfields]
  simp [Document.ofMembers, hname, hvalue, hdefault]

theorem settled_of_fieldOr? {f : List (String × Document)} {name : String} {o : Option Value}
    (h : fieldOr? f name none (optional? Document.toValue?) = some o) : ∀ v ∈ o, v.Settled := by
  intro v hv
  cases hv
  unfold fieldOr? at h
  split at h
  · cases h
  · next d hd =>
    obtain ⟨hread, hnull⟩ := Document.read_of_optional? h
    refine ⟨Document.rereads_of_toValue? hread, ?_⟩
    rintro rfl
    exact hnull (Document.eq_null_of_toValue? hread)

theorem Parameter.settled_of_ofDocument? {how : Document.Reading} {d : Document} {p : Parameter}
    (h : Parameter.ofDocument? how d = some p) : p.Settled := by
  simp only [ofDocument?, Option.bind_eq_bind, Option.bind_eq_some_iff, Option.pure_def,
    Option.some.injEq] at h
  obtain ⟨f, -, name, -, value, hvalue, default, hdefault, rfl⟩ := h
  exact ⟨settled_of_fieldOr? hvalue, settled_of_fieldOr? hdefault⟩

/-! ## Searches -/

theorem Search.rereads (how : Document.Reading) {s : Search} (h : ∀ p ∈ s.parameters, p.Settled) :
    Rereads (Search.ofDocument? how) Search.toValue s := by
  have hid : Document.text? (.ofValue (.string s.id)) = some s.id := rfl
  have hqueries : listOf? (Query.ofDocument? how)
      (.ofValue (.array (s.queries.map Query.toValue))) = some s.queries :=
    rereads_listOf fun q _ => q.rereads how
  have hparameters : listOf? (Parameter.ofDocument? how)
      (.ofValue (.array (s.parameters.map Parameter.toValue))) = some s.parameters :=
    rereads_listOf fun p hp => Parameter.rereads how (h p hp)
  have hfields := fields?_ofValue how
    [("id", .string s.id), ("queries", .array (s.queries.map Query.toValue)),
      ("parameters", .array (s.parameters.map Parameter.toValue))]
    ["id", "queries", "parameters"] rfl (by decide)
  show Search.ofDocument? how (.ofValue s.toValue) = some s
  rw [ofDocument?, toValue, hfields]
  simp [Document.ofMembers, hid, hqueries, hparameters]

theorem Search.settled_of_ofDocument? {how : Document.Reading} {d : Document} {s : Search}
    (h : Search.ofDocument? how d = some s) : ∀ p ∈ s.parameters, p.Settled := by
  simp only [ofDocument?, Option.bind_eq_bind, Option.bind_eq_some_iff, Option.pure_def,
    Option.some.injEq] at h
  obtain ⟨f, -, id, -, queries, -, parameters, hparameters, rfl⟩ := h
  intro p hp
  unfold fieldOr? at hparameters
  split at hparameters
  · cases hparameters
    cases hp
  · obtain ⟨d, hd⟩ := Document.exists_read_of_mem_listOf? hparameters p hp
    exact Parameter.settled_of_ofDocument? hd

/-- **Stored searches survive re-encoding**: a search that was read from a JSON text or value is read from its
written form as it was, and is written the same again.  That does not hang on how the search came about or on how
its written form is read: every search is read from it, as long as the values of its parameters can be read. -/
theorem Search.survives_reencoding :
    (∀ (d : Document) (s : Search), Search.ofDocument? .json d = some s →
      Search.ofValue? s.toValue = some s ∧
        (Search.ofValue? s.toValue).map Search.toValue = some s.toValue) ∧
    ∀ (how : Document.Reading) (s : Search), (∀ p ∈ s.parameters, p.Settled) →
      Search.ofDocument? how (.ofValue s.toValue) = some s := by
  refine ⟨fun d s h => ?_, fun how s h => Search.rereads how h⟩
  have hread : Search.ofValue? s.toValue = some s :=
    Search.rereads .json (Search.settled_of_ofDocument? h)
  exact ⟨hread, by rw [hread, Option.map_some]⟩

/-- All tagged unions in one search: members in another order, fields left out, nulls and an arbitrary parameter
value. -/
theorem Search.survives_reencoding_errors :
    let list : Value := .object [("type", .string "messages"), ("id", .string "rows"),
      ("timerange", .object [("type", .string "offset")]), ("query", .null),
      ("decorators", .array [
        .object [("order", .ofNat 5), ("source_field", .string "level"),
          ("type", .string "syslog_severity"), ("target_field", .string "severity")],
        .object [("type", .string "field_rename"), ("to", .string "b"), ("from", .string "a")],
        .object [("format", .string "$\x7bb\x7d"), ("type", .string "format_string"),
          ("target_field", .string "c")]])]
    let written : Value := .object [("id", .string "errors"),
      ("queries", .array [.object [("id", .string "today"),
        ("timerange", .object [("range", .ofNat 300), ("type", .string "relative")]),
        ("search_types", .array [list, .object [("id", .string "counts"), ("type", .string "pivot")],
          .object [("streams", .array [.string "s"]), ("type", .string "events"),
            ("id", .string "alerts")]])]]),
      ("parameters", .array [.object [("name", .string "host"),
        ("value", .object [("any", .array [.null, .bool true])]), ("default_value", .null)]])]
    let s : Search := ⟨"errors", [⟨"today", .relative 300, none, ∅,
        [.messages ⟨"rows", some (.offset 1), none, ∅, [],
          [⟨none, 5, .syslogSeverity "level" "severity"⟩, ⟨none, 0, .fieldRename "a" "b"⟩,
            ⟨none, 0, .formatString "c" "$\x7bb\x7d" false⟩]⟩,
          .pivot ⟨"counts", ∅⟩, .events ⟨"alerts", .ofList ["s"]⟩]⟩],
      [⟨"host", some (.object [("any", .array [.null, .bool true])]), none⟩]⟩
    Search.ofDocument? .json (.ofValue written) = some s ∧
      (Search.ofValue? s.toValue = some s ∧
        (Search.ofValue? s.toValue).map Search.toValue = some s.toValue) ∧
      Search.ofDocument? .content (.ofValue s.toValue) = some s := by
  intro list written s
  have hread : Search.ofDocument? .json (.ofValue written) = some s := rfl
  exact ⟨hread, Search.survives_reencoding.1 _ s hread,
    Search.survives_reencoding.2 .content s (Search.settled_of_ofDocument? hread)⟩

end SearchExport
