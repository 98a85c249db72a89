import SearchExport.Proofs.Search.Streams

/-!
# The part of a search that is exported

An identifier stands for the first search type that has it, in the first query that has such a search type.
Nothing else of the search goes into the export, but for the streams of the query when the search type names
none itself.

* `Search.Owner` — the query and the search type that an identifier stands for; `Search.owner_iff` — they are
  the ones that are looked up.
* `Search.narrowed` — the search without anything else; `Search.Owner.select_eq`, `Search.Owner.narrowed` —
  what is selected of both.
* `Search.ExportsAlike` — the same requests, faults and exports; `Search.resolve_of_owned` — those of both are.
-/

set_option autoImplicit false

namespace SearchExport

/-! ## Owners -/

/-- The identifier stands for the search type `t` of the query `q`. -/
structure Search.Owner (search : Search) (id : String) (q : Query) (t : SearchType) : Prop where
  /-- No earlier query has a search type with the identifier. -/
  query : ∃ before after, search.queries = before ++ q :: after ∧
    ∀ p ∈ before, ∀ u ∈ p.searchTypes, u.id ≠ id
  /-- No earlier search type of the query has the identifier. -/
  searchType : ∃ before after, q.searchTypes = before ++ t :: after ∧ ∀ u ∈ before, u.id ≠ id
  id_eq : t.id = id

theorem Query.searchType?_eq_some_iff {q : Query} {id : String} {t : SearchType} :
    q.searchType? id = some t ↔
      t.id = id ∧ ∃ before after, q.searchTypes = before ++ t :: after ∧ ∀ u ∈ before, u.id ≠ id := by
  simp [searchType?, List.find?_eq_some_iff_append]

theorem Query.searchType?_eq_none_iff {q : Query} {id : String} :
    q.searchType? id = none ↔ ∀ u ∈ q.searchTypes, u.id ≠ id := by
  simp [searchType?]

namespace Search

variable {search : Search} {id : String} {q : Query} {t : SearchType}

theorem owner_iff :
    search.Owner id q t ↔ search.queryFor? id = some q ∧ q.searchType? id = some t := by
  have hquery : search.queryFor? id = some q ↔ (q.searchType? id).isSome = true ∧
      ∃ before after, search.queries = before ++ q :: after ∧
        ∀ p ∈ before, ∀ u ∈ p.searchTypes, u.id ≠ id := by
    simp [queryFor?, List.find?_eq_some_iff_append, Query.searchType?_eq_none_iff]
  rw [hquery]
  constructor
  · intro h
    have ht : q.searchType? id = some t := Query.searchType?_eq_some_iff.2 ⟨h.id_eq, h.searchType⟩
    exact ⟨⟨by rw [ht]; rfl, h.query⟩, ht⟩
  · rintro ⟨⟨_, hq⟩, ht⟩
    obtain ⟨hid, htypes⟩ := Query.searchType?_eq_some_iff.1 ht
    exact ⟨hq, htypes, hid⟩

/-- A search that has the identifier somewhere has an owner of it. -/
theorem exists_owner (howned : ∃ q ∈ search.queries, ∃ t ∈ q.searchTypes, t.id = id) :
    ∃ q t, search.Owner id q t := by
  obtain ⟨p, hp, u, hu, hid⟩ := howned
  have hpowns : (p.searchType? id).isSome = true := by
    rw [Option.isSome_iff_ne_none, ne_eq, Query.searchType?_eq_none_iff]
    exact fun hnone => hnone u hu hid
  obtain ⟨q, hq⟩ : ∃ q, search.queryFor? id = some q :=
    Option.isSome_iff_exists.1 (List.find?_isSome.2 ⟨p, hp, hpowns⟩)
  have hqowns : (q.searchType? id).isSome = true := by simpa using List.find?_some hq
  obtain ⟨t, ht⟩ := Option.isSome_iff_exists.1 hqowns
  exact ⟨q, t, owner_iff.2 ⟨hq, ht⟩⟩

end Search

/-! ## The search without the rest -/

/-- The query with one search type, and with all streams that it refers to as its own. -/
def Query.narrowed (q : Query) (t : SearchType) : Query :=
  { q with streams := q.usedStreams, searchTypes := [t] }

/-- The search with one query that has one search type. -/
def Search.narrowed (search : Search) (q : Query) (t : SearchType) : Search :=
  { search with queries := [q.narrowed t] }

/-- Taking a search type of the query for the only one adds no stream. -/
theorem Query.usedStreams_narrowed {q : Query} {t : SearchType} (ht : t ∈ q.searchTypes) :
    (q.narrowed t).usedStreams = q.usedStreams := by
  refine NameSet.ext fun stream => ?_
  have hown : stream ∈ t.streams → stream ∈ q.usedStreams := fun hstream =>
    (q.mem_usedStreams stream).2 (.inr ⟨t, ht, hstream⟩)
  show stream ∈ t.streams.union q.usedStreams ↔ stream ∈ q.usedStreams
  rw [NameSet.mem_union]
  exact or_iff_right_of_imp hown

/-- The parts of a search and of the narrowed one give the same draft of a request. -/
theorem Selection.draft_narrowed {q : Query} {list : MessageList} (hlist : .messages list ∈ q.searchTypes)
    (range : TimeRange) (queryString : String) (format : ResultFormat) (chunkSize : Nat) :
    (⟨q.narrowed (.messages list), some list⟩ : Selection).draft range queryString format chunkSize =
      (⟨q, some list⟩ : Selection).draft range queryString format chunkSize := by
  simp only [draft, streams, sort, Query.usedStreams_narrowed hlist]

namespace Search.Owner

variable {search : Search} {id : String} {q : Query} {t : SearchType}

theorem mem_searchTypes (h : search.Owner id q t) : t ∈ q.searchTypes := by
  obtain ⟨before, after, htypes, _⟩ := h.searchType
  simp [htypes]

/-- What is selected: the message list and its query, or the fault that the search type is none. -/
theorem select_eq (h : search.Owner id q t) :
    search.select (some id) =
      match t.messageList? with
      | some list => .ok ⟨q, some list⟩
      | none => .error (.noMessageList t.id t.kindName) := by
  obtain ⟨hquery, htype⟩ := owner_iff.1 h
  have hselect : search.selectQuery (some id) = .ok q := by
    simp only [selectQuery, hquery]
  simp only [select, hselect, bind, Except.bind, Option.bind_some, htype]
  cases t.messageList? <;> rfl

theorem narrowed (h : search.Owner id q t) : (search.narrowed q t).Owner id (q.narrowed t) t where
  query := ⟨[], [], rfl, by simp⟩
  searchType := ⟨[], [], rfl, by simp⟩
  id_eq := h.id_eq

/-- **The request of the narrowed search** is the one of the search, or they have the same fault. -/
theorem resolve_narrowed (h : search.Owner id q t) (decorator : QueryDecorator) (chunkSize : Nat)
    (format : ResultFormat) (now : Timestamp) :
    (search.narrowed q t).resolve decorator chunkSize (some id) format now =
      search.resolve decorator chunkSize (some id) format now := by
  have hdecorate : ∀ text, decorator.decorate (search.narrowed q t) text = decorator.decorate search text := by
    cases decorator <;> exact fun _ => rfl
  have hmem := h.mem_searchTypes
  simp only [resolve, h.select_eq, h.narrowed.select_eq]
  cases t with
  | messages list =>
    simp only [SearchType.messageList?, bind, Except.bind, Selection.draft_narrowed hmem, hdecorate]
    rfl
  | pivot other => rfl
  | events other => rfl

end Search.Owner

/-! ## Exports -/

namespace Search

/-- For the identifier both searches have the same request or the same fault, and the same exports. -/
structure ExportsAlike (search other : Search) (id : String) : Prop where
  resolve : ∀ (decorator : QueryDecorator) (chunkSize : Nat) (format : ResultFormat) (now : Timestamp),
    search.resolve decorator chunkSize (some id) format now =
      other.resolve decorator chunkSize (some id) format now
  exports : ∀ {σ ε : Type} (decorator : QueryDecorator) (chunkSize : Nat) (format : ResultFormat)
    (settings : RunSettings) (now : Timestamp) (engine : Engine ε) (sink : Sink σ) (fuel : Nat) (e : ε)
    (s : σ),
    search.export ⟨some id, format⟩ decorator chunkSize settings now engine sink fuel e s =
      other.export ⟨some id, format⟩ decorator chunkSize settings now engine sink fuel e s

/-- An export depends on the search through its request only. -/
theorem ExportsAlike.of_resolve {search other : Search} {id : String}
    (h : ∀ (decorator : QueryDecorator) (chunkSize : Nat) (format : ResultFormat) (now : Timestamp),
      search.resolve decorator chunkSize (some id) format now =
        other.resolve decorator chunkSize (some id) format now) :
    search.ExportsAlike other id where
  resolve := h
  exports decorator chunkSize format settings now engine sink fuel e s := by
    simp only [Search.export, h]

/-- **An export by identifier looks at one query and one of its search types**, for every search that has the
identifier somewhere: without anything else in the search it is the same, and fails in the same way.  What
searches may differ in is therefore all but the search type that the identifier stands for, the identifier,
time range and filter of its query, the streams that the query refers to, and the parameters. -/
theorem resolve_of_owned (search : Search) (id : String)
    (howned : ∃ q ∈ search.queries, ∃ t ∈ q.searchTypes, t.id = id) :
    (∃ q t, search.Owner id q t) ∧
      ∀ q t, search.Owner id q t →
        (search.narrowed q t).ExportsAlike search id ∧
        ∀ (other : Search) (p : Query), other.Owner id p t → other.id = search.id →
          other.parameters = search.parameters → p.id = q.id → p.timeRange = q.timeRange →
          p.query = q.query → p.usedStreams = q.usedStreams → other.ExportsAlike search id := by
  refine ⟨exists_owner howned, fun q t howner => ⟨.of_resolve howner.resolve_narrowed, ?_⟩⟩
  intro other p howner' hid hparameters hquery hrange htext hstreams
  have hsame : other.narrowed p t = search.narrowed q t := by
    simp only [narrowed, Query.narrowed, hid, hparameters, hquery, hrange, htext, hstreams]
  refine .of_resolve fun decorator chunkSize format now => ?_
  rw [← howner.resolve_narrowed, ← hsame, howner'.resolve_narrowed]

/-- An identifier that two queries have, one of them twice, behind a search type that lends a stream, in a
search whose filters ask for a parameter. -/
theorem resolve_of_owned_repeated :
    let list : MessageList := ⟨"list", none, some "level:$level$", ∅, [], []⟩
    let pivot : OtherSearchType := ⟨"pivot", .ofList ["stream-02"]⟩
    let q : Query := ⟨"query", .relative 300, some "source:web", .ofList ["stream-01"],
      [.pivot pivot, .messages list, .messages { list with query := some "*" }]⟩
    let search : Search := ⟨"search",
      [{ q with searchTypes := [.pivot pivot] }, q, { q with query := none }],
      [⟨"level", some (.string "3"), none⟩]⟩
    (∃ q ∈ search.queries, ∃ t ∈ q.searchTypes, t.id = "list") ∧
      search.Owner "list" q (.messages list) ∧
      (q.narrowed (.messages list)).streams = .ofList ["stream-01", "stream-02"] ∧
      (search.narrowed q (.messages list)).ExportsAlike search "list" := by
  intro list pivot q search
  have howned : ∃ q ∈ search.queries, ∃ t ∈ q.searchTypes, t.id = "list" :=
    ⟨q, by simp [search], .messages list, by simp [q], rfl⟩
  have howner : search.Owner "list" q (.messages list) := owner_iff.2 ⟨by decide, by decide⟩
  exact ⟨howned, howner, by decide, ((resolve_of_owned search "list" howned).2 q _ howner).1⟩

end Search

end SearchExport
