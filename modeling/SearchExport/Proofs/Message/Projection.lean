import SearchExport.Proofs.Export.Start
import SearchExport.Proofs.Message.Needs

/-!
# Projected documents

A query names the fields that the engine is to return: those that are asked for and the reserved ones.
The fields that decorators read are not among them, unless they are asked for or reserved.

* `EngineQuery.Fetches` — a field that comes with every hit of a query, whatever the document is.
* `IsReserved`, `IsAtHand` — the fields that an export fetches; `EngineQuery.fetches_iff_isAtHand`.
* `ProjectedRows` — when the rows of decorated messages are the same for the fetched fields as for the
  whole documents; `Decoration.exists_hit_of_not_fetched` — a document for which they are not.
* `Search.decorated_rows_of_projection` — every query of every export of a stored search.
-/

set_option autoImplicit false

namespace SearchExport

/-! ## Fetched fields -/

/-- The field is at hand when the engine returns only what the query names: it is among the named ones,
or it is the identifier of the document, which comes with every hit. -/
def EngineQuery.Fetches (q : EngineQuery) (name : String) : Prop :=
  name ∈ q.sourceFields ∨ name = Field.documentId

namespace Hit

/-- The hit when the engine returns only what the query names. -/
def fetchedBy (h : Hit) (q : EngineQuery) : Hit := { h with source := h.source.keep q.sourceFields }

/-- The row of a hit after the decorators. -/
def decoratedRow (h : Hit) (ds : List Decorator) (fields : List String) : Fields :=
  (decorateMessage ds h.toMessage).row fields

theorem get?_toMessage (h : Hit) (name : String) :
    h.toMessage.get? name =
      if name = Field.documentId then some (.string h.id) else h.source.get? name :=
  h.source.get?_set _ _ _

theorem get?_fetchedBy (h : Hit) (q : EngineQuery) (name : String) :
    (h.fetchedBy q).toMessage.get? name =
      if name = Field.documentId then some (.string h.id)
      else if name ∈ q.sourceFields then h.source.get? name else none := by
  rw [get?_toMessage, fetchedBy, Fields.get?_keep]

/-- The hit without a text of its own whose fields have the given values. -/
def withFields (names : List String) (value : String → Value) : Hit where
  index := ""
  id := ""
  source := .ofList (names.map fun n => (n, value n))
  sortValues := []

theorem get?_withFields (names : List String) (value : String → Value) {name : String}
    (hid : name ≠ Field.documentId) :
    (withFields names value).toMessage.get? name =
      if name ∈ names then some (value name) else none := by
  rw [get?_toMessage, if_neg hid]
  exact Fields.get?_ofList_map name value names

/-- A field that is not among those of the hit is empty, if it is the identifier, or missing. -/
theorem get?_withFields_fetchedBy {names : List String} {name : String} (hname : name ∉ names)
    (value : String → Value) (q : EngineQuery) :
    ((withFields names value).fetchedBy q).toMessage.get? name = some (.string "") ∨
      ((withFields names value).fetchedBy q).toMessage.get? name = none := by
  rw [get?_fetchedBy]
  split
  · exact .inl rfl
  · refine .inr ?_
    rw [withFields, Fields.get?_ofList_map, if_neg hname, ite_self]

end Hit

/-- **A field is at hand** for the decorators exactly when it is fetched. -/
theorem EngineQuery.fetches_iff (q : EngineQuery) (name : String) :
    (∀ h : Hit, (h.fetchedBy q).toMessage.get? name = h.toMessage.get? name) ↔ q.Fetches name := by
  constructor
  · intro hsame
    by_cases hid : name = Field.documentId
    · exact .inr hid
    · by_cases hname : name ∈ q.sourceFields
      · exact .inl hname
      · have := hsame (.withFields [name] fun _ => .null)
        rw [Hit.get?_withFields _ _ hid, Hit.get?_fetchedBy, if_neg hid, if_neg hname] at this
        simp at this
  · intro hfetches h
    rw [Hit.get?_fetchedBy, Hit.get?_toMessage]
    rcases hfetches with hname | hid
    · rw [if_pos hname]
    · rw [if_pos hid, if_pos hid]

/-! ## Documents that lose a needed field -/

theorem Text.length_render {α : Type} (write : α → List Char)
    (segments : List (Text.Segment α)) :
    (Text.render write segments).length =
      (Text.render (fun _ => []) segments).length +
        ((Text.tokens segments).flatMap write).length := by
  induction segments with
  | nil => rfl
  | cons segment segments ih =>
    simp only [Text.render, Text.tokens] at ih
    cases segment with
    | char c =>
      simp only [Text.render, Text.tokens, List.flatMap_cons, List.length_append, List.length_cons,
        List.length_nil, List.filterMap_cons, ih]
      omega
    | token t =>
      simp only [Text.render, Text.tokens, List.flatMap_cons, List.length_append,
        List.length_nil, List.filterMap_cons, ih]
      omega

namespace Decoration

/-- The decorator shows that a field of the hit was not fetched: a field of the row differs. -/
def Reveals (d : Decoration) (fields : List String) (q : EngineQuery) (h : Hit) : Prop :=
  ∃ target ∈ fields, ((d.apply (h.fetchedBy q).toMessage).get? target).getD .null ≠
    ((d.apply h.toMessage).get? target).getD .null

variable {fields : List String} {q : EngineQuery} {name : String}

/-- The value of a placeholder in a document where only the field `name` has a text. -/
def markOf (name field : String) : String := if field = name then "x" else ""

/-- With that document whole, the pattern has one character for each placeholder of the field. -/
theorem renderPattern_marked {pattern : String} {m : Message} (requireAll : Bool)
    (h : ∀ field ∈ patternFields pattern, m.get? field = some (.string (markOf name field))) :
    renderPattern pattern m requireAll =
      some (String.ofList (Text.render (fun t => (markOf name (placeholderField t)).toList)
        (patternSegments pattern))) := by
  have htext : Text.render (placeholderText m) (patternSegments pattern) =
      Text.render (fun t => (markOf name (placeholderField t)).toList) (patternSegments pattern) :=
    Text.render_congr fun t ht => by
      rw [placeholderText, h _ (List.mem_map_of_mem ht)]
  have hpresent : (Text.tokens (patternSegments pattern)).any (placeholderIsMissing m) = false := by
    rw [List.any_eq_false]
    intro t ht
    rw [placeholderIsMissing, h _ (List.mem_map_of_mem ht)]
    exact Bool.false_ne_true
  unfold renderPattern
  dsimp only
  rw [htext, hpresent, Bool.and_false, if_neg (by decide)]

/-- With every field empty or missing, the pattern has nothing for its placeholders. -/
theorem renderPattern_empty {pattern s : String} {m : Message} {requireAll : Bool}
    (h : ∀ field, m.get? field = some (.string "") ∨ m.get? field = none)
    (hs : renderPattern pattern m requireAll = some s) :
    s = String.ofList (Text.render (fun _ => []) (patternSegments pattern)) := by
  have htext : Text.render (placeholderText m) (patternSegments pattern) =
      Text.render (fun _ => []) (patternSegments pattern) :=
    Text.render_congr fun t _ => by
      rw [placeholderText]
      rcases h (placeholderField t) with hempty | hnone
      · rw [hempty]
        rfl
      · rw [hnone]
  unfold renderPattern at hs
  dsimp only at hs
  split at hs
  · cases hs
  · rw [htext] at hs
    exact (Option.some.inj hs).symm

/-- A placeholder of the field makes the text longer. -/
theorem length_render_mark {pattern : String} (hname : name ∈ patternFields pattern) :
    (Text.render (fun _ => []) (patternSegments pattern)).length <
      (Text.render (fun t => (markOf name (placeholderField t)).toList)
        (patternSegments pattern)).length := by
  obtain ⟨t, ht, rfl⟩ := List.mem_map.1 hname
  rw [Text.length_render (fun t' => (markOf (placeholderField t) (placeholderField t')).toList)]
  have hx : 'x' ∈ (markOf (placeholderField t) (placeholderField t)).toList := by simp [markOf]
  exact Nat.lt_add_of_pos_right (List.length_pos_of_mem (List.mem_flatMap.2 ⟨t, ht, hx⟩))

theorem exists_hit_of_formatString {target pattern : String} {requireAll : Bool}
    (htarget : target ∈ fields) (hname : name ∈ patternFields pattern) (hnot : ¬ q.Fetches name) :
    ∃ h, (formatString target pattern requireAll).Reveals fields q h := by
  obtain ⟨hsource, hid⟩ := not_or.1 hnot
  obtain ⟨h, hh⟩ : ∃ h, h = Hit.withFields (patternFields pattern) fun field =>
    .string (markOf name field) := ⟨_, rfl⟩
  have hwhole : ∀ field ∈ patternFields pattern,
      h.toMessage.get? field = some (.string (markOf name field)) := by
    intro field hfield
    by_cases hfieldid : field = Field.documentId
    · have hne : field ≠ name := fun heq => hid (heq ▸ hfieldid)
      rw [Hit.get?_toMessage, if_pos hfieldid, markOf, if_neg hne, hh]
      rfl
    · rw [hh, Hit.get?_withFields _ _ hfieldid, if_pos hfield]
  have hfetched : ∀ field, (h.fetchedBy q).toMessage.get? field = some (.string "") ∨
      (h.fetchedBy q).toMessage.get? field = none := by
    intro field
    by_cases hfield : field ∈ patternFields pattern
    · have hsame := hwhole field hfield
      rw [Hit.get?_toMessage] at hsame
      rw [Hit.get?_fetchedBy]
      by_cases hfetch : field ∈ q.sourceFields
      · have hne : field ≠ name := fun heq => hsource (heq ▸ hfetch)
        rw [if_pos hfetch, hsame, markOf, if_neg hne]
        exact .inl rfl
      · rw [if_neg hfetch]
        split
        · exact .inl (by rw [hh]; rfl)
        · exact .inr rfl
    · rw [hh]
      exact Hit.get?_withFields_fetchedBy hfield _ q
  refine ⟨h, target, htarget, ?_⟩
  rw [get?_apply_formatString, get?_apply_formatString, if_pos rfl, if_pos rfl,
    renderPattern_marked requireAll hwhole]
  have hlonger := length_render_mark hname
  cases hrender : renderPattern pattern (h.fetchedBy q).toMessage requireAll with
  | some s =>
    -- both texts are set, one of them without the field
    rw [renderPattern_empty hfetched hrender]
    intro heq
    have := congrArg List.length (String.ofList_injective (Value.string.inj heq))
    omega
  | none =>
    -- the decorator left the old value, which is empty or missing
    rcases hfetched target with hold | hold
    · rw [hold]
      intro heq
      have hempty : "" = String.ofList (Text.render
          (fun t => (markOf name (placeholderField t)).toList) (patternSegments pattern)) :=
        Value.string.inj heq
      have := congrArg (fun s => s.toList.length) hempty
      simp at this
      omega
    · rw [hold]
      intro heq
      cases heq

theorem exists_hit_of_syslogSeverity {source target : String} (htarget : target ∈ fields)
    (hfetched : target ∈ q.sourceFields) (hnot : ¬ q.Fetches source) :
    ∃ h, (syslogSeverity source target).Reveals fields q h := by
  obtain ⟨hsource, hid⟩ := not_or.1 hnot
  have hne : target ∉ [source] := by
    rw [List.mem_singleton]
    rintro rfl
    exact hsource hfetched
  refine ⟨.withFields [source] fun _ => .number (.int 3), target, htarget, ?_⟩
  rw [get?_apply_syslogSeverity, get?_apply_syslogSeverity, if_pos rfl, if_pos rfl,
    Hit.get?_withFields _ _ hid, Hit.get?_fetchedBy, if_neg hid, if_neg hsource]
  rcases Hit.get?_withFields_fetchedBy hne (fun _ => .number (.int 3)) q with hold | hold
  · simp [hold, severityName?, severityNames]
  · simp [hold, severityName?, severityNames]

theorem exists_hit_of_fieldRename {source target : String} (htarget : target ∈ fields)
    (hne : source ≠ target) (hnot : ¬ q.Fetches source) :
    ∃ h, (fieldRename source target).Reveals fields q h := by
  obtain ⟨hsource, hid⟩ := not_or.1 hnot
  have hne' : target ∉ [source] := by simpa using hne.symm
  refine ⟨.withFields [source] fun _ => .bool true, target, htarget, ?_⟩
  rw [get?_apply_fieldRename, get?_apply_fieldRename, if_neg hne, if_neg hne, if_neg hne.symm,
    if_neg hne.symm, if_pos rfl, if_pos rfl, Hit.get?_withFields _ _ hid, Hit.get?_fetchedBy,
    if_neg hid, if_neg hsource]
  rcases Hit.get?_withFields_fetchedBy hne' (fun _ => .bool true) q with hold | hold
  · simp [hold]
  · simp [hold]

/-- **For every field that a decorator needs and that is not fetched** there is a document that
reveals it. -/
theorem exists_hit_of_not_fetched (d : Decoration) (hfields : fields ⊆ q.sourceFields)
    (hneeds : name ∈ d.needs fields) (hnot : ¬ q.Fetches name) : ∃ h, d.Reveals fields q h := by
  have hname : name ∉ fields := fun hmem => hnot (.inl (hfields hmem))
  cases d with
  | formatString target pattern requireAll =>
    simp only [needs] at hneeds
    by_cases htarget : target ∈ fields
    · rw [if_pos htarget, List.mem_append] at hneeds
      rcases hneeds with hpattern | hlive
      · exact exists_hit_of_formatString htarget hpattern hnot
      · cases requireAll with
        | true => exact absurd hlive hname
        | false => exact absurd (List.mem_filter.1 hlive).1 hname
    · rw [if_neg htarget] at hneeds
      exact absurd hneeds hname
  | syslogSeverity source target =>
    simp only [needs] at hneeds
    by_cases htarget : target ∈ fields
    · rw [if_pos htarget, List.mem_cons] at hneeds
      rcases hneeds with rfl | hlive
      · exact exists_hit_of_syslogSeverity htarget (hfields htarget) hnot
      · exact absurd hlive hname
    · rw [if_neg htarget] at hneeds
      exact absurd hneeds hname
  | fieldRename source target =>
    simp only [needs] at hneeds
    by_cases hsame : source = target
    · rw [if_pos hsame] at hneeds
      exact absurd hneeds hname
    · rw [if_neg hsame, List.mem_append] at hneeds
      rcases hneeds with hlive | hmoved
      · exact absurd (List.mem_filter.1 hlive).1 hname
      · by_cases htarget : target ∈ fields
        · rw [if_pos htarget, List.mem_singleton] at hmoved
          subst hmoved
          exact exists_hit_of_fieldRename htarget hsame hnot
        · rw [if_neg htarget] at hmoved
          cases hmoved

end Decoration

/-! ## Rows -/

/-- The field comes with every message, asked for or not. -/
def IsReserved (name : String) : Prop :=
  name ∈ ["gl2_message_id", "source", "message", "timestamp", "streams"]

instance (name : String) : Decidable (IsReserved name) :=
  inferInstanceAs (Decidable (name ∈ ["gl2_message_id", "source", "message", "timestamp", "streams"]))

/-- An export of these fields has the field at hand: it is asked for or reserved, or it is the identifier of
the document. -/
def IsAtHand (fields : List String) (name : String) : Prop :=
  name ∈ fields ∨ IsReserved name ∨ name = "_id"

instance (fields : List String) (name : String) : Decidable (IsAtHand fields name) :=
  inferInstanceAs (Decidable (name ∈ fields ∨ IsReserved name ∨ name = "_id"))

theorem mem_sourceFields_iff {fields : List String} {name : String} :
    name ∈ sourceFields fields ↔ name ∈ fields ∨ IsReserved name := by
  have hreserved : name ∈ reservedFields ↔ IsReserved name := Iff.rfl
  rw [sourceFields, List.mem_append, List.mem_filter, hreserved]
  by_cases hname : name ∈ fields <;> simp [hname]

theorem EngineQuery.fetches_iff_isAtHand {fields : List String} {q : EngineQuery}
    (hq : q.sourceFields = SearchExport.sourceFields fields) (name : String) :
    q.Fetches name ↔ IsAtHand fields name := by
  rw [Fetches, hq, mem_sourceFields_iff, or_assoc]
  rfl

/-- How the rows of decorated messages depend on what a query fetches. -/
structure ProjectedRows (ds : List Decorator) (fields : List String) (q : EngineQuery) : Prop where
  /-- The query names what is asked for and what is reserved, and nothing else. -/
  named : ∀ name, name ∈ q.sourceFields ↔ name ∈ fields ∨ IsReserved name
  /-- A decorator has the value of a field at hand exactly when the field is asked for or reserved, or is the
  identifier of the document. -/
  at_hand : ∀ name,
    (∀ h : Hit, (h.fetchedBy q).toMessage.get? name = h.toMessage.get? name) ↔ IsAtHand fields name
  /-- When all needed fields are at hand, every row is the one of the whole document. -/
  same_rows : (∀ name ∈ neededFields ds fields, IsAtHand fields name) →
    ∀ h : Hit, (h.fetchedBy q).decoratedRow ds fields = h.decoratedRow ds fields
  /-- For a single decorator nothing less will do. -/
  only_then : ∀ d, ds = [d] →
    (∀ h : Hit, (h.fetchedBy q).decoratedRow ds fields = h.decoratedRow ds fields) →
    ∀ name ∈ neededFields ds fields, IsAtHand fields name

theorem projectedRows (ds : List Decorator) {fields : List String} {q : EngineQuery}
    (hq : q.sourceFields = sourceFields fields) : ProjectedRows ds fields q where
  named name := by rw [hq, mem_sourceFields_iff]
  at_hand name := (q.fetches_iff name).trans (EngineQuery.fetches_iff_isAtHand hq name)
  same_rows hneeded h := row_decorateMessage_congr ds fun name hname =>
    (q.fetches_iff name).2 ((EngineQuery.fetches_iff_isAtHand hq name).2 (hneeded name hname)) h
  only_then d hds hsame name hname := by
    subst hds
    rw [← EngineQuery.fetches_iff_isAtHand hq]
    refine Classical.byContradiction fun hnot => ?_
    have hfields : fields ⊆ q.sourceFields := by
      rw [hq]
      exact List.subset_append_left _ _
    rw [neededFields_singleton] at hname
    obtain ⟨h, target, htarget, hne⟩ :=
      d.decoration.exists_hit_of_not_fetched hfields hname hnot
    have hvalue : ∀ h : Hit, (h.decoratedRow [d] fields).get? target =
        some (((d.decoration.apply h.toMessage).get? target).getD .null) := fun h => by
      rw [Hit.decoratedRow, Message.get?_row, if_pos htarget, decorateMessage_singleton]
    have := congrArg (Fields.get? · target) (hsame h)
    rw [hvalue, hvalue] at this
    exact hne (Option.some.inj this)

/-! ## Exports -/

variable {σ ε : Type}

theorem ExportRequest.query_sourceFields (r : ExportRequest) (settings : RunSettings)
    (now : Timestamp) (engine : Engine ε) (sink : Sink σ) (fuel : Nat) (e : ε) (s : σ) :
    ∀ q ∈ (r.export settings now engine sink fuel e s).queries,
      q.sourceFields = sourceFields r.fields := by
  intro q hq
  obtain ⟨_, _, _, _, _, hq⟩ := r.query_eq engine sink fuel e s settings now q hq
  rw [hq]
  rfl

/-- **The rows of a decorated export**, for every stored search, every message list with its decorators,
every engine and every sink: each query fetches what was asked for and the reserved fields, and that is
enough for the decorators when it has all fields that they need. -/
theorem Search.decorated_rows_of_projection {search : Search} {target : SearchTarget}
    {decorator : QueryDecorator} {chunkSize : Nat} {now : Timestamp} {x : ResolvedExport}
    {list : MessageList}
    (hresolve : search.resolve decorator chunkSize target.searchTypeId target.format now = .ok x)
    (_ : x.messageList = some list) (settings : RunSettings) (engine : Engine ε) (sink : Sink σ)
    (fuel : Nat) (e : ε) (s : σ) :
    ∀ q ∈ (search.export target decorator chunkSize settings now engine sink fuel e s).queries,
      ProjectedRows list.decorators x.request.fields q := by
  intro q hq
  rw [export_of_resolve hresolve] at hq
  exact projectedRows _ (x.request.query_sourceFields settings now engine _ fuel e s q hq)

/-- A placeholder for the identifier of a message, which is reserved and not asked for: the row has its value,
also for a document with other fields. -/
theorem Search.decorated_rows_of_messageId :
    let list : MessageList := ⟨"list", none, none, ∅, [],
      [⟨none, 0, .formatString "message" "$\x7bgl2_message_id\x7d" false⟩]⟩
    let query : Query := ⟨"query", .relative 0, none, ∅, [.messages list]⟩
    let search : Search := ⟨"search", [query], []⟩
    let r := (Selection.draft ⟨query, some list⟩ query.timeRange "" {} 1000).normalized
    let settings : RunSettings := ⟨⟨["graylog_*"], []⟩, true⟩
    let record := search.export ⟨some "list", {}⟩ .plain 1000 settings .epoch
      ⟨fun e _ => (e, .ok ⟨[]⟩)⟩ .collecting 1 () []
    let first := r.firstQuery (.ofList ["graylog_*"]) ⟨.epoch, .epoch⟩ true
    let document : Hit := ⟨"graylog_0", "a", .ofList [("gl2_message_id", .string "01F"),
      ("level", .string "3"), ("message", .string "disk full")], []⟩
    search.resolve .plain 1000 (some "list") {} .epoch = .ok ⟨r, some list, "query"⟩ ∧
      record.queries = [first] ∧ "gl2_message_id" ∈ neededFields list.decorators r.fields ∧
      "gl2_message_id" ∉ r.fields ∧ (∀ name ∈ neededFields list.decorators r.fields, IsAtHand r.fields name) ∧
      ProjectedRows list.decorators r.fields first ∧
      ((document.fetchedBy first).decoratedRow list.decorators r.fields).entries =
        [("timestamp", .null), ("source", .null), ("message", .string "01F")] := by
  intro list query search r settings record first document
  have hresolve : search.resolve .plain 1000 (some "list") {} .epoch =
      .ok ⟨r, some list, "query"⟩ :=
    resolve_of_draft rfl rfl rfl (RequestDraft.build_of_defaultFields (by decide) (by decide) rfl)
  have hindices : settings.indices.resolve r.streams ⟨.epoch, .epoch⟩ =
      .ok (.ofList ["graylog_*"]) := rfl
  have hstart : r.start settings .epoch = .ok (.fetch first) :=
    ExportRequest.start_of_ok rfl rfl hindices
  let target : SearchTarget := ⟨some "list", {}⟩
  have hresolve' : search.resolve .plain 1000 target.searchTypeId target.format .epoch =
      .ok ⟨r, some list, "query"⟩ := hresolve
  have hqueries : record.queries = [first] := queries_of_dry hresolve' hstart _ 0 [] rfl rfl
  have hneeded : neededFields list.decorators r.fields = ["gl2_message_id", "timestamp", "source"] := by
    rw [neededFields_singleton]
    decide
  have hathand : ∀ name ∈ neededFields list.decorators r.fields, IsAtHand r.fields name := by
    rw [hneeded]
    decide
  have hrow : ((document.fetchedBy first).decoratedRow list.decorators r.fields).entries =
      [("timestamp", .null), ("source", .null), ("message", .string "01F")] := by
    rw [Hit.decoratedRow, decorateMessage_singleton]
    rfl
  exact ⟨hresolve, hqueries, hneeded ▸ List.mem_cons_self, by decide, hathand,
    decorated_rows_of_projection hresolve' rfl settings _ _ 1 () [] first (by
      rw [hqueries]
      exact List.mem_singleton_self _), hrow⟩

/-- A placeholder for a field that is neither asked for nor reserved: the row of the fetched document has
an empty text where the row of the whole one has the value. -/
theorem Search.decorated_rows_of_level :
    let list : MessageList := ⟨"list", none, none, ∅, [],
      [⟨none, 0, .formatString "message" "$\x7blevel\x7d" false⟩]⟩
    let query : Query := ⟨"query", .relative 0, none, ∅, [.messages list]⟩
    let search : Search := ⟨"search", [query], []⟩
    let r := (Selection.draft ⟨query, some list⟩ query.timeRange "" {} 1000).normalized
    let first := r.firstQuery (.ofList ["graylog_*"]) ⟨.epoch, .epoch⟩ false
    let document : Hit :=
      ⟨"graylog_0", "a", .ofList [("level", .string "3"), ("message", .string "disk full")], []⟩
    search.resolve .plain 1000 (some "list") {} .epoch = .ok ⟨r, some list, "query"⟩ ∧
      (document.fetchedBy first).decoratedRow list.decorators r.fields ≠
        document.decoratedRow list.decorators r.fields := by
  intro list query search r first document
  refine ⟨resolve_of_draft rfl rfl rfl
    (RequestDraft.build_of_defaultFields (by decide) (by decide) rfl), fun hsame => ?_⟩
  have htext := congrArg (fun row => (Fields.get? row "message").bind Value.text?) hsame
  simp only [Hit.decoratedRow, decorateMessage_singleton, list] at htext
  revert htext
  decide

end SearchExport
