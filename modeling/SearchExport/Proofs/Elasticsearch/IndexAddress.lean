import SearchExport.Elasticsearch.Client
import SearchExport.Proofs.Config.IndexNames
import SearchExport.Proofs.Export.Start
import SearchExport.Proofs.Url.Relative

/-!
# The addresses of searches

A search is sent to the address of its indices: their names, with commas between them, are the last but one
segment of its path.  Without a name that segment is missing, and the address is one of all indices.

* `isPlainName` — the names without a meaning of their own in an address.
* `Cluster.path_searchUrl` — the path of the address of a search over such names.
* `ExportRequest.exists_search_of_export` — every request that an export sends is a search over indices that were
  found for it.
* `Config.searches_of_validate` — the names and the searches of a checked configuration.
-/

set_option autoImplicit false

namespace SearchExport

/-! ## Names -/

/-- Whether a name has no meaning of its own in an address. -/
def isPlainName (name : String) : Bool := Url.isPlainSegment name.toList

/-- A segment with a comma stands for no place. -/
theorem Url.no_place_of_comma {cs : List Char} (h : ',' ∈ cs) :
    isDot cs = false ∧ isDoubleDot cs = false := by
  -- lower case leaves a comma, and no spelling of a place has one
  have hne : ∀ place : String, ',' ∉ place.toList → String.ofList (cs.map Char.toLower) ≠ place := by
    intro place hplace heq
    refine hplace ?_
    rw [← heq, String.toList_ofList]
    exact List.mem_map.2 ⟨',', h, by decide⟩
  constructor
  · simp [isDot, hne "." (by decide), hne "%2e" (by decide)]
  · simp [isDoubleDot, hne ".." (by decide), hne ".%2e" (by decide), hne "%2e." (by decide),
      hne "%2e%2e" (by decide)]

def indexSegment (names : List String) : List Char := (",".intercalate names).toList

theorem isPlainSegment_indexSegment {names : List String} (hne : names ≠ [])
    (h : ∀ name ∈ names, isPlainName name = true) : Url.isPlainSegment (indexSegment names) = true := by
  have hplain : ∀ name ∈ names, name.toList ≠ [] ∧
      (∀ c ∈ name.toList, Url.isPathChar c = true ∧ c ≠ '/') ∧
      Url.isDot name.toList = false ∧ Url.isDoubleDot name.toList = false :=
    fun name hname => Url.isPlainSegment_iff.1 (h name hname)
  have hchars : ∀ c ∈ indexSegment names, Url.isPathChar c = true ∧ c ≠ '/' := by
    rw [indexSegment, String.toList_intercalate]
    have hcomma : ∀ c ∈ ",".toList, Url.isPathChar c = true ∧ c ≠ '/' :=
      List.forall_mem_singleton.2 (by decide)
    exact forall_mem_intercalate hcomma fun cs hcs => by
      obtain ⟨name, hname, rfl⟩ := List.mem_map.1 hcs
      exact (hplain name hname).2.1
  obtain ⟨name, names, rfl⟩ := List.exists_cons_of_ne_nil hne
  cases names with
  | nil =>
    rw [indexSegment, String.toList_intercalate, List.map_singleton, List.intercalate_singleton]
    exact h name (List.mem_singleton_self _)
  | cons other names =>
    -- names that stand for a place alone no longer do with a comma beside them
    have hcomma : ',' ∈ indexSegment (name :: other :: names) := by
      simp [indexSegment, String.toList_intercalate]
    exact Url.isPlainSegment_iff.2 ⟨List.ne_nil_of_mem hcomma, hchars, Url.no_place_of_comma hcomma⟩

/-! ## Addresses -/

/-- The address names the indices in its path: their names, encoded, are the last segment but one, and they
leave it not empty. -/
def Url.NamesIndices (u : Url) (names : NameSet) : Prop :=
  ∃ front part, u.path = .segments (front ++ [part, "_search".toList]) ∧
    part = percentEncode pathSet (indexSegment names.names) ∧ part ≠ []

theorem Url.path_appendParameter (u : Url) (name value : String) :
    (u.appendParameter name value).path = u.path := by
  unfold appendParameter
  split <;> rfl

/-- **The address of a search** over plain names. -/
theorem Cluster.path_searchUrl {c : Cluster} {q : EngineQuery} {url : Url}
    (hsome : q.indices.isEmpty = false) (hplain : ∀ name ∈ q.indices, isPlainName name = true)
    (h : c.searchUrl q = .ok url) : url.NamesIndices q.indices := by
  have hnames : q.indices.names ≠ [] := by simpa [NameSet.isEmpty] using hsome
  have hsegment := isPlainSegment_indexSegment hnames hplain
  have hpath : searchPath q.indices =
      String.ofList (List.intercalate ['/'] [indexSegment q.indices.names, "_search".toList]) := by
    rw [← String.toList_inj, String.toList_ofList]
    simp [searchPath, indexSegment, List.intercalate_cons_cons]
  rw [searchUrl, hpath] at h
  split at h
  · rename_i u hjoin
    cases h
    obtain ⟨parts, _, hu⟩ := Url.join_of_plain (List.cons_ne_nil _ _)
      (List.forall_mem_cons.2 ⟨hsegment, by decide⟩) hjoin
    have hsearch : percentEncode pathSet "_search".toList = "_search".toList := by decide
    refine ⟨parts.dropLast, _, ?_, rfl, percentEncode_ne_nil _ (Url.isPlainSegment_iff.1 hsegment).1⟩
    rw [Url.path_appendParameter, Url.path_appendParameter, hu]
    simp only [List.map_cons, List.map_nil, hsearch]
  · cases h

/-! ## Searches of an export -/

variable {σ π : Type}

/-- A search that was sent after a query is one that was sent before, or the one of the query. -/
theorem Cluster.sent_of_ask (cluster : Cluster) (peer : Peer π) (e : π × List SearchTrace)
    (q : EngineQuery) :
    ∀ trace ∈ ((cluster.engine peer).ask e q).1.2, trace ∈ e.2 ∨
      ∃ url, cluster.searchUrl q = .ok url ∧ trace.request = cluster.request q url := by
  intro trace htrace
  simp only [engine, search] at htrace
  split at htrace
  · exact .inl (by simpa using htrace)
  · rename_i url hurl
    rcases List.mem_append.1 htrace with hbefore | hnow
    · exact .inl hbefore
    · refine .inr ⟨url, hurl, ?_⟩
      obtain rfl := by simpa using hnow
      rfl

/-- **Every search that an export sends** is the one of a query of the export. -/
theorem ExportRequest.sent_of_cluster (r : ExportRequest) (settings : RunSettings) (now : Timestamp)
    (cluster : Cluster) (peer : Peer π) (sink : Sink σ) (fuel : Nat) (s : π) (t : σ) :
    let record := r.export settings now (cluster.engine peer) sink fuel (s, []) t
    ∀ trace ∈ record.engine.2, ∃ q ∈ record.queries, ∃ url, cluster.searchUrl q = .ok url ∧
      trace.request = cluster.request q url := by
  intro record
  refine r.engine_keeps (cluster.engine peer) sink fuel (s, []) t settings now
    (P := fun e => ∀ trace ∈ e.2, ∃ q ∈ record.queries, ∃ url, cluster.searchUrl q = .ok url ∧
      trace.request = cluster.request q url) (fun _ hnone => by cases hnone) ?_
  intro e q hq hsent trace htrace
  rcases cluster.sent_of_ask peer e q trace htrace with hbefore | hnow
  · exact hsent trace hbefore
  · exact ⟨q, hq, hnow⟩

/-- Every request that an export sends is the one of a search over indices that were found for its request. -/
theorem ExportRequest.exists_search_of_export (r : ExportRequest) (settings : RunSettings) (now : Timestamp)
    (cluster : Cluster) (peer : Peer π) (sink : Sink σ) (fuel : Nat) (s : π) (t : σ) :
    ∀ trace ∈ (r.export settings now (cluster.engine peer) sink fuel (s, []) t).engine.2,
      ∃ range q url, settings.indices.resolve r.streams range = .ok q.indices ∧ q.indices.isEmpty = false ∧
        cluster.searchUrl q = .ok url ∧ trace.request = cluster.request q url := by
  intro trace htrace
  obtain ⟨q, hq, url, hurl, hrequest⟩ :=
    r.sent_of_cluster settings now cluster peer sink fuel s t trace htrace
  obtain ⟨range, names, _, hnames, hsome, hfirst⟩ :=
    r.query_eq (cluster.engine peer) sink fuel (s, []) t settings now q hq
  have hindices : q.indices = names := by rw [hfirst]; rfl
  subst hindices
  exact ⟨range, q, url, hnames, hsome, hurl, hrequest⟩

/-- The searches of an export over plain names name indices that were found for its request. -/
theorem ExportRequest.namesIndices (r : ExportRequest) (settings : RunSettings) (now : Timestamp)
    (hplain : ∀ name ∈ settings.indices.candidates, isPlainName name = true) (cluster : Cluster)
    (peer : Peer π) (sink : Sink σ) (fuel : Nat) (s : π) (t : σ) :
    ∀ trace ∈ (r.export settings now (cluster.engine peer) sink fuel (s, []) t).engine.2,
      ∃ range names, settings.indices.resolve r.streams range = .ok names ∧
        trace.request.url.NamesIndices names := by
  intro trace htrace
  obtain ⟨range, q, url, hnames, hsome, hurl, hrequest⟩ :=
    r.exists_search_of_export settings now cluster peer sink fuel s t trace htrace
  refine ⟨range, q.indices, hnames, ?_⟩
  rw [hrequest]
  exact Cluster.path_searchUrl hsome
    (fun name hname => hplain name (IndexSettings.mem_candidates_of_resolve hnames hname)) hurl

/-- **The indices of a checked configuration**: they resolve for all streams and intervals, and the only
blank names among them are the blank patterns, when no index is known.  With names that are plain, every
search that any run of any export sends to any cluster names indices. -/
theorem Config.searches_of_validate {c : Config} (hvalid : c.validate = .ok ()) :
    (∀ streams range, ∃ names, c.indices.resolve streams range = .ok names ∧
      ∀ name, Text.isBlank name = true →
        (name ∈ names ↔ c.indices.ranges = [] ∧ name ∈ c.indices.defaultPatterns)) ∧
    ((∀ name ∈ c.indices.candidates, isPlainName name = true) →
      let settings : RunSettings := ⟨c.indices, c.elasticsearch.allowLeadingWildcard⟩
      ∀ {π σ : Type} (now : Timestamp) (cluster : Cluster) (peer : Peer π) (sink : Sink σ) (fuel : Nat)
        (s : π) (t : σ),
        (∀ r : ExportRequest,
          ∀ trace ∈ (r.export settings now (cluster.engine peer) sink fuel (s, []) t).engine.2,
            ∃ names, trace.request.url.NamesIndices names) ∧
        (∀ (search : Search) (target : SearchTarget) (decorator : QueryDecorator) (chunkSize : Nat),
          ∀ trace ∈ (search.export target decorator chunkSize settings now (cluster.engine peer) sink fuel
              (s, []) t).engine.2,
            ∃ names, trace.request.url.NamesIndices names)) := by
  refine ⟨IndexSettings.resolve_of_validate (indices_of_validate hvalid), ?_⟩
  intro hplain settings π σ now cluster peer sink fuel s t
  refine ⟨fun r trace htrace => ?_, fun search target decorator chunkSize trace htrace => ?_⟩
  · obtain ⟨_, names, _, hnames⟩ :=
      r.namesIndices settings now hplain cluster peer sink fuel s t trace htrace
    exact ⟨names, hnames⟩
  · cases hresolve : search.resolve decorator chunkSize target.searchTypeId target.format now with
    | error fault =>
      rw [Search.export, hresolve] at htrace
      cases htrace
    | ok x =>
      rw [Search.export_of_resolve hresolve] at htrace
      obtain ⟨_, names, _, hnames⟩ :=
        x.request.namesIndices settings now hplain cluster peer _ fuel s t trace htrace
      exact ⟨names, hnames⟩

/-- The default configuration and a cluster that cannot be reached: one search is sent. -/
theorem Config.searches_of_validate_default :
    let c : Config := { }
    let base : Url := {
      scheme := "http".toList, host := some "localhost".toList, port := some 9200,
      path := .segments [[]] }
    let cluster : Cluster := ⟨base, { retry := { maxRetries := 0 } }⟩
    let r := (RequestDraft.mk (.relative 300) ∅ "" none [] none 1000).normalized
    let record := r.export ⟨c.indices, c.elasticsearch.allowLeadingWildcard⟩ .epoch
      (cluster.engine (.absent Unit)) .collecting 1 ((), []) []
    c.validate = .ok () ∧
      (∃ names, c.indices.resolve ∅ ⟨.epoch, .epoch⟩ = .ok names ∧
        ∀ name ∈ names, Text.isBlank name = false) ∧
      (∀ name ∈ c.indices.candidates, isPlainName name = true) ∧
      record.engine.2.map (fun trace => String.ofList trace.request.url.pathText) =
        ["/graylog_*/_search"] ∧
      ∀ trace ∈ record.engine.2, ∃ names, trace.request.url.NamesIndices names := by
  intro c base cluster r record
  have hvalid : c.validate = .ok () := ok_of_toOption (by decide +kernel)
  have hplain : ∀ name ∈ c.indices.candidates, isPlainName name = true := by decide
  obtain ⟨hresolves, hsent⟩ := searches_of_validate hvalid
  obtain ⟨names, hnames, hblank⟩ := hresolves ∅ ⟨.epoch, .epoch⟩
  have hpatterns : ∀ name ∈ c.indices.defaultPatterns, Text.isBlank name = false := by decide
  have hnone : ∀ name ∈ names, Text.isBlank name = false := by
    intro name hname
    cases hname' : Text.isBlank name with
    | false => rfl
    | true => exact hname'.symm.trans (hpatterns name ((hblank name hname').1 hname).2)
  exact ⟨hvalid, ⟨names, hnames, hnone⟩, hplain, by decide +kernel,
    (hsent hplain .epoch cluster (.absent Unit) .collecting 1 () []).1 r⟩

/-- Configurations with an empty pattern pass the check.  The empty name is found beside another pattern; and
alone it sends the search to the address of all indices. -/
theorem Config.searches_of_emptyPattern :
    let mixed : Config := { indices := ⟨["", "graylog_*"], []⟩ }
    let alone : Config := { indices := ⟨[""], []⟩ }
    let base : Url := {
      scheme := "http".toList, host := some "localhost".toList, port := some 9200,
      path := .segments [[]] }
    let cluster : Cluster := ⟨base, { retry := { maxRetries := 0 } }⟩
    let r := (RequestDraft.mk (.relative 300) ∅ "" none [] none 1000).normalized
    let record := r.export ⟨alone.indices, alone.elasticsearch.allowLeadingWildcard⟩ .epoch
      (cluster.engine (.absent Unit)) .collecting 1 ((), []) []
    (mixed.validate = .ok () ∧ Text.isBlank "" = true ∧
        ∀ streams range, ∃ names, mixed.indices.resolve streams range = .ok names ∧ "" ∈ names) ∧
      alone.validate = .ok () ∧
        record.engine.2.map (fun trace => String.ofList trace.request.url.pathText) = ["/_search"] := by
  intro mixed alone base cluster r record
  have hmixed : ∀ streams range, ∃ names, mixed.indices.resolve streams range = .ok names ∧ "" ∈ names :=
    fun streams range => ⟨.ofList ["", "graylog_*"], rfl, by decide⟩
  exact ⟨⟨ok_of_toOption (by decide +kernel), by decide, hmixed⟩, ok_of_toOption (by decide +kernel),
    by decide +kernel⟩

end SearchExport
