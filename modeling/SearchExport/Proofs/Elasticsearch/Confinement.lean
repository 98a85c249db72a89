import SearchExport.Proofs.Elasticsearch.IndexAddress
import SearchExport.Proofs.Url.Below

/-!
# Searches that stay on the cluster

The names of the indices are read as they are, relative to the base of the cluster, so that they decide where a
search and its credentials go.  Names that are read as a host or as a scheme of their own lead to one address
whatever the cluster is; all others lead to the cluster, and below its base when they go down from there.

* `Cluster.KeepsBelow` — the names that keep a search below the base.
* `Cluster.keepsBelow_of_plain` — names without a meaning of their own in an address do.
* `Cluster.exists_search_of_sends` — every request that an export sends is a search over names that were found.
* `Cluster.searches_below_base` — where the searches of a cluster and of any export go.
-/

set_option autoImplicit false

namespace SearchExport

/-! ## Addresses -/

/-- The address is one of a search on the cluster with that base: scheme, host and port are the same, and the path
starts with the one of the base and ends with the name of the search. -/
structure Url.SearchesBelow (u base : Url) : Prop where
  origin : u.SameOrigin base
  below : base.pathText <+: u.pathText
  search : "/_search".toList <:+ u.pathText

instance (u v : Url) : Decidable (u.SameOrigin v) :=
  decidable_of_iff (u.scheme = v.scheme ∧ u.host = v.host ∧ u.port = v.port)
    ⟨fun h => ⟨h.1, h.2.1, h.2.2⟩, fun h => ⟨h.scheme, h.host, h.port⟩⟩

instance (u base : Url) : Decidable (u.SearchesBelow base) :=
  decidable_of_iff (u.SameOrigin base ∧ base.pathText <+: u.pathText ∧ "/_search".toList <:+ u.pathText)
    ⟨fun h => ⟨h.1, h.2.1, h.2.2⟩, fun h => ⟨h.origin, h.below, h.search⟩⟩

theorem Url.sameOrigin_appendParameter (u : Url) (name value : String) :
    (u.appendParameter name value).SameOrigin u := by
  unfold appendParameter
  split <;> exact ⟨rfl, rfl, rfl⟩

theorem Url.SameOrigin.trans {u v w : Url} (huv : u.SameOrigin v) (hvw : v.SameOrigin w) : u.SameOrigin w :=
  ⟨huv.scheme.trans hvw.scheme, huv.host.trans hvw.host, huv.port.trans hvw.port⟩

namespace Cluster

variable {c : Cluster} {settings : ElasticsearchSettings}

/-- What of the names is read relative to the base of the cluster. -/
def relativeNames? (c : Cluster) (names : NameSet) : Option (List Char) :=
  Url.relativeText? c.base.scheme (Url.clean (searchPath names))

/-- The names keep a search below the base of the cluster. -/
def KeepsBelow (c : Cluster) (names : NameSet) : Prop :=
  ∃ cs, c.relativeNames? names = some cs ∧ Url.StaysBelow c.base cs

theorem exists_segments_of (hof : Cluster.of settings = .ok c) (hweb : Url.isWeb c.base.scheme = true) :
    ∃ parts, c.base.path = .segments parts := by
  unfold Cluster.of at hof
  split at hof
  · rename_i base hparse
    cases hof
    exact Url.exists_segments_of_parse hparse hweb
  · cases hof

theorem exists_directory_of (hof : Cluster.of settings = .ok c) (hweb : Url.isWeb c.base.scheme = true)
    (hquery : c.base.query = none) (hfragment : c.base.fragment = none) :
    ∃ directory, c.base.path = .segments (directory ++ [[]]) := by
  unfold Cluster.of at hof
  split at hof
  · rename_i base hparse
    cases hof
    refine Url.exists_directory_of_parse ?_ hparse hweb hquery hfragment
    rw [String.toList_ofList]
    exact List.suffix_append _ _
  · cases hof

/-- The parameters change neither origin nor path of the joined address. -/
theorem exists_searchUrl_of_join {q : EngineQuery} {u : Url} (h : c.base.join (searchPath q.indices) = .ok u) :
    ∃ url, c.searchUrl q = .ok url ∧ url.SameOrigin u ∧ url.pathText = u.pathText := by
  refine ⟨_, by rw [searchUrl, h], ?_, ?_⟩
  · exact (Url.sameOrigin_appendParameter _ _ _).trans (Url.sameOrigin_appendParameter _ _ _)
  · simp only [Url.pathText, Url.path_appendParameter]

/-- The address of names that are read relative to the base. -/
theorem exists_searchUrl_of_relative {parts : List (List Char)} (hweb : Url.isWeb c.base.scheme = true)
    (hparts : c.base.path = .segments parts) {q : EngineQuery} {cs : List Char}
    (h : c.relativeNames? q.indices = some cs) :
    ∃ url, c.searchUrl q = .ok url ∧ url.SameOrigin c.base := by
  obtain ⟨u, hu, horigin⟩ := Url.exists_join_of_relativeText hweb hparts h
  obtain ⟨url, hurl, hsame, -⟩ := exists_searchUrl_of_join hu
  exact ⟨url, hurl, hsame.trans horigin⟩

theorem searchUrl_eq_of_not_relative {parts otherParts : List (List Char)} {other : Cluster}
    (hweb : Url.isWeb c.base.scheme = true) (hparts : c.base.path = .segments parts)
    (hscheme : other.base.scheme = c.base.scheme) (hother : other.base.path = .segments otherParts)
    {q : EngineQuery} (h : c.relativeNames? q.indices = none) : other.searchUrl q = c.searchUrl q := by
  rw [searchUrl, searchUrl, Url.join_eq_of_no_relativeText hweb hparts hscheme hother h]

/-- The name of a search ends what is read relative to the base. -/
theorem exists_front_of_relativeNames {names : NameSet} {cs : List Char} (h : c.relativeNames? names = some cs) :
    ∃ front, cs = front ++ '/' :: "_search".toList := by
  have hend : '/' :: "_search".toList <:+ Url.clean (searchPath names) := by
    refine Url.suffix_clean (List.cons_ne_nil _ _) (by decide) ?_
    rw [searchPath, String.toList_append]
    exact List.suffix_append _ _
  obtain ⟨front, hfront⟩ := hend
  rw [relativeNames?, ← hfront] at h
  obtain ⟨rest, hrest⟩ := Url.suffix_of_relativeText (by decide) h
  exact ⟨rest, hrest.symm⟩

/-- **Names that keep a search below the base** lead there. -/
theorem searchesBelow_of_keepsBelow {directory : List (List Char)} (hweb : Url.isWeb c.base.scheme = true)
    (hdirectory : c.base.path = .segments (directory ++ [[]])) {q : EngineQuery}
    (h : c.KeepsBelow q.indices) : ∃ url, c.searchUrl q = .ok url ∧ url.SearchesBelow c.base := by
  obtain ⟨cs, hrelative, hbelow⟩ := h
  obtain ⟨front, hcs⟩ := exists_front_of_relativeNames hrelative
  have hsearch : percentEncode pathSet "_search".toList = "_search".toList := by decide
  obtain ⟨u, hu, hprefix, hsuffix⟩ :=
    Url.exists_join_of_staysBelow hweb hdirectory hrelative hbelow (by decide) hcs
  obtain ⟨v, hv, horigin⟩ := Url.exists_join_of_relativeText hweb hdirectory hrelative
  obtain rfl : u = v := Except.ok.inj (hu.symm.trans hv)
  obtain ⟨url, hurl, hsame, hpath⟩ := exists_searchUrl_of_join hu
  rw [hsearch] at hsuffix
  exact ⟨url, hurl, hsame.trans horigin, hpath ▸ hprefix, hpath ▸ hsuffix⟩

/-- Names without a meaning of their own in an address keep a search below the base. -/
theorem keepsBelow_of_plain {names : NameSet} (hsome : names.isEmpty = false)
    (hplain : ∀ name ∈ names, isPlainName name = true) : c.KeepsBelow names := by
  have hsegment := isPlainSegment_indexSegment (by simpa [NameSet.isEmpty] using hsome) hplain
  obtain ⟨hne, hchars, hdot, hdouble⟩ := Url.isPlainSegment_iff.1 hsegment
  have htext : (searchPath names).toList = indexSegment names.names ++ '/' :: "_search".toList := by
    rw [searchPath, String.toList_append]
    rfl
  have hall : ∀ d ∈ (searchPath names).toList, Url.isPathChar d = true := by
    rw [htext, List.forall_mem_append]
    exact ⟨fun d hd => (hchars d hd).1, List.all_eq_true.1 (by decide)⟩
  have hnot : ∀ d, Url.isPathChar d = false → d ∉ (searchPath names).toList := fun d hd hmem => by
    rw [hall d hmem] at hd
    cases hd
  have hslashes : Url.leadingSlashes (searchPath names).toList = [] := by
    obtain ⟨d, ds, hcons⟩ := List.exists_cons_of_ne_nil hne
    obtain ⟨hd, hslash⟩ := hchars d (hcons ▸ List.mem_cons_self)
    rw [htext, hcons, Url.leadingSlashes, List.cons_append,
      List.takeWhile_cons_of_neg (by simp [Url.isSlash_of_isPathChar hd hslash])]
  refine ⟨(searchPath names).toList, ?_, hnot '?' (by decide), hnot '#' (by decide), .inr ⟨hslashes, ?_⟩⟩
  · rw [relativeNames?, Url.clean_of_pathChars hall, Url.relativeText?,
      Url.scheme?_of_no_colon (hnot ':' (by decide)), hslashes]
    rfl
  · rw [htext, Url.splitSlashes_concat (by decide), Url.splitSlashes_of_plain hsegment]
    simp [Url.descends, hdot, hdouble]

end Cluster

/-! ## Searches of exports -/

/-- The names are found for some streams and some interval, and there are some. -/
def IndexSettings.Finds (indices : IndexSettings) (names : NameSet) : Prop :=
  names.isEmpty = false ∧ ∃ streams range, indices.resolve streams range = .ok names

/-- The request is one that some export sends, of a request or of a stored search, with whatever answers. -/
def Cluster.Sends (c : Cluster) (run : RunSettings) (request : HttpRequest) : Prop :=
  ∃ (π σ : Type) (now : Timestamp) (peer : Peer π) (sink : Sink σ) (fuel : Nat) (s : π) (t : σ),
    (∃ r : ExportRequest, ∃ trace ∈ (r.export run now (c.engine peer) sink fuel (s, []) t).engine.2,
      trace.request = request) ∨
    ∃ (search : Search) (target : SearchTarget) (decorator : QueryDecorator) (chunkSize : Nat),
      ∃ trace ∈ (search.export target decorator chunkSize run now (c.engine peer) sink fuel (s, []) t).engine.2,
        trace.request = request

/-- **Every request that any export sends** is the one of a search over names that were found. -/
theorem Cluster.exists_search_of_sends {c : Cluster} {run : RunSettings} {request : HttpRequest}
    (h : c.Sends run request) :
    ∃ q url, run.indices.Finds q.indices ∧ c.searchUrl q = .ok url ∧ request = c.request q url := by
  obtain ⟨π, σ, now, peer, sink, fuel, s, t, hsent⟩ := h
  rcases hsent with ⟨r, trace, htrace, rfl⟩ | ⟨search, target, decorator, chunkSize, trace, htrace, rfl⟩
  · obtain ⟨range, q, url, hnames, hsome, hurl, hrequest⟩ :=
      r.exists_search_of_export run now c peer sink fuel s t trace htrace
    exact ⟨q, url, ⟨hsome, r.streams, range, hnames⟩, hurl, hrequest⟩
  · cases hresolve : search.resolve decorator chunkSize target.searchTypeId target.format now with
    | error fault =>
      rw [Search.export, hresolve] at htrace
      cases htrace
    | ok x =>
      rw [Search.export_of_resolve hresolve] at htrace
      obtain ⟨range, q, url, hnames, hsome, hurl, hrequest⟩ :=
        x.request.exists_search_of_export run now c peer _ fuel s t trace htrace
      exact ⟨q, url, ⟨hsome, x.request.streams, range, hnames⟩, hurl, hrequest⟩

/-- **Where searches go**: names that are read relative to the base of a cluster lead to its scheme, host and
port, and below the path of the base when they go down from there, as names without a meaning of their own do.
All other names lead to one address whatever the cluster is.  When all names that can be found keep the origin, or
keep below the base, so does every request that any export sends, and the credentials with it. -/
theorem Cluster.searches_below_base {settings : ElasticsearchSettings} {c : Cluster}
    (hof : Cluster.of settings = .ok c) (hweb : Url.isWeb c.base.scheme = true) (hquery : c.base.query = none)
    (hfragment : c.base.fragment = none) :
    (∀ q : EngineQuery,
      (∀ cs, c.relativeNames? q.indices = some cs → ∃ url, c.searchUrl q = .ok url ∧
        url.SameOrigin c.base ∧ (Url.StaysBelow c.base cs → url.SearchesBelow c.base)) ∧
      (c.relativeNames? q.indices = none → ∀ otherSettings other, Cluster.of otherSettings = .ok other →
        other.base.scheme = c.base.scheme → other.searchUrl q = c.searchUrl q)) ∧
    (∀ names : NameSet, names.isEmpty = false → (∀ name ∈ names, isPlainName name = true) →
      c.KeepsBelow names) ∧
    ∀ run : RunSettings,
      ((∀ names, run.indices.Finds names → (c.relativeNames? names).isSome = true) →
        ∀ request, c.Sends run request → request.url.SameOrigin c.base) ∧
      ((∀ names, run.indices.Finds names → c.KeepsBelow names) →
        ∀ request, c.Sends run request → request.url.SearchesBelow c.base) := by
  obtain ⟨directory, hdirectory⟩ := exists_directory_of hof hweb hquery hfragment
  have hbelow : ∀ {q url}, c.KeepsBelow q.indices → c.searchUrl q = .ok url → url.SearchesBelow c.base := by
    intro q url hkeeps hurl
    obtain ⟨url', hurl', hsearches⟩ := searchesBelow_of_keepsBelow hweb hdirectory hkeeps
    exact Except.ok.inj (hurl'.symm.trans hurl) ▸ hsearches
  refine ⟨fun q => ⟨fun cs hcs => ?_, fun hnone otherSettings other hother hscheme => ?_⟩,
    fun names => keepsBelow_of_plain, fun run => ⟨?_, ?_⟩⟩
  · obtain ⟨url, hurl, horigin⟩ := exists_searchUrl_of_relative hweb hdirectory hcs
    exact ⟨url, hurl, horigin, fun hstays => hbelow ⟨cs, hcs, hstays⟩ hurl⟩
  · obtain ⟨parts, hparts⟩ := exists_segments_of hother (hscheme ▸ hweb)
    exact searchUrl_eq_of_not_relative hweb hdirectory hscheme hparts hnone
  · intro hrelative request hsends
    obtain ⟨q, url, hfinds, hurl, rfl⟩ := exists_search_of_sends hsends
    obtain ⟨cs, hcs⟩ := Option.isSome_iff_exists.1 (hrelative q.indices hfinds)
    obtain ⟨url', hurl', horigin⟩ := exists_searchUrl_of_relative hweb hdirectory hcs
    exact Except.ok.inj (hurl'.symm.trans hurl) ▸ horigin
  · intro hkeeps request hsends
    obtain ⟨q, url, hfinds, hurl, rfl⟩ := exists_search_of_sends hsends
    exact hbelow (hkeeps q.indices hfinds) hurl

/-- A base with a path, as it is accepted. -/
theorem Cluster.of_localPath {settings : ElasticsearchSettings}
    (h : settings.baseUrl = "http://localhost:9200/es") :
    Cluster.of settings = .ok ⟨{
      scheme := "http".toList, host := some "localhost".toList, port := some 9200,
      path := .segments ["es".toList, []] }, settings⟩ := by
  have htext : String.ofList (dropTrailingSlashes settings.baseUrl.toList ++ ['/']) =
      "http://localhost:9200/es/" := by
    rw [h]
    decide +kernel
  have hparse : Url.parse "http://localhost:9200/es/" = .ok {
      scheme := "http".toList, host := some "localhost".toList, port := some 9200,
      path := .segments ["es".toList, []] } := ok_of_toOption (by decide +kernel)
  rw [Cluster.of, htext, hparse]

/-- The default pattern keeps all searches below the path of the base. -/
theorem Cluster.searches_below_base_of_pattern :
    let settings : ElasticsearchSettings := { baseUrl := "http://localhost:9200/es", retry := { maxRetries := 0 } }
    let base : Url := {
      scheme := "http".toList, host := some "localhost".toList, port := some 9200,
      path := .segments ["es".toList, []] }
    let cluster : Cluster := ⟨base, settings⟩
    let run : RunSettings := ⟨⟨["graylog_*"], []⟩, false⟩
    let r := (RequestDraft.mk (.relative 300) ∅ "" none [] none 1000).normalized
    let record := r.export run .epoch (cluster.engine (.absent Unit)) .collecting 1 ((), []) []
    Cluster.of settings = .ok cluster ∧ Url.isWeb base.scheme = true ∧ base.query = none ∧ base.fragment = none ∧
      (∀ names, run.indices.Finds names → cluster.KeepsBelow names) ∧
      record.engine.2.map (fun trace => String.ofList trace.request.url.pathText) = ["/es/graylog_*/_search"] ∧
      ∀ request, cluster.Sends run request → request.url.SearchesBelow base := by
  intro settings base cluster run r record
  have hof : Cluster.of settings = .ok cluster := of_localPath rfl
  obtain ⟨-, hplain, hsends⟩ := searches_below_base hof (by decide) rfl rfl
  have hkeeps : ∀ names, run.indices.Finds names → cluster.KeepsBelow names := by
    rintro names ⟨hsome, streams, range, hnames⟩
    cases hnames
    exact hplain _ hsome (by decide)
  exact ⟨hof, by decide, rfl, rfl, hkeeps, by decide +kernel, (hsends run).2 hkeeps⟩

/-- Names that are not blank, pass the check and are found, and where an export sends its search with the
credentials of the cluster: to another scheme, to another host, above the path of the base, and to a path without
the name of the search. -/
theorem Cluster.searches_leave_base :
    let settings : ElasticsearchSettings := {
      baseUrl := "http://localhost:9200/es", username := some "reader", password := some ⟨"secret"⟩,
      retry := { maxRetries := 0 } }
    let base : Url := {
      scheme := "http".toList, host := some "localhost".toList, port := some 9200,
      path := .segments ["es".toList, []] }
    let cluster : Cluster := ⟨base, settings⟩
    let config (name : String) : Config := { elasticsearch := settings, indices := ⟨[name], []⟩ }
    let r := (RequestDraft.mk (.relative 300) ∅ "" none [] none 1000).normalized
    let sent (name : String) : List HttpRequest :=
      (r.export ⟨(config name).indices, settings.allowLeadingWildcard⟩ .epoch (cluster.engine (.absent Unit))
        .collecting 1 ((), []) []).engine.2.map SearchTrace.request
    let led := [
      ("cluster1:logs-*", "cluster1:logs-*/_search?ignore_unavailable=true&allow_no_indices=true"),
      ("//other.invalid/x", "http://other.invalid/x/_search?ignore_unavailable=true&allow_no_indices=true"),
      ("..", "http://localhost:9200/_search?ignore_unavailable=true&allow_no_indices=true"),
      ("a?b", "http://localhost:9200/es/a?b/_search&ignore_unavailable=true&allow_no_indices=true")]
    Cluster.of settings = .ok cluster ∧
      (∀ name streams range, (config name).indices.resolve streams range = .ok (.ofList [name])) ∧
      ∀ p ∈ led, (config p.1).validate = .ok () ∧ Text.isBlank p.1 = false ∧
        (sent p.1).map (fun request => (request.url.text, request.authorization.isSome)) = [(p.2, true)] ∧
        ∀ request ∈ sent p.1, ¬ request.url.SearchesBelow base := by
  intro settings base cluster config r sent led
  have hvalid : ∀ p ∈ led, (config p.1).validate.toOption = some () := by decide +kernel
  have hsent : ∀ p ∈ led, Text.isBlank p.1 = false ∧
      (sent p.1).map (fun request => (request.url.text, request.authorization.isSome)) = [(p.2, true)] ∧
      ∀ request ∈ sent p.1, ¬ request.url.SearchesBelow base := by decide +kernel
  exact ⟨of_localPath rfl, fun _ _ _ => rfl, fun p hp => ⟨ok_of_toOption (hvalid p hp), hsent p hp⟩⟩

end SearchExport
