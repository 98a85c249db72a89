import SearchExport.Config.Basic
import SearchExport.Elasticsearch.Body
import SearchExport.Elasticsearch.Response
import SearchExport.Http.Base64
import SearchExport.Http.Exchange
import SearchExport.Json.Printer
import SearchExport.Url.Parser

/-!
# The client of Elasticsearch

Searches are posted to the address of the indices on the cluster.  A request is sent again, unchanged,
when the cluster cannot be reached or reports a failure of its own, up to a number of times.

* `Cluster.of` — the cluster of the settings;
* `Cluster.searchUrl` — the address of a search;
* `HttpOutcome.page` — what an outcome means;
* `Cluster.search` — a search with its retries;
* `Cluster.engine` — the cluster as an engine.
-/

set_option autoImplicit false

namespace SearchExport

/-- A cluster and how it is spoken to. -/
structure Cluster where
  /-- The address below which the indices are. -/
  base : Url
  settings : ElasticsearchSettings

/-- The name of the engine in the log. -/
def Cluster.name : String := "elasticsearch"

/-! ## Addresses -/

/-- The text without the slashes at its end. -/
def dropTrailingSlashes (cs : List Char) : List Char := (cs.reverse.dropWhile (· = '/')).reverse

namespace Cluster

/-- The cluster that the settings name. -/
def of (settings : ElasticsearchSettings) : Except ExportError Cluster :=
  match Url.parse (String.ofList (dropTrailingSlashes settings.baseUrl.toList ++ ['/'])) with
  | .ok base => .ok ⟨base, settings⟩
  | .error f =>
    .error (.configuration
      ("Invalid elasticsearch.base_url '" ++ settings.baseUrl ++ "': " ++ f.message))

/-- The address of a search over some indices, relative to the cluster. -/
def searchPath (indices : NameSet) : String := ",".intercalate indices.names ++ "/_search"

/-- The address of a search. -/
def searchUrl (c : Cluster) (q : EngineQuery) : Except EngineError Url :=
  match c.base.join (searchPath q.indices) with
  | .ok u =>
    .ok ((u.appendParameter "ignore_unavailable" "true").appendParameter "allow_no_indices" "true")
  | .error f => .error (.execution ("Invalid search URL: " ++ f.message))

/-- The credentials that every request carries, when both parts are set. -/
def authorization (c : Cluster) : Option String :=
  match c.settings.username, c.settings.password with
  | some username, some password =>
    some ("Basic " ++ String.ofList
      (Base64.encode (username ++ ":" ++ password.exposed).toUTF8.toList))
  | _, _ => none

/-- The request of a search. -/
def request (c : Cluster) (q : EngineQuery) (url : Url) : HttpRequest :=
  ⟨url, c.authorization, q.body.text, c.settings.timeoutSeconds⟩

end Cluster

/-! ## Outcomes -/

/-- What a response without success means. -/
def failureOf (status : Nat) (body : String) : EngineError :=
  let said := (failureText? body).getD body
  if status = 400 then .query said
  else if 500 ≤ status ∧ status < 600 then .serverError status said
  else .execution ("Search failed with status " ++ statusText status ++ ": " ++ said)

/-- What an outcome means for a search. -/
def HttpOutcome.page : HttpOutcome → Except EngineError Page
  | .timedOut detail => .error (.execution ("Search request timed out: " ++ detail))
  | .unreachable detail => .error (.connectionFailed detail)
  | .response status body =>
    if 200 ≤ status ∧ status < 300 then
      match Page.ofResponse? body with
      | some p => .ok p
      | none => .error (.invalidResponse "error decoding response body")
    else .error (failureOf status body)

/-! ## Retries -/

/-- A failed attempt that is followed by another one. -/
structure Retry where
  /-- The number of the retry, from one. -/
  attempt : Nat
  delayMillis : Nat
  error : EngineError

/-- The delay before a retry: it grows by a factor with every retry, up to a bound. -/
def RetrySettings.delay (s : RetrySettings) (attempt : Nat) : Nat :=
  let grown := (Binary64.ofNat s.initialDelayMillis).mul (s.backoffMultiplier.pow (attempt - 1))
  min (grown.toNatWithin (UInt64.size - 1)) s.maxDelayMillis

/-- Sends a request until it succeeds, fails for good, or was sent again `left` times. -/
def sendWithRetries {π : Type} (peer : Peer π) (settings : RetrySettings) (r : HttpRequest) :
    Nat → Nat → π → π × List Retry × Except EngineError Page
  | 0, _, s =>
    let (s, outcome) := peer.exchange s r
    (s, [], outcome.page)
  | left + 1, attempt, s =>
    let (s, outcome) := peer.exchange s r
    match outcome.page with
    | .ok p => (s, [], .ok p)
    | .error e =>
      if e.isTransient then
        let delay := settings.delay attempt
        let (s, retries, result) :=
          sendWithRetries peer settings r left (attempt + 1) (peer.pause s delay)
        (s, ⟨attempt, delay, e⟩ :: retries, result)
      else (s, [], .error e)

/-- A search that was sent, and the attempts that failed. -/
structure SearchTrace where
  request : HttpRequest
  retries : List Retry

namespace Cluster

/-- Sends a search.  Without an address nothing is sent. -/
def search {π : Type} (c : Cluster) (peer : Peer π) (s : π) (q : EngineQuery) :
    π × Option SearchTrace × Except EngineError Page :=
  match c.searchUrl q with
  | .error e => (s, none, .error e)
  | .ok url =>
    let r := c.request q url
    let (s, retries, result) :=
      sendWithRetries peer c.settings.retry r c.settings.retry.maxRetries 1 s
    (s, some ⟨r, retries⟩, result)

/-- The cluster as an engine; its state is the one of the peer and the searches that were sent. -/
def engine {π : Type} (c : Cluster) (peer : Peer π) : Engine (π × List SearchTrace) where
  ask s q :=
    let (t, trace, result) := c.search peer s.1 q
    ((t, s.2 ++ trace.toList), result)

end Cluster

end SearchExport
