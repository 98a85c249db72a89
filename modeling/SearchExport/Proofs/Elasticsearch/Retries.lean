import Mathlib.Data.ENat.Lattice
import SearchExport.Elasticsearch.Client
import SearchExport.Http.Wire
import SearchExport.Proofs.Config.IndexNames

/-!
# Retries of a search

A search is sent again, as it was, until an outcome is final or no retry is left.  Final is every outcome but
two: the peer could not be reached, or it reports a failure of its own.

* `HttpOutcome.IsFinal`, `FirstFinal` — final outcomes, and the place of the first one.
* `HttpOutcome.Means` — what an outcome means for a search; `HttpOutcome.means_page`;
  `HttpOutcome.page_ofBytes_of_incomplete` — when an answer breaks off.
* `sendWithRetries_of_final`, `sendWithRetries_of_not_final` — one attempt; `sendWithRetries_answering` — all of
  them.
* `Cluster.search_until_final` — a search, for every sequence of outcomes.
-/

set_option autoImplicit false

namespace SearchExport

/-! ## Outcomes -/

/-- An outcome after which a request is not sent again. -/
def HttpOutcome.IsFinal : HttpOutcome → Prop
  | .response status _ => ¬ (500 ≤ status ∧ status < 600)
  | .timedOut _ => True
  | .unreachable _ => False

instance : DecidablePred HttpOutcome.IsFinal
  | .response status _ => inferInstanceAs (Decidable (¬ (500 ≤ status ∧ status < 600)))
  | .timedOut _ => .isTrue trivial
  | .unreachable _ => .isFalse id

/-- The place of the first final outcome, from one; it is infinite when no outcome is final. -/
inductive FirstFinal (outcomes : Nat → HttpOutcome) : ℕ∞ → Prop
  | at (i : Nat) (h : (outcomes i).IsFinal) (before : ∀ k < i, ¬ (outcomes k).IsFinal) :
      FirstFinal outcomes ((i + 1 : Nat) : ℕ∞)
  | never (h : ∀ i, ¬ (outcomes i).IsFinal) : FirstFinal outcomes ⊤

theorem exists_firstFinal (outcomes : Nat → HttpOutcome) : ∃ j, FirstFinal outcomes j := by
  by_cases h : ∃ i, (outcomes i).IsFinal
  · exact ⟨_, .at (Nat.find h) (Nat.find_spec h) fun k hk => Nat.find_min h hk⟩
  · exact ⟨⊤, .never fun i hi => h ⟨i, hi⟩⟩

theorem FirstFinal.unique {outcomes : Nat → HttpOutcome} {j j' : ℕ∞} (hj : FirstFinal outcomes j)
    (hj' : FirstFinal outcomes j') : j = j' := by
  cases hj with
  | never h =>
    cases hj' with
    | never => rfl
    | «at» i' h' _ => exact absurd h' (h i')
  | «at» i h before =>
    cases hj' with
    | never h' => exact absurd h (h' i)
    | «at» i' h' before' =>
      have hle : i ≤ i' := Nat.le_of_not_lt fun hlt => before i' hlt h'
      have hge : i' ≤ i := Nat.le_of_not_lt fun hlt => before' i hlt h
      rw [Nat.le_antisymm hle hge]

/-- What an outcome means for a search, apart from the wording of a failure. -/
inductive HttpOutcome.Means : HttpOutcome → Except EngineError Page → Prop
  | page {status : Nat} {body : String} {p : Page} (h : 200 ≤ status ∧ status < 300)
      (hpage : Page.ofResponse? body = some p) : Means (.response status body) (.ok p)
  | undecodable {status : Nat} {body : String} (h : 200 ≤ status ∧ status < 300)
      (hpage : Page.ofResponse? body = none) (detail : String) :
      Means (.response status body) (.error (.invalidResponse detail))
  | badRequest (body detail : String) : Means (.response 400 body) (.error (.query detail))
  | serverFailure {status : Nat} (h : 500 ≤ status ∧ status < 600) (body detail : String) :
      Means (.response status body) (.error (.serverError status detail))
  | otherStatus {status : Nat} (hsuccess : ¬ (200 ≤ status ∧ status < 300)) (hrequest : status ≠ 400)
      (hserver : ¬ (500 ≤ status ∧ status < 600)) (body detail : String) :
      Means (.response status body) (.error (.execution detail))
  | timedOut (said detail : String) : Means (.timedOut said) (.error (.execution detail))
  | unreachable (said detail : String) : Means (.unreachable said) (.error (.connectionFailed detail))

theorem HttpOutcome.means_failureOf {status : Nat} (hsuccess : ¬ (200 ≤ status ∧ status < 300))
    (body : String) : (response status body).Means (.error (failureOf status body)) := by
  unfold failureOf
  dsimp only
  split
  · rename_i hrequest
    subst hrequest
    exact .badRequest body _
  · rename_i hrequest
    split
    · rename_i hserver
      exact .serverFailure hserver body _
    · rename_i hserver
      exact .otherStatus hsuccess hrequest hserver body _

theorem HttpOutcome.means_page (o : HttpOutcome) : o.Means o.page := by
  cases o with
  | timedOut said => exact .timedOut said _
  | unreachable said => exact .unreachable said _
  | response status body =>
    simp only [page]
    split
    · rename_i hsuccess
      cases hpage : Page.ofResponse? body with
      | some p => exact .page hsuccess hpage
      | none => exact .undecodable hsuccess hpage _
    · rename_i hsuccess
      exact means_failureOf hsuccess body

theorem HttpOutcome.page_of_ofResponse {status : Nat} {body : String} {p : Page}
    (hsuccess : 200 ≤ status ∧ status < 300) (hpage : Page.ofResponse? body = some p) :
    (response status body).page = .ok p := by
  simp only [page, hsuccess, and_self, if_true, hpage]

/-- **A failure is transient** exactly when the outcome is not final. -/
theorem HttpOutcome.isTransient_iff {o : HttpOutcome} {e : EngineError} (h : o.Means (.error e)) :
    e.isTransient = true ↔ ¬ o.IsFinal := by
  cases h with
  | undecodable h _ _ =>
    have hserver (status : Nat) (h : 200 ≤ status ∧ status < 300) : ¬ (500 ≤ status ∧ status < 600) := by omega
    simpa [EngineError.isTransient, IsFinal] using hserver _ h
  | badRequest => simp [EngineError.isTransient, IsFinal]
  | serverFailure h => simpa [EngineError.isTransient, IsFinal] using h
  | otherStatus _ _ hserver => simpa [EngineError.isTransient, IsFinal] using hserver
  | timedOut => simp [EngineError.isTransient, IsFinal]
  | unreachable => simp [EngineError.isTransient, IsFinal]

theorem HttpOutcome.isFinal_of_page {o : HttpOutcome} {p : Page} (h : o.Means (.ok p)) : o.IsFinal := by
  cases h with
  | page h _ => simp only [IsFinal]; omega

/-- **An answer that breaks off** or stalls behind its head is an answer.  A search gives what the status says about
an empty body, so that it is sent again for a failure of the peer by itself and for nothing else. -/
theorem HttpOutcome.page_ofBytes_of_incomplete (r : HttpRequest) {ending : HttpEnding}
    {bytes head rest : List UInt8} {h : HttpHead} (hcut : cutHead? bytes = some (head, rest))
    (hhead : HttpHead.ofBytes? head = some h) (hstatus : 200 ≤ h.status)
    (hbody : h.body? ending rest = none) :
    (ofBytes r ending bytes).page =
      .error (if h.status < 300 then .invalidResponse "error decoding response body"
        else failureOf h.status "") := by
  have hwithin (fuel : Nat) : ofBytesWithin r ending (fuel + 1) bytes = .response h.status "" := by
    simp only [ofBytesWithin, hcut, hhead, Nat.not_lt.2 hstatus, if_false, hbody, Option.bind_none,
      Option.getD_none]
  have hempty : Page.ofResponse? "" = none := rfl
  rw [ofBytes, hwithin]
  simp only [page, hstatus, true_and, hempty]
  split <;> rfl

/-! ## Attempts -/

section

variable {π : Type} (peer : Peer π) (settings : RetrySettings) (r : HttpRequest)

/-- An attempt without a retry left is the last one. -/
theorem sendWithRetries_zero (attempt : Nat) (s : π) :
    sendWithRetries peer settings r 0 attempt s =
      ((peer.exchange s r).1, [], (peer.exchange s r).2.page) := rfl

/-- An attempt with a final outcome is the last one, whatever retries are left. -/
theorem sendWithRetries_of_final (left attempt : Nat) {s : π} (h : (peer.exchange s r).2.IsFinal) :
    sendWithRetries peer settings r left attempt s =
      ((peer.exchange s r).1, [], (peer.exchange s r).2.page) := by
  cases left with
  | zero => rfl
  | succ left =>
    have hmeans := (peer.exchange s r).2.means_page
    simp only [sendWithRetries]
    cases hpage : (peer.exchange s r).2.page with
    | ok p => rfl
    | error e =>
      rw [hpage] at hmeans
      have hnot : ¬ e.isTransient = true := fun htransient => (HttpOutcome.isTransient_iff hmeans).1 htransient h
      dsimp only
      rw [if_neg hnot]

/-- An attempt without a final outcome is followed by the next one, with the same request. -/
theorem sendWithRetries_of_not_final {left attempt : Nat} {s s' : π} {retries : List Retry}
    {result : Except EngineError Page} (h : ¬ (peer.exchange s r).2.IsFinal)
    (hnext : sendWithRetries peer settings r left (attempt + 1)
      (peer.pause (peer.exchange s r).1 (settings.delay attempt)) = (s', retries, result)) :
    ∃ retry, sendWithRetries peer settings r (left + 1) attempt s = (s', retry :: retries, result) := by
  have hmeans := (peer.exchange s r).2.means_page
  simp only [sendWithRetries]
  cases hpage : (peer.exchange s r).2.page with
  | ok p =>
    rw [hpage] at hmeans
    exact absurd (HttpOutcome.isFinal_of_page hmeans) h
  | error e =>
    rw [hpage] at hmeans
    dsimp only
    rw [if_pos ((HttpOutcome.isTransient_iff hmeans).2 h), hnext]
    exact ⟨_, rfl⟩

end

/-! ## Sequences of outcomes -/

/-- A peer with a sequence of outcomes, one for each request.  Its state is the requests that it took. -/
def Peer.answering (outcomes : Nat → HttpOutcome) : Peer (List HttpRequest) where
  exchange taken r := (taken ++ [r], outcomes taken.length)

/-- **All attempts**: the request is taken once and then once for each retry.  No outcome before the last one was
final, and unless all retries were made the last one is. -/
theorem sendWithRetries_answering (outcomes : Nat → HttpOutcome) (settings : RetrySettings) (r : HttpRequest)
    (left attempt : Nat) (taken : List HttpRequest) :
    ∃ k ≤ left, ∃ retries,
      sendWithRetries (.answering outcomes) settings r left attempt taken =
        (taken ++ List.replicate (k + 1) r, retries, (outcomes (taken.length + k)).page) ∧
      (∀ i < k, ¬ (outcomes (taken.length + i)).IsFinal) ∧
      (k < left → (outcomes (taken.length + k)).IsFinal) := by
  induction left generalizing attempt taken with
  | zero => exact ⟨0, Nat.le_refl 0, [], sendWithRetries_zero _ _ _ _ _, nofun, nofun⟩
  | succ left ih =>
    by_cases hfinal : (outcomes taken.length).IsFinal
    · exact ⟨0, Nat.zero_le _, [], sendWithRetries_of_final _ _ _ _ _ hfinal, nofun, fun _ => hfinal⟩
    · obtain ⟨k, hk, retries, hrun, hbefore, hlast⟩ := ih (attempt + 1) (taken ++ [r])
      obtain ⟨retry, hstep⟩ := sendWithRetries_of_not_final (.answering outcomes) settings r hfinal hrun
      -- the rest of the attempts starts one outcome later
      have hshift (i : Nat) : (taken ++ [r]).length + i = taken.length + (i + 1) := by
        rw [List.length_append, List.length_singleton]
        omega
      rw [hshift] at hstep hlast
      simp only [hshift] at hbefore
      refine ⟨k + 1, Nat.succ_le_succ hk, retry :: retries, ?_, fun i hi => ?_,
        fun hlt => hlast (Nat.lt_of_succ_lt_succ hlt)⟩
      · rw [hstep, List.append_assoc]
        rfl
      · cases i with
        | zero => exact hfinal
        | succ i => exact hbefore i (Nat.lt_of_succ_lt_succ hi)

/-- The number of attempts is the place of the first final outcome, or one more than there are retries. -/
theorem attempts_eq_min {outcomes : Nat → HttpOutcome} {j : ℕ∞} (hj : FirstFinal outcomes j) {k left : Nat}
    (hk : k ≤ left) (hbefore : ∀ i < k, ¬ (outcomes i).IsFinal) (hlast : k < left → (outcomes k).IsFinal) :
    ((k + 1 : Nat) : ℕ∞) = min j ((left + 1 : Nat) : ℕ∞) := by
  cases hj with
  | never h =>
    obtain rfl : k = left := hk.eq_or_lt.resolve_right fun hlt => h k (hlast hlt)
    exact (min_eq_right le_top).symm
  | «at» i h before =>
    have hle : k ≤ i := Nat.le_of_not_lt fun hlt => hbefore i hlt h
    have hmin : k + 1 = min (i + 1) (left + 1) := by
      obtain hall | hsome := hk.eq_or_lt
      · omega
      · have hge : i ≤ k := Nat.le_of_not_lt fun hlt => before k hlt (hlast hsome)
        omega
    rw [hmin]
    exact Nat.mono_cast.map_min

/-! ## Searches -/

/-- **A search is sent until an outcome is final**, for every sequence of outcomes and every number of retries.
The request has the address and the body of the search each time.  It is sent as often as the place of the first
final outcome says, but at most once and then once for each retry; and what the search gives is what the last of
these outcomes means.  Without an address nothing is sent. -/
theorem Cluster.search_until_final (c : Cluster) (q : EngineQuery) (outcomes : Nat → HttpOutcome) :
    (∀ url, c.searchUrl q = .ok url →
      ∃ (j : ℕ∞) (k : Nat) (r : HttpRequest) (trace : SearchTrace),
        FirstFinal outcomes j ∧ ((k + 1 : Nat) : ℕ∞) = min j ((c.settings.retry.maxRetries + 1 : Nat) : ℕ∞) ∧
          r.url = url ∧ r.body = q.body.text ∧
          c.search (.answering outcomes) [] q =
            (List.replicate (k + 1) r, some trace, (outcomes k).page) ∧
          (outcomes k).Means (outcomes k).page) ∧
    ∀ e, c.searchUrl q = .error e → c.search (.answering outcomes) [] q = ([], none, .error e) := by
  constructor
  · intro url hurl
    obtain ⟨j, hj⟩ := exists_firstFinal outcomes
    obtain ⟨k, hk, retries, hrun, hbefore, hlast⟩ := sendWithRetries_answering outcomes c.settings.retry
      (c.request q url) c.settings.retry.maxRetries 1 []
    simp only [List.length_nil, Nat.zero_add, List.nil_append] at hrun hbefore hlast
    refine ⟨j, k, c.request q url, ⟨c.request q url, retries⟩, hj, attempts_eq_min hj hk hbefore hlast, rfl, rfl,
      ?_, HttpOutcome.means_page _⟩
    simp only [search, hurl, hrun]
  · intro e he
    simp only [search, he]

/-- The cluster cannot be reached, then fails by itself, and then answers with a page: with two retries the search
is sent three times and gives the hit of the page, and what comes after it does not matter. -/
theorem Cluster.search_until_final_of_failures :
    let base : Url := {
      scheme := "http".toList, host := some "localhost".toList, port := some 9200,
      path := .segments [[]] }
    let cluster : Cluster := ⟨base, { retry := { maxRetries := 2 } }⟩
    let q : EngineQuery :=
      ⟨.ofList ["graylog_0"], ⟨.epoch, .epoch⟩, "", ∅, ["message"], [], 2, none, false⟩
    let body : String :=
      "\x7b\"hits\": \x7b\"hits\": [\x7b\"_index\": \"graylog_0\", \"_id\": \"a\", " ++
        "\"_source\": \x7b\"message\": \"disk full\"\x7d, \"sort\": [1]\x7d]\x7d\x7d"
    let outcomes : Nat → HttpOutcome
      | 0 => .unreachable "refused"
      | 1 => .response 503 "busy"
      | 2 => .response 200 body
      | _ => .response 400 "refused"
    FirstFinal outcomes ((2 + 1 : Nat) : ℕ∞) ∧
      ∃ (url : Url) (r : HttpRequest) (trace : SearchTrace) (p : Page), cluster.searchUrl q = .ok url ∧
        r.url = url ∧ r.body = q.body.text ∧
        (p.hits.map fun h => (h.index, h.id, h.source.toValue.text, h.sortValues.map Value.text)) =
          [("graylog_0", "a", "\x7b\"message\":\"disk full\"\x7d", ["1"])] ∧
        cluster.search (.answering outcomes) [] q = (List.replicate 3 r, some trace, .ok p) := by
  intro base cluster q body outcomes
  have hthird : FirstFinal outcomes ((2 + 1 : Nat) : ℕ∞) := .at 2 (by decide) (by decide)
  obtain ⟨url, haddress⟩ : ∃ url, (cluster.searchUrl q).toOption = some url :=
    Option.isSome_iff_exists.1 (by decide +kernel)
  have hurl := ok_of_toOption haddress
  obtain ⟨j, k, r, trace, hj, hk, haddressed, hbody, hsearch, -⟩ :=
    (cluster.search_until_final q outcomes).1 url hurl
  obtain rfl := hj.unique hthird
  have hthree : k = 2 := by
    have hmin : ((k + 1 : Nat) : ℕ∞) = ((3 : Nat) : ℕ∞) := hk.trans (min_self _)
    have := Nat.cast_injective hmin
    omega
  subst hthree
  obtain ⟨p, hread, hhits⟩ : ∃ p, Page.ofResponse? body = some p ∧
      (p.hits.map fun h => (h.index, h.id, h.source.toValue.text, h.sortValues.map Value.text)) =
        [("graylog_0", "a", "\x7b\"message\":\"disk full\"\x7d", ["1"])] :=
    Option.map_eq_some_iff.1 (by decide +kernel)
  have hpage : (outcomes 2).page = .ok p := HttpOutcome.page_of_ofResponse (by decide) hread
  exact ⟨hthird, url, r, trace, p, hurl, haddressed, hbody, hhits, hsearch.trans (by rw [hpage])⟩

end SearchExport
