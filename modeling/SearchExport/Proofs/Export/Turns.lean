import SearchExport.Export.Run

/-!
# The turns of a run

What one turn of a run can do, said once: the engine fails, its page is empty, the sink refuses the
chunk of the page, the run stops after an accepted chunk, or it goes on.

* `Run.perform_failed`, `perform_dry`, `perform_refused`, `perform_last`, `perform_again` — a run by
  the outcome of its first turn.
* `Run.answered` — what the engine may answer, and whether the run goes on after the page.
* `Run.Performs` — the same five outcomes as the rules of a relation; `Run.performs` — every run obeys
  them, whatever its fuel.
* `Run.Performs.query_eq` — every query of a run is its first one, from some place on.
* `Run.Performs.engine_keeps` — invariants of the state of the engine.
* `Run.Alternating` — queries and chunks take turns; `Run.Performs.alternating` — they do in every run.
-/

set_option autoImplicit false

namespace SearchExport

/-! ## Views of a record -/

/-- The query of a step that asked the engine. -/
def Step.query? : Step → Option EngineQuery
  | .asked q => some q
  | .handed _ => none

/-- The chunk of a step that handed one over. -/
def Step.chunk? : Step → Option Chunk
  | .asked _ => none
  | .handed c => some c

namespace Run

variable {σ ε : Type}

/-- The queries of a run, in order. -/
def Record.queries (record : Record ε σ) : List EngineQuery := record.steps.filterMap Step.query?

/-- The chunks that a run handed over, in order. -/
def Record.chunks (record : Record ε σ) : List Chunk := record.steps.filterMap Step.chunk?

/-- The record of a run that took one more turn before. -/
def Record.after (record : Record ε σ) (q : EngineQuery) (c : Chunk) : Record ε σ :=
  { record with steps := .asked q :: .handed c :: record.steps }

section Views

variable (q : EngineQuery) (c : Chunk) (result : Option (Except ExportError Summary)) (e : ε) (s : σ)

@[simp] theorem queries_nil : (⟨[], result, e, s⟩ : Record ε σ).queries = [] := rfl

@[simp] theorem queries_single : (⟨[.asked q], result, e, s⟩ : Record ε σ).queries = [q] := rfl

@[simp] theorem queries_pair :
    (⟨[.asked q, .handed c], result, e, s⟩ : Record ε σ).queries = [q] := rfl

@[simp] theorem queries_after (record : Record ε σ) :
    (record.after q c).queries = q :: record.queries := rfl

@[simp] theorem chunks_nil : (⟨[], result, e, s⟩ : Record ε σ).chunks = [] := rfl

@[simp] theorem chunks_single : (⟨[.asked q], result, e, s⟩ : Record ε σ).chunks = [] := rfl

@[simp] theorem chunks_pair :
    (⟨[.asked q, .handed c], result, e, s⟩ : Record ε σ).chunks = [c] := rfl

@[simp] theorem chunks_after (record : Record ε σ) :
    (record.after q c).chunks = c :: record.chunks := rfl

end Views

/-! ## What follows an accepted page -/

theorem reachesLimit_iff {r : Run σ} {messages : Nat} :
    r.reachesLimit messages = true ↔ ∃ limit, r.request.limit = some limit ∧ limit ≤ messages := by
  unfold reachesLimit
  cases r.request.limit <;> simp

/-- Why a run stops after an accepted page with so many hits, if it does. -/
def stopAfter (r : Run σ) (hits : Nat) : Option StopReason :=
  if r.reachesLimit (r.summary.messages + hits) then some .limitReached
  else if hits < r.request.chunkSize then some .exhausted
  else none

/-- The summary after an accepted page with so many hits. -/
def counted (r : Run σ) (hits : Nat) : Summary :=
  { r.summary.record hits with pages := r.summary.pages + 1 }

/-- The run after an accepted page that ends with `last`. -/
def next (r : Run σ) (hits : Nat) (last : Hit) (s : σ) : Run σ :=
  { r with query := r.query.continueAfter last.sortValues, summary := r.counted hits, sink := s }

theorem stopAfter_eq_none {r : Run σ} {hits : Nat} (h : r.stopAfter hits = none) :
    r.reachesLimit (r.summary.messages + hits) = false ∧ r.request.chunkSize ≤ hits := by
  unfold stopAfter at h
  split at h
  · cases h
  rename_i hlimit
  split at h
  · cases h
  rename_i hshort
  exact ⟨by simpa using hlimit, by omega⟩

/-- Why a run stops after an accepted page. -/
theorem stopAfter_eq_some {r : Run σ} {hits : Nat} {reason : StopReason}
    (h : r.stopAfter hits = some reason) :
    (reason = .limitReached ∧ r.reachesLimit (r.summary.messages + hits) = true) ∨
      (reason = .exhausted ∧ r.reachesLimit (r.summary.messages + hits) = false ∧
        hits < r.request.chunkSize) := by
  unfold stopAfter at h
  split at h
  · rename_i hlimit
    cases h
    exact .inl ⟨rfl, hlimit⟩
  · rename_i hlimit
    split at h
    · rename_i hshort
      cases h
      exact .inr ⟨rfl, by simpa using hlimit, hshort⟩
    · cases h

theorem advance_eq (r : Run σ) {p : Page} {last : Hit} (hlast : p.hits.getLast? = some last)
    (s : σ) :
    r.advance p s =
      match r.stopAfter p.hits.length with
      | some reason => .done (.ok { r.counted p.hits.length with stopReason := some reason }) s
      | none => .again (r.next p.hits.length last s) := by
  have hcursor : p.cursor? = some last.sortValues := by simp [Page.cursor?, hlast]
  by_cases hlimit : r.reachesLimit (r.summary.messages + p.hits.length) = true
  · simp [advance, stopAfter, counted, Summary.record, hlimit]
  · by_cases hshort : p.hits.length < r.request.chunkSize
    · simp [advance, stopAfter, counted, Summary.record, hlimit, hshort]
    · simp [advance, stopAfter, counted, next, Summary.record, hlimit, hshort, hcursor]

/-! ## One turn -/

variable {engine : Engine ε} {sink : Sink σ} {e e' : ε} {r : Run σ} {s : σ}

theorem ne_nil_of_getLast? {p : Page} {last : Hit} (hlast : p.hits.getLast? = some last) :
    p.hits ≠ [] := by
  rintro h
  simp [h] at hlast

theorem perform_failed {fault : EngineError} (hask : engine.ask e r.query = (e', .error fault))
    (fuel : Nat) :
    perform engine sink (fuel + 1) e r =
      ⟨[.asked r.query], some (.error (.engine fault)), e', r.sink⟩ := by
  simp [perform, hask, receive]

theorem perform_dry {p : Page} (hask : engine.ask e r.query = (e', .ok p)) (hdry : p.hits = [])
    (fuel : Nat) :
    perform engine sink (fuel + 1) e r =
      ⟨[.asked r.query],
        some (.ok { r.summary with pages := r.summary.pages + 1, stopReason := some .exhausted }),
        e', r.sink⟩ := by
  simp [perform, hask, receive, hdry]

theorem perform_refused {p : Page} (hask : engine.ask e r.query = (e', .ok p))
    (hhits : p.hits ≠ []) {fault : ExportError}
    (haccept : sink.accept r.sink (r.chunkOf p) = (s, .error fault)) (fuel : Nat) :
    perform engine sink (fuel + 1) e r =
      ⟨[.asked r.query, .handed (r.chunkOf p)], some (.error fault), e', s⟩ := by
  simp [perform, hask, receive, hhits, haccept]

theorem perform_last {p : Page} (hask : engine.ask e r.query = (e', .ok p)) (hhits : p.hits ≠ [])
    (haccept : sink.accept r.sink (r.chunkOf p) = (s, .ok ())) {reason : StopReason}
    (hstop : r.stopAfter p.hits.length = some reason) (fuel : Nat) :
    perform engine sink (fuel + 1) e r =
      ⟨[.asked r.query, .handed (r.chunkOf p)],
        some (.ok { r.counted p.hits.length with stopReason := some reason }), e', s⟩ := by
  obtain ⟨last, hlast⟩ : ∃ last, p.hits.getLast? = some last :=
    ⟨_, List.getLast?_eq_some_getLast hhits⟩
  simp [perform, hask, receive, hhits, haccept, advance_eq r hlast, hstop]

theorem perform_again {p : Page} (hask : engine.ask e r.query = (e', .ok p)) {last : Hit}
    (hlast : p.hits.getLast? = some last)
    (haccept : sink.accept r.sink (r.chunkOf p) = (s, .ok ()))
    (hmore : r.stopAfter p.hits.length = none) (fuel : Nat) :
    perform engine sink (fuel + 1) e r =
      (perform engine sink fuel e' (r.next p.hits.length last s)).after r.query (r.chunkOf p) := by
  have hhits := ne_nil_of_getLast? hlast
  simp [perform, hask, receive, hhits, haccept, advance_eq r hlast, hmore, Record.after]

/-- What the engine answers to the query of a run, and what follows the page if the sink takes it. -/
inductive Answered (engine : Engine ε) (e : ε) (r : Run σ) : Prop where
  | failed {e' : ε} {fault : EngineError} (hask : engine.ask e r.query = (e', .error fault))
  | dry {e' : ε} {p : Page} (hask : engine.ask e r.query = (e', .ok p)) (hdry : p.hits = [])
  | stops {e' : ε} {p : Page} {reason : StopReason} (hask : engine.ask e r.query = (e', .ok p))
      (hhits : p.hits ≠ []) (hstop : r.stopAfter p.hits.length = some reason)
  | goesOn {e' : ε} {p : Page} {last : Hit} (hask : engine.ask e r.query = (e', .ok p))
      (hlast : p.hits.getLast? = some last) (hmore : r.stopAfter p.hits.length = none)

theorem answered (engine : Engine ε) (e : ε) (r : Run σ) : Answered engine e r := by
  obtain ⟨e', answer, hask⟩ : ∃ e' answer, engine.ask e r.query = (e', answer) := ⟨_, _, rfl⟩
  cases answer with
  | error fault => exact .failed hask
  | ok p =>
    by_cases hhits : p.hits = []
    · exact .dry hask hhits
    · cases hstop : r.stopAfter p.hits.length with
      | some reason => exact .stops hask hhits hstop
      | none => exact .goesOn hask (List.getLast?_eq_some_getLast hhits) hstop

/-! ## Runs as a relation -/

/-- What a run from a state of the engine may leave behind, by the outcome of its first turn. -/
inductive Performs (engine : Engine ε) (sink : Sink σ) : ε → Run σ → Record ε σ → Prop where
  /-- No turn is taken any more. -/
  | cut (e : ε) (r : Run σ) : Performs engine sink e r ⟨[], none, e, r.sink⟩
  /-- The engine fails. -/
  | failed {e e' : ε} {r : Run σ} {fault : EngineError}
      (hask : engine.ask e r.query = (e', .error fault)) :
      Performs engine sink e r ⟨[.asked r.query], some (.error (.engine fault)), e', r.sink⟩
  /-- The page is empty. -/
  | dry {e e' : ε} {r : Run σ} {p : Page} (hask : engine.ask e r.query = (e', .ok p))
      (hdry : p.hits = []) :
      Performs engine sink e r
        ⟨[.asked r.query],
          some (.ok { r.summary with pages := r.summary.pages + 1, stopReason := some .exhausted }),
          e', r.sink⟩
  /-- The sink refuses the chunk. -/
  | refused {e e' : ε} {r : Run σ} {p : Page} {s : σ} {fault : ExportError}
      (hask : engine.ask e r.query = (e', .ok p)) (hhits : p.hits ≠ [])
      (haccept : sink.accept r.sink (r.chunkOf p) = (s, .error fault)) :
      Performs engine sink e r
        ⟨[.asked r.query, .handed (r.chunkOf p)], some (.error fault), e', s⟩
  /-- The chunk is the last one. -/
  | last {e e' : ε} {r : Run σ} {p : Page} {s : σ} {reason : StopReason}
      (hask : engine.ask e r.query = (e', .ok p)) (hhits : p.hits ≠ [])
      (haccept : sink.accept r.sink (r.chunkOf p) = (s, .ok ()))
      (hstop : r.stopAfter p.hits.length = some reason) :
      Performs engine sink e r
        ⟨[.asked r.query, .handed (r.chunkOf p)],
          some (.ok { r.counted p.hits.length with stopReason := some reason }), e', s⟩
  /-- Another turn follows. -/
  | again {e e' : ε} {r : Run σ} {p : Page} {s : σ} {last : Hit} {record : Record ε σ}
      (hask : engine.ask e r.query = (e', .ok p)) (hlast : p.hits.getLast? = some last)
      (haccept : sink.accept r.sink (r.chunkOf p) = (s, .ok ()))
      (hmore : r.stopAfter p.hits.length = none)
      (rest : Performs engine sink e' (r.next p.hits.length last s) record) :
      Performs engine sink e r (record.after r.query (r.chunkOf p))

/-- **Every run obeys the rules**, whatever its fuel. -/
theorem performs (engine : Engine ε) (sink : Sink σ) :
    ∀ (fuel : Nat) (e : ε) (r : Run σ), Performs engine sink e r (perform engine sink fuel e r)
  | 0, e, r => .cut e r
  | fuel + 1, e, r => by
    cases answered engine e r with
    | failed hask =>
      rw [perform_failed hask]
      exact .failed hask
    | dry hask hdry =>
      rw [perform_dry hask hdry]
      exact .dry hask hdry
    | @stops e' p reason hask hhits hstop =>
      obtain ⟨s, outcome, haccept⟩ :
          ∃ s outcome, sink.accept r.sink (r.chunkOf p) = (s, outcome) := ⟨_, _, rfl⟩
      cases outcome with
      | error fault =>
        rw [perform_refused hask hhits haccept]
        exact .refused hask hhits haccept
      | ok =>
        rw [perform_last hask hhits haccept hstop]
        exact .last hask hhits haccept hstop
    | @goesOn e' p last hask hlast hmore =>
      obtain ⟨s, outcome, haccept⟩ :
          ∃ s outcome, sink.accept r.sink (r.chunkOf p) = (s, outcome) := ⟨_, _, rfl⟩
      cases outcome with
      | error fault =>
        rw [perform_refused hask (ne_nil_of_getLast? hlast) haccept]
        exact .refused hask (ne_nil_of_getLast? hlast) haccept
      | ok =>
        rw [perform_again hask hlast haccept hmore]
        exact .again hask hlast haccept hmore (performs engine sink fuel e' _)

/-! ## Queries -/

/-- **Every query of a run** is the first one, from some place on. -/
theorem Performs.query_eq {record : Record ε σ} (h : Performs engine sink e r record) :
    ∀ q ∈ record.queries, q = { r.query with searchAfter := q.searchAfter } := by
  induction h with
  | cut => simp
  | failed => simp
  | dry => simp
  | refused => simp
  | last => simp
  | again _ _ _ _ _ ih =>
    intro q hq
    rw [queries_after, List.mem_cons] at hq
    rcases hq with rfl | hq
    · rfl
    · exact ih q hq

/-- **What every answered query of a run keeps** of the state of the engine holds at its end. -/
theorem Performs.engine_keeps {record : Record ε σ} (h : Performs engine sink e r record) {P : ε → Prop}
    (hstart : P e) (hkeeps : ∀ e, ∀ q ∈ record.queries, P e → P (engine.ask e q).1) :
    P record.engine := by
  -- the state after the only query of a run
  have hone : ∀ {e e' : ε} {q : EngineQuery} {answer : Except EngineError Page},
      engine.ask e q = (e', answer) → (P e → P (engine.ask e q).1) → P e → P e' := by
    intro e e' q answer hask hkeeps hstart
    have := hkeeps hstart
    rwa [hask] at this
  induction h with
  | cut => exact hstart
  | failed hask => exact hone hask (hkeeps _ _ (List.mem_singleton_self _)) hstart
  | dry hask => exact hone hask (hkeeps _ _ (List.mem_singleton_self _)) hstart
  | refused hask => exact hone hask (hkeeps _ _ (List.mem_singleton_self _)) hstart
  | last hask => exact hone hask (hkeeps _ _ (List.mem_singleton_self _)) hstart
  | again hask _ _ _ _ ih =>
    simp only [queries_after, List.forall_mem_cons] at hkeeps
    exact ih (hone hask (hkeeps _).1 hstart) fun e => (hkeeps e).2

/-! ## Taking turns -/

/-- Queries and chunks take turns, beginning with a query; the last query may have no chunk. -/
inductive Alternating : List Step → Prop where
  | nil : Alternating []
  | single (q : EngineQuery) : Alternating [.asked q]
  | turn (q : EngineQuery) (c : Chunk) {steps : List Step} (rest : Alternating steps) :
      Alternating (.asked q :: .handed c :: steps)

theorem Performs.alternating {record : Record ε σ} (h : Performs engine sink e r record) :
    Alternating record.steps := by
  induction h with
  | cut => exact .nil
  | failed => exact .single _
  | dry => exact .single _
  | refused => exact .turn _ _ .nil
  | last => exact .turn _ _ .nil
  | again _ _ _ _ _ ih => exact .turn _ _ ih

end Run

end SearchExport
