import SearchExport.Proofs.Export.Sinks
import SearchExport.Proofs.Export.Turns

/-!
# Prefixes of runs

Two runs of one request against one engine, of which the first has a sink that never fails: the *full*
run.  The other one does the same until its sink refuses a chunk.

* `Run.perform_taken` — a sink that takes every chunk of the full run sees the full run.
* `Run.perform_cut` — a sink that refuses the chunk `k + 1` cuts the full run after it was handed over.
* `Run.Performs.engine_fault` — a failure of the engine ends a run after the chunks of the pages
  before.
-/

set_option autoImplicit false

namespace SearchExport

namespace Run

variable {σ τ ε : Type}

/-! ## Runs that differ in their sinks -/

/-- The run with another sink. -/
def withSink (r : Run σ) (t : τ) : Run τ where
  request := r.request
  query := r.query
  summary := r.summary
  sink := t

/-- The record with another sink. -/
def Record.withSink (record : Record ε σ) (t : τ) : Record ε τ :=
  ⟨record.steps, record.result, record.engine, t⟩

@[simp] theorem query_withSink (r : Run σ) (t : τ) : (r.withSink t).query = r.query := rfl

@[simp] theorem chunkOf_withSink (r : Run σ) (t : τ) (p : Page) :
    (r.withSink t).chunkOf p = r.chunkOf p := rfl

theorem next_withSink (r : Run σ) (t t' : τ) (hits : Nat) (last : Hit) (s : σ) :
    (r.withSink t).next hits last t' = (r.next hits last s).withSink t' := rfl

/-- The record `cut` is the full record up to the chunk `k + 1`, which was refused with `error`. -/
structure Record.CutAt (cut : Record ε σ) (full : Record ε τ) (k : Nat) (error : ExportError) :
    Prop where
  /-- It has the steps up to the query of the page `k + 1` and the chunk of that page. -/
  steps : cut.steps = full.steps.take (2 * k + 2)
  queries : cut.queries = full.queries.take (k + 1)
  chunks : cut.chunks = full.chunks.take (k + 1)
  result : cut.result = some (.error error)

theorem Record.CutAt.after {cut : Record ε σ} {full : Record ε τ} {k : Nat} {error : ExportError}
    (h : cut.CutAt full k error) (q : EngineQuery) (c : Chunk) :
    (cut.after q c).CutAt (full.after q c) (k + 1) error where
  steps := by
    have : 2 * (k + 1) + 2 = 2 * k + 2 + 1 + 1 := by omega
    simp [Record.after, this, h.steps]
  queries := by simp [h.queries]
  chunks := by simp [h.chunks]
  result := h.result

/-! ## Two runs -/

variable {engine : Engine ε} {sink : Sink σ} {calm : Sink τ}

/-- **A sink that takes every chunk** of the full run sees the full run. -/
theorem perform_taken (hcalm : calm.NeverFails) :
    ∀ (fuel : Nat) (e : ε) (r : Run σ) (t : τ) (s' : σ),
      sink.Takes r.sink (perform engine calm fuel e (r.withSink t)).chunks s' →
      perform engine sink fuel e r = (perform engine calm fuel e (r.withSink t)).withSink s'
  | 0, e, r, t, s', htakes => by
    obtain ⟨⟩ := htakes
    rfl
  | fuel + 1, e, r, t, s', htakes => by
    cases answered engine e (r.withSink t) with
    | failed hask =>
      rw [perform_failed hask] at htakes ⊢
      obtain ⟨⟩ := htakes
      rw [perform_failed (r := r) hask]
      rfl
    | dry hask hdry =>
      rw [perform_dry hask hdry] at htakes ⊢
      obtain ⟨⟩ := htakes
      rw [perform_dry (r := r) hask hdry]
      rfl
    | @stops _ p _ hask hhits hstop =>
      obtain ⟨t', hcalm'⟩ := hcalm.accept_eq t (r.chunkOf p)
      rw [perform_last hask hhits hcalm' hstop] at htakes ⊢
      cases htakes with
      | cons haccept rest =>
        cases rest
        rw [perform_last (r := r) hask hhits haccept hstop]
        rfl
    | @goesOn e' p _ hask hlast hmore =>
      obtain ⟨t', hcalm'⟩ := hcalm.accept_eq t (r.chunkOf p)
      rw [perform_again hask hlast hcalm' hmore] at htakes ⊢
      cases htakes with
      | @cons _ s₁ _ _ _ haccept rest =>
        rw [perform_again (r := r) hask hlast haccept hmore]
        rw [next_withSink (s := s₁)] at rest ⊢
        rw [perform_taken hcalm fuel e' _ t' s' rest]
        rfl

/-- **A sink that refuses the chunk `k + 1`** cuts the full run there. -/
theorem perform_cut (hcalm : calm.NeverFails) :
    ∀ (fuel : Nat) (e : ε) (r : Run σ) (t : τ) (k : Nat) (c : Chunk) (s₁ s₂ : σ)
      (error : ExportError),
      (perform engine calm fuel e (r.withSink t)).chunks[k]? = some c →
      sink.Takes r.sink ((perform engine calm fuel e (r.withSink t)).chunks.take k) s₁ →
      sink.accept s₁ c = (s₂, .error error) →
      (perform engine sink fuel e r).CutAt (perform engine calm fuel e (r.withSink t)) k error ∧
        (perform engine sink fuel e r).sink = s₂
  | 0, e, r, t, k, c, s₁, s₂, error, hc, _, _ => by
    simp [perform] at hc
  | fuel + 1, e, r, t, k, c, s₁, s₂, error, hc, htakes, hrefuse => by
    cases answered engine e (r.withSink t) with
    | failed hask =>
      rw [perform_failed hask] at hc
      simp at hc
    | dry hask hdry =>
      rw [perform_dry hask hdry] at hc
      simp at hc
    | @stops _ p _ hask hhits hstop =>
      obtain ⟨t', hcalm'⟩ := hcalm.accept_eq t (r.chunkOf p)
      rw [perform_last hask hhits hcalm' hstop] at hc htakes ⊢
      obtain ⟨rfl, rfl⟩ : k = 0 ∧ r.chunkOf p = c := by
        simpa [List.getElem?_singleton] using hc
      obtain ⟨⟩ := htakes
      rw [perform_refused (r := r) hask hhits hrefuse]
      exact ⟨⟨rfl, rfl, rfl, rfl⟩, rfl⟩
    | @goesOn e' p _ hask hlast hmore =>
      obtain ⟨t', hcalm'⟩ := hcalm.accept_eq t (r.chunkOf p)
      rw [perform_again hask hlast hcalm' hmore] at hc htakes ⊢
      cases k with
      | zero =>
        obtain rfl : r.chunkOf p = c := by simpa using hc
        obtain ⟨⟩ := htakes
        rw [perform_refused (r := r) hask (ne_nil_of_getLast? hlast) hrefuse]
        exact ⟨⟨by simp [Record.after], by simp, by simp, rfl⟩, rfl⟩
      | succ k =>
        rw [chunks_after, List.take_succ_cons] at htakes
        cases htakes with
        | @cons _ s₀ _ _ _ haccept rest =>
          rw [perform_again (r := r) hask hlast haccept hmore]
          rw [next_withSink (s := s₀)] at hc rest ⊢
          obtain ⟨hcut, hsink⟩ :=
            perform_cut hcalm fuel e' _ t' k c s₁ s₂ error (by simpa using hc) rest hrefuse
          exact ⟨hcut.after r.query (r.chunkOf p), hsink⟩

/-! ## Failures of the engine -/

variable {answer : List EngineQuery → Except EngineError Page} {past : List EngineQuery}
variable {r : Run σ}

/-- **A failure of the engine** at the query `k + 1` ends a run with that failure, after the sink took
the chunks of the `k` pages before. -/
theorem Performs.engine_fault {record : Record (List EngineQuery) σ}
    (h : Performs (Engine.ofHistory answer) sink past r record) {k : Nat} {fault : EngineError}
    (hk : k < record.queries.length)
    (hfault : answer (past ++ record.queries.take (k + 1)) = .error fault) :
    record.queries.length = k + 1 ∧ record.chunks.length = k ∧
      sink.Takes r.sink record.chunks record.sink ∧
      record.result = some (.error (.engine fault)) := by
  -- a query that was answered with a page is not the one that failed
  have answered : ∀ {past : List EngineQuery} {q : EngineQuery} {p : Page},
      answer (past ++ [q]) = .ok p → answer (past ++ [q]) = .error fault → False := by
    intro past q p hok herror
    rw [hok] at herror
    cases herror
  induction h generalizing k with
  | cut => simp at hk
  | failed hask =>
    obtain ⟨rfl, hanswer⟩ := Prod.mk.inj hask
    obtain rfl : k = 0 := by simpa using hk
    obtain rfl := by simpa [hanswer] using hfault
    exact ⟨rfl, rfl, .nil _, rfl⟩
  | dry hask =>
    obtain ⟨rfl, hanswer⟩ := Prod.mk.inj hask
    exact (answered hanswer (by simpa using hfault)).elim
  | refused hask =>
    obtain ⟨rfl, hanswer⟩ := Prod.mk.inj hask
    exact (answered hanswer (by simpa using hfault)).elim
  | last hask =>
    obtain ⟨rfl, hanswer⟩ := Prod.mk.inj hask
    exact (answered hanswer (by simpa using hfault)).elim
  | again hask _ haccept _ _ ih =>
    obtain ⟨rfl, hanswer⟩ := Prod.mk.inj hask
    cases k with
    | zero => exact (answered hanswer (by simpa using hfault)).elim
    | succ k =>
      obtain ⟨hqueries, hchunks, htakes, hresult⟩ :=
        ih (by simpa using hk) (by simpa using hfault)
      exact ⟨by simp [hqueries], by simp [hchunks], .cons haccept htakes, hresult⟩

end Run

end SearchExport
