import SearchExport.Proofs.Export.Sinks
import SearchExport.Proofs.Export.Turns

/-!
# A run from one of its queries on

What a run does from one of its queries on is a run of its own, which starts where the turns before have
left it.  So whatever holds of the first turn of every run holds of every turn.

* `Run.Resumes` — what is left of a run at one of its queries.
* `Run.Performs.resumes` — there is something left at each of them.
* `Run.Performs.asks_or_cut` — a run without a query has taken no turn.
* `Run.perform_cut_short` — a run without a result has used up its turns.
-/

set_option autoImplicit false

namespace SearchExport.Run

variable {σ ε : Type}

/-- The run `r'` with the record `rest` is what the run `r` with its record does from its query `i` on.  The
sink has taken the chunks of the `i` queries before. -/
structure Resumes (sink : Sink σ) (r : Run σ) (record : Record ε σ) (i : Nat) (r' : Run σ)
    (rest : Record ε σ) : Prop where
  request : r'.request = r.request
  messages : r'.summary.messages =
    r.summary.messages + ((record.chunks.take i).flatMap Chunk.messages).length
  taken : sink.Takes r.sink (record.chunks.take i) r'.sink
  before : i ≤ record.chunks.length
  queries : rest.queries = record.queries.drop i
  chunks : rest.chunks = record.chunks.drop i
  result : rest.result = record.result
  sink : rest.sink = record.sink

theorem Resumes.refl (sink : Sink σ) (r : Run σ) (record : Record ε σ) :
    Resumes sink r record 0 r record where
  request := rfl
  messages := by simp
  taken := by simpa using .nil r.sink
  before := Nat.zero_le _
  queries := rfl
  chunks := rfl
  result := rfl
  sink := rfl

/-- What is left after one more turn before. -/
theorem Resumes.after {sink : Sink σ} {r r' : Run σ} {p : Page} {last : Hit} {s : σ}
    {record rest : Record ε σ} {i : Nat}
    (haccept : sink.accept r.sink (r.chunkOf p) = (s, .ok ()))
    (h : Resumes sink (r.next p.hits.length last s) record i r' rest) :
    Resumes sink r (record.after r.query (r.chunkOf p)) (i + 1) r' rest where
  request := h.request
  messages := by
    have hnext : (r.next p.hits.length last s).summary.messages = r.summary.messages + p.hits.length := rfl
    have hlength : (r.chunkOf p).messages.length = p.hits.length := List.length_map ..
    rw [h.messages, hnext, chunks_after, List.take_succ_cons, List.flatMap_cons, List.length_append, hlength,
      Nat.add_assoc]
  taken := by
    rw [chunks_after, List.take_succ_cons]
    exact .cons haccept h.taken
  before := Nat.succ_le_succ h.before
  queries := h.queries
  chunks := h.chunks
  result := h.result
  sink := h.sink

variable {answer : List EngineQuery → Except EngineError Page} {sink : Sink σ}

/-- **From each of its queries on** a run is a run of its own. -/
theorem Performs.resumes {past : List EngineQuery} {r : Run σ} {record : Record (List EngineQuery) σ}
    (h : Performs (Engine.ofHistory answer) sink past r record) {i : Nat}
    (hi : i < record.queries.length) :
    ∃ r' rest, Performs (Engine.ofHistory answer) sink (past ++ record.queries.take i) r' rest ∧
      Resumes sink r record i r' rest := by
  induction i generalizing past r record with
  | zero =>
    refine ⟨r, record, ?_, .refl sink r record⟩
    rwa [List.take_zero, List.append_nil]
  | succ i ih =>
    -- only a run that went on has a second query
    cases h with
    | cut => simp at hi
    | failed => simp at hi
    | dry => simp at hi
    | refused => simp at hi
    | last => simp at hi
    | @again _ _ _ p s last record hask hlast haccept hmore rest =>
      obtain ⟨rfl, hanswer⟩ := Prod.mk.inj hask
      obtain ⟨r', rest', hrest, hresumes⟩ := ih rest (by simpa using hi)
      refine ⟨r', rest', ?_, hresumes.after haccept⟩
      rwa [queries_after, List.take_succ_cons, List.append_cons]

/-- A run without a query has taken no turn. -/
theorem Performs.asks_or_cut {engine : Engine ε} {e : ε} {r : Run σ} {record : Record ε σ}
    (h : Performs engine sink e r record) :
    0 < record.queries.length ∨ record = ⟨[], none, e, r.sink⟩ := by
  cases h with
  | cut => exact .inr rfl
  | failed => exact .inl Nat.one_pos
  | dry => exact .inl Nat.one_pos
  | refused => exact .inl Nat.one_pos
  | last => exact .inl Nat.one_pos
  | again => exact .inl (Nat.succ_pos _)

/-- **A run without a result** has used up its turns. -/
theorem perform_cut_short (engine : Engine ε) (sink : Sink σ) :
    ∀ (fuel : Nat) (e : ε) (r : Run σ), (perform engine sink fuel e r).result = none →
      (perform engine sink fuel e r).queries.length = fuel
  | 0, _, _, _ => rfl
  | fuel + 1, e, r, hnone => by
    cases answered engine e r with
    | failed hask =>
      rw [perform_failed hask] at hnone
      cases hnone
    | dry hask hdry =>
      rw [perform_dry hask hdry] at hnone
      cases hnone
    | @stops _ p _ hask hhits hstop =>
      obtain ⟨s, outcome, haccept⟩ :
          ∃ s outcome, sink.accept r.sink (r.chunkOf p) = (s, outcome) := ⟨_, _, rfl⟩
      cases outcome with
      | error fault =>
        rw [perform_refused hask hhits haccept] at hnone
        cases hnone
      | ok =>
        rw [perform_last hask hhits haccept hstop] at hnone
        cases hnone
    | @goesOn e' p last hask hlast hmore =>
      obtain ⟨s, outcome, haccept⟩ :
          ∃ s outcome, sink.accept r.sink (r.chunkOf p) = (s, outcome) := ⟨_, _, rfl⟩
      cases outcome with
      | error fault =>
        rw [perform_refused hask (ne_nil_of_getLast? hlast) haccept] at hnone
        cases hnone
      | ok =>
        rw [perform_again hask hlast haccept hmore] at hnone ⊢
        rw [queries_after, List.length_cons, perform_cut_short engine sink fuel e' _ hnone]

end SearchExport.Run
