import SearchExport.Proofs.Export.Failure

/-!
# Sinks in step

Two runs of one request against one engine see the same pages.  They differ only as far as their sinks
answer differently.

* `Sink.InStep` — two sinks that answer every chunk alike, with a relation that is kept between their states.
* `Run.perform_inStep`, `ExportRequest.export_inStep` — with such sinks a run and an export take the same
  steps and end alike.
* `Sink.recording` — keeps what another sink is offered; `ExportRequest.export_recording` — the export does
  not notice.
* `Run.Performs.failsBy`, `ExportRequest.export_failsBy` — what can make a run and an export fail.
-/

set_option autoImplicit false

namespace SearchExport

variable {σ τ ε : Type}

namespace Sink

/-- Both answers accept, and `R` holds of the states; or both refuse with one error, and `Q` does. -/
inductive SameAnswer (R Q : σ → τ → Prop) :
    σ × Except ExportError Unit → τ × Except ExportError Unit → Prop where
  | taken {s : σ} {t : τ} (h : R s t) : SameAnswer R Q (s, .ok ()) (t, .ok ())
  | refused {s : σ} {t : τ} (fault : ExportError) (h : Q s t) :
      SameAnswer R Q (s, .error fault) (t, .error fault)

/-- From states that `R` relates both sinks answer every chunk alike.  After the last chunk, be it accepted
or refused, the states are related by `Q`. -/
structure InStep (sink : Sink σ) (other : Sink τ) (R Q : σ → τ → Prop) : Prop where
  answers : ∀ s t c, R s t → SameAnswer R Q (sink.accept s c) (other.accept t c)
  last : ∀ s t, R s t → Q s t

/-- What sinks in step do with a chunk: both accept it, or both refuse it with one error. -/
theorem InStep.accepts_or_refuses {sink : Sink σ} {other : Sink τ} {R Q : σ → τ → Prop}
    (h : sink.InStep other R Q) {s : σ} {t : τ} (hrel : R s t) (c : Chunk) :
    (∃ s' t', sink.accept s c = (s', .ok ()) ∧ other.accept t c = (t', .ok ()) ∧ R s' t') ∨
      ∃ s' t' fault, sink.accept s c = (s', .error fault) ∧ other.accept t c = (t', .error fault) ∧
        Q s' t' := by
  have hanswer := h.answers s t c hrel
  generalize sink.accept s c = answer at hanswer
  generalize other.accept t c = answer' at hanswer
  cases hanswer with
  | taken hrel' => exact .inl ⟨_, _, rfl, rfl, hrel'⟩
  | refused fault hlast => exact .inr ⟨_, _, fault, rfl, rfl, hlast⟩

/-- Keeps the chunks that another sink is offered. -/
def recording (sink : Sink σ) : Sink (σ × List Chunk) where
  accept s c := (((sink.accept s.1 c).1, s.2 ++ [c]), (sink.accept s.1 c).2)

theorem recording_inStep (sink : Sink σ) (f : Chunk → Chunk) :
    (sink.recording.mapped f).InStep (sink.mapped f) (fun s t => s.1 = t) (fun s t => s.1 = t) where
  answers s t c h := by
    subst h
    obtain ⟨s', outcome, haccept⟩ : ∃ s' outcome, sink.accept s.1 (f c) = (s', outcome) := ⟨_, _, rfl⟩
    simp only [mapped, recording, haccept]
    cases outcome with
    | error fault => exact .refused fault rfl
    | ok => exact .taken rfl
  last _ _ h := h

end Sink

/-! ## Runs -/

namespace Run

/-- The records differ in their sinks only, and `Q` holds of these. -/
structure Record.InStep (Q : σ → τ → Prop) (record : Record ε σ) (other : Record ε τ) : Prop where
  same : other = record.withSink other.sink
  sinks : Q record.sink other.sink

theorem Record.InStep.after {Q : σ → τ → Prop} {record : Record ε σ} {other : Record ε τ}
    (h : record.InStep Q other) (q : EngineQuery) (c : Chunk) :
    (record.after q c).InStep Q (other.after q c) where
  same := by
    rw [h.same]
    rfl
  sinks := h.sinks

/-- **Runs with sinks in step** take the same steps and end alike. -/
theorem perform_inStep {engine : Engine ε} {sink : Sink σ} {other : Sink τ} {R Q : σ → τ → Prop}
    (h : sink.InStep other R Q) :
    ∀ (fuel : Nat) (e : ε) (r : Run σ) (t : τ), R r.sink t →
      (perform engine sink fuel e r).InStep Q (perform engine other fuel e (r.withSink t))
  | 0, e, r, t, hrel => ⟨rfl, h.last _ _ hrel⟩
  | fuel + 1, e, r, t, hrel => by
    cases answered engine e r with
    | failed hask =>
      rw [perform_failed hask, perform_failed (r := r.withSink t) hask]
      exact ⟨rfl, h.last _ _ hrel⟩
    | dry hask hdry =>
      rw [perform_dry hask hdry, perform_dry (r := r.withSink t) hask hdry]
      exact ⟨rfl, h.last _ _ hrel⟩
    | @stops _ p _ hask hhits hstop =>
      rcases h.accepts_or_refuses hrel (r.chunkOf p) with
        ⟨s', t', haccept, haccept', hrel'⟩ | ⟨s', t', fault, haccept, haccept', hlast⟩
      · rw [perform_last hask hhits haccept hstop,
          perform_last (r := r.withSink t) hask hhits haccept' hstop]
        exact ⟨rfl, h.last _ _ hrel'⟩
      · rw [perform_refused hask hhits haccept,
          perform_refused (r := r.withSink t) hask hhits haccept']
        exact ⟨rfl, hlast⟩
    | @goesOn e' p last hask hlast hmore =>
      have hhits := ne_nil_of_getLast? hlast
      rcases h.accepts_or_refuses hrel (r.chunkOf p) with
        ⟨s', t', haccept, haccept', hrel'⟩ | ⟨s', t', fault, haccept, haccept', hlast'⟩
      · -- the next query is formed from the page alone, so that both runs ask the same
        rw [perform_again hask hlast haccept hmore,
          perform_again (r := r.withSink t) hask hlast haccept' hmore,
          next_withSink (s := s')]
        exact (perform_inStep h fuel e' _ t' hrel').after _ _
      · rw [perform_refused hask hhits haccept,
          perform_refused (r := r.withSink t) hask hhits haccept']
        exact ⟨rfl, hlast'⟩

/-- What made a run fail: the answer of the engine to its last query, or the one of the sink to its last
chunk. -/
inductive Record.FailsBy (engine : Engine ε) (sink : Sink σ) (record : Record ε σ) (error : ExportError) :
    Prop where
  | engine {e : ε} {q : EngineQuery} {fault : EngineError} (hlast : record.queries.getLast? = some q)
      (hask : engine.ask e q = (record.engine, .error fault)) (herror : error = .engine fault)
  | sink {s : σ} {c : Chunk} (hlast : record.chunks.getLast? = some c)
      (haccept : sink.accept s c = (record.sink, .error error))

theorem Record.FailsBy.after {engine : Engine ε} {sink : Sink σ} {record : Record ε σ}
    {error : ExportError} (h : record.FailsBy engine sink error) (q : EngineQuery) (c : Chunk) :
    (record.after q c).FailsBy engine sink error := by
  cases h with
  | engine hlast hask herror =>
    exact .engine (by rw [queries_after, List.getLast?_cons, hlast]; rfl) hask herror
  | sink hlast haccept => exact .sink (by rw [chunks_after, List.getLast?_cons, hlast]; rfl) haccept

/-- **A run that fails** does so by the engine or by the sink. -/
theorem Performs.failsBy {engine : Engine ε} {sink : Sink σ} {e : ε} {r : Run σ} {record : Record ε σ}
    (h : Performs engine sink e r record) {error : ExportError}
    (herror : record.result = some (.error error)) : record.FailsBy engine sink error := by
  induction h with
  | cut => cases herror
  | failed hask =>
    cases herror
    exact .engine rfl hask rfl
  | dry => cases herror
  | refused _ _ haccept =>
    cases herror
    exact .sink rfl haccept
  | last => cases herror
  | again _ _ _ _ _ ih => exact (ih herror).after _ _

end Run

/-! ## Exports -/

namespace ExportRequest

variable (r : ExportRequest) (settings : RunSettings) (now : Timestamp) (engine : Engine ε) (fuel : Nat)
variable (e : ε)

/-- **Exports with sinks in step** take the same steps and end alike. -/
theorem export_inStep {sink : Sink σ} {other : Sink τ} {R Q : σ → τ → Prop}
    (h : sink.InStep other R Q) {s : σ} {t : τ} (hrel : R s t) :
    (r.export settings now engine sink fuel e s).InStep Q
      (r.export settings now engine other fuel e t) := by
  rcases r.fetches_or_ends settings now with ⟨first, hstart⟩ | ⟨result, hends⟩
  · rw [export_of_fetch _ _ _ _ _ hstart, export_of_fetch _ _ _ _ _ hstart]
    exact Run.perform_inStep h fuel e (r.firstRun first s) t hrel
  · rw [hends, hends]
    exact ⟨rfl, h.last _ _ hrel⟩

/-- An export does not notice that the chunks which its sink is offered are kept. -/
theorem export_recording (sink : Sink σ) (f : Chunk → Chunk) (s : σ) :
    let record := r.export settings now engine (sink.recording.mapped f) fuel e (s, [])
    r.export settings now engine (sink.mapped f) fuel e s = record.withSink record.sink.1 := by
  intro record
  obtain ⟨hsame, hsinks⟩ :=
    r.export_inStep settings now engine fuel e (sink.recording_inStep f) (s := (s, [])) (t := s) rfl
  exact hsame.trans (congrArg record.withSink hsinks.symm)

/-- **An export that fails** does so by a fault before its first query, by the engine or by the sink. -/
theorem export_failsBy (sink : Sink σ) (s : σ) {error : ExportError}
    (herror : (r.export settings now engine sink fuel e s).result = some (.error error)) :
    (r.faults settings now).head? = some error ∨
      (r.export settings now engine sink fuel e s).FailsBy engine sink error := by
  rcases r.start_cases settings now with ⟨error', hfault, hstart⟩ | ⟨_, _, indices, _, _, hstart⟩
  · rw [export_of_error _ _ _ _ _ hstart] at herror
    cases herror
    exact .inl hfault
  · split at hstart
    · rw [export_of_nothing _ _ _ _ _ hstart] at herror
      cases herror
    · rw [export_of_fetch _ _ _ _ _ hstart] at herror ⊢
      exact .inr ((Run.performs _ _ _ _ _).failsBy herror)

end ExportRequest

end SearchExport
