import SearchExport.Proofs.Export.Failure

/-!
# What a line writer leaves behind

A sink sees the chunks of an export one after the other, up to the first one that it refuses.  A writer of
lines does not care where a chunk ends, except for the flush that follows it: it writes the lines of the
messages, up to the first one for which there is no room.

* `Sink.offered` — the state after chunks that are offered in order; `CutsToPrefix.sink_eq` — an export
  leaves the sink in that state.
* `LineWriter.writeAll_append` — writing messages in two parts.
* `LineWriter.offered_ndjson` — chunks are written as their messages would be all at once.
* `LineWriter.taken_prefix_writeAll` — more messages only add bytes.
-/

set_option autoImplicit false

namespace SearchExport

/-! ## Offered chunks -/

namespace Sink

variable {σ : Type}

/-- The state of a sink after chunks were offered to it in order, up to the first one that it refuses. -/
def offered (sink : Sink σ) : σ → List Chunk → σ
  | s, [] => s
  | s, c :: cs =>
    match sink.accept s c with
    | (s', .ok ()) => offered sink s' cs
    | (s', .error _) => s'

/-- **A sink takes all chunks, or all up to one that it refuses.** -/
theorem takes_or_refuses (sink : Sink σ) (s : σ) (cs : List Chunk) :
    sink.Takes s cs (sink.offered s cs) ∨
      ∃ k c s₁ error, cs[k]? = some c ∧ sink.Takes s (cs.take k) s₁ ∧
        sink.accept s₁ c = (sink.offered s cs, .error error) := by
  induction cs generalizing s with
  | nil => exact .inl (.nil s)
  | cons c cs ih =>
    obtain ⟨s', outcome, haccept⟩ : ∃ s' outcome, sink.accept s c = (s', outcome) := ⟨_, _, rfl⟩
    cases outcome with
    | error error =>
      have hoffered : sink.offered s (c :: cs) = s' := by rw [offered, haccept]
      exact .inr ⟨0, c, s, error, rfl, .nil s, by rw [hoffered, haccept]⟩
    | ok =>
      have hoffered : sink.offered s (c :: cs) = sink.offered s' cs := by rw [offered, haccept]
      rw [hoffered]
      rcases ih s' with htakes | ⟨k, c', s₁, error, hc', htakes, hrefuse⟩
      · exact .inl (.cons haccept htakes)
      · exact .inr ⟨k + 1, c', s₁, error, hc', .cons haccept htakes, hrefuse⟩

end Sink

/-- **An export leaves its sink** as the chunks of the full run leave it, and it ends when the full run
does. -/
theorem CutsToPrefix.sink_eq {ε τ : Type} {full : Run.Record ε τ} {deliver : Chunk → Chunk}
    {run : ∀ σ : Type, Sink σ → σ → Run.Record ε σ} (h : CutsToPrefix full deliver run) {σ : Type}
    (sink : Sink σ) (s : σ) :
    (run σ sink s).sink = sink.offered s (full.chunks.map deliver) ∧
      (full.result ≠ none → (run σ sink s).result ≠ none) := by
  rcases sink.takes_or_refuses s (full.chunks.map deliver) with
    htakes | ⟨k, c, s₁, error, hc, htakes, hrefuse⟩
  · rw [h.taken sink s _ htakes]
    exact ⟨rfl, fun hresult => hresult⟩
  · rw [List.getElem?_map, Option.map_eq_some_iff] at hc
    obtain ⟨c, hc, rfl⟩ := hc
    rw [← List.map_take] at htakes
    obtain ⟨hcut, hsink⟩ := h.refused sink s s₁ _ k c error hc htakes hrefuse
    exact ⟨hsink, fun _ => by simp [hcut.result]⟩

/-! ## Written lines -/

/-- Writing adds bytes and does not change whether the target can be flushed. -/
theorem ByteTarget.write_spec (t : ByteTarget) (bytes : List UInt8) :
    t.taken <+: (t.write bytes).1.taken ∧ (t.write bytes).1.flushFails = t.flushFails := by
  unfold ByteTarget.write
  cases t.capacity with
  | none => exact ⟨List.prefix_append _ _, rfl⟩
  | some n => exact ⟨List.prefix_append _ _, rfl⟩

namespace LineWriter

variable (fields : List String) (w : LineWriter)

theorem writeAll_cons (m : Message) (ms : List Message) :
    writeAll fields w (m :: ms) =
      match w.target.write (utf8Bytes (m.line fields)) with
      | (target, .ok ()) => writeAll fields ⟨target, w.written + 1⟩ ms
      | (target, .error e) => ({ w with target := target }, .error e) := rfl

/-- Messages are written in two parts as they are written at once. -/
theorem writeAll_append (ms ms' : List Message) :
    writeAll fields w (ms ++ ms') =
      match writeAll fields w ms with
      | (w', .ok ()) => writeAll fields w' ms'
      | (w', .error e) => (w', .error e) := by
  induction ms generalizing w with
  | nil => rfl
  | cons m ms ih =>
    rw [List.cons_append, writeAll_cons, writeAll_cons]
    obtain ⟨target, outcome, hwrite⟩ :
        ∃ target outcome, w.target.write (utf8Bytes (m.line fields)) = (target, outcome) :=
      ⟨_, _, rfl⟩
    rw [hwrite]
    cases outcome with
    | error e => rfl
    | ok => exact ih _

/-- Writing lines adds bytes and does not change whether the target can be flushed. -/
theorem writeAll_spec (ms : List Message) :
    w.target.taken <+: (writeAll fields w ms).1.target.taken ∧
      (writeAll fields w ms).1.target.flushFails = w.target.flushFails := by
  induction ms generalizing w with
  | nil => exact ⟨List.prefix_rfl, rfl⟩
  | cons m ms ih =>
    obtain ⟨htaken, hflush⟩ := w.target.write_spec (utf8Bytes (m.line fields))
    rw [writeAll_cons]
    obtain ⟨target, outcome, hwrite⟩ :
        ∃ target outcome, w.target.write (utf8Bytes (m.line fields)) = (target, outcome) :=
      ⟨_, _, rfl⟩
    rw [hwrite] at htaken hflush ⊢
    cases outcome with
    | error e => exact ⟨htaken, hflush⟩
    | ok =>
      obtain ⟨htaken', hflush'⟩ := ih ⟨target, w.written + 1⟩
      exact ⟨htaken.trans htaken', hflush'.trans hflush⟩

/-- More messages only add bytes. -/
theorem taken_prefix_writeAll {ms ms' : List Message} (h : ms <+: ms') :
    (writeAll fields w ms).1.target.taken <+: (writeAll fields w ms').1.target.taken := by
  obtain ⟨more, rfl⟩ := h
  rw [writeAll_append]
  obtain ⟨w', outcome, hwrite⟩ : ∃ w' outcome, writeAll fields w ms = (w', outcome) := ⟨_, _, rfl⟩
  rw [hwrite]
  cases outcome with
  | error e => exact List.prefix_rfl
  | ok => exact (writeAll_spec fields w' more).1

variable {fields w}

/-- **Chunks are written as their messages would be all at once**: all of them when the target can be
flushed, and else those of the chunks before the first one that ends in a failed flush. -/
theorem offered_ndjson {cs : List Chunk} (hfields : ∀ c ∈ cs, c.fields = fields) :
    ∃ ms, ms <+: cs.flatMap Chunk.messages ∧
      (w.target.flushFails = false → ms = cs.flatMap Chunk.messages) ∧
      Sink.ndjson.offered w cs = (writeAll fields w ms).1 := by
  induction cs generalizing w with
  | nil => exact ⟨[], List.prefix_rfl, fun _ => rfl, rfl⟩
  | cons c cs ih =>
    obtain ⟨hc, hrest⟩ := List.forall_mem_cons.1 hfields
    have hkept := (writeAll_spec fields w c.messages).2
    obtain ⟨w', outcome, hwrite⟩ : ∃ w' outcome, writeAll fields w c.messages = (w', outcome) :=
      ⟨_, _, rfl⟩
    rw [hwrite] at hkept
    rw [List.flatMap_cons, Sink.offered]
    cases outcome with
    | error e =>
      have haccept : Sink.ndjson.accept w c =
          (w', .error (.sink ("Failed to write message: " ++ e))) := by
        simp only [Sink.ndjson, accept, hc, hwrite]
      refine ⟨_, List.prefix_rfl, fun _ => rfl, ?_⟩
      rw [haccept, writeAll_append, hwrite]
    | ok =>
      cases hflush : w'.target.flushFails with
      | true =>
        have haccept : Sink.ndjson.accept w c =
            (w', .error (.sink ("Failed to flush output: " ++ "device gone"))) := by
          simp only [Sink.ndjson, accept, hc, hwrite, ByteTarget.flush, hflush]
          rfl
        refine ⟨c.messages, List.prefix_append _ _, fun hnot => ?_, ?_⟩
        · rw [← hkept, hflush] at hnot
          cases hnot
        · rw [haccept, hwrite]
      | false =>
        have haccept : Sink.ndjson.accept w c = (w', .ok ()) := by
          simp only [Sink.ndjson, accept, hc, hwrite, ByteTarget.flush, hflush]
          rfl
        obtain ⟨ms, hms, hall, hoffered⟩ := ih (w := w') hrest
        refine ⟨c.messages ++ ms, (List.prefix_append_right_inj _).2 hms, fun _ => ?_, ?_⟩
        · rw [hall hflush]
        · rw [haccept, writeAll_append, hwrite]
          exact hoffered

end LineWriter

end SearchExport
