import SearchExport.Proofs.Export.Resuming
import SearchExport.Proofs.Export.Start
import SearchExport.Proofs.Request.Build

/-!
# The protocol of a run

What a run does to an engine that may answer anything, and what its summary says.

* `Run.Standing` — the invariant between two turns: the limit is not reached yet, and nothing was
  delivered exactly when nothing was asked.  `Run.standing_next` — an accepted page that does not end
  the run keeps it.
* `Run.Performs.query_succ`, `Run.Performs.chunk_eq`, `Run.Performs.counters`, `Run.Performs.reason` —
  the queries, the chunks, the counters and the end of what remains of a run.
* `ExportRequest.Settles` — what an export makes of one answer; `ExportRequest.settles_of_performs` — it does
  so with each answer that it gets.
* `ExportRequest.export_protocol` — every export obeys the protocol, whatever the engine and the sink.
-/

set_option autoImplicit false

namespace SearchExport

namespace Run

variable {σ ε : Type}

/-! ## Between two turns -/

/-- The state of a run between two turns, after the queries `past`. -/
structure Standing (past : List EngineQuery) (r : Run σ) : Prop where
  none_yet : r.summary.messages = 0 ↔ past = []
  below_limit : r.reachesLimit r.summary.messages = false

theorem standing_next {past : List EngineQuery} {r : Run σ} {hits : Nat} (hhits : 0 < hits)
    (hmore : r.stopAfter hits = none) (q : EngineQuery) (last : Hit) (s : σ) :
    Standing (past ++ [q]) (r.next hits last s) where
  none_yet := by
    have : (r.next hits last s).summary.messages = r.summary.messages + hits := rfl
    simp only [this, List.append_eq_nil_iff, List.cons_ne_self, and_false, iff_false]
    omega
  below_limit := (stopAfter_eq_none hmore).1

/-! ## Queries -/

variable {answer : List EngineQuery → Except EngineError Page} {sink : Sink σ}
variable {past : List EngineQuery} {r : Run σ}

theorem Performs.query_zero {engine : Engine ε} {e : ε} {record : Record ε σ}
    (h : Performs engine sink e r record) {q : EngineQuery} (hq : record.queries[0]? = some q) :
    q = r.query := by
  cases h with
  | cut => simp at hq
  | failed => simpa using hq.symm
  | dry => simpa using hq.symm
  | refused => simpa using hq.symm
  | last => simpa using hq.symm
  | again => simpa using hq.symm

/-- **Every further query** is the one before with the cursor of the page that was answered last. -/
theorem Performs.query_succ {record : Record (List EngineQuery) σ}
    (h : Performs (Engine.ofHistory answer) sink past r record) {i : Nat} {q : EngineQuery}
    (hq : record.queries[i + 1]? = some q) :
    ∃ p last, answer (past ++ record.queries.take (i + 1)) = .ok p ∧
      p.hits.getLast? = some last ∧ q = r.query.continueAfter last.sortValues := by
  induction h generalizing i with
  | cut => simp at hq
  | failed => simp at hq
  | dry => simp at hq
  | refused => simp at hq
  | last => simp at hq
  | @again past _ r p s last _ hask hlast _ _ rest ih =>
    obtain ⟨rfl, hanswer⟩ := Prod.mk.inj hask
    rw [queries_after, List.getElem?_cons_succ] at hq
    cases i with
    | zero => exact ⟨p, last, by simpa using hanswer, hlast, rest.query_zero hq⟩
    | succ i =>
      obtain ⟨p', last', hanswer', hlast', rfl⟩ := ih hq
      exact ⟨p', last', by simpa using hanswer', hlast', rfl⟩

/-! ## Chunks -/

theorem Performs.chunk_eq {record : Record (List EngineQuery) σ}
    (h : Performs (Engine.ofHistory answer) sink past r record) (hr : Standing past r) {i : Nat}
    {c : Chunk} (hc : record.chunks[i]? = some c) :
    ∃ p, answer (past ++ record.queries.take (i + 1)) = .ok p ∧ p.hits ≠ [] ∧
      c = { fields := r.request.fields, messages := p.hits.map Hit.toMessage,
            isFirst := past.isEmpty && i == 0 } := by
  -- the chunk of the page at hand
  have head : ∀ {past : List EngineQuery} {r : Run σ}, Standing past r → ∀ p : Page,
      r.chunkOf p = { fields := r.request.fields, messages := p.hits.map Hit.toMessage,
                      isFirst := past.isEmpty && (0 : Nat) == 0 } := by
    intro past r hr p
    have : (r.summary.messages == 0) = past.isEmpty := by
      rw [Bool.eq_iff_iff]
      simpa using hr.none_yet
    simp [chunkOf, this]
  induction h generalizing i with
  | cut => simp at hc
  | failed => simp at hc
  | dry => simp at hc
  | @refused past _ r p s fault hask hhits haccept =>
    obtain ⟨rfl, hanswer⟩ := Prod.mk.inj hask
    obtain ⟨rfl, rfl⟩ : i = 0 ∧ r.chunkOf p = c := by
      simpa [List.getElem?_singleton] using hc
    exact ⟨p, by simpa using hanswer, hhits, head hr p⟩
  | @last past _ r p s reason hask hhits haccept hstop =>
    obtain ⟨rfl, hanswer⟩ := Prod.mk.inj hask
    obtain ⟨rfl, rfl⟩ : i = 0 ∧ r.chunkOf p = c := by
      simpa [List.getElem?_singleton] using hc
    exact ⟨p, by simpa using hanswer, hhits, head hr p⟩
  | @again past _ r p s last _ hask hlast haccept hmore rest ih =>
    obtain ⟨rfl, hanswer⟩ := Prod.mk.inj hask
    have hhits := List.length_pos_iff.2 (ne_nil_of_getLast? hlast)
    rw [chunks_after] at hc
    cases i with
    | zero =>
      obtain rfl : r.chunkOf p = c := by simpa using hc
      exact ⟨p, by simpa using hanswer, List.length_pos_iff.1 hhits, head hr p⟩
    | succ i =>
      obtain ⟨p', hanswer', hhits', rfl⟩ :=
        ih (standing_next hhits hmore r.query last s) (by simpa using hc)
      exact ⟨p', by simpa using hanswer', hhits', by simp [next]⟩

/-! ## Turns -/

/-- The run sent so many queries, handed over so many chunks and ended like this. -/
structure Record.EndsAfter (record : Record ε σ) (queries chunks : Nat)
    (result : Except ExportError Summary) : Prop where
  queries : record.queries.length = queries
  chunks : record.chunks.length = chunks
  result : record.result = some result

/-- The number of messages in the first `n` chunks. -/
def Record.delivered (record : Record ε σ) (n : Nat) : Nat :=
  ((record.chunks.take n).flatMap Chunk.messages).length

/-! ## Summaries -/

/-- **The counters** of a run that ended well: the pages are its queries, the chunks and the messages
those that it handed over. -/
theorem Performs.counters {engine : Engine ε} {e : ε} {record : Record ε σ}
    (h : Performs engine sink e r record) {summary : Summary}
    (hok : record.result = some (.ok summary)) :
    summary.pages = r.summary.pages + record.queries.length ∧
      summary.chunks = r.summary.chunks + record.chunks.length ∧
      summary.messages = r.summary.messages + (record.chunks.flatMap Chunk.messages).length ∧
      summary.indices = r.summary.indices := by
  induction h with
  | cut => cases hok
  | failed => cases hok
  | refused => cases hok
  | dry => cases hok; simp
  | last => cases hok; simp [counted, Summary.record, chunkOf]
  | again _ _ _ _ _ ih =>
    obtain ⟨hpages, hchunks, hmessages, hindices⟩ := ih hok
    simp only [next, counted, Summary.record] at hpages hchunks hmessages hindices
    simp only [queries_after, chunks_after, List.length_cons, List.flatMap_cons,
      List.length_append, chunkOf, List.length_map]
    refine ⟨by omega, by omega, ?_, hindices⟩
    rw [hmessages, Nat.add_assoc]

/-- **Why a run ended**: the limit was reached, or it was not and the last page was not full. -/
theorem Performs.reason {record : Record (List EngineQuery) σ}
    (h : Performs (Engine.ofHistory answer) sink past r record) (hr : Standing past r)
    (hsize : 0 < r.request.chunkSize) {summary : Summary}
    (hok : record.result = some (.ok summary)) :
    (summary.stopReason = some .limitReached ∧ r.reachesLimit summary.messages = true) ∨
      (summary.stopReason = some .exhausted ∧ r.reachesLimit summary.messages = false ∧
        ∃ p, answer (past ++ record.queries) = .ok p ∧ p.hits.length < r.request.chunkSize) := by
  induction h with
  | cut => cases hok
  | failed => cases hok
  | refused => cases hok
  | @dry past _ r p hask hdry =>
    cases hok
    obtain ⟨rfl, hanswer⟩ := Prod.mk.inj hask
    exact .inr ⟨rfl, hr.below_limit, p, by simpa using hanswer, by simpa [hdry] using hsize⟩
  | @last past _ r p s reason hask hhits haccept hstop =>
    cases hok
    obtain ⟨rfl, hanswer⟩ := Prod.mk.inj hask
    rcases stopAfter_eq_some hstop with ⟨rfl, hlimit⟩ | ⟨rfl, hlimit, hshort⟩
    · exact .inl ⟨rfl, hlimit⟩
    · exact .inr ⟨rfl, hlimit, p, by simpa using hanswer, hshort⟩
  | @again past _ r p s last _ hask hlast haccept hmore rest ih =>
    obtain ⟨rfl, hanswer⟩ := Prod.mk.inj hask
    have hhits := List.length_pos_iff.2 (ne_nil_of_getLast? hlast)
    rcases ih (standing_next hhits hmore r.query last s) hsize hok with hlimit | hshort
    · exact .inl hlimit
    · obtain ⟨hreason, hlimit, p', hanswer', hshort⟩ := hshort
      exact .inr ⟨hreason, hlimit, p', by simpa using hanswer', hshort⟩

end Run

/-! ## Exports -/

namespace ExportRequest

variable {σ : Type}

/-- So many messages reach the limit. -/
def LimitReached (r : ExportRequest) (messages : Nat) : Prop :=
  ∃ limit, r.limit = some limit ∧ limit ≤ messages

/-- What an export does about the answer to its query `i`, with a sink in the state `s` before it.  It asks
again only after a full page that the sink took and that did not reach the limit. -/
inductive Settles (r : ExportRequest) (answer : List EngineQuery → Except EngineError Page) (sink : Sink σ)
    (s : σ) (record : Run.Record (List EngineQuery) σ) (i : Nat) : Prop where
  /-- The engine fails, and so does the export. -/
  | failed {fault : EngineError} (hanswer : answer (record.queries.take (i + 1)) = .error fault)
      (htaken : sink.Takes s record.chunks record.sink)
      (hend : record.EndsAfter (i + 1) i (.error (.engine fault)))
  /-- The page is empty, and the export ends well. -/
  | dry {page : Page} {summary : Summary} (hanswer : answer (record.queries.take (i + 1)) = .ok page)
      (hdry : page.hits = []) (htaken : sink.Takes s record.chunks record.sink)
      (hend : record.EndsAfter (i + 1) i (.ok summary))
  /-- The sink refuses the chunk of the page, and the export fails. -/
  | refused {page : Page} {c : Chunk} {s' : σ} {fault : ExportError}
      (hanswer : answer (record.queries.take (i + 1)) = .ok page) (hhits : page.hits ≠ [])
      (hchunk : record.chunks[i]? = some c) (htaken : sink.Takes s (record.chunks.take i) s')
      (hrefused : sink.accept s' c = (record.sink, .error fault))
      (hend : record.EndsAfter (i + 1) (i + 1) (.error fault))
  /-- The sink takes the chunk of a page that reaches the limit or is not full, and the export ends well. -/
  | last {page : Page} {summary : Summary} (hanswer : answer (record.queries.take (i + 1)) = .ok page)
      (hhits : page.hits ≠ []) (htaken : sink.Takes s record.chunks record.sink)
      (hlast : r.LimitReached (record.delivered (i + 1)) ∨ page.hits.length < r.chunkSize)
      (hend : record.EndsAfter (i + 1) (i + 1) (.ok summary))
  /-- The sink takes the chunk of any other page.  Another query follows, if another turn may be taken. -/
  | again {page : Page} {s' : σ} (hanswer : answer (record.queries.take (i + 1)) = .ok page)
      (hhits : page.hits ≠ []) (hchunk : i < record.chunks.length)
      (htaken : sink.Takes s (record.chunks.take (i + 1)) s')
      (hbelow : ¬ r.LimitReached (record.delivered (i + 1))) (hfull : r.chunkSize ≤ page.hits.length)
      (hmore : i + 1 < record.queries.length ∨
        (record.queries.length = i + 1 ∧ record.chunks.length = i + 1 ∧ record.result = none))

/-- What an export tells an engine and a sink.  The answer to the `i`-th query is the answer to the
first `i` queries, the latest one last. -/
structure Protocol (r : ExportRequest) (settings : RunSettings) (now : Timestamp)
    (answer : List EngineQuery → Except EngineError Page) (sink : Sink σ) (s : σ) (fuel : Nat)
    (record : Run.Record (List EngineQuery) σ) : Prop where
  /-- Something that is wrong before the first query ends the export, and nothing is done. -/
  faulty : ∀ error, (r.faults settings now).head? = some error →
    record.steps = [] ∧ record.result = some (.error error) ∧ record.sink = s
  /-- When nothing is wrong the engine is asked. -/
  asks : r.faults settings now = [] → 0 < fuel → record.queries ≠ []
  /-- Queries and chunks take turns. -/
  alternating : Run.Alternating record.steps
  /-- The first query is made from the request and has no cursor. -/
  first_query : ∀ q, record.queries[0]? = some q →
    ∃ range indices, r.timeRange.resolve now = .ok range ∧
      settings.indices.resolve r.streams range = .ok indices ∧
      q = r.firstQuery indices range settings.allowLeadingWildcard ∧ q.searchAfter = none
  /-- No answer is passed over. -/
  turns : ∀ i < record.queries.length, r.Settles answer sink s record i
  /-- Every further query differs from the first one in its cursor only: the sort values of the last
  hit of the page before. -/
  next_query : ∀ i first q, record.queries[0]? = some first → record.queries[i + 1]? = some q →
    ∃ page last, answer (record.queries.take (i + 1)) = .ok page ∧
      page.hits.getLast? = some last ∧ q = { first with searchAfter := some last.sortValues }
  /-- A chunk holds the hits of its page in order, and there is none for an empty page. -/
  chunk : ∀ i c, record.chunks[i]? = some c →
    ∃ page, answer (record.queries.take (i + 1)) = .ok page ∧ page.hits ≠ [] ∧
      c.messages = page.hits.map (fun h =>
        ⟨h.index, h.source.set Field.documentId (.string h.id)⟩) ∧
      c.fields = r.fields ∧ (c.isFirst = true ↔ i = 0)
  /-- The summary of an export that ends well counts what was done. -/
  counters : ∀ summary, record.result = some (.ok summary) →
    summary.pages = record.queries.length ∧ summary.chunks = record.chunks.length ∧
      summary.messages = (record.chunks.flatMap Chunk.messages).length
  /-- It ends at the limit, or before it with a page that was not full. -/
  reason : ∀ summary, record.result = some (.ok summary) →
    (summary.stopReason = some .limitReached ↔ r.LimitReached summary.messages) ∧
      (summary.stopReason ≠ some .limitReached → summary.stopReason = some .exhausted ∧
        ∃ page, answer record.queries = .ok page ∧ page.hits.length < r.chunkSize)
  /-- It stays without a result only when no further turn may be taken. -/
  cut_short : record.result = none → record.queries.length = fuel

/-- Before the first query nothing was delivered, and the limit is not zero. -/
theorem standing_firstRun {d : RequestDraft} {r : ExportRequest} (hbuild : d.build = .ok r)
    (first : EngineQuery) (s : σ) : Run.Standing [] (r.firstRun first s) where
  none_yet := by simp [firstRun]
  below_limit := firstRun_below_limit hbuild first s

/-- **Each answer is settled**: what is left of a run at its query begins with the turn that the answer asks
for. -/
theorem settles_of_performs {answer : List EngineQuery → Except EngineError Page} {sink : Sink σ}
    {r : ExportRequest} {first : EngineQuery} {s : σ} {record : Run.Record (List EngineQuery) σ}
    (h : Run.Performs (Engine.ofHistory answer) sink [] (r.firstRun first s) record) {i : Nat}
    (hi : i < record.queries.length) : r.Settles answer sink s record i := by
  obtain ⟨r', rest, hrest, hresumes⟩ := h.resumes hi
  obtain ⟨hrequest, hmessages, htaken, hbefore, hqueries, hchunks, hresult, hsink⟩ := hresumes
  rw [List.nil_append] at hrest
  have hcount : record.queries.length = i + rest.queries.length ∧
      record.chunks.length = i + rest.chunks.length := by
    rw [hqueries, hchunks, List.length_drop, List.length_drop]
    omega
  -- the query at hand is the first one of what is left, and so is its chunk
  have hasked : ∀ q, rest.queries[0]? = some q →
      record.queries.take (i + 1) = record.queries.take i ++ [q] := by
    intro q hq
    rw [hqueries, List.getElem?_drop, Nat.add_zero] at hq
    rw [List.take_add_one, hq, Option.toList_some]
  have hhanded : ∀ c, rest.chunks[0]? = some c →
      record.chunks[i]? = some c ∧ record.chunks.take (i + 1) = record.chunks.take i ++ [c] := by
    intro c hc
    rw [hchunks, List.getElem?_drop, Nat.add_zero] at hc
    rw [List.take_add_one, hc, Option.toList_some]
    exact ⟨rfl, rfl⟩
  have hdelivered : ∀ p : Page, rest.chunks[0]? = some (r'.chunkOf p) →
      record.delivered (i + 1) = r'.summary.messages + p.hits.length := by
    intro p hc
    have hlength : (r'.chunkOf p).messages.length = p.hits.length := List.length_map ..
    rw [Run.Record.delivered, (hhanded _ hc).2, List.flatMap_append, List.flatMap_singleton, List.length_append,
      hlength, hmessages]
    exact congrArg (· + p.hits.length) (Nat.zero_add _).symm
  have hlimit : ∀ n, r'.reachesLimit n = true ↔ r.LimitReached n := by
    intro n
    rw [Run.reachesLimit_iff, hrequest]
    rfl
  have hwhole : ∀ n, record.chunks.length = n → record.chunks.take n = record.chunks :=
    fun _ hn => List.take_of_length_le (Nat.le_of_eq hn)
  cases hrest with
  | cut => exact absurd hcount.1 (Nat.ne_of_gt hi)
  | failed hask =>
    obtain ⟨rfl, hanswer⟩ := Prod.mk.inj hask
    rw [hwhole i hcount.2] at htaken
    exact .failed (hasked _ rfl ▸ hanswer) (hsink ▸ htaken) ⟨hcount.1, hcount.2, hresult.symm⟩
  | dry hask hdry =>
    obtain ⟨rfl, hanswer⟩ := Prod.mk.inj hask
    rw [hwhole i hcount.2] at htaken
    exact .dry (hasked _ rfl ▸ hanswer) hdry (hsink ▸ htaken) ⟨hcount.1, hcount.2, hresult.symm⟩
  | refused hask hhits haccept =>
    obtain ⟨rfl, hanswer⟩ := Prod.mk.inj hask
    exact .refused (hasked _ rfl ▸ hanswer) hhits (hhanded _ rfl).1 htaken (hsink ▸ haccept)
      ⟨hcount.1, hcount.2, hresult.symm⟩
  | @last _ _ _ p _ reason hask hhits haccept hstop =>
    obtain ⟨rfl, hanswer⟩ := Prod.mk.inj hask
    have hall := htaken.concat haccept
    rw [← (hhanded _ rfl).2, hwhole (i + 1) hcount.2] at hall
    refine .last (hasked _ rfl ▸ hanswer) hhits (hsink ▸ hall) ?_ ⟨hcount.1, hcount.2, hresult.symm⟩
    rw [← hlimit, hdelivered p rfl]
    rcases Run.stopAfter_eq_some hstop with ⟨-, hreached⟩ | ⟨-, -, hshort⟩
    · exact .inl hreached
    · rw [hrequest] at hshort
      exact .inr hshort
  | @again _ _ _ p s' _ later hask hlast haccept hmore hlater =>
    obtain ⟨rfl, hanswer⟩ := Prod.mk.inj hask
    have hone := htaken.concat haccept
    rw [← (hhanded _ rfl).2] at hone
    obtain ⟨hbelow, hfull⟩ := Run.stopAfter_eq_none hmore
    rw [← Bool.not_eq_true, hlimit, ← hdelivered p rfl] at hbelow
    rw [hrequest] at hfull
    have hchunk : i < record.chunks.length := (List.getElem?_eq_some_iff.1 (hhanded _ rfl).1).1
    refine .again (hasked _ rfl ▸ hanswer) (Run.ne_nil_of_getLast? hlast) hchunk hone hbelow hfull ?_
    rcases hlater.asks_or_cut with hnext | rfl
    · have hqueries' : (later.after r'.query (r'.chunkOf p)).queries.length = later.queries.length + 1 := rfl
      exact .inl (by omega)
    · exact .inr ⟨hcount.1, hcount.2, hresult.symm⟩

/-- **Every export obeys the protocol**, whatever the engine answers and the sink does, as long as
there is an index to search. -/
theorem export_protocol (answer : List EngineQuery → Except EngineError Page) {d : RequestDraft}
    {r : ExportRequest} (hbuild : d.build = .ok r) (settings : RunSettings) (now : Timestamp)
    (hindices : ∀ range indices, r.timeRange.resolve now = .ok range →
      settings.indices.resolve r.streams range = .ok indices → indices.isEmpty = false)
    (sink : Sink σ) (s : σ) (fuel : Nat) :
    r.Protocol settings now answer sink s fuel
      (r.export settings now (Engine.ofHistory answer) sink fuel [] s) := by
  rcases start_cases r settings now with
    ⟨error, hfault, hstart⟩ | ⟨hfaults, range, indices, hrange, hresolve, hstart⟩
  · rw [export_of_error _ _ _ _ _ hstart]
    exact {
      faulty := fun error' hfault' => by
        rw [hfault] at hfault'
        cases hfault'
        exact ⟨rfl, rfl, rfl⟩
      asks := fun hnone => by
        rw [hnone] at hfault
        cases hfault
      alternating := .nil
      first_query := by simp
      turns := by simp
      next_query := by simp
      chunk := by simp
      counters := by simp
      reason := by simp
      cut_short := by simp }
  · rw [hindices range indices hrange hresolve] at hstart
    rw [export_of_fetch _ _ _ _ _ hstart]
    have hrun := Run.performs (Engine.ofHistory answer) sink fuel []
      (r.firstRun (r.firstQuery indices range settings.allowLeadingWildcard) s)
    have hcut := Run.perform_cut_short (Engine.ofHistory answer) sink fuel []
      (r.firstRun (r.firstQuery indices range settings.allowLeadingWildcard) s)
    have hstanding :=
      standing_firstRun hbuild (r.firstQuery indices range settings.allowLeadingWildcard) s
    generalize Run.perform (Engine.ofHistory answer) sink fuel [] _ = record at hrun hcut
    exact {
      faulty := fun error hfault => by
        rw [hfaults] at hfault
        cases hfault
      asks := fun _ hfuel hnone => by
        rcases hrun.asks_or_cut with hsome | hnothing
        · exact absurd (congrArg List.length hnone) (Nat.ne_of_gt hsome)
        · have hused := hcut (by rw [hnothing])
          rw [hnone] at hused
          exact absurd hused.symm (Nat.ne_of_gt hfuel)
      alternating := hrun.alternating
      first_query := fun q hq =>
        ⟨range, indices, hrange, hresolve, hrun.query_zero hq, by rw [hrun.query_zero hq]; rfl⟩
      turns := fun _ hi => settles_of_performs hrun hi
      next_query := fun i first q hfirst hq => by
        obtain ⟨page, last, hanswer, hlast, rfl⟩ := hrun.query_succ hq
        exact ⟨page, last, hanswer, hlast, by rw [hrun.query_zero hfirst]; rfl⟩
      chunk := fun i c hc => by
        obtain ⟨page, hanswer, hhits, rfl⟩ := hrun.chunk_eq hstanding hc
        exact ⟨page, hanswer, hhits, rfl, rfl, by simp⟩
      counters := fun summary hok => by
        obtain ⟨hpages, hchunks, hmessages, _⟩ := hrun.counters hok
        exact ⟨by simpa [firstRun] using hpages, by simpa [firstRun] using hchunks,
          by simpa [firstRun] using hmessages⟩
      reason := fun summary hok => by
        have hreason := hrun.reason hstanding (RequestDraft.chunkSize_pos hbuild) hok
        rw [← Bool.not_eq_true, Run.reachesLimit_iff] at hreason
        rcases hreason with ⟨hreached, hlimit⟩ | ⟨hexhausted, hlimit, hshort⟩
        · exact ⟨⟨fun _ => hlimit, fun _ => hreached⟩, fun h => absurd hreached h⟩
        · refine ⟨⟨fun h => ?_, fun h => absurd h hlimit⟩, fun _ => ⟨hexhausted, hshort⟩⟩
          rw [hexhausted] at h
          cases h
      cut_short := hcut }

/-- An engine that returns two hits where one was asked for, then one, and then none: three queries and two
chunks. -/
theorem export_protocol_overfull :
    let hit : String → String → Hit := fun index id => ⟨index, id, .empty, [.string id]⟩
    let answer : List EngineQuery → Except EngineError Page := fun queries =>
      match queries.length with
      | 1 => .ok ⟨[hit "graylog_0" "a", hit "graylog_1" "b"]⟩
      | 2 => .ok ⟨[hit "graylog_1" "c"]⟩
      | _ => .ok ⟨[]⟩
    let draft : RequestDraft := { timeRange := .absolute .epoch .epoch, limit := some 5, chunkSize := 1 }
    let settings : RunSettings := ⟨⟨["graylog_*"], []⟩, true⟩
    let r := draft.normalized
    let first := r.firstQuery (.ofList ["graylog_*"]) ⟨.epoch, .epoch⟩ true
    let message : String → String → Message := fun index id => ⟨index, .ofList [("_id", .string id)]⟩
    let record := r.export settings .epoch (Engine.ofHistory answer) .collecting 5 [] []
    (draft.build = .ok r ∧
      ∀ range indices, r.timeRange.resolve .epoch = .ok range →
        settings.indices.resolve r.streams range = .ok indices → indices.isEmpty = false) ∧
    record.steps = [.asked first,
      .handed ⟨defaultFields, [message "graylog_0" "a", message "graylog_1" "b"], true⟩,
      .asked { first with searchAfter := some [.string "b"] },
      .handed ⟨defaultFields, [message "graylog_1" "c"], false⟩,
      .asked { first with searchAfter := some [.string "c"] }] ∧
    record.result = some (.ok
      { pages := 3, chunks := 2, messages := 3, indices := 1, stopReason := some .exhausted }) ∧
    r.Protocol settings .epoch answer .collecting [] 5 record := by
  intro hit answer draft settings r first message record
  have hbuild : draft.build = .ok r := RequestDraft.build_of_defaultFields (by decide) (by decide) rfl
  have hindices : ∀ range indices, r.timeRange.resolve .epoch = .ok range →
      settings.indices.resolve r.streams range = .ok indices → indices.isEmpty = false := by
    intro range indices _ hresolve
    cases hresolve
    rfl
  have hfound : settings.indices.resolve r.streams ⟨.epoch, .epoch⟩ = .ok (.ofList ["graylog_*"]) := rfl
  have hstart : r.start settings .epoch = .ok (.fetch first) := start_of_ok rfl rfl hfound
  have hrecord : record = Run.perform (Engine.ofHistory answer) .collecting 5 [] (r.firstRun first []) :=
    export_of_fetch _ _ _ _ _ hstart
  have hsteps : record.steps = [.asked first,
      .handed ⟨defaultFields, [message "graylog_0" "a", message "graylog_1" "b"], true⟩,
      .asked { first with searchAfter := some [.string "b"] },
      .handed ⟨defaultFields, [message "graylog_1" "c"], false⟩,
      .asked { first with searchAfter := some [.string "c"] }] := by
    rw [hrecord]
    rfl
  have hresult : record.result = some (.ok
      { pages := 3, chunks := 2, messages := 3, indices := 1, stopReason := some .exhausted }) := by
    rw [hrecord]
    rfl
  exact ⟨⟨hbuild, hindices⟩, hsteps, hresult,
    export_protocol answer hbuild settings .epoch hindices .collecting [] 5⟩

end ExportRequest

end SearchExport
