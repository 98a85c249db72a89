import SearchExport.Proofs.Export.Protocol

/-!
# A limit bounds a run

With a limit a run ends after as many pages as it takes to deliver that many messages, also against an
engine that never runs dry: a page that is not full ends the run, so every page that does not brings it
closer to the limit by a whole chunk.

* `chunksToReach` — the least number of whole chunks that reach a limit.
* `Run.Performs.queries_le` — the queries of what remains of a run, by what is missing to the limit.
* `Run.perform_ends` — so many turns are enough.
* `Run.Performs.messages_lt` — what remains of a run delivers less than a chunk too much.
* `ExportRequest.export_within_limit` — the three bounds of a whole export.
-/

set_option autoImplicit false

namespace SearchExport

/-! ## Chunks to a limit -/

/-- The number of whole chunks that it takes to reach a limit. -/
def chunksToReach (limit chunkSize : Nat) : Nat := (limit + chunkSize - 1) / chunkSize

section ChunksToReach

variable {limit n c : Nat}

/-- It is the least such number. -/
theorem chunksToReach_le_iff (hc : 0 < c) : chunksToReach limit c ≤ n ↔ limit ≤ n * c := by
  unfold chunksToReach
  have hstep : (n + 1) * c = n * c + c := Nat.succ_mul n c
  rw [← Nat.lt_succ_iff, Nat.div_lt_iff_lt_mul hc, Nat.succ_eq_add_one, hstep]
  omega

theorem chunksToReach_pos (hc : 0 < c) (hlimit : 0 < limit) : 0 < chunksToReach limit c := by
  have hnone : ¬ chunksToReach limit c ≤ 0 := by
    rw [chunksToReach_le_iff hc]
    omega
  omega

/-- A chunk that is full, or more than full, leaves one chunk less. -/
theorem chunksToReach_sub_lt {hits : Nat} (hc : 0 < c) (hfull : c ≤ hits) (hmore : hits < limit) :
    chunksToReach (limit - hits) c + 1 ≤ chunksToReach limit c := by
  obtain ⟨k, hk⟩ : ∃ k, k = chunksToReach limit c := ⟨_, rfl⟩
  have hpos : 0 < k := hk ▸ chunksToReach_pos hc (by omega)
  have hreach : limit ≤ k * c := (chunksToReach_le_iff hc).1 (Nat.le_of_eq hk.symm)
  have hless : (k - 1) * c = k * c - c := Nat.sub_one_mul k c
  have hrest : chunksToReach (limit - hits) c ≤ k - 1 := by
    rw [chunksToReach_le_iff hc]
    omega
  omega

end ChunksToReach

/-! ## Runs -/

namespace Run

variable {σ ε : Type} {engine : Engine ε} {sink : Sink σ} {limit : Nat}

/-- A run with a limit that goes on after a page has not reached it, and the page was full. -/
theorem next_below_limit {r : Run σ} {hits : Nat} (hlimit : r.request.limit = some limit)
    (hmore : r.stopAfter hits = none) :
    r.summary.messages + hits < limit ∧ r.request.chunkSize ≤ hits := by
  obtain ⟨hreach, hfull⟩ := stopAfter_eq_none hmore
  refine ⟨?_, hfull⟩
  rw [← Bool.not_eq_true, reachesLimit_iff] at hreach
  exact Nat.lt_of_not_le fun hle => hreach ⟨limit, hlimit, hle⟩

/-- **The queries of a run** are at most the chunks that are missing to its limit, whatever the engine
answers. -/
theorem Performs.queries_le {e : ε} {r : Run σ} {record : Record ε σ}
    (h : Performs engine sink e r record) (hlimit : r.request.limit = some limit)
    (hsize : 0 < r.request.chunkSize) (hbelow : r.summary.messages < limit) :
    record.queries.length ≤ chunksToReach (limit - r.summary.messages) r.request.chunkSize := by
  induction h with
  | cut => exact Nat.zero_le _
  | failed => exact chunksToReach_pos hsize (Nat.sub_pos_of_lt hbelow)
  | dry => exact chunksToReach_pos hsize (Nat.sub_pos_of_lt hbelow)
  | refused => exact chunksToReach_pos hsize (Nat.sub_pos_of_lt hbelow)
  | last => exact chunksToReach_pos hsize (Nat.sub_pos_of_lt hbelow)
  | @again _ _ r p s last record _ _ _ hmore _ ih =>
    obtain ⟨hless, hfull⟩ := next_below_limit hlimit hmore
    have hrest := ih hlimit hsize hless
    have hmissing : limit - (r.next p.hits.length last s).summary.messages =
        limit - r.summary.messages - p.hits.length := Nat.sub_add_eq limit _ _
    rw [hmissing] at hrest
    calc record.queries.length + 1
        ≤ chunksToReach (limit - r.summary.messages - p.hits.length) r.request.chunkSize + 1 :=
          Nat.succ_le_succ hrest
      _ ≤ chunksToReach (limit - r.summary.messages) r.request.chunkSize :=
          chunksToReach_sub_lt hsize hfull (by omega)

/-- **A run with a limit ends**: as many turns as there are chunks missing to the limit are enough. -/
theorem perform_ends (fuel : Nat) {e : ε} {r : Run σ} (hlimit : r.request.limit = some limit)
    (hsize : 0 < r.request.chunkSize) (hbelow : r.summary.messages < limit)
    (hfuel : chunksToReach (limit - r.summary.messages) r.request.chunkSize ≤ fuel) :
    (perform engine sink fuel e r).result ≠ none := by
  induction fuel generalizing e r with
  | zero =>
    have := chunksToReach_pos hsize (Nat.sub_pos_of_lt hbelow)
    omega
  | succ fuel ih =>
    cases answered engine e r with
    | failed hask =>
      rw [perform_failed hask]
      simp
    | dry hask hdry =>
      rw [perform_dry hask hdry]
      simp
    | @stops _ p reason hask hhits hstop =>
      obtain ⟨s, outcome, haccept⟩ :
          ∃ s outcome, sink.accept r.sink (r.chunkOf p) = (s, outcome) := ⟨_, _, rfl⟩
      cases outcome with
      | error fault =>
        rw [perform_refused hask hhits haccept]
        simp
      | ok =>
        rw [perform_last hask hhits haccept hstop]
        simp
    | @goesOn e' p last hask hlast hmore =>
      obtain ⟨s, outcome, haccept⟩ :
          ∃ s outcome, sink.accept r.sink (r.chunkOf p) = (s, outcome) := ⟨_, _, rfl⟩
      cases outcome with
      | error fault =>
        rw [perform_refused hask (ne_nil_of_getLast? hlast) haccept]
        simp
      | ok =>
        obtain ⟨hless, hfull⟩ := next_below_limit hlimit hmore
        have hmissing : limit - (r.next p.hits.length last s).summary.messages =
            limit - r.summary.messages - p.hits.length := Nat.sub_add_eq limit _ _
        have hcloser : chunksToReach (limit - r.summary.messages - p.hits.length)
            r.request.chunkSize + 1 ≤ chunksToReach (limit - r.summary.messages) r.request.chunkSize :=
          chunksToReach_sub_lt hsize hfull (by omega)
        rw [perform_again hask hlast haccept hmore]
        refine ih hlimit hsize hless ?_
        rw [hmissing]
        exact Nat.le_of_succ_le_succ (Nat.le_trans hcloser hfuel)

/-- **What a run delivers** stays less than one chunk above its limit when no page is larger than a
chunk. -/
theorem Performs.messages_lt {e : ε} {r : Run σ} {record : Record ε σ}
    (h : Performs engine sink e r record) (hlimit : r.request.limit = some limit)
    (hbelow : r.summary.messages < limit)
    (hpages : ∀ e q p, (engine.ask e q).2 = .ok p → p.hits.length ≤ r.request.chunkSize) :
    r.summary.messages + (record.chunks.flatMap Chunk.messages).length <
      limit + r.request.chunkSize := by
  -- a single chunk is not larger than the page that it was made of
  have hone : ∀ {e e' : ε} {r : Run σ} {p : Page}, r.summary.messages < limit →
      (∀ e q p, (engine.ask e q).2 = .ok p → p.hits.length ≤ r.request.chunkSize) →
      engine.ask e r.query = (e', .ok p) →
      r.summary.messages + (r.chunkOf p).messages.length < limit + r.request.chunkSize := by
    intro e e' r p hbelow hpages hask
    have hpage : p.hits.length ≤ r.request.chunkSize := hpages e r.query p (by rw [hask])
    have hlength : (r.chunkOf p).messages.length = p.hits.length := List.length_map ..
    omega
  induction h with
  | cut => simp; omega
  | failed => simp; omega
  | dry => simp; omega
  | refused hask => simpa using hone hbelow hpages hask
  | last hask => simpa using hone hbelow hpages hask
  | @again _ _ r p s last record _ _ _ hmore _ ih =>
    obtain ⟨hless, _⟩ := next_below_limit hlimit hmore
    have hrest := ih hlimit hless hpages
    have hmessages : (r.next p.hits.length last s).summary.messages =
        r.summary.messages + p.hits.length := rfl
    have hlength : (r.chunkOf p).messages.length = p.hits.length := List.length_map ..
    have hsame : (r.next p.hits.length last s).request = r.request := rfl
    rw [hmessages, hsame] at hrest
    rw [chunks_after, List.flatMap_cons, List.length_append, hlength]
    omega

end Run

/-! ## Exports -/

namespace ExportRequest

variable {σ ε : Type}

/-- **A limit bounds an export**, whatever the engine answers and the sink does: it sends no more queries
than it takes full chunks to reach the limit and has ended after them, and when no page is larger than a
chunk it delivers less than a chunk more than the limit. -/
theorem export_within_limit {r : ExportRequest} {limit : Nat} (hsize : 0 < r.chunkSize)
    (hlimit : r.limit = some limit) (hpos : 0 < limit) (settings : RunSettings) (now : Timestamp)
    (engine : Engine ε) (sink : Sink σ) (e : ε) (s : σ) :
    (∀ fuel, (r.export settings now engine sink fuel e s).queries.length ≤
        chunksToReach limit r.chunkSize) ∧
      (∀ fuel, chunksToReach limit r.chunkSize ≤ fuel →
        (r.export settings now engine sink fuel e s).result ≠ none) ∧
      ((∀ e q p, (engine.ask e q).2 = .ok p → p.hits.length ≤ r.chunkSize) →
        ∀ fuel, ((r.export settings now engine sink fuel e s).chunks.flatMap
          Chunk.messages).length ≤ limit + r.chunkSize - 1) := by
  rcases r.fetches_or_ends settings now with ⟨first, hstart⟩ | ⟨result, hends⟩
  · have hrun : ∀ fuel, r.export settings now engine sink fuel e s =
        Run.perform engine sink fuel e (r.firstRun first s) :=
      fun fuel => export_of_fetch engine sink fuel e s hstart
    refine ⟨fun fuel => ?_, fun fuel hfuel => ?_, fun hpages fuel => ?_⟩
    · rw [hrun]
      exact (Run.performs engine sink fuel e _).queries_le hlimit hsize hpos
    · rw [hrun]
      exact Run.perform_ends fuel hlimit hsize hpos hfuel
    · rw [hrun]
      have hless := (Run.performs engine sink fuel e (r.firstRun first s)).messages_lt hlimit hpos
        hpages
      have hnone : (r.firstRun first s).summary.messages = 0 := rfl
      have hsame : (r.firstRun first s).request = r := rfl
      rw [hnone, hsame] at hless
      omega
  · refine ⟨fun fuel => ?_, fun fuel _ => ?_, fun _ fuel => ?_⟩
    · simp [hends]
    · simp [hends]
    · simp [hends]

/-- An engine that never runs dry and fills every page: a limit of three takes two pages of two. -/
theorem export_within_limit_endless :
    let endless : Engine Nat := ⟨fun n _ => (n + 1, .ok ⟨[⟨"graylog_0", "a", .empty, [.ofNat n]⟩,
      ⟨"graylog_0", "b", .empty, [.ofNat n]⟩]⟩)⟩
    let r : ExportRequest := ⟨.relative 300, ∅, "", defaultFields, [], some 3, 2⟩
    let record := r.export ⟨⟨["graylog_*"], []⟩, false⟩ .epoch endless .collecting 2 0 []
    (0 < r.chunkSize ∧ r.limit = some 3 ∧ 0 < 3 ∧
      ∀ e q p, (endless.ask e q).2 = .ok p → p.hits.length ≤ r.chunkSize) ∧
      record.queries.length = 2 ∧ record.queries.length ≤ chunksToReach 3 2 ∧
      record.result ≠ none ∧ (record.chunks.flatMap Chunk.messages).length ≤ 3 + 2 - 1 := by
  intro endless r record
  have hpages : ∀ e q p, (endless.ask e q).2 = .ok p → p.hits.length ≤ r.chunkSize := by
    rintro e q p ⟨⟩
    exact Nat.le_refl 2
  obtain ⟨hqueries, hends, hmessages⟩ := export_within_limit (r := r) (by decide) rfl (by decide)
    ⟨⟨["graylog_*"], []⟩, false⟩ .epoch endless .collecting 0 []
  exact ⟨⟨by decide, rfl, by decide, hpages⟩, rfl, hqueries 2, hends 2 (by decide), hmessages hpages 2⟩

end ExportRequest

end SearchExport
