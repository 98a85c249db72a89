import SearchExport.Export.Sink

/-!
# What sinks take

A sink takes a list of chunks when it accepts them one after the other.

* `Sink.Takes` — the relation between the states before and after.
* `Sink.takes_mapped_iff` — a sink that changes chunks, as a decorating one does, takes what the sink
  behind it takes changed.
* `Sink.RaisedAfter.takes`, `Sink.RaisedAfter.refuses` — an interruptible sink whose flag goes up after
  `k` chunks takes these and refuses the next one.
-/

set_option autoImplicit false

namespace SearchExport.Sink

variable {σ τ : Type}

/-- Never refuses a chunk. -/
def NeverFails (sink : Sink σ) : Prop := ∀ s c, (sink.accept s c).2 = .ok ()

/-- The sink accepts the chunks of a list in order and ends in the last state. -/
inductive Takes (sink : Sink σ) : σ → List Chunk → σ → Prop where
  | nil (s : σ) : Takes sink s [] s
  | cons {s s₁ s₂ : σ} {c : Chunk} {cs : List Chunk}
      (haccept : sink.accept s c = (s₁, .ok ())) (rest : Takes sink s₁ cs s₂) :
      Takes sink s (c :: cs) s₂

theorem NeverFails.accept_eq {sink : Sink σ} (h : sink.NeverFails) (s : σ) (c : Chunk) :
    ∃ s', sink.accept s c = (s', .ok ()) :=
  ⟨(sink.accept s c).1, Prod.ext rfl (h s c)⟩

/-- One more chunk at the end. -/
theorem Takes.concat {sink : Sink σ} {s s₁ s₂ : σ} {c : Chunk} {cs : List Chunk}
    (h : sink.Takes s cs s₁) (haccept : sink.accept s₁ c = (s₂, .ok ())) :
    sink.Takes s (cs ++ [c]) s₂ := by
  induction h with
  | nil s => exact .cons haccept (.nil s₂)
  | cons hfirst _ ih => exact .cons hfirst (ih haccept)

/-! ## Wrapped sinks -/

/-- Changes every chunk before another sink takes it. -/
def mapped (sink : Sink σ) (f : Chunk → Chunk) : Sink σ where
  accept s c := sink.accept s (f c)

theorem takes_mapped_iff {f : Chunk → Chunk} {sink : Sink σ} {s s' : σ} {cs : List Chunk} :
    (sink.mapped f).Takes s cs s' ↔ sink.Takes s (cs.map f) s' := by
  induction cs generalizing s with
  | nil =>
    constructor
    · rintro ⟨⟩
      exact .nil _
    · rintro ⟨⟩
      exact .nil _
  | cons c cs ih =>
    constructor
    · intro h
      cases h with
      | cons haccept rest => exact .cons haccept (ih.1 rest)
    · intro h
      cases h with
      | cons haccept rest => exact .cons haccept (ih.2 rest)

/-- The flag is down whenever one of the chunks comes. -/
def FlagDown (inner : Sink σ) (stopped : σ → Bool) (s : σ) (cs : List Chunk) : Prop :=
  ∀ i < cs.length, ∀ s', inner.Takes s (cs.take i) s' → stopped s' = false

/-- The sink takes the first `k` of the chunks with the flag down, and then the flag is up. -/
structure RaisedAfter (inner : Sink σ) (stopped : σ → Bool) (s : σ) (cs : List Chunk) (k : Nat)
    (s' : σ) : Prop where
  taken : inner.Takes s (cs.take k) s'
  down : inner.FlagDown stopped s (cs.take k)
  up : stopped s' = true

theorem takes_interruptible {inner : Sink σ} {stopped : σ → Bool} {s s' : σ} {cs : List Chunk}
    (h : inner.Takes s cs s') (hdown : inner.FlagDown stopped s cs) (n : Nat) :
    (interruptible stopped inner).Takes (s, n) cs (s', n + cs.length) := by
  induction h generalizing n with
  | nil => exact .nil _
  | @cons s s₁ s₂ c cs haccept rest ih =>
    have hs : stopped s = false := hdown 0 (by simp) s (.nil _)
    have hstep : (interruptible stopped inner).accept (s, n) c = ((s₁, n + 1), .ok ()) := by
      simp [interruptible, hs, haccept]
    have hrest : inner.FlagDown stopped s₁ cs := fun i hi s' hs' =>
      hdown (i + 1) (by simpa using hi) s' (.cons haccept hs')
    have hlength : n + (c :: cs).length = n + 1 + cs.length := by
      rw [List.length_cons]; omega
    rw [hlength]
    exact .cons hstep (ih hrest (n + 1))

theorem RaisedAfter.takes {inner : Sink σ} {stopped : σ → Bool} {s s' : σ} {cs : List Chunk}
    {k : Nat} (h : inner.RaisedAfter stopped s cs k s') (hk : k ≤ cs.length) :
    (interruptible stopped inner).Takes (s, 0) (cs.take k) (s', k) := by
  have := takes_interruptible h.taken h.down 0
  rwa [List.length_take, Nat.min_eq_left hk, Nat.zero_add] at this

theorem RaisedAfter.refuses {inner : Sink σ} {stopped : σ → Bool} {s s' : σ} {cs : List Chunk}
    {k : Nat} (h : inner.RaisedAfter stopped s cs k s') (c : Chunk) :
    (interruptible stopped inner).accept (s', k) c = ((s', k), .error (.interrupted k)) := by
  simp [interruptible, h.up]

end SearchExport.Sink
