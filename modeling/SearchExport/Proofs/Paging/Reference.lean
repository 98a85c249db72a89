import SearchExport.Proofs.Paging.Order

/-!
# An engine over a list of documents

The engine that a run is measured against sorts its documents by the keys of the query and answers with
the first ones strictly after the cursor.

* `ValueOrder.sorted` — the documents in the order of a sort; `ValueOrder.sorted_strict` — no two of
  them are equal for it when their message identifiers differ.
* `Engine.reference` — the engine.
* `ValueOrder.Leaves` — what is left of the sorted documents at a query.  `ValueOrder.Leaves.page` — the
  page starts there; `ValueOrder.Leaves.continueAfter` — the next query leaves what comes after it.
-/

set_option autoImplicit false

namespace SearchExport

/-- A document as it is stored. -/
structure StoredDocument where
  index : String
  id : String
  source : Fields

/-- The document as a hit of a query.  What the engine returns of a document, `project`, is left open:
the whole of it, or only the fields that the query names. -/
def StoredDocument.hit (project : List String → Fields → Fields) (q : EngineQuery)
    (d : StoredDocument) : Hit where
  index := d.index
  id := d.id
  source := project q.sourceFields d.source
  sortValues := d.source.sortValues q.sort

/-- The document as a message of an export that fetches the given fields. -/
def StoredDocument.message (project : List String → Fields → Fields) (fields : List String)
    (d : StoredDocument) : Message where
  index := d.index
  fields := (project fields d.source).set Field.documentId (.string d.id)

theorem StoredDocument.hit_toMessage (project : List String → Fields → Fields) (q : EngineQuery)
    (d : StoredDocument) : (d.hit project q).toMessage = d.message project q.sourceFields := rfl

namespace ValueOrder

variable (o : ValueOrder)

/-- The documents in the order of a sort. -/
def sorted (keys : List SortKey) (docs : List StoredDocument) : List StoredDocument :=
  docs.mergeSort fun a b => (o.compareFields keys a.source b.source).isLE

/-- Whether a document comes strictly after the cursor of a query. -/
def isAfter (q : EngineQuery) (d : StoredDocument) : Bool :=
  match q.searchAfter with
  | some cursor => o.compareValues q.sort (d.source.sortValues q.sort) cursor == .gt
  | none => true

end ValueOrder

/-- The engine that sorts its documents and returns the first ones after the cursor. -/
def Engine.reference (o : ValueOrder) (docs : List StoredDocument)
    (project : List String → Fields → Fields) : Engine Unit where
  ask _ q :=
    ((), .ok ⟨(((o.sorted q.sort docs).filter (o.isAfter q)).take q.size).map (·.hit project q)⟩)

namespace ValueOrder

variable {o : ValueOrder} {docs : List StoredDocument}

/-! ## Sorted documents -/

/-- The message identifiers of any two of the documents differ. -/
def Distinct (o : ValueOrder) (docs : List StoredDocument) : Prop :=
  docs.Pairwise fun a b =>
    o.compare (a.source.value Field.messageId) (b.source.value Field.messageId) ≠ .eq

theorem sorted_perm (o : ValueOrder) (keys : List SortKey) (docs : List StoredDocument) :
    (o.sorted keys docs).Perm docs :=
  List.mergeSort_perm _ _

@[simp] theorem length_sorted (o : ValueOrder) (keys : List SortKey) (docs : List StoredDocument) :
    (o.sorted keys docs).length = docs.length :=
  (o.sorted_perm keys docs).length_eq

theorem sorted_pairwise (o : ValueOrder) (keys : List SortKey) (docs : List StoredDocument) :
    (o.sorted keys docs).Pairwise fun a b =>
      (o.compareFields keys a.source b.source).isLE = true := by
  refine List.pairwise_mergeSort ?_ ?_ docs
  · intro a b c hab hbc
    exact @Std.TransCmp.isLE_trans _ (o.compareFields keys) _ _ _ _ hab hbc
  · intro a b
    have hswap : o.compareFields keys b.source a.source =
        (o.compareFields keys a.source b.source).swap :=
      Std.OrientedCmp.eq_swap
    rw [hswap]
    cases o.compareFields keys a.source b.source <;> rfl

/-- **The sort of a query never calls two documents equal**: it orders them strictly. -/
theorem sorted_strict (requested : List SortKey) (h : o.Distinct docs) :
    (o.sorted (effectiveSort requested) docs).Pairwise fun a b =>
      o.compareFields (effectiveSort requested) a.source b.source = .lt := by
  have hdistinct : o.Distinct (o.sorted (effectiveSort requested) docs) :=
    h.perm (o.sorted_perm _ docs).symm fun hab hba =>
      hab (Std.OrientedCmp.eq_comm.1 hba)
  refine (o.sorted_pairwise (effectiveSort requested) docs).imp₂ ?_ hdistinct
  intro a b hle hne
  have := o.compareFields_effectiveSort_ne requested hne
  cases hcompare : o.compareFields (effectiveSort requested) a.source b.source with
  | lt => rfl
  | eq => exact absurd hcompare this
  | gt => simp [hcompare] at hle

/-! ## What is left at a query -/

/-- The documents `rest` are the last ones of the sorted documents, and those that the query sees. -/
structure Leaves (o : ValueOrder) (docs : List StoredDocument) (q : EngineQuery)
    (rest : List StoredDocument) : Prop where
  suffix : rest <:+ o.sorted q.sort docs
  seen : (o.sorted q.sort docs).filter (o.isAfter q) = rest

theorem leaves_of_no_cursor {q : EngineQuery} (h : q.searchAfter = none) :
    o.Leaves docs q (o.sorted q.sort docs) where
  suffix := List.suffix_rfl
  seen := by
    rw [List.filter_eq_self]
    intro d _
    simp [isAfter, h]

variable {q : EngineQuery} {rest : List StoredDocument} (project : List String → Fields → Fields)

/-- The page of a query is the beginning of what is left. -/
theorem Leaves.page (h : o.Leaves docs q rest) :
    (Engine.reference o docs project).ask () q =
      ((), .ok ⟨(rest.take q.size).map (·.hit project q)⟩) := by
  simp only [Engine.reference, h.seen]

/-- **After a page the next query leaves what comes after it**, when the sort is strict. -/
theorem Leaves.continueAfter (h : o.Leaves docs q rest)
    (hstrict : (o.sorted q.sort docs).Pairwise fun a b =>
      o.compareFields q.sort a.source b.source = .lt)
    {n : Nat} {last : StoredDocument} (hlast : (rest.take n).getLast? = some last) :
    o.Leaves docs (q.continueAfter (last.hit project q).sortValues) (rest.drop n) where
  suffix := (List.drop_suffix n rest).trans h.suffix
  seen := by
    obtain ⟨before, hbefore⟩ := h.suffix
    obtain ⟨page, hpage⟩ := List.getLast?_eq_some_iff.1 hlast
    have hrest : page ++ last :: rest.drop n = rest := by
      rw [List.append_cons, ← hpage, List.take_append_drop]
    -- the documents in three parts: up to the last one of the page, that one, and what comes after
    have hparts : o.sorted q.sort docs = before ++ page ++ last :: rest.drop n := by
      rw [List.append_assoc, hrest, hbefore]
    have hafter : ∀ d : StoredDocument,
        o.isAfter (q.continueAfter (last.hit project q).sortValues) d =
          (o.compareFields q.sort d.source last.source == .gt) := fun d => rfl
    rw [hparts] at hstrict
    obtain ⟨_, hlater, hearlier⟩ := List.pairwise_append.1 hstrict
    show (o.sorted q.sort docs).filter _ = _
    rw [hparts, List.filter_append, List.filter_cons, hafter last]
    have hself : o.compareFields q.sort last.source last.source = .eq :=
      Std.ReflCmp.compare_self
    have hno : (before ++ page).filter
        (o.isAfter (q.continueAfter (last.hit project q).sortValues)) = [] := by
      rw [List.filter_eq_nil_iff]
      intro d hd
      rw [hafter, hearlier d hd last List.mem_cons_self]
      decide
    have hyes : (rest.drop n).filter
        (o.isAfter (q.continueAfter (last.hit project q).sortValues)) = rest.drop n := by
      rw [List.filter_eq_self]
      intro d hd
      have hlt := List.rel_of_pairwise_cons hlater hd
      rw [hafter, Std.OrientedCmp.gt_of_lt hlt]
      rfl
    rw [hself, hno, hyes]
    rfl

end ValueOrder

end SearchExport
