import SearchExport.Engine.Page

/-!
# The order of a sort

A search engine that compares the values of fields compares documents key by key; the first key that
tells two documents apart decides, and a descending key decides the other way round.

* `ValueOrder` — a total preorder on values, left open.
* `ValueOrder.compareFields` — documents by the keys of a sort, a missing value as null; it is a total
  preorder whatever the keys are.
* `ValueOrder.compareFields_eq_iff` — two documents are equal for a sort when they are for each key.
* `exists_messageId_effectiveSort` — the sort of a query always has the message identifier as a key.
-/

set_option autoImplicit false

namespace SearchExport

/-- A total preorder on values. -/
structure ValueOrder where
  compare : Value → Value → Ordering
  lawful : Std.TransCmp compare

/-- The value of a field; a missing one is null. -/
def Fields.value (f : Fields) (name : String) : Value := (f.get? name).getD .null

/-- The values of the keys of a sort. -/
def Fields.sortValues (f : Fields) (keys : List SortKey) : List Value :=
  keys.map fun k => f.value k.field

namespace ValueOrder

variable (o : ValueOrder)

instance : Std.TransCmp o.compare := o.lawful

/-- Compares two values of one key. -/
def compareAt (order : SortOrder) (a b : Value) : Ordering :=
  match order with
  | .ascending => o.compare a b
  | .descending => (o.compare a b).swap

/-- Compares the values of two documents key by key. -/
def compareValues : List SortKey → List Value → List Value → Ordering
  | k :: keys, a :: as, b :: bs => (o.compareAt k.order a b).then (compareValues keys as bs)
  | _, _, _ => .eq

/-- Compares two documents by the keys of a sort. -/
def compareFields (keys : List SortKey) (a b : Fields) : Ordering :=
  o.compareValues keys (a.sortValues keys) (b.sortValues keys)

/-! ## It is a total preorder -/

instance (order : SortOrder) : Std.TransCmp (o.compareAt order) := by
  cases order with
  | ascending => exact o.lawful
  | descending =>
    have hswap : o.compareAt .descending = fun a b => o.compare b a := by
      funext a b
      exact Std.OrientedCmp.eq_swap.symm
    rw [hswap]
    infer_instance

theorem compareAt_eq_iff (order : SortOrder) (a b : Value) :
    o.compareAt order a b = .eq ↔ o.compare a b = .eq := by
  cases order with
  | ascending => rfl
  | descending => simp [compareAt]

instance compareAt_value_trans (k : SortKey) :
    Std.TransCmp fun a b : Fields => o.compareAt k.order (a.value k.field) (b.value k.field) where
  eq_swap := by
    intro a b
    exact Std.OrientedCmp.eq_swap
  isLE_trans := by
    intro a b c hab hbc
    exact Std.TransCmp.isLE_trans hab hbc

theorem compareFields_nil (a b : Fields) : o.compareFields [] a b = .eq := rfl

theorem compareFields_cons (k : SortKey) (keys : List SortKey) (a b : Fields) :
    o.compareFields (k :: keys) a b =
      (o.compareAt k.order (a.value k.field) (b.value k.field)).then (o.compareFields keys a b) :=
  rfl

instance compareFields_trans (keys : List SortKey) : Std.TransCmp (o.compareFields keys) := by
  induction keys with
  | nil => exact { eq_swap := rfl, isLE_trans := fun _ _ => rfl }
  | cons k keys ih =>
    exact inferInstanceAs (Std.TransCmp (compareLex
      (fun a b : Fields => o.compareAt k.order (a.value k.field) (b.value k.field))
      (o.compareFields keys)))

/-- **Two documents are equal for a sort** when every key has equal values in them. -/
theorem compareFields_eq_iff (keys : List SortKey) (a b : Fields) :
    o.compareFields keys a b = .eq ↔
      ∀ k ∈ keys, o.compare (a.value k.field) (b.value k.field) = .eq := by
  induction keys with
  | nil => simp [compareFields_nil]
  | cons k keys ih =>
    rw [compareFields_cons, Ordering.then_eq_eq, compareAt_eq_iff, ih, List.forall_mem_cons]

/-- Texts by their characters; all other values come first and are equal. -/
def byText : ValueOrder where
  compare a b :=
    compareOn (fun v => v.text?.map fun s => s.toList.map Char.toNat) a b
  lawful := inferInstanceAs
    (Std.TransCmp (compareOn fun v : Value => v.text?.map fun s => s.toList.map Char.toNat))

end ValueOrder

/-! ## The tie-breaker -/

/-- **The sort of a query has the message identifier** as one of its keys. -/
theorem exists_messageId_effectiveSort (requested : List SortKey) :
    ∃ k ∈ effectiveSort requested, k.field = Field.messageId := by
  unfold effectiveSort
  generalize (if requested.isEmpty then defaultSort else requested) = keys
  dsimp only
  split
  · rename_i hany
    simpa using hany
  · exact ⟨⟨Field.messageId, .ascending⟩, by simp, rfl⟩

/-- Documents whose message identifiers differ are never equal for the sort of a query. -/
theorem ValueOrder.compareFields_effectiveSort_ne (o : ValueOrder) (requested : List SortKey)
    {a b : Fields} (h : o.compare (a.value Field.messageId) (b.value Field.messageId) ≠ .eq) :
    o.compareFields (effectiveSort requested) a b ≠ .eq := by
  intro heq
  obtain ⟨k, hk, hfield⟩ := exists_messageId_effectiveSort requested
  have := (o.compareFields_eq_iff _ a b).1 heq k hk
  rw [hfield] at this
  exact h this

end SearchExport
