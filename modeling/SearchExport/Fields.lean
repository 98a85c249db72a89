import SearchExport.Json.Value

/-!
# Fields

The fields of a message: names with values, each name once, in the order in which they came.

* `Fields.set` — in place when the name is there, at the end otherwise;
* `Fields.remove` — the last field moves into the place that becomes free;
* `Fields.keep` — the fields with the given names, in their order.
-/

set_option autoImplicit false

namespace SearchExport

theorem map_fst_insertEntry {α : Type} (name : String) (v : α) (es : List (String × α)) :
    (insertEntry name v es).map Prod.fst =
      if name ∈ es.map Prod.fst then es.map Prod.fst else es.map Prod.fst ++ [name] := by
  induction es with
  | nil => simp [insertEntry]
  | cons e es ih =>
    obtain ⟨k, w⟩ := e
    by_cases hk : k = name
    · simp [insertEntry, hk]
    · have hk' : ¬ name = k := fun h => hk h.symm
      simp only [insertEntry, hk, ↓reduceIte, List.map_cons, ih, List.mem_cons, hk', false_or]
      split <;> rfl

theorem nodup_insertEntry {α : Type} (name : String) (v : α) {es : List (String × α)}
    (h : (es.map Prod.fst).Nodup) : ((insertEntry name v es).map Prod.fst).Nodup := by
  rw [map_fst_insertEntry]
  split
  · exact h
  · rename_i hn
    rw [List.nodup_append]
    refine ⟨h, by simp, fun a ha b hb => ?_⟩
    rw [List.mem_singleton] at hb
    subst hb
    intro hab
    exact hn (hab ▸ ha)

/-- Named values, each name once, in the order in which they came. -/
structure Fields where
  entries : List (String × Value)
  distinct : (entries.map Prod.fst).Nodup

namespace Fields

@[ext] theorem ext {f g : Fields} (h : f.entries = g.entries) : f = g := by
  cases f; cases g; cases h; rfl

/-- No fields. -/
def empty : Fields := ⟨[], .nil⟩

instance : Inhabited Fields := ⟨empty⟩

/-- The names in order. -/
def names (f : Fields) : List String := f.entries.map Prod.fst

/-- The value of a field. -/
def get? (f : Fields) (name : String) : Option Value := lookupEntry name f.entries

/-- Sets a field, in place when it is there and at the end otherwise. -/
def set (f : Fields) (name : String) (v : Value) : Fields :=
  ⟨insertEntry name v f.entries, nodup_insertEntry name v f.distinct⟩

/-- The fields of a list, inserted one after the other. -/
def ofList (entries : List (String × Value)) : Fields :=
  entries.foldl (fun f e => f.set e.1 e.2) empty

/-- The entries without the one named `name`, whose place the last entry takes. -/
def removeEntry (name : String) : List (String × Value) → List (String × Value)
  | [] => []
  | (k, v) :: rest =>
    if k = name then
      match rest.getLast? with
      | none => []
      | some e => e :: rest.dropLast
    else (k, v) :: removeEntry name rest

theorem removeEntry_perm (name : String) (es : List (String × Value))
    (h : (es.map Prod.fst).Nodup) :
    (removeEntry name es).Perm (es.filter fun e => e.1 ≠ name) := by
  induction es with
  | nil => exact .nil
  | cons e es ih =>
    obtain ⟨k, v⟩ := e
    simp only [List.map_cons, List.nodup_cons] at h
    by_cases hk : k = name
    · subst hk
      have hrest : es.filter (fun e => e.1 ≠ k) = es := by
        rw [List.filter_eq_self]
        intro e he
        have : e.1 ≠ k := fun h' => h.1 (h' ▸ List.mem_map_of_mem he)
        simpa using this
      simp only [removeEntry, ↓reduceIte, ne_eq, not_true_eq_false, decide_false,
        Bool.false_eq_true, not_false_eq_true, List.filter_cons_of_neg]
      rw [show (es.filter fun e => decide ¬e.1 = k) = es from hrest]
      cases hl : es.getLast? with
      | none => rw [List.getLast?_eq_none_iff.1 hl]
      | some e =>
        obtain ⟨ys, rfl⟩ := List.getLast?_eq_some_iff.1 hl
        simp only [List.dropLast_concat]
        show List.Perm ([e] ++ ys) (ys ++ [e])
        exact List.perm_append_comm
    · simp only [removeEntry, hk, ↓reduceIte, ne_eq, not_false_eq_true, decide_true,
        List.filter_cons_of_pos]
      exact (ih h.2).cons _

theorem nodup_removeEntry (name : String) {es : List (String × Value)}
    (h : (es.map Prod.fst).Nodup) : ((removeEntry name es).map Prod.fst).Nodup := by
  rw [((removeEntry_perm name es h).map Prod.fst).nodup_iff]
  exact h.sublist ((List.filter_sublist).map _)

/-- Removes a field; the last one moves into its place. -/
def remove (f : Fields) (name : String) : Fields :=
  ⟨removeEntry name f.entries, nodup_removeEntry name f.distinct⟩

/-- The fields with the given names. -/
def keep (f : Fields) (names : List String) : Fields :=
  ⟨f.entries.filter fun e => names.contains e.1,
    f.distinct.sublist ((List.filter_sublist).map _)⟩

/-- Moves the value of one field to another name. -/
def rename (f : Fields) (source target : String) : Fields :=
  if source = target then f
  else
    match f.get? source with
    | some v => (f.remove source).set target v
    | none => f

/-- The fields as a JSON object. -/
def toValue (f : Fields) : Value := .object f.entries

/-- The members of an object as fields. -/
def ofValue? : Value → Option Fields
  | .object ms => some (ofList ms)
  | _ => none

end Fields

end SearchExport
