import SearchExport.Request

/-!
# The first of equal keys

Going through a list with the keys seen so far keeps exactly the items whose key occurs nowhere before them.

* `firstOccurrences` — the same list without a record of what was seen; `firstsBy_eq_firstOccurrences`.
* `find?_firstsBy` — every key stays, with its first item; `mem_map_firstsBy`, `mem_firstsBy` — the keys, or the
  names that are their own keys.
* `nodup_firstsBy` — each key once; `firstsBy_of_nodup` — nothing goes when each key is there once.
-/

set_option autoImplicit false

namespace SearchExport

variable {α : Type} {key : α → String}

/-- The items with no item of the same key before them. -/
def firstOccurrences (key : α → String) (xs : List α) : List α :=
  (xs.zipIdx.filter fun p => key p.1 ∉ (xs.take p.2).map key).map Prod.fst

theorem firstsBy_of_mem {seen : List String} {x : α} (h : key x ∈ seen) (xs : List α) :
    firstsBy key seen (x :: xs) = firstsBy key seen xs := by
  rw [firstsBy, if_pos (List.contains_iff_mem.2 h)]

theorem firstsBy_of_not_mem {seen : List String} {x : α} (h : key x ∉ seen) (xs : List α) :
    firstsBy key seen (x :: xs) = x :: firstsBy key (key x :: seen) xs := by
  rw [firstsBy, if_neg (mt List.contains_iff_mem.1 h)]

/-- What is kept beside the keys that were seen before the list. -/
theorem firstsBy_eq_filter (seen : List String) (xs : List α) :
    firstsBy key seen xs =
      (xs.zipIdx.filter fun p => key p.1 ∉ seen ∧ key p.1 ∉ (xs.take p.2).map key).map Prod.fst := by
  induction xs generalizing seen with
  | nil => rfl
  | cons x xs ih =>
    -- behind the first item every place is one further, with that item before it
    have hrest : ∀ seen', (∀ k, k ∉ seen' ↔ k ∉ seen ∧ k ≠ key x) →
        ((xs.zipIdx 1).filter fun p =>
          key p.1 ∉ seen ∧ key p.1 ∉ ((x :: xs).take p.2).map key).map Prod.fst =
        firstsBy key seen' xs := by
      intro seen' hseen'
      have htest : ∀ p ∈ xs.zipIdx,
          decide (key p.1 ∉ seen ∧ key p.1 ∉ ((x :: xs).take (p.2 + 1)).map key) =
            decide (key p.1 ∉ seen' ∧ key p.1 ∉ (xs.take p.2).map key) := fun p _ => by
        simp only [List.take_succ_cons, List.map_cons, List.mem_cons, not_or, hseen', and_assoc, ne_eq]
      rw [ih, List.zipIdx_succ, List.filter_map, List.map_map, ← List.filter_congr htest]
      rfl
    rw [List.zipIdx_cons, List.filter_cons]
    by_cases hseen : key x ∈ seen
    · rw [firstsBy_of_mem hseen, if_neg (by simp [hseen])]
      refine (hrest seen fun k => ⟨fun hk => ⟨hk, ?_⟩, And.left⟩).symm
      rintro rfl
      exact hk hseen
    · rw [firstsBy_of_not_mem hseen, if_pos (by simp [hseen]), List.map_cons]
      rw [hrest (key x :: seen) fun k => by rw [List.mem_cons, not_or, and_comm]]

/-- **The first of equal keys** are the items with no item of the same key before them. -/
theorem firstsBy_eq_firstOccurrences (xs : List α) : firstsBy key [] xs = firstOccurrences key xs := by
  rw [firstsBy_eq_filter, firstOccurrences]
  simp only [List.not_mem_nil, not_false_eq_true, true_and]

/-- **The first item of a key** is the one that stays. -/
theorem find?_firstsBy (k : String) (seen : List String) (xs : List α) :
    (firstsBy key seen xs).find? (fun x => key x = k) =
      if k ∈ seen then none else xs.find? fun x => key x = k := by
  induction xs generalizing seen with
  | nil => simp [firstsBy]
  | cons x xs ih =>
    by_cases hseen : key x ∈ seen
    · rw [firstsBy_of_mem hseen, ih]
      by_cases hk : key x = k
      · rw [if_pos (hk ▸ hseen), if_pos (hk ▸ hseen)]
      · rw [List.find?_cons_of_neg (by simpa using hk)]
    · rw [firstsBy_of_not_mem hseen]
      by_cases hk : key x = k
      · rw [if_neg (hk ▸ hseen), List.find?_cons_of_pos (by simpa using hk),
          List.find?_cons_of_pos (by simpa using hk)]
      · rw [List.find?_cons_of_neg (by simpa using hk), List.find?_cons_of_neg (by simpa using hk), ih]
        simp [Ne.symm hk]

theorem mem_map_firstsBy {k : String} {seen : List String} {xs : List α} :
    k ∈ (firstsBy key seen xs).map key ↔ k ∈ xs.map key ∧ k ∉ seen := by
  have hfound : ∀ ys : List α, k ∈ ys.map key ↔ (ys.find? fun x => key x = k).isSome = true := by
    intro ys
    simp
  rw [hfound, hfound, find?_firstsBy]
  by_cases hseen : k ∈ seen <;> simp [hseen]

theorem mem_firstsBy {x : String} {seen xs : List String} :
    x ∈ firstsBy id seen xs ↔ x ∈ xs ∧ x ∉ seen := by
  have hkeys := @mem_map_firstsBy _ id x seen xs
  rwa [List.map_id, List.map_id] at hkeys

theorem nodup_firstsBy (seen : List String) (xs : List α) :
    ((firstsBy key seen xs).map key).Nodup := by
  induction xs generalizing seen with
  | nil => exact .nil
  | cons x xs ih =>
    by_cases hseen : key x ∈ seen
    · rw [firstsBy_of_mem hseen]
      exact ih seen
    · rw [firstsBy_of_not_mem hseen, List.map_cons, List.nodup_cons]
      exact ⟨fun hx => (mem_map_firstsBy.1 hx).2 List.mem_cons_self, ih _⟩

/-- With each key once nothing goes. -/
theorem firstsBy_of_nodup {seen : List String} {xs : List α} (h : (xs.map key).Nodup)
    (hseen : ∀ x ∈ xs, key x ∉ seen) : firstsBy key seen xs = xs := by
  induction xs generalizing seen with
  | nil => rfl
  | cons x xs ih =>
    rw [List.map_cons, List.nodup_cons] at h
    rw [List.forall_mem_cons] at hseen
    rw [firstsBy_of_not_mem hseen.1, ih h.2]
    intro y hy
    rw [List.mem_cons, not_or]
    exact ⟨fun hxy => h.1 (hxy ▸ List.mem_map_of_mem hy), hseen.2 y hy⟩

end SearchExport
