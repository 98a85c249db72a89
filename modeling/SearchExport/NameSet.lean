/-!
# Sets of names

A finite set of texts, kept as the list of its members in ascending order.

* `NameSet.mem_ofList`, `mem_union`, `mem_filter` — the members of what is built;
* `NameSet.ext` — sets with the same members are equal.
-/

set_option autoImplicit false

namespace SearchExport

/-- A finite set of texts. -/
structure NameSet where
  /-- The members in ascending order. -/
  names : List String
  sorted : names.Pairwise (· < ·)
  deriving DecidableEq

namespace NameSet

instance : Membership String NameSet := ⟨fun s x => x ∈ s.names⟩

theorem mem_def {s : NameSet} {x : String} : x ∈ s ↔ x ∈ s.names := Iff.rfl

instance (x : String) (s : NameSet) : Decidable (x ∈ s) :=
  inferInstanceAs (Decidable (x ∈ s.names))

/-- The set without members. -/
def empty : NameSet := ⟨[], .nil⟩

instance : EmptyCollection NameSet := ⟨empty⟩
instance : Inhabited NameSet := ⟨empty⟩

/-- Whether the set has no member. -/
def isEmpty (s : NameSet) : Bool := s.names.isEmpty

/-- The number of members. -/
def size (s : NameSet) : Nat := s.names.length

/-! ## Building -/

/-- The ascending list with one more member. -/
def insertName (x : String) : List String → List String
  | [] => [x]
  | y :: ys => if x < y then x :: y :: ys else if x = y then y :: ys else y :: insertName x ys

theorem mem_insertName {x z : String} {ys : List String} :
    z ∈ insertName x ys ↔ z = x ∨ z ∈ ys := by
  induction ys with
  | nil => simp [insertName]
  | cons y ys ih =>
    simp only [insertName]
    split
    · simp
    · split
      · subst_vars; simp
      · simp only [List.mem_cons, ih]
        constructor <;> (rintro (h | h | h) <;> simp [h])

theorem sorted_insertName {x : String} {ys : List String} (h : ys.Pairwise (· < ·)) :
    (insertName x ys).Pairwise (· < ·) := by
  induction ys with
  | nil => simp [insertName]
  | cons y ys ih =>
    rw [List.pairwise_cons] at h
    simp only [insertName]
    split
    · rename_i hxy
      refine List.pairwise_cons.2 ⟨fun z hz => ?_, List.pairwise_cons.2 h⟩
      rcases List.mem_cons.1 hz with rfl | hz
      · exact hxy
      · exact String.lt_trans hxy (h.1 z hz)
    · split
      · exact List.pairwise_cons.2 h
      · rename_i hxy hne
        refine List.pairwise_cons.2 ⟨fun z hz => ?_, ih h.2⟩
        rcases mem_insertName.1 hz with rfl | hz
        · rcases Decidable.em (y < z) with hlt | hlt
          · exact hlt
          · exact absurd (String.le_antisymm (String.not_lt.1 hlt) (String.not_lt.1 hxy)) hne
        · exact h.1 z hz

/-- The set with one more member. -/
def insert (x : String) (s : NameSet) : NameSet := ⟨insertName x s.names, sorted_insertName s.sorted⟩

/-- The set of the texts in a list. -/
def ofList (xs : List String) : NameSet := xs.foldr insert empty

/-- The members of either set. -/
def union (s t : NameSet) : NameSet := s.names.foldr insert t

/-- The members that pass a test. -/
def filter (p : String → Bool) (s : NameSet) : NameSet := ⟨s.names.filter p, s.sorted.filter p⟩

/-- Whether the sets have a member in common. -/
def meets (s t : NameSet) : Bool := s.names.any fun x => decide (x ∈ t)

/-! ## Members -/

@[simp] theorem not_mem_empty (x : String) : ¬ x ∈ (∅ : NameSet) := by
  show ¬ x ∈ ([] : List String)
  simp

@[simp] theorem mem_insert {x z : String} {s : NameSet} : z ∈ s.insert x ↔ z = x ∨ z ∈ s :=
  mem_insertName

theorem mem_foldr_insert {z : String} {xs : List String} {s : NameSet} :
    z ∈ xs.foldr insert s ↔ z ∈ xs ∨ z ∈ s := by
  induction xs with
  | nil => simp
  | cons x xs ih => simp [ih, or_assoc]

@[simp] theorem mem_ofList {z : String} {xs : List String} : z ∈ ofList xs ↔ z ∈ xs := by
  rw [ofList, mem_foldr_insert]
  exact or_iff_left (not_mem_empty z)

@[simp] theorem mem_union {z : String} {s t : NameSet} : z ∈ s.union t ↔ z ∈ s ∨ z ∈ t :=
  mem_foldr_insert

@[simp] theorem mem_filter {z : String} {p : String → Bool} {s : NameSet} :
    z ∈ s.filter p ↔ z ∈ s ∧ p z = true := by
  simp [mem_def, filter]

theorem meets_iff {s t : NameSet} : s.meets t = true ↔ ∃ x, x ∈ s ∧ x ∈ t := by
  simp [meets, mem_def]

theorem isEmpty_iff {s : NameSet} : s.isEmpty = true ↔ ∀ x, ¬ x ∈ s := by
  simp only [isEmpty, List.isEmpty_iff, mem_def]
  exact List.eq_nil_iff_forall_not_mem

/-- Ascending lists with the same members are equal. -/
theorem eq_of_sorted {xs ys : List String} (hx : xs.Pairwise (· < ·)) (hy : ys.Pairwise (· < ·))
    (h : ∀ z, z ∈ xs ↔ z ∈ ys) : xs = ys := by
  induction xs generalizing ys with
  | nil =>
    exact (List.eq_nil_iff_forall_not_mem.2 fun z hz => by simpa using (h z).2 hz).symm
  | cons x xs ih =>
    cases ys with
    | nil => exact absurd ((h x).1 (by simp)) (by simp)
    | cons y ys =>
      rw [List.pairwise_cons] at hx hy
      have hxy : x = y := by
        have h1 := (h x).1 (by simp)
        have h2 := (h y).2 (by simp)
        rcases List.mem_cons.1 h1 with h1 | h1
        · exact h1
        · rcases List.mem_cons.1 h2 with h2 | h2
          · exact h2.symm
          · exact absurd (String.lt_trans (hx.1 y h2) (hy.1 x h1)) (String.lt_irrefl x)
      subst hxy
      congr 1
      refine ih hx.2 hy.2 fun z => ?_
      have := h z
      simp only [List.mem_cons] at this
      constructor
      · intro hz
        rcases this.1 (Or.inr hz) with rfl | hz'
        · exact absurd (hx.1 z hz) (String.lt_irrefl z)
        · exact hz'
      · intro hz
        rcases this.2 (Or.inr hz) with rfl | hz'
        · exact absurd (hy.1 z hz) (String.lt_irrefl z)
        · exact hz'

/-- Sets with the same members are equal. -/
theorem ext {s t : NameSet} (h : ∀ z, z ∈ s ↔ z ∈ t) : s = t := by
  cases s with
  | mk xs hx =>
    cases t with
    | mk ys hy =>
      obtain rfl : xs = ys := eq_of_sorted hx hy h
      rfl

end NameSet

end SearchExport
