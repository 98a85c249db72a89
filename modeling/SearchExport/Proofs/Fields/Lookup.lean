import SearchExport.Message.Decoration

/-!
# Looking up fields

What each operation on fields does to the value of a name.  The place of a field never matters.

* `lookupEntry_insertEntry`, `lookupEntry_filter`, `lookupEntry_perm` — on lists of entries.
* `Fields.get?_set`, `Fields.get?_keep`, `Fields.get?_remove`, `Fields.get?_rename` — on fields.
* `Message.get?_row`, `Message.row_congr` — a row shows the value of each of its names.
-/

set_option autoImplicit false

namespace SearchExport

/-! ## Entries -/

section Entries

variable {α : Type} (name : String) (v : α) (es : List (String × α))

theorem lookupEntry_insertEntry (other : String) :
    lookupEntry other (insertEntry name v es) =
      if other = name then some v else lookupEntry other es := by
  induction es with
  | nil => simp [insertEntry, lookupEntry, eq_comm]
  | cons e es ih =>
    obtain ⟨k, w⟩ := e
    by_cases hk : k = name
    · subst hk
      by_cases hother : other = k <;> simp [insertEntry, lookupEntry, hother, eq_comm]
    · by_cases hother : k = other
      · subst hother
        simp [insertEntry, lookupEntry, hk]
      · simp [insertEntry, lookupEntry, hk, hother, ih]

/-- The same entry set for the second time changes nothing. -/
theorem insertEntry_insertEntry :
    insertEntry name v (insertEntry name v es) = insertEntry name v es := by
  induction es with
  | nil => simp [insertEntry]
  | cons e es ih =>
    obtain ⟨k, w⟩ := e
    by_cases hk : k = name
    · simp [insertEntry, hk]
    · simp [insertEntry, hk, ih]

theorem lookupEntry_filter (p : String → Bool) :
    lookupEntry name (es.filter fun e => p e.1) =
      if p name then lookupEntry name es else none := by
  induction es with
  | nil => simp [lookupEntry]
  | cons e es ih =>
    obtain ⟨k, w⟩ := e
    by_cases hk : k = name
    · subst hk
      by_cases hp : p k = true
      · simp [lookupEntry, hp]
      · simpa [List.filter_cons, hp] using ih
    · by_cases hp : p k = true <;> simpa [List.filter_cons, lookupEntry, hp, hk] using ih

variable {name v es}

/-- With each name once, looking a name up is membership. -/
theorem lookupEntry_eq_some_iff (h : (es.map Prod.fst).Nodup) :
    lookupEntry name es = some v ↔ (name, v) ∈ es := by
  induction es with
  | nil => simp [lookupEntry]
  | cons e es ih =>
    obtain ⟨k, w⟩ := e
    rw [List.map_cons, List.nodup_cons] at h
    by_cases hk : k = name
    · subst hk
      have hnot : (k, v) ∉ es := fun hmem => h.1 (List.mem_map.2 ⟨(k, v), hmem, rfl⟩)
      simp [lookupEntry, hnot, eq_comm]
    · have hk' : ¬ name = k := fun h' => hk h'.symm
      simp [lookupEntry, hk, hk', ih h.2]

theorem lookupEntry_perm {es' : List (String × α)} (hperm : es.Perm es')
    (h : (es.map Prod.fst).Nodup) (name : String) : lookupEntry name es = lookupEntry name es' := by
  have h' : (es'.map Prod.fst).Nodup := (hperm.map Prod.fst).nodup h
  ext v
  rw [lookupEntry_eq_some_iff h, lookupEntry_eq_some_iff h', hperm.mem_iff]

end Entries

/-! ## Fields -/

namespace Fields

variable (f : Fields) (name other : String) (v : Value)

theorem get?_set :
    (f.set name v).get? other = if other = name then some v else f.get? other :=
  lookupEntry_insertEntry name v f.entries other

theorem get?_keep (names : List String) :
    (f.keep names).get? name = if name ∈ names then f.get? name else none := by
  have := lookupEntry_filter name f.entries fun k => names.contains k
  simpa [get?, keep] using this

theorem get?_remove :
    (f.remove name).get? other = if other = name then none else f.get? other := by
  have hperm := removeEntry_perm name f.entries f.distinct
  have hlookup := lookupEntry_perm hperm (f.remove name).distinct other
  have hfilter := lookupEntry_filter other f.entries fun k => k ≠ name
  rw [hfilter] at hlookup
  by_cases hother : other = name
  · simpa [get?, remove, hother] using hlookup
  · simpa [get?, remove, hother] using hlookup

/-- A renamed field has its value under the new name, and the old name has none. -/
theorem get?_rename {source target : String} (h : source ≠ target) :
    (f.rename source target).get? other =
      if other = source then none
      else if other = target then (f.get? source).or (f.get? target)
      else f.get? other := by
  unfold rename
  rw [if_neg h]
  cases hsource : f.get? source with
  | none =>
    by_cases hother : other = source
    · simp [hother, hsource]
    · by_cases htarget : other = target
      · simp [htarget, h.symm]
      · simp [hother, htarget]
  | some v =>
    rw [get?_set, get?_remove]
    by_cases htarget : other = target
    · simp [htarget, h.symm]
    · simp [htarget]

/-- The value of a name among entries that are made from their names. -/
theorem get?_ofList_map (value : String → Value) (names : List String) :
    (ofList (names.map fun n => (n, value n))).get? name =
      if name ∈ names then some (value name) else none := by
  -- the entries are inserted from the left, so the fields grow to the right
  have grow : ∀ (names : List String) (f : Fields),
      ((names.map fun n => (n, value n)).foldl (fun f e => f.set e.1 e.2) f).get? name =
        if name ∈ names then some (value name) else f.get? name := by
    intro names
    induction names with
    | nil => simp
    | cons n names ih =>
      intro f
      rw [List.map_cons, List.foldl_cons, ih, get?_set]
      by_cases hn : name = n <;> simp [hn]
  exact grow names empty

end Fields

/-! ## Messages -/

namespace Message

theorem get?_set (m : Message) (name other : String) (v : Value) :
    (m.set name v).get? other = if other = name then some v else m.get? other :=
  m.fields.get?_set name other v

/-- A row shows the value of each of its names, or null. -/
theorem get?_row (m : Message) (names : List String) (name : String) :
    (m.row names).get? name = if name ∈ names then some ((m.get? name).getD .null) else none :=
  Fields.get?_ofList_map name (fun n => (m.get? n).getD .null) names

theorem row_congr {m m' : Message} {names : List String}
    (h : ∀ name ∈ names, m.get? name = m'.get? name) : m.row names = m'.row names := by
  unfold row
  congr 1
  refine List.map_congr_left fun name hname => ?_
  rw [h name hname]

end Message

end SearchExport
