import Mathlib.Data.List.Induction
import SearchExport.Message.Basic

/-!
# Collected entries

Entries that are inserted one after the other keep each name once, where it came first.

* `map_fst_collectEntries` — the names, in the order of their first occurrences.
* `collectEntries_of_nodup` — entries with each name once stay as they are.
* `mem_of_mem_collectEntries` — nothing is made up.
* `Message.entries_row` — the fields of a row.
-/

set_option autoImplicit false

namespace SearchExport

variable {α : Type}

theorem insertEntry_of_not_mem {name : String} {es : List (String × α)}
    (h : name ∉ es.map Prod.fst) (v : α) : insertEntry name v es = es ++ [(name, v)] := by
  induction es with
  | nil => rfl
  | cons e es ih =>
    obtain ⟨k, w⟩ := e
    rw [List.map_cons, List.mem_cons, not_or] at h
    have hk : ¬ k = name := fun hk => h.1 hk.symm
    simp [insertEntry, hk, ih h.2]

theorem mem_of_mem_insertEntry {name : String} {v : α} {es : List (String × α)} {e : String × α}
    (h : e ∈ insertEntry name v es) : e = (name, v) ∨ e ∈ es := by
  induction es with
  | nil => exact .inl (List.mem_singleton.1 h)
  | cons d es ih =>
    obtain ⟨k, w⟩ := d
    unfold insertEntry at h
    split at h
    · next hk =>
      rcases List.mem_cons.1 h with rfl | h
      · exact .inl (by rw [hk])
      · exact .inr (List.mem_cons_of_mem _ h)
    · rcases List.mem_cons.1 h with rfl | h
      · exact .inr List.mem_cons_self
      · exact (ih h).imp_right (List.mem_cons_of_mem _)

/-! ## Collecting -/

theorem collectEntries_concat (es : List (String × α)) (e : String × α) :
    collectEntries (es ++ [e]) = insertEntry e.1 e.2 (collectEntries es) :=
  List.foldl_append

/-- **The names** of collected entries are those of the entries, in the order of their first
occurrences. -/
theorem map_fst_collectEntries (es : List (String × α)) :
    (collectEntries es).map Prod.fst = (es.map Prod.fst).eraseDups := by
  induction es using List.reverseRecOn with
  | nil => rfl
  | append_singleton es e ih =>
    have hmem : e.1 ∈ (es.map Prod.fst).eraseDups ↔ e.1 ∈ es.map Prod.fst := List.mem_eraseDups
    rw [collectEntries_concat, map_fst_insertEntry, ih, List.map_append, List.eraseDups_append]
    by_cases he : e.1 ∈ es.map Prod.fst
    · simp [List.removeAll, he, hmem.2 he]
    · simp [List.removeAll, he, mt hmem.1 he, List.eraseDups_cons]

theorem nodup_collectEntries (es : List (String × α)) :
    ((collectEntries es).map Prod.fst).Nodup := by
  induction es using List.reverseRecOn with
  | nil => exact .nil
  | append_singleton es e ih =>
    rw [collectEntries_concat]
    exact nodup_insertEntry e.1 e.2 ih

theorem collectEntries_of_nodup {es : List (String × α)} (h : (es.map Prod.fst).Nodup) :
    collectEntries es = es := by
  induction es using List.reverseRecOn with
  | nil => rfl
  | append_singleton es e ih =>
    rw [List.map_append, List.nodup_append] at h
    obtain ⟨hes, _, hapart⟩ := h
    have hnot : e.1 ∉ es.map Prod.fst := fun he => hapart e.1 he e.1 (by simp) rfl
    rw [collectEntries_concat, ih hes, insertEntry_of_not_mem hnot]

theorem mem_of_mem_collectEntries {es : List (String × α)} {e : String × α}
    (h : e ∈ collectEntries es) : e ∈ es := by
  induction es using List.reverseRecOn with
  | nil => cases h
  | append_singleton es d ih =>
    rw [collectEntries_concat] at h
    rcases mem_of_mem_insertEntry h with rfl | h
    · exact List.mem_append_right _ (List.mem_singleton_self _)
    · exact List.mem_append_left _ (ih h)

/-! ## Fields -/

theorem Fields.entries_ofList (es : List (String × Value)) :
    (Fields.ofList es).entries = collectEntries es := by
  induction es using List.reverseRecOn with
  | nil => rfl
  | append_singleton es e ih =>
    have hset : Fields.ofList (es ++ [e]) = (Fields.ofList es).set e.1 e.2 := List.foldl_append
    rw [hset, collectEntries_concat, ← ih]
    rfl

/-- **A row** has each of its names once, where it came first, with the value in the message or null. -/
theorem Message.entries_row (m : Message) (names : List String) :
    (m.row names).entries = names.eraseDups.map fun name => (name, (m.get? name).getD .null) := by
  rw [row, Fields.entries_ofList]
  generalize hes : names.map (fun name => (name, (m.get? name).getD .null)) = es
  have hnames : (collectEntries es).map Prod.fst = names.eraseDups := by
    rw [map_fst_collectEntries, ← hes, List.map_map]
    exact congrArg List.eraseDups (List.map_id names)
  have hvalues : ∀ e ∈ collectEntries es, (e.1, (m.get? e.1).getD .null) = e := by
    intro e he
    have hmem := mem_of_mem_collectEntries he
    rw [← hes] at hmem
    obtain ⟨name, -, rfl⟩ := List.mem_map.1 hmem
    rfl
  rw [← hnames, List.map_map]
  exact ((List.map_congr_left hvalues).trans (List.map_id _)).symm

end SearchExport
