import SearchExport.Config.Overrides
import SearchExport.Config.Validation

/-!
# Index names of a checked configuration

A configuration that passes its check has indices to search.  The check looks at the name of every known
index, but not at the patterns that are searched when no index is known.

* `Config.indices_of_validate` — the section of the indices passed its own check.
* `IndexSettings.validate_eq_ok_iff` — what that check asks for.
* `IndexSettings.resolve_of_validate` — the indices that are found, and which of their names are blank.
* `not_blank_of_mem_itemsOf` — patterns from the environment are never blank.
-/

set_option autoImplicit false

namespace SearchExport

/-! ## Checks -/

theorem ok_of_toOption {α γ : Type} {step : Except γ α} {a : α} (h : step.toOption = some a) :
    step = .ok a := by
  cases step with
  | error fault => cases h
  | ok b =>
    cases h
    rfl

theorem require_eq_ok_iff {condition : Bool} {fault : ConfigFault} :
    require condition fault = .ok () ↔ condition = true := by
  cases condition <;> simp [require]

theorem check_eq_ok_iff {γ : Type} {check : Except γ Unit} {after : Except γ Unit} :
    (check >>= fun _ => after) = .ok () ↔ check = .ok () ∧ after = .ok () := by
  cases check with
  | error fault => simp [bind, Except.bind]
  | ok => simp [bind, Except.bind]

theorem forM_eq_ok_iff {α γ : Type} {check : α → Except γ Unit} {xs : List α} :
    xs.forM check = .ok () ↔ ∀ x ∈ xs, check x = .ok () := by
  induction xs with
  | nil => simp [List.forM, pure, Except.pure]
  | cons x xs ih =>
    show (check x >>= fun _ => xs.forM check) = .ok () ↔ _
    rw [check_eq_ok_iff, ih, List.forall_mem_cons]

/-! ## Sections -/

theorem IndexRange.validate_eq_ok_iff (r : IndexRange) :
    r.validate = .ok () ↔ Text.isBlank r.indexName = false ∧ r.first ≤ r.last := by
  rw [validate, check_eq_ok_iff, require_eq_ok_iff, require_eq_ok_iff, Bool.not_eq_true',
    decide_eq_true_eq]

theorem IndexSettings.validate_eq_ok_iff (s : IndexSettings) :
    s.validate = .ok () ↔
      (s.ranges ≠ [] ∨ s.defaultPatterns ≠ []) ∧
        ∀ r ∈ s.ranges, Text.isBlank r.indexName = false ∧ r.first ≤ r.last := by
  simp only [validate, check_eq_ok_iff, require_eq_ok_iff, forM_eq_ok_iff,
    IndexRange.validate_eq_ok_iff]
  simp [Decidable.imp_iff_not_or]

theorem Config.validate_eq_ok_iff (c : Config) :
    c.validate = .ok () ↔
      c.application.validate = .ok () ∧ c.elasticsearch.validate = .ok () ∧
        c.exporting.validate = .ok () ∧ c.indices.validate = .ok () ∧ c.logging.validate = .ok () := by
  rw [validate, check_eq_ok_iff, check_eq_ok_iff, check_eq_ok_iff, check_eq_ok_iff]

theorem Config.indices_of_validate {c : Config} (h : c.validate = .ok ()) :
    c.indices.validate = .ok () :=
  (c.validate_eq_ok_iff.1 h).2.2.2.1

/-! ## Indices -/

namespace IndexSettings

variable {s : IndexSettings} {streams : NameSet} {range : AbsoluteRange} {names : NameSet}

/-- The names that can be searched: the patterns when no index is known, else those of the known indices. -/
def candidates (s : IndexSettings) : List String :=
  if s.ranges.isEmpty then s.defaultPatterns else s.ranges.map IndexRange.indexName

theorem mem_candidates_of_resolve (h : s.resolve streams range = .ok names) {name : String}
    (hname : name ∈ names) : name ∈ s.candidates := by
  unfold resolve at h
  unfold candidates
  split at h
  · rename_i hranges
    dsimp only at h
    split at h
    · cases h
    · cases h
      rwa [if_pos hranges, ← NameSet.mem_ofList]
  · rename_i hranges
    cases h
    rw [if_neg hranges]
    obtain ⟨r, hr, rfl⟩ := List.mem_map.1 (NameSet.mem_ofList.1 hname)
    exact List.mem_map_of_mem (List.mem_filter.1 hr).1

/-- **A checked section of indices** resolves for all streams and intervals.  No name of a known index is
blank; the blank names are those among the patterns when no index is known. -/
theorem resolve_of_validate (h : s.validate = .ok ()) (streams : NameSet) (range : AbsoluteRange) :
    ∃ names, s.resolve streams range = .ok names ∧
      ∀ name, Text.isBlank name = true →
        (name ∈ names ↔ s.ranges = [] ∧ name ∈ s.defaultPatterns) := by
  obtain ⟨hsome, hchecked⟩ := s.validate_eq_ok_iff.1 h
  by_cases hranges : s.ranges = []
  · -- the patterns are taken as they are
    have hpatterns : (NameSet.ofList s.defaultPatterns).isEmpty = false := by
      obtain ⟨p, hp⟩ := List.exists_mem_of_ne_nil _ (hsome.resolve_left fun hne => hne hranges)
      rw [← Bool.not_eq_true, NameSet.isEmpty_iff]
      exact fun hnone => hnone p (NameSet.mem_ofList.2 hp)
    refine ⟨.ofList s.defaultPatterns, by simp [resolve, hranges, hpatterns], fun name _ => ?_⟩
    rw [NameSet.mem_ofList]
    exact (and_iff_right hranges).symm
  · refine ⟨IndexRange.indicesFor s.ranges streams range, by simp [resolve, hranges], fun name hblank => ?_⟩
    constructor
    · intro hname
      obtain ⟨r, hr, rfl⟩ := List.mem_map.1 (NameSet.mem_ofList.1 hname)
      rw [(hchecked r (List.mem_filter.1 hr).1).1] at hblank
      cases hblank
    · exact fun hname => absurd hname.1 hranges

end IndexSettings

/-! ## Lists of the environment -/

theorem not_blank_of_mem_itemsOf {text item : String} (h : item ∈ itemsOf text) :
    Text.isBlank item = false := by
  obtain ⟨hitem, hne⟩ := List.mem_filter.1 h
  obtain ⟨piece, _, rfl⟩ := List.mem_map.1 hitem
  rw [← Bool.not_eq_true, Text.isBlank_iff_trim, Text.trim_trim]
  simpa using hne

end SearchExport
