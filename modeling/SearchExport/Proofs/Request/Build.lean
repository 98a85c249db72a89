import SearchExport.Request

/-!
# Built requests

What a draft is checked for when a request is made from it.

* `RequestDraft.build_eq_ok` — the request of a draft, and the checks that it passed.
* `RequestDraft.build_of_defaultFields` — a draft that leaves the fields unset passes the checks on
  them.
* `RequestDraft.chunkSize_pos`, `RequestDraft.limit_ne_zero` — neither the chunk size nor the limit of
  a built request is zero.
-/

set_option autoImplicit false

namespace SearchExport.RequestDraft

/-- The fields that a request of the draft gets. -/
def rowFields (d : RequestDraft) : List String :=
  match d.fields with
  | some fields => firstsBy id [] fields
  | none => defaultFields

/-- The request that the draft makes when it passes the checks. -/
def normalized (d : RequestDraft) : ExportRequest where
  timeRange := d.timeRange
  streams := d.streams.filter fun s => !Text.isBlank s
  queryString := Text.trim d.queryString
  fields := d.rowFields
  sort := firstsBy SortKey.field [] d.sort
  limit := d.limit
  chunkSize := d.chunkSize

theorem build_eq (d : RequestDraft) :
    d.build =
      if d.chunkSize = 0 then .error .zeroChunkSize
      else if d.limit = some 0 then .error .zeroLimit
      else if d.fields = some [] then .error .noFields
      else if d.rowFields.any Text.isBlank then .error .blankField
      else .ok d.normalized := rfl

/-- **The request of a draft**: the checks that the draft passed, and what became of its values. -/
theorem build_eq_ok {d : RequestDraft} {r : ExportRequest} (h : d.build = .ok r) :
    d.chunkSize ≠ 0 ∧ d.limit ≠ some 0 ∧ d.fields ≠ some [] ∧
      d.rowFields.any Text.isBlank = false ∧ r = d.normalized := by
  rw [build_eq] at h
  split at h
  · cases h
  rename_i hchunk
  split at h
  · cases h
  rename_i hlimit
  split at h
  · cases h
  rename_i hfields
  split at h
  · cases h
  rename_i hblank
  cases h
  exact ⟨hchunk, hlimit, hfields, by simpa using hblank, rfl⟩

/-- The default fields pass the checks on fields. -/
theorem build_of_defaultFields {d : RequestDraft} (hchunk : d.chunkSize ≠ 0)
    (hlimit : d.limit ≠ some 0) (hfields : d.fields = none) : d.build = .ok d.normalized := by
  have hblank : d.rowFields.any Text.isBlank = false := by
    rw [rowFields, hfields]
    decide
  simp [build_eq, hchunk, hlimit, hfields, hblank]

theorem chunkSize_pos {d : RequestDraft} {r : ExportRequest} (h : d.build = .ok r) :
    0 < r.chunkSize := by
  obtain ⟨hchunk, _, _, _, rfl⟩ := build_eq_ok h
  exact Nat.pos_of_ne_zero hchunk

theorem limit_ne_zero {d : RequestDraft} {r : ExportRequest} (h : d.build = .ok r) :
    r.limit ≠ some 0 := by
  obtain ⟨_, hlimit, _, _, rfl⟩ := build_eq_ok h
  exact hlimit

end SearchExport.RequestDraft
