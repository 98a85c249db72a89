import SearchExport.Proofs.Request.Build
import SearchExport.Proofs.Request.Firsts
import SearchExport.Proofs.Text.Placeholders

/-!
# Requests in normal form

A request is made from choices, of which the last one of a kind counts.  It is checked, and what it lists is
freed of repetitions and of blanks; what was built once is built again as it was.

* `RequestChoice`, `RequestDraft.ofChoices` — the draft that a sequence of choices leaves.
* `RequestDraft.Buildable` — the checks; `RequestDraft.build_eq_ok_iff` — a draft that passes them makes its
  normal form, and no other draft makes a request.
* `ExportRequest.IsNormalFormOf` — what becomes of the values; `RequestDraft.normalized_isNormalFormOf`.
* `ExportRequest.choices` — the choices that a request shows; `RequestDraft.build_choices` builds from them.
* `RequestDraft.build_normal_form` — all of it, for every sequence of choices.
-/

set_option autoImplicit false

namespace SearchExport

/-! ## Choices -/

/-- One choice for a request. -/
inductive RequestChoice where
  | streams (ids : List String)
  | queryString (text : String)
  | fields (names : List String)
  | sort (keys : List SortKey)
  | limit (messages : Nat)
  | optionalLimit (messages : Option Nat)
  | chunkSize (messages : Nat)

namespace RequestDraft

/-- The draft with one more choice, which takes the place of an earlier one. -/
def choose (d : RequestDraft) : RequestChoice → RequestDraft
  | .streams ids => { d with streams := .ofList ids }
  | .queryString text => { d with queryString := text }
  | .fields names => { d with fields := some names }
  | .sort keys => { d with sort := keys }
  | .limit n => { d with limit := some n }
  | .optionalLimit limit => { d with limit := limit }
  | .chunkSize n => { d with chunkSize := n }

/-- The draft after a sequence of choices. -/
def ofChoices (timeRange : TimeRange) (choices : List RequestChoice) : RequestDraft :=
  choices.foldl choose { timeRange := timeRange }

/-! ## Checks -/

/-- What a draft is checked for: neither the chunk size nor the limit is zero, and the fields are left unset or
are some names that are not blank. -/
structure Buildable (d : RequestDraft) : Prop where
  chunkSize : 0 < d.chunkSize
  limit : d.limit ≠ some 0
  fields : ∀ names, d.fields = some names → names ≠ [] ∧ ∀ name ∈ names, Text.isBlank name = false

/-- The fields that a draft asks for, or the default ones. -/
def givenFields (d : RequestDraft) : List String := d.fields.getD defaultFields

theorem rowFields_eq (d : RequestDraft) : d.rowFields = firstsBy id [] d.givenFields := by
  unfold rowFields givenFields
  cases d.fields with
  | some names => rfl
  | none => exact (firstsBy_of_nodup (by decide) (by simp)).symm

theorem mem_rowFields_iff {d : RequestDraft} {name : String} :
    name ∈ d.rowFields ↔ name ∈ d.givenFields := by
  rw [rowFields_eq, mem_firstsBy]
  exact and_iff_left List.not_mem_nil

/-- A draft that passes the checks has fields for its rows, and none of them is blank. -/
theorem Buildable.rowFields {d : RequestDraft} (h : d.Buildable) :
    d.rowFields ≠ [] ∧ ∀ name ∈ d.rowFields, Text.isBlank name = false := by
  have hgiven : d.givenFields ≠ [] ∧ ∀ name ∈ d.givenFields, Text.isBlank name = false := by
    unfold givenFields
    cases hnames : d.fields with
    | none => decide
    | some names => exact h.fields names hnames
  obtain ⟨name, hname⟩ := List.exists_mem_of_ne_nil _ hgiven.1
  exact ⟨List.ne_nil_of_mem (mem_rowFields_iff.2 hname), fun name hname =>
    hgiven.2 name (mem_rowFields_iff.1 hname)⟩

/-- **A draft makes its normal form** when it passes the checks, and no request otherwise. -/
theorem build_eq_ok_iff {d : RequestDraft} {r : ExportRequest} :
    d.build = .ok r ↔ d.Buildable ∧ r = d.normalized := by
  constructor
  · intro h
    obtain ⟨hchunk, hlimit, hsome, hblank, hr⟩ := build_eq_ok h
    refine ⟨⟨Nat.pos_of_ne_zero hchunk, hlimit, fun names hnames => ⟨?_, fun name hname => ?_⟩⟩, hr⟩
    · rintro rfl
      exact hsome hnames
    · have hrow : name ∈ d.rowFields := mem_rowFields_iff.2 (by rwa [givenFields, hnames, Option.getD_some])
      exact Bool.eq_false_iff.2 (List.any_eq_false.1 hblank name hrow)
  · rintro ⟨hd, rfl⟩
    have hsome : d.fields ≠ some [] := fun hnone => (hd.fields [] hnone).1 rfl
    have hblank : d.rowFields.any Text.isBlank = false :=
      List.any_eq_false.2 fun name hname => Bool.eq_false_iff.1 (hd.rowFields.2 name hname)
    rw [build_eq, if_neg (Nat.ne_of_gt hd.chunkSize), if_neg hd.limit, if_neg hsome, hblank]
    rfl

end RequestDraft

/-! ## Normal forms -/

/-- What becomes of the values of a draft.  Of equal fields, and of sort keys of one field, the first one stays
where it is; blank streams go, and so do the blanks around the query string. -/
structure ExportRequest.IsNormalFormOf (r : ExportRequest) (d : RequestDraft) : Prop where
  timeRange : r.timeRange = d.timeRange
  streams : ∀ id, id ∈ r.streams ↔ id ∈ d.streams ∧ Text.isBlank id = false
  queryString : Text.Trims d.queryString.toList r.queryString.toList
  fields : r.fields = firstOccurrences id d.givenFields
  fields_nodup : r.fields.Nodup
  mem_fields : ∀ name, name ∈ r.fields ↔ name ∈ d.givenFields
  sort : r.sort = firstOccurrences SortKey.field d.sort
  sort_nodup : (r.sort.map SortKey.field).Nodup
  find?_sort : ∀ field, r.sort.find? (fun k => k.field = field) = d.sort.find? fun k => k.field = field
  limit : r.limit = d.limit
  chunkSize : r.chunkSize = d.chunkSize

namespace RequestDraft

theorem normalized_isNormalFormOf (d : RequestDraft) : d.normalized.IsNormalFormOf d where
  timeRange := rfl
  streams id := by
    show id ∈ d.streams.filter _ ↔ _
    rw [NameSet.mem_filter, Bool.not_eq_true']
  queryString := Text.trims_iff.2 (Text.toList_trim d.queryString)
  fields := (rowFields_eq d).trans (firstsBy_eq_firstOccurrences _)
  fields_nodup := by
    have hkeys := @nodup_firstsBy _ id [] d.givenFields
    rwa [List.map_id, ← rowFields_eq] at hkeys
  mem_fields _ := mem_rowFields_iff
  sort := firstsBy_eq_firstOccurrences d.sort
  sort_nodup := nodup_firstsBy [] d.sort
  find?_sort field := by
    show (firstsBy SortKey.field [] d.sort).find? _ = _
    rw [find?_firstsBy, if_neg List.not_mem_nil]
  limit := rfl
  chunkSize := rfl

end RequestDraft

/-! ## Building again -/

/-- The choices that a request shows. -/
def ExportRequest.choices (r : ExportRequest) : List RequestChoice :=
  [.streams r.streams.names, .queryString r.queryString, .fields r.fields, .sort r.sort,
    .optionalLimit r.limit, .chunkSize r.chunkSize]

namespace RequestDraft

/-- The draft of a normal form passes the checks as well, and there is nothing left to change. -/
theorem build_choices {d : RequestDraft} {r : ExportRequest} (h : d.build = .ok r) :
    (ofChoices r.timeRange r.choices).build = .ok r := by
  obtain ⟨hd, rfl⟩ := build_eq_ok_iff.1 h
  have hstreams : (NameSet.ofList d.normalized.streams.names).filter (fun id => !Text.isBlank id) =
      d.normalized.streams := by
    refine NameSet.ext fun id => ?_
    show id ∈ (NameSet.ofList (d.streams.filter _).names).filter _ ↔ id ∈ d.streams.filter _
    rw [NameSet.mem_filter, NameSet.mem_ofList, ← NameSet.mem_def, NameSet.mem_filter, and_assoc, and_self_iff]
  have hquery : Text.trim d.normalized.queryString = d.normalized.queryString := Text.trim_trim _
  have hform := normalized_isNormalFormOf d
  have hfields : firstsBy id [] d.normalized.fields = d.normalized.fields :=
    firstsBy_of_nodup (by rw [List.map_id]; exact hform.fields_nodup) fun _ _ => List.not_mem_nil
  have hsort : firstsBy SortKey.field [] d.normalized.sort = d.normalized.sort :=
    firstsBy_of_nodup hform.sort_nodup fun _ _ => List.not_mem_nil
  refine build_eq_ok_iff.2 ⟨⟨hd.chunkSize, hd.limit, ?_⟩, ?_⟩
  · rintro _ ⟨⟩
    exact hd.rowFields
  · have hagain : (ofChoices d.normalized.timeRange d.normalized.choices).normalized =
        { d.normalized with
          streams := (NameSet.ofList d.normalized.streams.names).filter fun id => !Text.isBlank id
          queryString := Text.trim d.normalized.queryString
          fields := firstsBy id [] d.normalized.fields
          sort := firstsBy SortKey.field [] d.normalized.sort } := rfl
    rw [hagain, hstreams, hquery, hfields, hsort]

/-- **Built requests are in normal form**, for every sequence of choices: a request is built exactly when the
draft passes the checks, it is the normal form of the draft, and from the values that it shows it is built
again. -/
theorem build_normal_form (timeRange : TimeRange) (choices : List RequestChoice) :
    ((∃ r, (ofChoices timeRange choices).build = .ok r) ↔ (ofChoices timeRange choices).Buildable) ∧
    ∀ r, (ofChoices timeRange choices).build = .ok r →
      r.IsNormalFormOf (ofChoices timeRange choices) ∧
        (ofChoices r.timeRange r.choices).build = .ok r := by
  constructor
  · constructor
    · rintro ⟨r, h⟩
      exact (build_eq_ok_iff.1 h).1
    · exact fun h => ⟨_, build_eq_ok_iff.2 ⟨h, rfl⟩⟩
  · intro r h
    obtain ⟨hd, rfl⟩ := build_eq_ok_iff.1 h
    exact ⟨normalized_isNormalFormOf _, build_choices h⟩

/-- A draft with repetitions, blanks and a choice that was taken back. -/
theorem build_normal_form_of_repetitions :
    let timeRange := TimeRange.relative 300
    let choices : List RequestChoice := [.limit 0, .fields ["message", "timestamp", "message"],
      .streams [" ", "s-1"], .queryString " a b ", .optionalLimit none,
      .sort [⟨"source", .ascending⟩, ⟨"timestamp", .descending⟩, ⟨"source", .descending⟩]]
    ∃ r, ((ofChoices timeRange choices).build = .ok r ∧ r.fields = ["message", "timestamp"] ∧
        r.sort = [⟨"source", .ascending⟩, ⟨"timestamp", .descending⟩] ∧ r.streams = .ofList ["s-1"] ∧
        r.queryString = "a b") ∧
      r.IsNormalFormOf (ofChoices timeRange choices) ∧
        (ofChoices r.timeRange r.choices).build = .ok r := by
  intro timeRange choices
  have h : (ofChoices timeRange choices).build = .ok (ofChoices timeRange choices).normalized := rfl
  have hfields : (ofChoices timeRange choices).normalized.fields = ["message", "timestamp"] := by decide
  have hsort : (ofChoices timeRange choices).normalized.sort =
      [⟨"source", .ascending⟩, ⟨"timestamp", .descending⟩] := by decide
  have hstreams : (ofChoices timeRange choices).normalized.streams = .ofList ["s-1"] := by decide
  have hquery : (ofChoices timeRange choices).normalized.queryString = "a b" := by decide
  exact ⟨_, ⟨h, hfields, hsort, hstreams, hquery⟩, (build_normal_form timeRange choices).2 _ h⟩

end RequestDraft

end SearchExport
