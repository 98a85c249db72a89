import SearchExport.Proofs.Text.Tokens
import SearchExport.Search.QueryString

/-!
# Parameters in a query string

How a query string falls apart into names between dollar signs and single characters, and when the names can
be exchanged for values.

* `IsParameterName` — a name that is looked for; `dollarName?_eq_some_iff` — when one stands between dollar
  signs at the head of a text.
* `nameSegments` — a text in pieces; `nameSegments_append_cons` — where they fall apart.
* `Search.substitute_eq_ok_iff`, `Search.substitute_eq_error_iff` — the two outcomes.
-/

set_option autoImplicit false

namespace SearchExport

/-! ## Names -/

/-- A name that is looked for between dollar signs. -/
structure IsParameterName (name : List Char) : Prop where
  start : name.head?.any Text.isNameStart = true
  chars : ∀ c ∈ name, Text.isNameChar c = true

instance (name : List Char) : Decidable (IsParameterName name) :=
  decidable_of_iff ((name.head?.any Text.isNameStart && name.all Text.isNameChar) = true) <| by
    rw [Bool.and_eq_true, List.all_eq_true]
    exact ⟨fun h => ⟨h.1, h.2⟩, fun h => ⟨h.start, h.chars⟩⟩

theorem IsParameterName.dollar_not_mem {name : List Char} (h : IsParameterName name) : '$' ∉ name :=
  fun hmem => absurd (h.chars _ hmem) (by decide)

theorem length_dollarQuoted (name : List Char) : (dollarQuoted name).length = name.length + 2 := by
  simp [dollarQuoted]

theorem dollarQuoted_append (name rest : List Char) :
    dollarQuoted name ++ rest = '$' :: (name ++ '$' :: rest) := by
  simp [dollarQuoted]

theorem takeWhile_isNameChar {name : List Char} (h : IsParameterName name) (rest : List Char) :
    (name ++ '$' :: rest).takeWhile Text.isNameChar = name := by
  have hclose : Text.isNameChar '$' = false := by decide
  rw [List.takeWhile_append_of_pos h.chars, List.takeWhile_cons, hclose]
  simp

/-- **A name at the head of a text** stands between two dollar signs. -/
theorem dollarName?_eq_some_iff {cs name : List Char} {more : Nat} :
    Text.dollarName? cs = some (name, more) ↔
      IsParameterName name ∧ (dollarQuoted name).length = more + 1 ∧ dollarQuoted name <+: cs := by
  rw [length_dollarQuoted]
  constructor
  · intro h
    unfold Text.dollarName? at h
    split at h
    next rest =>
      simp only [Option.ite_none_right_eq_some, Option.some.injEq, Prod.mk.injEq, Bool.and_eq_true,
        decide_eq_true_eq] at h
      obtain ⟨⟨hstart, hclose⟩, rfl, rfl⟩ := h
      refine ⟨⟨hstart, fun c hc => List.all_eq_true.1 List.all_takeWhile c hc⟩, rfl, ?_⟩
      obtain ⟨after, hafter⟩ := List.head?_eq_some_iff.1 hclose
      refine ⟨after, ?_⟩
      rw [dollarQuoted_append, ← hafter]
      exact congrArg ('$' :: ·) (List.prefix_iff_eq_append.1 (List.takeWhile_prefix _))
    next => cases h
  · rintro ⟨hname, hmore, rest, rfl⟩
    obtain rfl : more = name.length + 1 := by omega
    have htake := takeWhile_isNameChar hname rest
    rw [dollarQuoted_append, Text.dollarName?]
    simp only [htake, hname.start, List.drop_left, List.head?_cons, decide_true, Bool.and_true, if_true]

/-- Names between dollar signs as tokens. -/
def dollarNames : Text.Spelling Text.dollarName? where
  IsName := IsParameterName
  write := dollarQuoted
  write_ne_nil _ := List.cons_ne_nil _ _
  found_iff := dollarName?_eq_some_iff

/-! ## Pieces -/

/-- A text in the names that are found in it and the characters between them. -/
def nameSegments (cs : List Char) : List (Text.Segment (List Char)) := Text.scan Text.dollarName? 0 cs

theorem Search.querySegments_eq (q : String) : querySegments q = nameSegments q.toList := rfl

theorem render_nameSegments (cs : List Char) : Text.render dollarQuoted (nameSegments cs) = cs :=
  dollarNames.render_scan cs

theorem nameSegments_dollarQuoted {name : List Char} (h : IsParameterName name) (rest : List Char) :
    nameSegments (dollarQuoted name ++ rest) = .token name :: nameSegments rest :=
  dollarNames.scan_token h rest

/-- Characters before the first dollar sign stay single. -/
theorem nameSegments_append_of_no_dollar {front : List Char} (h : '$' ∉ front) (rest : List Char) :
    nameSegments (front ++ rest) = front.map .char ++ nameSegments rest := by
  induction front with
  | nil => rfl
  | cons c front ih =>
    rw [List.mem_cons, not_or] at h
    have hnone : Text.dollarName? (c :: (front ++ rest)) = none := by
      cases hfound : Text.dollarName? (c :: (front ++ rest)) with
      | none => rfl
      | some found =>
        obtain ⟨-, -, after, hafter⟩ := dollarName?_eq_some_iff.1 hfound
        exact absurd (List.cons.inj hafter).1 h.1
    rw [List.cons_append, nameSegments, Text.scan_char hnone, List.map_cons, List.cons_append]
    exact congrArg (.char c :: ·) (ih h.2)

/-- A character that is in no name and no dollar sign parts a text. -/
theorem nameSegments_append_cons {c : Char} (hdollar : c ≠ '$') (hc : Text.isNameChar c = false)
    (before rest : List Char) :
    nameSegments (before ++ c :: rest) = nameSegments before ++ nameSegments (c :: rest) := by
  refine dollarNames.scan_append (Text.Spelling.parts_cons (fun name hname hmem => ?_) before rest)
  obtain hmem | hmem := List.mem_append.1 (show c ∈ name ++ ['$'] from hmem)
  · rw [hname.chars c hmem] at hc
    cases hc
  · exact hdollar (List.mem_singleton.1 hmem)

/-! ## Outcomes -/

namespace Search

variable {search : Search} {q : String}

/-- The query string with the values of the parameters that have one. -/
def filled (search : Search) (q : String) : String :=
  String.ofList (Text.render search.parameterText (nameSegments q.toList))

theorem unboundNames_eq (search : Search) (q : String) :
    search.unboundNames q =
      ((Text.tokens (nameSegments q.toList)).filter search.isUnbound).map String.ofList := rfl

theorem substitute_eq_ok_iff {text : String} :
    search.substitute q = .ok text ↔ search.unboundNames q = [] ∧ text = search.filled q := by
  rw [substitute]
  cases hunbound : search.unboundNames q with
  | nil => simp [filled, querySegments_eq, eq_comm]
  | cons name names => simp

theorem substitute_eq_error_iff {names : List String} :
    search.substitute q = .error names ↔ names ≠ [] ∧ names = search.unboundNames q := by
  rw [substitute]
  cases hunbound : search.unboundNames q with
  | nil => simp
  | cons name rest =>
    have hne : names = name :: rest → names ≠ [] := fun heq => heq ▸ List.cons_ne_nil _ _
    simpa [eq_comm] using hne

end Search

end SearchExport
