import Mathlib.Data.List.TakeWhile
import SearchExport.Engine.Guard
import SearchExport.Proofs.Text.Cutting
import SearchExport.Proofs.Text.Words

/-!
# Words with a leading wildcard

A term with a wildcard in front may be hidden behind marks, behind the name of a field and behind the
marks of a group.  The guard of query strings passes over the marks in front of a word, over the name of
a field, and over the opening brackets after it; any other mark inside a group hides the wildcard.

* `LeadingWildcard` — the parts of such a word; `LeadingWildcard.IsBare` — its group, if there is one, has
  opening brackets only.
* `LeadingWildcard.startsWithWildcard_iff` — the guard finds the wildcard exactly when nothing hides it.
* `guardQueryString_eq` — the guard on a text is the search for its first word with a wildcard.
* `guardQueryString_of_leadingWildcard` — such a word in a query string, whatever stands around it.
-/

set_option autoImplicit false

namespace SearchExport

/-! ## The parts of a word -/

/-- What stands between the marks in front of a word and its term. -/
inductive TermScope where
  | none
  /-- The name of a field and a colon. -/
  | field (name : List Char)
  /-- The same, then an opening bracket and further marks. -/
  | group (name marks : List Char)

namespace TermScope

/-- The scope as it is written. -/
def chars : TermScope → List Char
  | .none => []
  | .field name => name ++ [':']
  | .group name marks => name ++ ':' :: '(' :: marks

/-- The name of a field has a character, and neither a colon nor a blank. -/
def IsFieldName (name : List Char) : Prop := name ≠ [] ∧ ∀ c ∈ name, c ≠ ':' ∧ isBlankChar c = false

instance (name : List Char) : Decidable (IsFieldName name) :=
  @instDecidableAnd _ _ inferInstance (List.decidableBAll _ name)

/-- The scope has a proper name, and its group opens with marks only. -/
def IsProper : TermScope → Prop
  | .none => True
  | .field name => IsFieldName name
  | .group name marks => IsFieldName name ∧ ∀ c ∈ marks, isTermMark c = true

instance : DecidablePred IsProper
  | .none => inferInstanceAs (Decidable True)
  | .field name => inferInstanceAs (Decidable (IsFieldName name))
  | .group _ marks => @instDecidableAnd _ _ inferInstance (List.decidableBAll _ marks)

/-- The marks from the first one that is no opening bracket on, which hide the term of the group. -/
def cover : TermScope → List Char
  | .none => []
  | .field _ => []
  | .group _ marks => marks.dropWhile (· = '(')

/-- The group, if there is one, opens with brackets only. -/
def IsBare : TermScope → Prop
  | .none => True
  | .field _ => True
  | .group _ marks => ∀ c ∈ marks, c = '('

theorem cover_eq_nil_iff (scope : TermScope) : scope.cover = [] ↔ scope.IsBare := by
  cases scope with
  | none => simp [cover, IsBare]
  | field name => simp [cover, IsBare]
  | group name marks =>
    rw [cover, List.dropWhile_eq_nil_iff]
    simp [IsBare]

theorem isTermMark_of_mem_cover {scope : TermScope} (h : scope.IsProper) {c : Char}
    (hc : c ∈ scope.cover) : isTermMark c = true := by
  cases scope with
  | none => cases hc
  | field name => cases hc
  | group name marks => exact h.2 c ((List.dropWhile_sublist _).subset hc)

end TermScope

/-- A word whose term has a wildcard in front and more behind it. -/
structure LeadingWildcard where
  marks : List Char
  scope : TermScope
  wildcard : Char
  rest : List Char
  marks_are : ∀ c ∈ marks, isTermMark c = true
  scope_proper : scope.IsProper
  wildcard_is : wildcard = '*' ∨ wildcard = '?'
  rest_ne_nil : rest ≠ []
  rest_are : ∀ c ∈ rest, c ≠ ':' ∧ isBlankChar c = false

namespace LeadingWildcard

/-- The word as it is written. -/
def chars (w : LeadingWildcard) : List Char := w.marks ++ w.scope.chars ++ w.wildcard :: w.rest

theorem forall_wildcard (w : LeadingWildcard) (p : Char → Prop) (hstar : p '*') (hquestion : p '?') :
    p w.wildcard := by
  rcases w.wildcard_is with h | h
  · exact h ▸ hstar
  · exact h ▸ hquestion

/-- Nothing but opening brackets stands between the field and the wildcard. -/
def IsBare (w : LeadingWildcard) : Prop := w.scope.IsBare

/-! ## Blanks -/

theorem not_blank_of_isTermMark {c : Char} (h : isTermMark c = true) : isBlankChar c = false := by
  simp only [isTermMark, Bool.or_eq_true, decide_eq_true_eq] at h
  rcases h with ((rfl | rfl) | rfl) | rfl <;> rfl

theorem chars_ne_nil (w : LeadingWildcard) : w.chars ≠ [] := by
  simp [chars]

theorem not_blank_of_mem_scope (w : LeadingWildcard) {c : Char} (hc : c ∈ w.scope.chars) :
    isBlankChar c = false := by
  have hproper := w.scope_proper
  cases hscope : w.scope with
  | none =>
    rw [hscope] at hc
    cases hc
  | field name =>
    rw [hscope] at hc hproper
    rcases List.mem_append.1 hc with hc | hc
    · exact (hproper.2 c hc).2
    · rw [List.mem_singleton.1 hc]
      rfl
  | group name marks =>
    rw [hscope] at hc hproper
    rcases List.mem_append.1 hc with hc | hc
    · exact (hproper.1.2 c hc).2
    · rcases List.mem_cons.1 hc with rfl | hc
      · rfl
      · rcases List.mem_cons.1 hc with rfl | hc
        · rfl
        · exact not_blank_of_isTermMark (hproper.2 c hc)

theorem not_blank_of_mem (w : LeadingWildcard) : ∀ c ∈ w.chars, isBlankChar c = false := by
  intro c hc
  rcases List.mem_append.1 hc with hc | hc
  · rcases List.mem_append.1 hc with hc | hc
    · exact not_blank_of_isTermMark (w.marks_are c hc)
    · exact w.not_blank_of_mem_scope hc
  · rcases List.mem_cons.1 hc with rfl | hc
    · exact w.forall_wildcard (isBlankChar · = false) rfl rfl
    · exact (w.rest_are c hc).2

/-! ## What the guard sees -/

theorem not_mark_of_wildcard (w : LeadingWildcard) : isTermMark w.wildcard = false :=
  w.forall_wildcard (isTermMark · = false) rfl rfl

/-- The term of a field is what stands after its colon; the name may begin with marks of its own. -/
theorem termOf_field {marks name : List Char} (hmarks : ∀ c ∈ marks, isTermMark c = true)
    (hname : ∀ c ∈ name, c ≠ ':' ∧ isBlankChar c = false) (value : List Char) :
    termOf (marks ++ name ++ ':' :: value) = value.dropWhile (· = '(') := by
  have hdrop : (marks ++ name ++ ':' :: value).dropWhile isTermMark =
      name.dropWhile isTermMark ++ ':' :: value := by
    rw [List.append_assoc, List.dropWhile_append_of_pos hmarks, List.dropWhile_append]
    split
    · rename_i hnil
      rw [List.isEmpty_iff.1 hnil]
      rfl
    · rfl
  have hcolon : ':' ∉ name.dropWhile isTermMark := fun hc =>
    (hname ':' ((List.dropWhile_sublist _).subset hc)).1 rfl
  unfold termOf
  dsimp only
  rw [hdrop, Text.cutFirst_append hcolon]

/-- **The term that the guard sees**: the wildcard and what follows it, behind the marks that hide it. -/
theorem termOf_chars (w : LeadingWildcard) : termOf w.chars = w.scope.cover ++ w.wildcard :: w.rest := by
  have hbracket : w.wildcard ≠ '(' := w.forall_wildcard (· ≠ '(') (by decide) (by decide)
  have hstop : (w.wildcard :: w.rest).dropWhile (· = '(') = w.wildcard :: w.rest := by
    simp [hbracket]
  have hproper := w.scope_proper
  unfold chars
  cases hscope : w.scope with
  | none =>
    have hcolon : ':' ∉ w.wildcard :: w.rest := by
      intro hc
      rcases List.mem_cons.1 hc with hc | hc
      · exact w.forall_wildcard (':' ≠ ·) (by decide) (by decide) hc
      · exact (w.rest_are ':' hc).1 rfl
    have hdrop : (w.marks ++ w.wildcard :: w.rest).dropWhile isTermMark = w.wildcard :: w.rest := by
      rw [List.dropWhile_append_of_pos w.marks_are]
      simp [w.not_mark_of_wildcard]
    unfold termOf
    simp only [TermScope.chars, TermScope.cover, List.append_nil, hdrop,
      Text.cutFirst_eq_none hcolon, List.nil_append]
  | field name =>
    rw [hscope] at hproper
    have hterm := termOf_field w.marks_are hproper.2 (w.wildcard :: w.rest)
    simp only [TermScope.chars, List.append_assoc, List.singleton_append] at hterm ⊢
    rw [hterm, hstop]
    rfl
  | group name marks =>
    rw [hscope] at hproper
    have hterm := termOf_field w.marks_are hproper.1.2 ('(' :: (marks ++ w.wildcard :: w.rest))
    simp only [TermScope.chars, List.append_assoc, List.cons_append] at hterm ⊢
    rw [hterm, List.dropWhile_cons_of_pos (by decide), List.dropWhile_append]
    split
    · rename_i hnil
      rw [hstop, TermScope.cover, List.isEmpty_iff.1 hnil]
      rfl
    · rfl

/-- **The guard finds the wildcard** exactly when nothing hides it. -/
theorem startsWithWildcard_iff (w : LeadingWildcard) :
    startsWithWildcard w.chars = true ↔ w.IsBare := by
  unfold IsBare startsWithWildcard
  rw [← w.scope.cover_eq_nil_iff, termOf_chars]
  cases hcover : w.scope.cover with
  | nil =>
    obtain ⟨a, rest, hrest⟩ := List.exists_cons_of_ne_nil w.rest_ne_nil
    rw [hrest]
    rcases w.wildcard_is with h | h <;> rw [h] <;> simp
  | cons c marks =>
    -- what hides the wildcard is a mark, and so neither an asterisk nor a question mark
    have hmark : isTermMark c = true :=
      TermScope.isTermMark_of_mem_cover w.scope_proper (hcover ▸ List.mem_cons_self)
    have hnot : c ≠ '*' ∧ c ≠ '?' := by
      constructor <;> (rintro rfl; cases hmark)
    simp [hnot]

end LeadingWildcard

/-! ## Query strings -/

/-- The guard on a text is the search for its first word with a wildcard. -/
theorem guardQueryString_eq (cs : List Char) :
    guardQueryString (String.ofList cs) false =
      match (Text.wordsFrom [] cs).find? startsWithWildcard with
      | some w => .error (.query ("Leading wildcard term '" ++ String.ofList w ++
          "' is not allowed in query string"))
      | none => .ok () := by
  unfold guardQueryString Text.words
  rw [if_neg Bool.false_ne_true, List.find?_map]
  simp only [String.toList_ofList, Function.comp_def]
  cases (Text.wordsFrom [] cs).find? startsWithWildcard with
  | none => rfl
  | some w => rfl

/-- **A word with a leading wildcard** in a query string, between blanks or at the ends of it.  When
nothing but opening brackets stands between the field and the wildcard the query string is refused for
one of its words; otherwise the word passes, and the rest of the query string decides. -/
theorem guardQueryString_of_leadingWildcard (w : LeadingWildcard) {before after : List Char}
    (hbefore : ∀ c, before.getLast? = some c → isBlankChar c = true)
    (hafter : ∀ c, after.head? = some c → isBlankChar c = true) :
    (w.IsBare → ∃ word ∈ Text.words (String.ofList (before ++ w.chars ++ after)),
      guardQueryString (String.ofList (before ++ w.chars ++ after)) false =
        .error (.query ("Leading wildcard term '" ++ word ++ "' is not allowed in query string"))) ∧
      (¬ w.IsBare → guardQueryString (String.ofList (before ++ w.chars ++ after)) false =
        guardQueryString (String.ofList (before ++ after)) false) := by
  have hwords := Text.wordsFrom_surrounded hbefore hafter w.not_blank_of_mem w.chars_ne_nil
  refine ⟨fun hbare => ?_, fun hhidden => ?_⟩
  · obtain ⟨word, hfind⟩ : ∃ word, (Text.wordsFrom [] (before ++ w.chars ++ after)).find?
        startsWithWildcard = some word := by
      rw [← Option.isSome_iff_exists, List.find?_isSome]
      refine ⟨w.chars, ?_, w.startsWithWildcard_iff.2 hbare⟩
      rw [hwords]
      exact List.mem_append_right _ List.mem_cons_self
    refine ⟨String.ofList word, ?_, ?_⟩
    · rw [Text.words, String.toList_ofList]
      exact List.mem_map_of_mem (List.mem_of_find?_eq_some hfind)
    · rw [guardQueryString_eq, hfind]
  · have hpasses : startsWithWildcard w.chars = false := by
      rw [← Bool.not_eq_true, w.startsWithWildcard_iff]
      exact hhidden
    have hrest := Text.wordsFrom_append_of_last hbefore after
    rw [guardQueryString_eq, guardQueryString_eq, hwords, hrest, List.find?_append, List.find?_append,
      List.find?_cons_of_neg (by simp [hpasses])]

/-- A word in the middle of a query string, with a mark in front, a field and two opening brackets. -/
theorem guardQueryString_of_leadingWildcard_grouped :
    let w : LeadingWildcard := ⟨['-'], .group ['s', 'r', 'c'] ['('], '*', ['w', 'e', 'b'],
      List.all_eq_true.1 rfl, by decide, by decide, by decide, by simp; decide⟩
    (∀ c, ['a', ' '].getLast? = some c → isBlankChar c = true) ∧
      (∀ c, [' ', 'b'].head? = some c → isBlankChar c = true) ∧ w.IsBare ∧
      ∃ word ∈ Text.words "a -src:((*web b", guardQueryString "a -src:((*web b" false =
        .error (.query ("Leading wildcard term '" ++ word ++ "' is not allowed in query string")) := by
  intro w
  have hbefore : ∀ c, ['a', ' '].getLast? = some c → isBlankChar c = true := by
    rintro c ⟨⟩
    rfl
  have hafter : ∀ c, [' ', 'b'].head? = some c → isBlankChar c = true := by
    rintro c ⟨⟩
    rfl
  have hbare : w.IsBare := by
    show ∀ c ∈ ['('], c = '('
    simp
  exact ⟨hbefore, hafter, hbare, (guardQueryString_of_leadingWildcard w hbefore hafter).1 hbare⟩

/-- A minus sign inside the group of a field hides the wildcard. -/
theorem guardQueryString_of_signedGroup :
    let w : LeadingWildcard := ⟨[], .group ['s', 'o', 'u', 'r', 'c', 'e'] ['-'], '*', ['w', 'e', 'b', ')'],
      List.all_eq_true.1 rfl, by decide, by decide, by decide, by simp; decide⟩
    String.ofList w.chars = "source:(-*web)" ∧ guardQueryString "source:(-*web)" false = .ok () :=
  ⟨by rfl, by rfl⟩

end SearchExport
