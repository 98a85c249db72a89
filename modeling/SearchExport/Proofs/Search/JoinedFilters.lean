import SearchExport.Engine.Guard
import SearchExport.Proofs.Text.Words
import SearchExport.Search.QueryString

/-!
# Joined filters and leading wildcards

The filters of a query and of a message list are checked for leading wildcards after they were joined.
The brackets that join them touch their first and their last words: an opening bracket is passed over by
the check, a closing one becomes part of the last word.

* `termOf_bracket`, `termOf_concat_bracket` — the term of a word that a bracket touches.
* `NoLeadingWildcard` — what the check asks of the words of a text; `noLeadingWildcard_bracketed_iff` —
  of a text in brackets.
* `guardQueryString_joinFilters_iff` — when the joined filters pass the check.
-/

set_option autoImplicit false

namespace SearchExport

/-! ## Words that a bracket touches -/

/-- An opening bracket is passed over. -/
theorem termOf_bracket (w : List Char) : termOf ('(' :: w) = termOf w := rfl

theorem dropWhile_concat {p : Char → Bool} {c : Char} (hc : p c = false) (cs : List Char) :
    (cs ++ [c]).dropWhile p = cs.dropWhile p ++ [c] := by
  rw [List.dropWhile_append]
  split
  · rename_i hnil
    simp [List.isEmpty_iff.1 hnil, hc]
  · rfl

theorem Text.cutFirst_concat {c d : Char} (hd : d ≠ c) (cs : List Char) :
    Text.cutFirst c (cs ++ [d]) = (Text.cutFirst c cs).map fun p => (p.1, p.2 ++ [d]) := by
  induction cs with
  | nil => simp [Text.cutFirst, hd]
  | cons a cs ih =>
    by_cases ha : a = c
    · simp [Text.cutFirst, ha]
    · simp [Text.cutFirst, ha, ih, Function.comp_def]

/-- A closing bracket becomes part of the term. -/
theorem termOf_concat_bracket (w : List Char) : termOf (w ++ [')']) = termOf w ++ [')'] := by
  unfold termOf
  dsimp only
  rw [dropWhile_concat (by decide), Text.cutFirst_concat (by decide)]
  cases Text.cutFirst ':' (w.dropWhile isTermMark) with
  | none => rfl
  | some p => exact dropWhile_concat (by decide) p.2

theorem startsWithWildcard_bracket (w : List Char) :
    startsWithWildcard ('(' :: w) = startsWithWildcard w := rfl

/-- With a closing bracket a lone asterisk counts as a wildcard in front of a term. -/
theorem startsWithWildcard_concat_bracket (w : List Char) :
    startsWithWildcard (w ++ [')']) = (startsWithWildcard w || termOf w == ['*']) := by
  unfold startsWithWildcard
  rw [termOf_concat_bracket]
  cases termOf w with
  | nil => rfl
  | cons c cs =>
    by_cases hcs : cs = []
    · subst hcs
      by_cases hc : c = '*' <;> simp [hc]
    · simp [hcs]

/-! ## Texts in brackets -/

/-- No word of the text starts with a wildcard. -/
def NoLeadingWildcard (cs : List Char) : Prop :=
  ∀ w ∈ Text.wordsFrom [] cs, startsWithWildcard w = false

/-- The last word of the text is a match-all: an asterisk and nothing else, behind marks or the name of a
field. -/
def EndsInMatchAll (cs : List Char) : Prop :=
  ∃ w, (Text.wordsFrom [] cs).getLast? = some w ∧ termOf w = ['*']

theorem noLeadingWildcard_append_blank (cs ds : List Char) :
    NoLeadingWildcard (cs ++ ' ' :: ds) ↔ NoLeadingWildcard cs ∧ NoLeadingWildcard ds := by
  unfold NoLeadingWildcard
  rw [Text.wordsFrom_append_blank (by decide), List.forall_mem_append]

section Brackets

variable {a : Char} (ha : isBlankChar a = false) (cs : List Char)

include ha

theorem noLeadingWildcard_bracket_iff :
    NoLeadingWildcard ('(' :: a :: cs) ↔ NoLeadingWildcard (a :: cs) := by
  obtain ⟨w, ws, hw, hcw⟩ := Text.wordsFrom_cons ha (c := '(') (by decide) cs
  unfold NoLeadingWildcard
  rw [hw, hcw, List.forall_mem_cons, List.forall_mem_cons, startsWithWildcard_bracket]

theorem endsInMatchAll_bracket_iff :
    EndsInMatchAll ('(' :: a :: cs) ↔ EndsInMatchAll (a :: cs) := by
  obtain ⟨w, ws, hw, hcw⟩ := Text.wordsFrom_cons ha (c := '(') (by decide) cs
  unfold EndsInMatchAll
  rw [hw, hcw]
  cases ws with
  | nil => simp [termOf_bracket]
  | cons w' ws => simp [List.getLast?_cons_cons]

theorem noLeadingWildcard_concat_bracket_iff :
    NoLeadingWildcard (cs ++ [a] ++ [')']) ↔
      NoLeadingWildcard (cs ++ [a]) ∧ ¬ EndsInMatchAll (cs ++ [a]) := by
  obtain ⟨ws, w, hw, hcw⟩ := Text.wordsFrom_concat ha (c := ')') (by decide) [] cs
  unfold NoLeadingWildcard EndsInMatchAll
  rw [hw, hcw, List.forall_mem_append, List.forall_mem_append, List.forall_mem_singleton,
    List.forall_mem_singleton, startsWithWildcard_concat_bracket]
  simp [and_assoc]

end Brackets

/-- **A text in brackets** passes the check when the text does and does not end in a match-all. -/
theorem noLeadingWildcard_bracketed_iff {cs : List Char} (hne : cs ≠ [])
    (hhead : ∀ c, cs.head? = some c → isBlankChar c = false)
    (hlast : ∀ c, cs.getLast? = some c → isBlankChar c = false) :
    NoLeadingWildcard ('(' :: cs ++ [')']) ↔ NoLeadingWildcard cs ∧ ¬ EndsInMatchAll cs := by
  obtain ⟨a, rest, rfl⟩ := List.exists_cons_of_ne_nil hne
  obtain ⟨before, z, hz⟩ := List.eq_nil_or_concat (a :: rest) |>.resolve_left hne
  have ha := hhead a rfl
  have hzblank : isBlankChar z = false := hlast z (by rw [hz]; simp)
  rw [← noLeadingWildcard_bracket_iff ha, ← endsInMatchAll_bracket_iff ha, hz, List.concat_eq_append,
    ← List.cons_append]
  exact noLeadingWildcard_concat_bracket_iff hzblank ('(' :: before)

/-! ## Filters -/

/-- The check of a query string is the one of its words. -/
theorem guardQueryString_eq_ok_iff (q : String) :
    guardQueryString q false = .ok () ↔ NoLeadingWildcard q.toList := by
  unfold guardQueryString NoLeadingWildcard Text.words
  rw [if_neg Bool.false_ne_true]
  cases hfind : List.find? _ _ with
  | none =>
    rw [List.find?_eq_none] at hfind
    simpa using hfind
  | some word =>
    have hmem := List.mem_of_find?_eq_some hfind
    have hword := List.find?_some hfind
    obtain ⟨w, hw, rfl⟩ := List.mem_map.1 hmem
    refine ⟨fun h => (by cases h), fun hnone => ?_⟩
    simp [hnone w hw] at hword

/-- A filter that is present is trimmed and not empty. -/
theorem presentFilter?_eq_some {filter : Option String} {f : String}
    (h : presentFilter? filter = some f) : ∃ g, filter = some g ∧ f = Text.trim g ∧ f ≠ "" := by
  cases filter with
  | none => cases h
  | some g =>
    simp only [presentFilter?, Option.map_some, Option.bind_some] at h
    split at h
    · cases h
    · rename_i hne
      cases h
      exact ⟨g, rfl, rfl, hne⟩

/-- A filter passes the check when it is not present or passes it trimmed. -/
theorem guardQueryString_filter_iff (filter : Option String) :
    (∀ f ∈ filter, guardQueryString f false = .ok ()) ↔
      ∀ f ∈ presentFilter? filter, NoLeadingWildcard f.toList := by
  cases filter with
  | none => simp [presentFilter?]
  | some g =>
    have htrim : NoLeadingWildcard g.toList ↔ NoLeadingWildcard (Text.trim g).toList := by
      rw [NoLeadingWildcard, NoLeadingWildcard, Text.toList_trim, Text.wordsFrom_trimChars]
    have hpresent : presentFilter? (some g) = if Text.trim g = "" then none else some (Text.trim g) :=
      rfl
    rw [hpresent]
    simp only [Option.mem_some_iff, forall_eq', guardQueryString_eq_ok_iff]
    rw [htrim]
    split
    · rename_i hblank
      rw [hblank]
      simp [NoLeadingWildcard, Text.wordsFrom]
    · simp only [Option.mem_some_iff, forall_eq']

/-- A present filter in brackets. -/
theorem noLeadingWildcard_present_iff {filter : Option String} {f : String}
    (h : presentFilter? filter = some f) :
    NoLeadingWildcard ('(' :: f.toList ++ [')']) ↔
      NoLeadingWildcard f.toList ∧ ¬ EndsInMatchAll f.toList := by
  obtain ⟨g, _, rfl, hne⟩ := presentFilter?_eq_some h
  refine noLeadingWildcard_bracketed_iff (fun hnil => hne (String.toList_eq_nil_iff.1 hnil))
    (fun c hc => ?_) (fun c hc => ?_)
  · rw [Text.toList_trim, Text.trimChars, Text.head?_trimEndChars (Text.head?_trimStartChars _)] at hc
    exact Text.head?_trimStartChars _ c hc
  · rw [Text.toList_trim, Text.trimChars] at hc
    exact Text.getLast?_trimEndChars _ c hc

/-- **Joined filters pass the check** when each of them does, and, if both are present, neither ends in a
match-all: joining never hides a leading wildcard, and the only one that it adds is an asterisk in front
of a closing bracket. -/
theorem guardQueryString_joinFilters_iff (first second : Option String) :
    guardQueryString (joinFilters first second) false = .ok () ↔
      (∀ f ∈ first, guardQueryString f false = .ok ()) ∧
      (∀ f ∈ second, guardQueryString f false = .ok ()) ∧
      ∀ a b, presentFilter? first = some a → presentFilter? second = some b →
        ¬ EndsInMatchAll a.toList ∧ ¬ EndsInMatchAll b.toList := by
  rw [guardQueryString_filter_iff, guardQueryString_filter_iff, guardQueryString_eq_ok_iff,
    joinFilters]
  cases ha : presentFilter? first with
  | none =>
    cases hb : presentFilter? second with
    | none => simp [NoLeadingWildcard, Text.wordsFrom]
    | some b => simp
  | some a =>
    cases hb : presentFilter? second with
    | none => simp
    | some b =>
      have hjoined : ("(" ++ a ++ ") AND (" ++ b ++ ")").toList =
          ('(' :: a.toList ++ [')']) ++ ' ' :: (['A', 'N', 'D'] ++
            ' ' :: ('(' :: b.toList ++ [')'])) := by
        simp
      have hand : NoLeadingWildcard ['A', 'N', 'D'] := by
        unfold NoLeadingWildcard
        decide
      rw [hjoined, noLeadingWildcard_append_blank, noLeadingWildcard_append_blank,
        noLeadingWildcard_present_iff ha, noLeadingWildcard_present_iff hb]
      constructor
      · rintro ⟨⟨hfirst, hfirstEnd⟩, _, hsecond, hsecondEnd⟩
        refine ⟨?_, ?_, ?_⟩
        · rintro _ ⟨⟩
          exact hfirst
        · rintro _ ⟨⟩
          exact hsecond
        · rintro _ _ ⟨⟩ ⟨⟩
          exact ⟨hfirstEnd, hsecondEnd⟩
      · rintro ⟨hfirst, hsecond, hends⟩
        obtain ⟨hfirstEnd, hsecondEnd⟩ := hends a b rfl rfl
        exact ⟨⟨hfirst a rfl, hfirstEnd⟩, hand, hsecond b rfl, hsecondEnd⟩

/-- Two match-alls pass the check, and joined they do not. -/
theorem guardQueryString_joinFilters_matchAll :
    guardQueryString "*" false = .ok () ∧
      guardQueryString (joinFilters (some "*") (some "*")) false =
        .error (.query "Leading wildcard term '(*)' is not allowed in query string") := by
  refine ⟨by rfl, by rfl⟩

end SearchExport
