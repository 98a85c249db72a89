import SearchExport.Proofs.Search.JoinedFilters
import SearchExport.Proofs.Search.Parameters

/-!
# Parameters in joined filters

Two filters in brackets are joined by AND before parameters are substituted in them.  A bracket is no part of
a name, so a dollar sign at the end of one filter finds no partner in the other.

* `nameSegments_joined` — the pieces of the joined text are those of the filters, and the characters between.
* `Search.filled_joined`, `Search.unboundNames_joined` — the values and the names without one.
* `Search.substitute_joined` — substitution in the joined filters is substitution in each.
-/

set_option autoImplicit false

namespace SearchExport

/-- No name is found across a bracket. -/
theorem nameSegments_append_bracket (cs rest : List Char) :
    nameSegments (cs ++ ')' :: rest) = nameSegments cs ++ nameSegments (')' :: rest) :=
  nameSegments_append_cons (by decide) (by decide) cs rest

/-- **The pieces of joined filters** are those of the filters, between the characters that join them. -/
theorem nameSegments_joined (a b : String) :
    nameSegments ("(" ++ a ++ ") AND (" ++ b ++ ")").toList =
      "(".toList.map .char ++ nameSegments a.toList ++ ") AND (".toList.map .char ++
        nameSegments b.toList ++ ")".toList.map .char := by
  have hjoined : ("(" ++ a ++ ") AND (" ++ b ++ ")").toList =
      "(".toList ++ (a.toList ++ ')' :: (" AND (".toList ++ (b.toList ++ ')' :: []))) := by
    simp [String.toList_append]
  have hnone : '$' ∉ ") AND (".toList := by decide
  have hbetween (rest : List Char) : nameSegments (')' :: (" AND (".toList ++ rest)) =
      ") AND (".toList.map .char ++ nameSegments rest :=
    nameSegments_append_of_no_dollar hnone rest
  have hend : nameSegments (')' :: []) = ")".toList.map .char := by decide
  rw [hjoined, nameSegments_append_of_no_dollar (by decide), nameSegments_append_bracket, hbetween,
    nameSegments_append_bracket, hend]
  simp only [List.append_assoc]

/-- The names that an attempt to substitute parameters reports. -/
def reportedNames : Except (List String) String → List String
  | .ok _ => []
  | .error names => names

namespace Search

theorem reportedNames_substitute (search : Search) (q : String) :
    reportedNames (search.substitute q) = search.unboundNames q := by
  cases hsubstitute : search.substitute q with
  | ok text => rw [(substitute_eq_ok_iff.1 hsubstitute).1, reportedNames]
  | error names => rw [reportedNames, (substitute_eq_error_iff.1 hsubstitute).2]

theorem substitutes_iff {search : Search} {q : String} :
    (∃ text, search.substitute q = .ok text) ↔ search.unboundNames q = [] := by
  simp only [substitute_eq_ok_iff, exists_and_left, exists_eq, and_true]

theorem unboundNames_joined (search : Search) (a b : String) :
    search.unboundNames ("(" ++ a ++ ") AND (" ++ b ++ ")") =
      search.unboundNames a ++ search.unboundNames b := by
  simp only [unboundNames_eq, nameSegments_joined, Text.tokens_append, Text.tokens_chars,
    List.filter_append, List.map_append, List.nil_append, List.append_nil]

theorem filled_joined (search : Search) (a b : String) :
    search.filled ("(" ++ a ++ ") AND (" ++ b ++ ")") =
      "(" ++ search.filled a ++ ") AND (" ++ search.filled b ++ ")" := by
  rw [filled, nameSegments_joined, ← String.toList_inj]
  simp only [filled, Text.render_append, Text.render_chars, String.toList_append, String.toList_ofList]

/-- **Substitution respects the two filters.**  For two filters that are present, the names to be exchanged are
found in each filter as it is written, before any value is known: there are pieces of the filters such that
for every search the substitution in the joined filters

* succeeds exactly when it does so in each of them;
* then joins the two outcomes, in which every name is exchanged where it stood and no value is looked at again;
* otherwise reports the names of the first filter and then those of the second. -/
theorem substitute_joined {first second : Option String} {a b : String}
    (ha : presentFilter? first = some a) (hb : presentFilter? second = some b) :
    joinFilters first second = "(" ++ a ++ ") AND (" ++ b ++ ")" ∧
    ∃ pieces pieces' : List (Text.Segment (List Char)),
      Text.render dollarQuoted pieces = a.toList ∧ Text.render dollarQuoted pieces' = b.toList ∧
      ∀ search : Search,
        let decorate := QueryDecorator.parameters.decorate search
        let joined := joinFilters first second
        ((∃ text, decorate joined = .ok text) ↔
          (∃ text, decorate a = .ok text) ∧ ∃ text, decorate b = .ok text) ∧
        (∀ x y, decorate a = .ok x → decorate b = .ok y →
          decorate joined = .ok ("(" ++ x ++ ") AND (" ++ y ++ ")") ∧
          x.toList = Text.render search.parameterText pieces ∧
          y.toList = Text.render search.parameterText pieces') ∧
        ∀ names, decorate joined = .error names →
          names = reportedNames (decorate a) ++ reportedNames (decorate b) := by
  have hjoined : joinFilters first second = "(" ++ a ++ ") AND (" ++ b ++ ")" := by
    rw [joinFilters, ha, hb]
  refine ⟨hjoined, nameSegments a.toList, nameSegments b.toList, render_nameSegments _,
    render_nameSegments _, fun search => ?_⟩
  simp only [QueryDecorator.decorate, hjoined]
  refine ⟨?_, fun x y hx hy => ?_, fun names hnames => ?_⟩
  · rw [substitutes_iff, substitutes_iff, substitutes_iff, unboundNames_joined, List.append_eq_nil_iff]
  · obtain ⟨hboundA, rfl⟩ := substitute_eq_ok_iff.1 hx
    obtain ⟨hboundB, rfl⟩ := substitute_eq_ok_iff.1 hy
    refine ⟨substitute_eq_ok_iff.2 ⟨?_, (filled_joined search a b).symm⟩, String.toList_ofList,
      String.toList_ofList⟩
    rw [unboundNames_joined, hboundA, hboundB, List.append_nil]
  · rw [(substitute_eq_error_iff.1 hnames).2, unboundNames_joined, reportedNames_substitute,
      reportedNames_substitute]

/-- A value that looks like a parameter, and dollar signs at the ends of the filters. -/
theorem substitute_joined_of_dollars :
    let search : Search := ⟨"search", [], [⟨"x", some (.string "$y$"), none⟩, ⟨"y", none, some (.string "b")⟩,
      ⟨"z", none, none⟩]⟩
    presentFilter? (some " $x$ $z") = some "$x$ $z" ∧ presentFilter? (some "z$ $y$ ") = some "z$ $y$" ∧
      QueryDecorator.parameters.decorate search (joinFilters (some " $x$ $z") (some "z$ $y$ ")) =
        .ok "($y$ $z) AND (z$ b)" := by
  intro search
  have ha : presentFilter? (some " $x$ $z") = some "$x$ $z" := by decide
  have hb : presentFilter? (some "z$ $y$ ") = some "z$ $y$" := by decide
  obtain ⟨-, pieces, pieces', -, -, hapart⟩ := substitute_joined ha hb
  exact ⟨ha, hb, ((hapart search).2.1 "$y$ $z" "z$ b" rfl rfl).1⟩

end Search

end SearchExport
