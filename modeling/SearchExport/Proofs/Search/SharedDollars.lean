import SearchExport.Proofs.Search.Parameters

/-!
# Names that share a dollar sign

The dollar sign that ends one name may be the one that starts the next.  A name is found from the left, whether
a parameter is called so or not, and what was found is not looked at again: of names that stand one behind the
other, each with one dollar sign in common with the next, every second is found.

* `EndsInNames` — how many names stand at the end of a text; `Opens` — whether a dollar sign behind it starts
  anew.
* `EndsInNames.nameSegments_append` — the pieces of a text that goes on with a dollar sign.
* `found_between_iff` — where a name is found.
* `Search.substitute_opened` — which names are exchanged for values.
-/

set_option autoImplicit false

namespace SearchExport

/-! ## Names at the end of a text -/

/-- At the end of a text stand so many names, each behind a dollar sign and one behind the other. -/
inductive EndsInNames : List Char → Nat → Prop
  | none {cs : List Char} (h : ∀ name, IsParameterName name → ¬ '$' :: name <:+ cs) : EndsInNames cs 0
  | more {cs name : List Char} {n : Nat} (h : EndsInNames cs n) (hname : IsParameterName name) :
    EndsInNames (cs ++ '$' :: name) (n + 1)

theorem exists_endsInNames (cs : List Char) : ∃ n, EndsInNames cs n := by
  induction hlength : cs.length using Nat.strongRecOn generalizing cs with
  | ind length ih =>
    subst hlength
    by_cases h : ∃ name, IsParameterName name ∧ '$' :: name <:+ cs
    · obtain ⟨name, hname, front, rfl⟩ := h
      have hshorter : front.length < (front ++ '$' :: name).length := by
        rw [List.length_append, List.length_cons]
        omega
      obtain ⟨n, hn⟩ := ih front.length hshorter front rfl
      exact ⟨n + 1, hn.more hname⟩
    · exact ⟨0, .none fun name hname hsuffix => h ⟨name, hname, hsuffix⟩⟩

/-- A dollar sign behind the text starts anew: the names at its end, if there are any, are even in number, so
that each of them shares its dollar signs with another. -/
def Opens (cs : List Char) : Prop := ∃ n, EndsInNames cs n ∧ n % 2 = 0

/-- A dollar sign behind a text that does not end in a name ends no name. -/
theorem parts_dollar {cs : List Char} (h : ∀ name, IsParameterName name → ¬ '$' :: name <:+ cs)
    (rest : List Char) : dollarNames.Parts cs ('$' :: rest) := by
  intro name front back hname hwrite hfront hback hcs hrest
  obtain ⟨d, back, rfl⟩ := List.exists_cons_of_ne_nil hback
  obtain ⟨rfl, -⟩ := List.cons_prefix_cons.1 hrest
  obtain ⟨e, front, rfl⟩ := List.exists_cons_of_ne_nil hfront
  obtain ⟨rfl, hsplit⟩ := List.cons.inj (show '$' :: (name ++ ['$']) = e :: (front ++ '$' :: back) from hwrite)
  -- the name has no dollar sign, so it ends at the one behind the text
  have hname' : front = name := by
    obtain ⟨middle, rfl, hmiddle⟩ | ⟨middle, rfl, hmiddle⟩ := List.append_eq_append_iff.1 hsplit
    · cases middle with
      | nil => exact List.append_nil name
      | cons c middle => simp at hmiddle
    · cases middle with
      | nil => exact (List.append_nil front).symm
      | cons c middle =>
        obtain rfl := (List.cons.inj hmiddle).1
        exact absurd (by simp) hname.dollar_not_mem
  exact h name hname (hname' ▸ hcs)

/-- **A text that goes on with a dollar sign.**  When the names at its end are even in number, the text and what
follows fall apart; when they are odd, the dollar sign ends the last of them. -/
theorem EndsInNames.nameSegments_append {cs : List Char} {n : Nat} (h : EndsInNames cs n) :
    (n % 2 = 0 → ∀ rest, nameSegments (cs ++ '$' :: rest) = nameSegments cs ++ nameSegments ('$' :: rest)) ∧
    (n % 2 = 1 → ∃ front name, IsParameterName name ∧ cs = front ++ '$' :: name ∧
      ∀ rest, nameSegments (cs ++ '$' :: rest) = nameSegments front ++ .token name :: nameSegments rest) := by
  induction h with
  | none h => exact ⟨fun _ rest => dollarNames.scan_append (parts_dollar h rest), nofun⟩
  | @more cs name n h hname ih =>
    have hchars (rest : List Char) : nameSegments (name ++ rest) = name.map .char ++ nameSegments rest :=
      nameSegments_append_of_no_dollar hname.dollar_not_mem rest
    refine ⟨fun heven rest => ?_, fun hodd => ⟨cs, name, hname, rfl, fun rest => ?_⟩⟩
    · -- the dollar sign before the name ends the name before
      obtain ⟨front, other, -, -, hbefore⟩ := ih.2 (by omega)
      have hname_end : nameSegments name = name.map .char := by
        have hend := hchars []
        rwa [List.append_nil, show nameSegments [] = [] from rfl, List.append_nil] at hend
      rw [List.append_assoc, List.cons_append, hbefore, hchars, hbefore, hname_end, List.append_assoc,
        List.cons_append]
    · rw [List.append_assoc, List.cons_append, ih.1 (by omega), ← dollarQuoted_append,
        nameSegments_dollarQuoted hname]

theorem Opens.nameSegments_append {cs : List Char} (h : Opens cs) (rest : List Char) :
    nameSegments (cs ++ '$' :: rest) = nameSegments cs ++ nameSegments ('$' :: rest) := by
  obtain ⟨n, hn, heven⟩ := h
  exact hn.nameSegments_append.1 heven rest

/-! ## Names that are found -/

/-- A name is found in a text with this before it and that after it. -/
def FoundBetween (segments : List (Text.Segment (List Char))) (before name after : List Char) : Prop :=
  ∃ left right, segments = left ++ .token name :: right ∧
    Text.render dollarQuoted left = before ∧ Text.render dollarQuoted right = after

/-- A name that starts before the end of the segments `left` is among them as a whole. -/
theorem length_render_of_token {left right left' right' : List (Text.Segment (List Char))} {name : List Char}
    (h : left ++ right = left' ++ .token name :: right')
    (hlonger : (Text.render dollarQuoted left').length < (Text.render dollarQuoted left).length) :
    (Text.render dollarQuoted left').length + (dollarQuoted name).length ≤
      (Text.render dollarQuoted left).length := by
  obtain ⟨middle, rfl, -⟩ | ⟨middle, rfl, hmiddle⟩ := List.append_eq_append_iff.1 h
  · rw [Text.render_append, List.length_append] at hlonger
    omega
  · cases middle with
    | nil =>
      rw [List.append_nil] at hlonger
      omega
    | cons segment middle =>
      obtain rfl := (List.cons.inj hmiddle).1
      rw [Text.render_append, Text.render_token, List.length_append, List.length_append]
      omega

/-- **Where a name is found**: where it stands between dollar signs of which the first starts anew. -/
theorem found_between_iff {cs before name after : List Char} :
    FoundBetween (nameSegments cs) before name after ↔
      cs = before ++ dollarQuoted name ++ after ∧ IsParameterName name ∧ Opens before := by
  constructor
  · rintro ⟨left, right, hsegments, rfl, rfl⟩
    have hcs : cs = Text.render dollarQuoted left ++ dollarQuoted name ++ Text.render dollarQuoted right := by
      rw [← render_nameSegments cs, hsegments, Text.render_append, Text.render_token, List.append_assoc]
    have hname : name ∈ Text.tokens (nameSegments cs) := by
      rw [hsegments, Text.tokens_append, Text.tokens_token]
      exact List.mem_append_right _ List.mem_cons_self
    refine ⟨hcs, (dollarNames.of_mem_tokens hname).1, ?_⟩
    obtain ⟨n, hn⟩ := exists_endsInNames (Text.render dollarQuoted left)
    obtain heven | hodd := Nat.mod_two_eq_zero_or_one n
    · exact ⟨n, hn, heven⟩
    · -- the name before would reach over the dollar sign at which this one starts
      obtain ⟨front, other, -, hfront, hother⟩ := hn.nameSegments_append.2 hodd
      have hshared := hother (name ++ '$' :: Text.render dollarQuoted right)
      rw [← dollarQuoted_append, ← List.append_assoc, ← hcs, hsegments] at hshared
      have hreach := length_render_of_token hshared (by
        rw [render_nameSegments, hfront, List.length_append, List.length_cons]
        omega)
      rw [render_nameSegments, hfront, length_dollarQuoted, List.length_append, List.length_cons] at hreach
      omega
  · rintro ⟨rfl, hname, hopens⟩
    refine ⟨nameSegments before, nameSegments after, ?_, render_nameSegments _, render_nameSegments _⟩
    rw [List.append_assoc, dollarQuoted_append, hopens.nameSegments_append, ← dollarQuoted_append,
      nameSegments_dollarQuoted hname]

namespace Search

variable {search : Search}

/-! ## Values -/

theorem parameterText_of_undeclared {name : List Char} (h : search.parameter? (String.ofList name) = none) :
    search.parameterText name = dollarQuoted name := by
  rw [parameterText, h]
  rfl

theorem parameterText_of_declared {name : List Char} {p : Parameter} {v : Value}
    (h : search.parameter? (String.ofList name) = some p) (hv : p.effectiveValue? = some v) :
    search.parameterText name = v.queryText := by
  rw [parameterText, h, Option.bind_some, hv]

theorem unboundNames_of_values (h : ∀ p ∈ search.parameters, ∃ v, p.effectiveValue? = some v) (q : String) :
    search.unboundNames q = [] := by
  rw [unboundNames_eq, List.map_eq_nil_iff, List.filter_eq_nil_iff]
  intro name _
  rw [isUnbound]
  cases hp : search.parameter? (String.ofList name) with
  | none => exact Bool.false_ne_true
  | some p =>
    obtain ⟨v, hv⟩ := h p (List.mem_of_find?_eq_some hp)
    simp [hv]

/-- **Which names are exchanged for values**, for a search whose parameters all have one.  The substitution
succeeds, and the query string falls apart into single characters, which stay as they are, and names between
dollar signs: those of parameters are exchanged for the value, all others are left as they are written.  A name
is found exactly where it stands between dollar signs of which the first starts anew: the names directly before
it, each behind a dollar sign, are even in number, for example none. -/
theorem substitute_opened (h : ∀ p ∈ search.parameters, ∃ v, p.effectiveValue? = some v) (q : String) :
    ∃ pieces, Text.render dollarQuoted pieces = q.toList ∧
      QueryDecorator.parameters.decorate search q =
        .ok (String.ofList (Text.render search.parameterText pieces)) ∧
      (∀ name, search.parameter? (String.ofList name) = none →
        search.parameterText name = dollarQuoted name) ∧
      (∀ name p, search.parameter? (String.ofList name) = some p →
        ∃ v, p.effectiveValue? = some v ∧ search.parameterText name = v.queryText) ∧
      ∀ before name after, FoundBetween pieces before name after ↔
        q.toList = before ++ dollarQuoted name ++ after ∧ IsParameterName name ∧ Opens before := by
  refine ⟨nameSegments q.toList, render_nameSegments _, ?_, fun name => parameterText_of_undeclared,
    fun name p hp => ?_, fun before name after => found_between_iff⟩
  · exact substitute_eq_ok_iff.2 ⟨unboundNames_of_values h q, rfl⟩
  · obtain ⟨v, hv⟩ := h p (List.mem_of_find?_eq_some hp)
    exact ⟨v, hv, parameterText_of_declared hp hv⟩

/-- Two names of no parameter before one of a parameter. -/
theorem substitute_opened_behind_two :
    let search : Search := ⟨"search", [], [⟨"host", some (.string "web-01"), none⟩]⟩
    (∀ p ∈ search.parameters, ∃ v, p.effectiveValue? = some v) ∧
      search.parameter? "a" = none ∧ search.parameter? "b" = none ∧ Opens "$a$b".toList ∧
      QueryDecorator.parameters.decorate search "$a$b$host$" = .ok "$a$bweb-01" ∧
      ∃ pieces, FoundBetween pieces "$a$b".toList "host".toList [] ∧
        QueryDecorator.parameters.decorate search "$a$b$host$" =
          .ok (String.ofList (Text.render search.parameterText pieces)) := by
  intro search
  have hvalues : ∀ p ∈ search.parameters, ∃ v, p.effectiveValue? = some v := by
    intro p hp
    obtain rfl := List.mem_singleton.1 hp
    exact ⟨_, rfl⟩
  have hstart : EndsInNames [] 0 := .none fun name _ => by simp
  have ha : IsParameterName ['a'] := by decide
  have hb : IsParameterName ['b'] := by decide
  have hopens : Opens "$a$b".toList := ⟨2, (hstart.more ha).more hb, rfl⟩
  obtain ⟨pieces, -, hsubstitute, -, -, hfound⟩ := substitute_opened hvalues "$a$b$host$"
  exact ⟨hvalues, rfl, rfl, hopens, rfl, pieces, (hfound _ _ _).2 ⟨by decide, by decide, hopens⟩,
    hsubstitute⟩

/-- A name of no parameter ends at the dollar sign at which the name of a parameter starts, and a parameter has
a name that is not looked for: neither is exchanged, although no other name of a parameter is near. -/
theorem substitute_of_sharedDollar :
    let search : Search := ⟨"search", [], [⟨"host", some (.string "web-01"), none⟩,
      ⟨"my-host", some (.string "web-02"), none⟩]⟩
    (∀ p ∈ search.parameters, ∃ v, p.effectiveValue? = some v) ∧ search.parameter? "x" = none ∧
      "$x$host$".toList = "$x".toList ++ dollarQuoted "host".toList ∧
      QueryDecorator.parameters.decorate search "$x$host$" = .ok "$x$host$" ∧
      "$my-host$".toList = dollarQuoted "my-host".toList ∧
      QueryDecorator.parameters.decorate search "$my-host$" = .ok "$my-host$" := by
  intro search
  refine ⟨fun p hp => ?_, rfl, by decide, rfl, by decide, rfl⟩
  obtain rfl | hp := List.mem_cons.1 hp
  · exact ⟨_, rfl⟩
  · obtain rfl := List.mem_singleton.1 hp
    exact ⟨_, rfl⟩

end Search

end SearchExport
