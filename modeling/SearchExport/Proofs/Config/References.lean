import SearchExport.Config.Substitution
import SearchExport.Proofs.Text.Tokens

/-!
# References in a line

How a line falls apart into references to variables and single characters.  A dollar sign always starts
anew, so a reference is found wherever it stands.

* `variableName?_eq_some_iff` — when a reference stands at the head of a text; `references` — references as
  tokens.
* `variableSegments` — a line in pieces; `variableSegments_around` — the pieces around a reference.
* `render_variableSegments` — the pieces make the line again; `mem_tokens_variableSegments_iff` — which
  variables a line refers to.
* `replaceFrom_referenceChars` — exchanging the references to one variable is one pass over the line.
-/

set_option autoImplicit false

namespace SearchExport

/-! ## Names and references -/

/-- A name that a variable in a configuration file may have. -/
structure IsVariableName (name : List Char) : Prop where
  start : name.head?.any isVariableStart = true
  chars : ∀ c ∈ name, isVariableChar c = true

instance (name : List Char) : Decidable (IsVariableName name) :=
  decidable_of_iff ((name.head?.any isVariableStart && name.all isVariableChar) = true) <| by
    rw [Bool.and_eq_true, List.all_eq_true]
    exact ⟨fun h => ⟨h.1, h.2⟩, fun h => ⟨h.start, h.chars⟩⟩

/-- The characters of a reference to a variable. -/
def referenceChars (name : List Char) : List Char := '$' :: '\x7b' :: (name ++ ['\x7d'])

theorem referenceChars_ne_nil (name : List Char) : referenceChars name ≠ [] := List.cons_ne_nil _ _

theorem length_referenceChars (name : List Char) : (referenceChars name).length = name.length + 3 := by
  simp [referenceChars]

theorem toList_referenceTo (name : String) :
    (referenceTo name).toList = referenceChars name.toList := by
  simp [referenceTo, referenceChars, String.toList_append]

theorem dollar_not_mem_tail_referenceChars {name : List Char} (h : IsVariableName name) :
    '$' ∉ (referenceChars name).tail := by
  intro hmem
  have hname : '$' ∈ name := by simpa [referenceChars] using hmem
  exact absurd (h.chars _ hname) (by decide)

theorem takeWhile_isVariableChar {name : List Char} (h : IsVariableName name) (rest : List Char) :
    (name ++ '\x7d' :: rest).takeWhile isVariableChar = name := by
  have hclose : isVariableChar '\x7d' = false := by decide
  rw [List.takeWhile_append_of_pos h.chars, List.takeWhile_cons, hclose]
  simp

/-- **A reference at the head of a text** is a dollar sign, an opening brace, the name of a variable and a
closing brace. -/
theorem variableName?_eq_some_iff {cs name : List Char} {more : Nat} :
    variableName? cs = some (name, more) ↔
      IsVariableName name ∧ (referenceChars name).length = more + 1 ∧ referenceChars name <+: cs := by
  rw [length_referenceChars]
  constructor
  · intro h
    unfold variableName? at h
    split at h
    next rest =>
      simp only [Option.ite_none_right_eq_some, Option.some.injEq, Prod.mk.injEq, Bool.and_eq_true,
        decide_eq_true_eq] at h
      obtain ⟨⟨hstart, hclose⟩, rfl, rfl⟩ := h
      refine ⟨⟨hstart, fun c hc => List.all_eq_true.1 List.all_takeWhile c hc⟩, rfl, ?_⟩
      obtain ⟨after, hafter⟩ := List.head?_eq_some_iff.1 hclose
      refine ⟨after, ?_⟩
      have hrest : rest.takeWhile isVariableChar ++ '\x7d' :: after = rest := by
        rw [← hafter]
        exact List.prefix_iff_eq_append.1 (List.takeWhile_prefix _)
      simpa [referenceChars] using hrest
    next => cases h
  · rintro ⟨hname, hmore, rest, rfl⟩
    obtain rfl : more = name.length + 2 := by omega
    have htake := takeWhile_isVariableChar hname rest
    have hcs : referenceChars name ++ rest = '$' :: '\x7b' :: (name ++ '\x7d' :: rest) := by
      simp [referenceChars]
    rw [hcs, variableName?]
    simp only [htake, hname.start, List.drop_left, List.head?_cons, decide_true, Bool.and_true, if_true]

/-- References to variables as tokens. -/
def references : Text.Spelling variableName? where
  IsName := IsVariableName
  write := referenceChars
  write_ne_nil := referenceChars_ne_nil
  found_iff := variableName?_eq_some_iff

/-! ## Pieces -/

/-- A line in its references and the characters between them. -/
def variableSegments (cs : List Char) : List (Text.Segment (List Char)) := Text.scan variableName? 0 cs

theorem variableSegments_referenceChars {name : List Char} (h : IsVariableName name) (rest : List Char) :
    variableSegments (referenceChars name ++ rest) = .token name :: variableSegments rest :=
  references.scan_token h rest

/-- No reference reaches over a dollar sign. -/
theorem variableSegments_append_dollar (before after : List Char) :
    variableSegments (before ++ '$' :: after) =
      variableSegments before ++ variableSegments ('$' :: after) :=
  references.scan_append
    (Text.Spelling.parts_cons (fun _ h => dollar_not_mem_tail_referenceChars h) before after)

/-- **The pieces around a reference** are those of what stands before it and after it. -/
theorem variableSegments_around (before : List Char) {name : List Char} (h : IsVariableName name)
    (after : List Char) :
    variableSegments (before ++ referenceChars name ++ after) =
      variableSegments before ++ .token name :: variableSegments after := by
  rw [← variableSegments_referenceChars h, List.append_assoc]
  exact variableSegments_append_dollar before _

/-- **The pieces of a line make the line** when every reference is written as it was. -/
theorem render_variableSegments (cs : List Char) :
    Text.render referenceChars (variableSegments cs) = cs :=
  references.render_scan cs

/-- **The variables that a line refers to** are those of which a reference stands somewhere in it. -/
theorem mem_tokens_variableSegments_iff {name cs : List Char} :
    name ∈ Text.tokens (variableSegments cs) ↔ IsVariableName name ∧ referenceChars name <:+: cs := by
  constructor
  · exact references.of_mem_tokens
  · rintro ⟨hname, before, after, rfl⟩
    rw [variableSegments_around before hname, Text.tokens_append, Text.tokens_token]
    exact List.mem_append_right _ List.mem_cons_self

/-! ## Exchanging one variable -/

/-- What is written for a reference when those to one variable are exchanged. -/
def exchanged (name value other : List Char) : List Char :=
  if other = name then value else referenceChars other

theorem exchanged_self (name value : List Char) : exchanged name value name = value := if_pos rfl

theorem exchanged_of_ne {name other : List Char} (value : List Char) (h : other ≠ name) :
    exchanged name value other = referenceChars other := if_neg h

theorem exchanged_referenceChars (name : List Char) :
    exchanged name (referenceChars name) = referenceChars := by
  funext other
  by_cases hother : other = name
  · rw [hother, exchanged_self]
  · exact exchanged_of_ne _ hother

/-- A line that does not refer to the variable stays as it is. -/
theorem render_exchanged_of_not_mem {name cs : List Char} (value : List Char)
    (h : name ∉ Text.tokens (variableSegments cs)) :
    Text.render (exchanged name value) (variableSegments cs) = cs :=
  (Text.render_congr fun _ hother => exchanged_of_ne value (ne_of_mem_of_not_mem hother h)).trans
    (render_variableSegments cs)

/-- What stands before and after a reference to the variable is exchanged apart. -/
theorem render_exchanged_around (before : List Char) {name : List Char} (h : IsVariableName name)
    (value after : List Char) (hbefore : name ∉ Text.tokens (variableSegments before)) :
    Text.render (exchanged name value) (variableSegments (before ++ referenceChars name ++ after)) =
      before ++ value ++ Text.render (exchanged name value) (variableSegments after) := by
  rw [variableSegments_around before h, Text.render_append, Text.render_token,
    render_exchanged_of_not_mem value hbefore, exchanged_self, List.append_assoc]

/-- **Exchanging the references to one variable**, from the left until there is none, is one pass over the
line: nothing that was put in is looked at again. -/
theorem replaceFrom_referenceChars {name : List Char} (h : IsVariableName name) (value : List Char)
    {n : Nat} {cs : List Char} (hn : cs.length ≤ n) :
    Text.replaceFrom (referenceChars name) value n cs =
      Text.render (exchanged name value) (variableSegments cs) := by
  induction n generalizing cs with
  | zero =>
    obtain rfl := List.length_eq_zero_iff.1 (Nat.le_zero.1 hn)
    rfl
  | succ n ih =>
    cases hcut : Text.cutAt (referenceChars name) cs with
    | none =>
      have hnot := Text.cutAt_eq_none_iff.1 hcut
      rw [Text.replaceFrom_of_absent value _ hnot, render_exchanged_of_not_mem value fun hmem =>
        hnot (mem_tokens_variableSegments_iff.1 hmem).2]
    | some pair =>
      obtain ⟨before, after⟩ := pair
      obtain ⟨rfl, hbefore⟩ := Text.eq_of_cutAt (referenceChars_ne_nil name) hcut
      have hshorter : after.length ≤ n := by
        simp only [List.length_append, length_referenceChars] at hn
        omega
      rw [Text.replaceFrom_of_cutAt value n hcut, ih hshorter, render_exchanged_around before h value after
        fun hmem => hbefore (mem_tokens_variableSegments_iff.1 hmem).2]

/-! ## Lines with values

A line of which some references were exchanged already: `write` says what was written for each.  The
references to one variable were left, and possibly there are more of them than the line had. -/

section

variable {name : List Char} {write : List Char → List Char} (hname : IsVariableName name)
  (hleft : write name = referenceChars name)

include hname hleft

/-- The references that were left are still found. -/
theorem count_le_count_render (segments : List (Text.Segment (List Char))) (before : List Char) :
    (Text.tokens segments).count name ≤
      (Text.tokens (variableSegments (before ++ Text.render write segments))).count name := by
  induction segments generalizing before with
  | nil => exact Nat.zero_le _
  | cons segment segments ih =>
    cases segment with
    | char c =>
      rw [Text.tokens_char, Text.render_char, List.append_cons]
      exact ih (before ++ [c])
    | token other =>
      rw [Text.tokens_token, Text.render_token, ← List.append_assoc]
      by_cases hother : other = name
      · subst hother
        have hrest := ih []
        rw [hleft, variableSegments_around before hname, Text.tokens_append, Text.tokens_token,
          List.count_append, List.count_cons_self, List.count_cons_self]
        rw [List.nil_append] at hrest
        omega
      · rw [List.count_cons_of_ne hother]
        exact ih (before ++ write other)

/-- **When there are no more of them than the line had**, exchanging the references to the variable now is
exchanging those of the line. -/
theorem render_exchanged_of_count_eq {write' : List Char → List Char}
    (hothers : ∀ other, other ≠ name → write' other = write other)
    (segments : List (Text.Segment (List Char))) (before : List Char)
    (h : (Text.tokens (variableSegments (before ++ Text.render write segments))).count name =
      (Text.tokens segments).count name) :
    Text.render (exchanged name (write' name)) (variableSegments (before ++ Text.render write segments)) =
      before ++ Text.render write' segments := by
  induction segments generalizing before with
  | nil =>
    have hempty (write : List Char → List Char) : before ++ Text.render write [] = before :=
      List.append_nil before
    rw [hempty] at h ⊢
    rw [hempty]
    exact render_exchanged_of_not_mem _ (List.count_eq_zero.1 h)
  | cons segment segments ih =>
    cases segment with
    | char c =>
      rw [Text.tokens_char, Text.render_char, List.append_cons] at h
      have hrest := ih (before ++ [c]) h
      rwa [← List.append_cons, ← List.append_cons] at hrest
    | token other =>
      rw [Text.tokens_token, Text.render_token, ← List.append_assoc] at h
      rw [Text.render_token, Text.render_token, ← List.append_assoc, ← List.append_assoc]
      by_cases hother : other = name
      · subst hother
        -- the reference was left: nothing before it and no more than the rest had after it
        have hleast := count_le_count_render hname hleft segments []
        rw [hleft, variableSegments_around before hname, Text.tokens_append, Text.tokens_token,
          List.count_append, List.count_cons_self, List.count_cons_self] at h
        rw [List.nil_append] at hleast
        have hbefore : (Text.tokens (variableSegments before)).count other = 0 := by omega
        have hafter := ih [] (by rw [List.nil_append]; omega)
        rw [List.nil_append, List.nil_append] at hafter
        rw [hleft, render_exchanged_around before hname _ _ (List.count_eq_zero.1 hbefore), hafter]
      · rw [List.count_cons_of_ne hother] at h
        rw [hothers other hother]
        exact ih (before ++ write other) h

end

/-- A text without a dollar sign holds no reference. -/
theorem tokens_variableSegments_of_no_dollar {cs : List Char} (h : '$' ∉ cs) :
    Text.tokens (variableSegments cs) = [] := by
  refine List.eq_nil_iff_forall_not_mem.2 fun name hname => h ?_
  exact (mem_tokens_variableSegments_iff.1 hname).2.subset List.mem_cons_self

/-- **The references of a line with values**, of which no dollar sign stands outside the references and in the
values, are those that were left. -/
theorem tokens_variableSegments_render {write : List Char → List Char}
    {left : List Char → Bool} {segments : List (Text.Segment (List Char))}
    (hnames : ∀ name ∈ Text.tokens segments, IsVariableName name)
    (hchars : .char '$' ∉ segments)
    (hleft : ∀ name ∈ Text.tokens segments, left name = true → write name = referenceChars name)
    (hvalues : ∀ name ∈ Text.tokens segments, left name = false → '$' ∉ write name)
    {before : List Char} (hbefore : '$' ∉ before) :
    Text.tokens (variableSegments (before ++ Text.render write segments)) =
      (Text.tokens segments).filter left := by
  induction segments generalizing before with
  | nil =>
    have hempty : before ++ Text.render write [] = before := List.append_nil before
    rw [hempty]
    exact tokens_variableSegments_of_no_dollar hbefore
  | cons segment segments ih =>
    rw [List.mem_cons, not_or] at hchars
    cases segment with
    | char c =>
      have hc : '$' ≠ c := fun hdollar => hchars.1 (congrArg _ hdollar)
      rw [Text.tokens_char, Text.render_char, List.append_cons]
      exact ih hnames hchars.2 hleft hvalues (by simp [hbefore, hc])
    | token name =>
      rw [Text.tokens_token, List.forall_mem_cons] at hnames hleft hvalues
      have hrest (before : List Char) (h : '$' ∉ before) := ih hnames.2 hchars.2 hleft.2 hvalues.2 h
      rw [Text.tokens_token, Text.render_token, ← List.append_assoc]
      cases hname : left name with
      | true =>
        have hafter := hrest [] List.not_mem_nil
        rw [List.nil_append] at hafter
        rw [hleft.1 hname, variableSegments_around before hnames.1, Text.tokens_append,
          tokens_variableSegments_of_no_dollar hbefore, Text.tokens_token, hafter, List.nil_append,
          List.filter_cons_of_pos hname]
      | false =>
        rw [List.filter_cons_of_neg (by rw [hname]; exact Bool.false_ne_true)]
        exact hrest _ (by simp [hbefore, hvalues.1 hname])

end SearchExport
