import Mathlib.Data.List.Basic
import Mathlib.Data.List.Count
import SearchExport.Config.Load
import SearchExport.Proofs.Config.References
import SearchExport.Proofs.Request.Firsts

/-!
# Substitution in configuration files

The variables of a line are exchanged for their values one after the other, each wherever the line refers
to it at its turn.

* `Environment.exchange` — a line with the values, in one pass over it.
* `Environment.substituteLine_eq_foldl` — the line after all turns: one pass for each reference.
* `Environment.exchange_exchange` — when a turn after others is part of one pass.
* `Environment.KeepsReferences` — no value makes a reference to a variable that still has a turn;
  `Environment.substituteLine_eq_exchange` — the turns then are one pass.
* `Environment.keepsReferences_of_single`, `Environment.keepsReferences_of_no_dollar` — lines of which this
  holds.
* `pairwise_idxOf_firstsBy` — names each once, in order.
* `Environment.substitute_line_by_line` — a text with the values, or the names that are not set.
-/

set_option autoImplicit false

namespace SearchExport

/-! ## References of a line -/

theorem referencesOf_eq (line : String) :
    referencesOf line = (Text.tokens (variableSegments line.toList)).map String.ofList := rfl

theorem mem_referencesOf_iff {name line : String} :
    name ∈ referencesOf line ↔
      IsVariableName name.toList ∧ referenceChars name.toList <:+: line.toList := by
  rw [← mem_tokens_variableSegments_iff]
  constructor
  · intro h
    obtain ⟨token, htoken, rfl⟩ := List.mem_map.1 h
    rwa [String.toList_ofList]
  · intro h
    exact List.mem_map.2 ⟨name.toList, h, String.ofList_toList⟩

theorem count_referencesOf (name line : String) :
    (referencesOf line).count name =
      (Text.tokens (variableSegments line.toList)).count name.toList := by
  have hinjective : Function.Injective String.ofList := fun _ _ h => String.ofList_inj.1 h
  rw [← List.count_map_of_injective _ String.ofList hinjective, String.ofList_toList]
  rfl

/-- The variables that the lines of a text refer to, comments apart, in order. -/
def referencedNames (text : String) : List String :=
  ((Text.lines text).filter (!isCommentLine ·)).flatMap referencesOf

namespace Environment

/-! ## One pass -/

/-- The variables of these names only. -/
def only (env : Environment) (names : List String) : Environment where
  get? name := if name ∈ names then env.get? name else none

/-- What is written for a reference: the value of the variable, or the reference when it is not set. -/
def written (env : Environment) (name : List Char) : List Char :=
  match env.get? (String.ofList name) with
  | some value => value.toList
  | none => referenceChars name

/-- A line with the values of the variables that it refers to, in one pass over the line: what a value
holds is not looked at. -/
def exchange (env : Environment) (line : String) : String :=
  String.ofList (Text.render env.written (variableSegments line.toList))

/-- A line with the values, in one pass, unless it is a comment. -/
def expandLine (env : Environment) (line : String) : String :=
  if isCommentLine line then line else env.exchange line

/-- Variables of the same values as far as the line refers to them give the same line. -/
theorem exchange_congr {env env' : Environment} {line : String}
    (h : ∀ name ∈ referencesOf line, env.get? name = env'.get? name) :
    env.exchange line = env'.exchange line := by
  refine congrArg String.ofList (Text.render_congr fun name hname => ?_)
  rw [written, written, h _ (List.mem_map_of_mem hname)]

theorem written_only_of_mem (env : Environment) {names : List String} {name : List Char}
    (h : String.ofList name ∈ names) : (env.only names).written name = env.written name := by
  simp only [written, only, if_pos h]

theorem written_only_of_not_mem (env : Environment) {names : List String} {name : List Char}
    (h : String.ofList name ∉ names) : (env.only names).written name = referenceChars name := by
  simp only [written, only, if_neg h]

/-- With one variable only, the references to it are exchanged and all others are left. -/
theorem written_only_singleton (env : Environment) (name : String) :
    (env.only [name]).written = exchanged name.toList (env.written name.toList) := by
  funext other
  by_cases hother : other = name.toList
  · rw [hother, exchanged_self, written_only_of_mem]
    rw [String.ofList_toList]
    exact List.mem_singleton_self name
  · rw [exchanged_of_ne _ hother, written_only_of_not_mem]
    rw [List.mem_singleton, ← String.toList_inj, String.toList_ofList]
    exact hother

/-- A variable that is left out is written as the reference to it. -/
theorem written_only_toList (env : Environment) {names : List String} {name : String} (h : name ∉ names) :
    (env.only names).written name.toList = referenceChars name.toList :=
  written_only_of_not_mem env (by rwa [String.ofList_toList])

theorem toList_exchange_only_singleton (env : Environment) (name line : String) :
    ((env.only [name]).exchange line).toList =
      Text.render (exchanged name.toList (env.written name.toList)) (variableSegments line.toList) := by
  rw [exchange, String.toList_ofList, written_only_singleton]

/-- With no variable at all a line stays as it is. -/
theorem exchange_only_nil (env : Environment) (line : String) : (env.only []).exchange line = line := by
  have hwritten : (env.only []).written = referenceChars :=
    funext fun _ => written_only_of_not_mem env List.not_mem_nil
  rw [exchange, hwritten, render_variableSegments, String.ofList_toList]

/-- A line that does not refer to the variable stays as it is at its turn. -/
theorem exchange_only_singleton_of_not_mem (env : Environment) {name line : String}
    (h : name ∉ referencesOf line) : (env.only [name]).exchange line = line := by
  have hsame : (env.only [name]).exchange line = (env.only []).exchange line := by
    refine exchange_congr fun other hother => ?_
    have hne : other ≠ name := ne_of_mem_of_not_mem hother h
    simp [only, hne]
  rw [hsame, exchange_only_nil]

/-! ## Turns -/

/-- **The turn of a variable**: every place where the line refers to it now is exchanged, in one pass. -/
theorem turn_eq (env : Environment) {name : String} (h : IsVariableName name.toList) (text : String) :
    (match env.get? name with
      | some value => Text.replace (referenceTo name) value text
      | none => text) = (env.only [name]).exchange text := by
  refine String.toList_inj.1 ?_
  rw [toList_exchange_only_singleton, written, String.ofList_toList]
  cases env.get? name with
  | none =>
    dsimp only
    rw [exchanged_referenceChars, render_variableSegments]
  | some value =>
    dsimp only
    have hsome : (referenceTo name).isEmpty = false := by
      rw [← Bool.not_eq_true, String.isEmpty_iff, ← String.toList_eq_nil_iff, toList_referenceTo]
      exact referenceChars_ne_nil _
    rw [Text.replace, hsome, if_neg Bool.false_ne_true, String.toList_ofList, toList_referenceTo,
      replaceFrom_referenceChars h value.toList (Nat.le_refl _)]

/-- **A line after all turns**, whatever the values hold: one pass for each of its references, in order. -/
theorem substituteLine_eq_foldl (env : Environment) {line : String} (h : isCommentLine line = false) :
    env.substituteLine line =
      (referencesOf line).foldl (fun text name => (env.only [name]).exchange text) line := by
  rw [substituteLine, h, if_neg Bool.false_ne_true]
  exact List.foldl_ext _ _ _ fun text name hname =>
    turn_eq env (mem_referencesOf_iff.1 hname).1 text

/-! ## References that are left -/

/-- The references of a line, but for those to variables that had their turn before. -/
def referencesLeft (before : List String) (line : String) : List String :=
  (referencesOf line).filter (· ∉ before)

theorem count_referencesLeft_of_mem {name : String} {before : List String} (h : name ∈ before)
    (line : String) : (referencesLeft before line).count name = 0 :=
  List.count_eq_zero.2 fun hmem => of_decide_eq_true (List.mem_filter.1 hmem).2 h

theorem count_referencesLeft_of_not_mem {name : String} {before : List String} (h : name ∉ before)
    (line : String) :
    (referencesLeft before line).count name =
      (Text.tokens (variableSegments line.toList)).count name.toList := by
  rw [referencesLeft, List.count_filter (by simpa using h), count_referencesOf]

theorem count_referencesOf_exchange (env : Environment) (name line : String) :
    (referencesOf (env.exchange line)).count name =
      (Text.tokens (variableSegments (Text.render env.written (variableSegments line.toList)))).count
        name.toList := by
  rw [count_referencesOf, exchange, String.toList_ofList]

/-- **A turn after other turns** is part of one pass when those have added no reference to the variable. -/
theorem exchange_exchange (env : Environment) {name line : String} {before : List String}
    (hname : IsVariableName name.toList)
    (h : (referencesOf ((env.only before).exchange line)).count name =
      (referencesLeft before line).count name) :
    (env.only [name]).exchange ((env.only before).exchange line) =
      (env.only (before ++ [name])).exchange line := by
  by_cases hbefore : name ∈ before
  · -- the variable had a turn already, and has nothing to exchange at this one
    rw [count_referencesLeft_of_mem hbefore] at h
    rw [exchange_only_singleton_of_not_mem env (List.count_eq_zero.1 h)]
    refine exchange_congr fun other _ => ?_
    have hmem : other ∈ before ++ [name] ↔ other ∈ before := by
      rw [List.mem_append, List.mem_singleton, or_iff_left_iff_imp]
      exact fun heq => heq ▸ hbefore
    simp only [only, hmem]
  · rw [count_referencesLeft_of_not_mem hbefore, count_referencesOf_exchange] at h
    have hput : (env.only (before ++ [name])).written name.toList = env.written name.toList :=
      written_only_of_mem env (by simp)
    have hothers : ∀ other, other ≠ name.toList →
        (env.only (before ++ [name])).written other = (env.only before).written other := by
      intro other hother
      have hne : String.ofList other ≠ name := fun heq => hother (by rw [← heq, String.toList_ofList])
      simp [written, only, hne]
    have hpass := render_exchanged_of_count_eq hname (env.written_only_toList hbefore) hothers
      (variableSegments line.toList) [] h
    refine String.toList_inj.1 ?_
    rw [toList_exchange_only_singleton, exchange, exchange, String.toList_ofList, String.toList_ofList, ← hput]
    exact hpass

/-! ## Lines whose turns are one pass -/

/-- No value makes a reference to a variable that still has a turn: whenever a variable has its turn, the line
has no references to it but those that are left. -/
def KeepsReferences (env : Environment) (line : String) : Prop :=
  ∀ before name after, referencesOf line = before ++ name :: after →
    (referencesOf ((env.only before).exchange line)).count name = (referencesLeft before line).count name

/-- The turns up to some place in a line that keeps its references: one pass with the variables so far. -/
theorem foldl_exchange (env : Environment) {line : String} (hkeeps : env.KeepsReferences line)
    {before after : List String} (hline : referencesOf line = before ++ after) :
    after.foldl (fun text name => (env.only [name]).exchange text) ((env.only before).exchange line) =
      (env.only (before ++ after)).exchange line := by
  induction after generalizing before with
  | nil => rw [List.append_nil, List.foldl_nil]
  | cons name after ih =>
    have hname : name ∈ referencesOf line := by simp [hline]
    have hturn := exchange_exchange env (mem_referencesOf_iff.1 hname).1 (hkeeps before name after hline)
    rw [List.append_cons] at hline ⊢
    rw [List.foldl_cons, hturn]
    exact ih hline

/-- **The turns are one pass** over a line that keeps its references. -/
theorem substituteLine_eq_exchange (env : Environment) {line : String} (h : isCommentLine line = false)
    (hkeeps : env.KeepsReferences line) : env.substituteLine line = env.exchange line := by
  have hturns := env.foldl_exchange hkeeps (List.nil_append (referencesOf line)).symm
  rw [exchange_only_nil, List.nil_append] at hturns
  rw [substituteLine_eq_foldl env h, hturns]
  exact exchange_congr fun name hname => by simp [only, hname]

/-- A line with a single reference keeps it, whatever the value holds. -/
theorem keepsReferences_of_single (env : Environment) {name line : String}
    (h : referencesOf line = [name]) : env.KeepsReferences line := by
  intro before other after hline
  obtain ⟨rfl, rfl, rfl⟩ : before = [] ∧ other = name ∧ after = [] := by
    rw [h] at hline
    cases before with
    | nil => simpa [eq_comm] using hline
    | cons => simp at hline
  rw [exchange_only_nil, count_referencesLeft_of_not_mem List.not_mem_nil, count_referencesOf]

/-- A line keeps its references when they are the only places with a dollar sign and no value holds one. -/
theorem keepsReferences_of_no_dollar (env : Environment) {line : String}
    (hline : .char '$' ∉ variableSegments line.toList)
    (hvalues : ∀ name ∈ referencesOf line, ∃ value, env.get? name = some value ∧ '$' ∉ value.toList) :
    env.KeepsReferences line := by
  intro before name after _
  let left : List Char → Bool := (fun name => decide (name ∉ before)) ∘ String.ofList
  have hnames : ∀ name ∈ Text.tokens (variableSegments line.toList), IsVariableName name :=
    fun name hname => (mem_tokens_variableSegments_iff.1 hname).1
  have hleft : ∀ name ∈ Text.tokens (variableSegments line.toList), left name = true →
      (env.only before).written name = referenceChars name :=
    fun name _ hname => written_only_of_not_mem env (of_decide_eq_true hname)
  have hput : ∀ name ∈ Text.tokens (variableSegments line.toList), left name = false →
      '$' ∉ (env.only before).written name := by
    intro name hname hbefore
    obtain ⟨value, hvalue, hdollar⟩ := hvalues _ (List.mem_map_of_mem hname)
    rw [written_only_of_mem env (by simpa [left] using hbefore), written, hvalue]
    exact hdollar
  have hnone : '$' ∉ ([] : List Char) := List.not_mem_nil
  have hreferences := tokens_variableSegments_render hnames hline hleft hput hnone
  rw [List.nil_append] at hreferences
  rw [referencesOf_eq, exchange, String.toList_ofList, hreferences, ← List.filter_map, ← referencesOf_eq,
    referencesLeft]

end Environment

/-! ## Names once each -/

/-- A list in the order of `xs` is in the order of a longer one, when what is in front is not in it. -/
theorem pairwise_idxOf_cons {ys xs : List String} {x : String} (hx : x ∉ ys)
    (h : ys.Pairwise fun a b => xs.idxOf a < xs.idxOf b) :
    ys.Pairwise fun a b => (x :: xs).idxOf a < (x :: xs).idxOf b := by
  refine h.imp_of_mem fun {a b} ha hb hlt => ?_
  rw [List.idxOf_cons_ne xs (ne_of_mem_of_not_mem ha hx).symm,
    List.idxOf_cons_ne xs (ne_of_mem_of_not_mem hb hx).symm]
  exact Nat.succ_lt_succ hlt

/-- **The first of equal names** stand in the order of their first occurrences, also among the names that are
left out. -/
theorem pairwise_idxOf_firstsBy (p : String → Bool) (seen xs : List String) :
    (firstsBy id seen (xs.filter p)).Pairwise fun a b => xs.idxOf a < xs.idxOf b := by
  induction xs generalizing seen with
  | nil => exact .nil
  | cons x xs ih =>
    by_cases hp : p x = true
    · rw [List.filter_cons_of_pos hp, firstsBy, id]
      by_cases hseen : x ∈ seen
      · rw [if_pos (by simpa using hseen)]
        exact pairwise_idxOf_cons (fun hx => (mem_firstsBy.1 hx).2 hseen) (ih seen)
      · rw [if_neg (by simpa using hseen)]
        have hx : x ∉ firstsBy id (x :: seen) (xs.filter p) := fun hx =>
          (mem_firstsBy.1 hx).2 List.mem_cons_self
        refine .cons (fun other hother => ?_) (pairwise_idxOf_cons hx (ih (x :: seen)))
        rw [List.idxOf_cons_self, List.idxOf_cons_ne xs (ne_of_mem_of_not_mem hother hx).symm]
        exact Nat.succ_pos _
    · rw [List.filter_cons_of_neg hp]
      exact pairwise_idxOf_cons (fun hx => hp (List.mem_filter.1 (mem_firstsBy.1 hx).1).2) (ih seen)

/-! ## Texts -/

namespace Environment

theorem unsetNames_eq (env : Environment) (text : String) :
    env.unsetNames text =
      firstsBy id [] ((referencedNames text).filter fun name => (env.get? name).isNone) := rfl

theorem mem_unsetNames_iff {env : Environment} {text name : String} :
    name ∈ env.unsetNames text ↔ name ∈ referencedNames text ∧ env.get? name = none := by
  rw [unsetNames_eq, mem_firstsBy, List.mem_filter, Option.isNone_iff_eq_none]
  exact and_iff_left List.not_mem_nil

theorem unsetNames_eq_nil_iff {env : Environment} {text : String} :
    env.unsetNames text = [] ↔ ∀ name ∈ referencedNames text, (env.get? name).isSome = true := by
  rw [List.eq_nil_iff_forall_not_mem]
  refine forall_congr' fun name => ?_
  rw [mem_unsetNames_iff, not_and, ← Option.not_isSome_iff_eq_none, Classical.not_not]

/-- **A text with the values of its variables.**  When every variable that its lines refer to, comments apart,
is set, the outcome is the text line by line.  Otherwise the text has no values, and no configuration comes of
it: the names that are not set are given, each once, in the order in which they first stand in the text.

A comment stays as it is.  On any other line each reference in its turn is exchanged wherever the line then
holds it.  This is one pass over the line itself when no value makes a reference to a variable that still has a
turn. -/
theorem substitute_line_by_line (env : Environment) (text : String) :
    ((∀ name ∈ referencedNames text, (env.get? name).isSome = true) →
      env.substitute text = .ok ("\n".intercalate ((Text.lines text).map env.substituteLine))) ∧
    ((¬ ∀ name ∈ referencedNames text, (env.get? name).isSome = true) →
      ∃ unset, env.substitute text = .error unset ∧
        Config.ofText env text = .error (.unset unset) ∧
        (∀ name, name ∈ unset ↔ name ∈ referencedNames text ∧ env.get? name = none) ∧
        unset.Pairwise fun a b => (referencedNames text).idxOf a < (referencedNames text).idxOf b) ∧
    (∀ line, isCommentLine line = false →
      env.substituteLine line =
        (referencesOf line).foldl (fun text name => (env.only [name]).exchange text) line) ∧
    ∀ line, (isCommentLine line = false → env.KeepsReferences line) →
      env.substituteLine line = env.expandLine line := by
  refine ⟨fun hset => ?_, fun hunset => ?_, fun line => env.substituteLine_eq_foldl, fun line hkeeps => ?_⟩
  · rw [substitute, unsetNames_eq_nil_iff.2 hset]
    rfl
  · have hsome : (env.unsetNames text).isEmpty = false := by
      rw [← Bool.not_eq_true, List.isEmpty_iff, unsetNames_eq_nil_iff]
      exact hunset
    have hsubstitute : env.substitute text = .error (env.unsetNames text) := by
      rw [substitute]
      simp only [hsome, Bool.false_eq_true, if_false]
    refine ⟨_, hsubstitute, ?_, fun name => mem_unsetNames_iff, pairwise_idxOf_firstsBy _ _ _⟩
    rw [Config.ofText, hsubstitute]
    rfl
  · cases hcomment : isCommentLine line with
    | true => rw [substituteLine, expandLine, hcomment, if_pos rfl, if_pos rfl]
    | false =>
      rw [expandLine, hcomment, if_neg Bool.false_ne_true]
      exact env.substituteLine_eq_exchange hcomment (hkeeps hcomment)

/-- Two variables of one line, and one in a comment: it is enough to set the two. -/
theorem substitute_line_by_line_of_address :
    let env := Environment.ofEntries [("ES_HOST", "es-01"), ("ES_PORT", "9200")]
    let text := "# $\x7bES_USER\x7d\nbase_url = \"http://$\x7bES_HOST\x7d:$\x7bES_PORT\x7d\"\n"
    env.substitute text = .ok "# $\x7bES_USER\x7d\nbase_url = \"http://es-01:9200\"" ∧
      (∀ line ∈ Text.lines text, env.substituteLine line = env.expandLine line) ∧
      ∃ unset, (Environment.ofEntries []).substitute text = .error unset ∧
        ∀ name, name ∈ unset ↔ name = "ES_HOST" ∨ name = "ES_PORT" := by
  intro env text
  have hset : ∀ name ∈ referencedNames text, (env.get? name).isSome = true := by decide +kernel
  have hunset : ¬ ∀ name ∈ referencedNames text,
      ((Environment.ofEntries []).get? name).isSome = true := by decide +kernel
  have hnames : referencedNames text = ["ES_HOST", "ES_PORT"] := by decide +kernel
  obtain ⟨hok, -, -, hlines⟩ := substitute_line_by_line env text
  obtain ⟨unset, herror, -, hmem, -⟩ := (substitute_line_by_line (Environment.ofEntries []) text).2.1 hunset
  refine ⟨(hok hset).trans (by decide +kernel), fun line hline => hlines line fun hcomment => ?_, unset,
    herror, fun name => ?_⟩
  · have hdollar : .char '$' ∉ variableSegments line.toList := by
      revert line
      decide +kernel
    exact keepsReferences_of_no_dollar env hdollar (by revert line; decide +kernel)
  · rw [hmem, hnames]
    simp [Environment.ofEntries, lookupEntry]

/-- A value that is a reference: what it puts in is exchanged at the next turn, and left by one pass over the
line. -/
theorem substitute_of_reference_in_value :
    let env := Environment.ofEntries [("XV_A", "$\x7bXV_B\x7d"), ("XV_B", "b")]
    let text := "[logging]\nlocal_path = \"$\x7bXV_A\x7d-$\x7bXV_B\x7d\"\n"
    (∀ name ∈ referencedNames text, (env.get? name).isSome = true) ∧
      env.substitute text = .ok "[logging]\nlocal_path = \"b-b\"" ∧
      "\n".intercalate ((Text.lines text).map env.expandLine) =
        "[logging]\nlocal_path = \"$\x7bXV_B\x7d-b\"" := by
  decide +kernel

end Environment

end SearchExport
