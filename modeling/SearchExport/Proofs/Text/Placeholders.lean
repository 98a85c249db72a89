import SearchExport.Proofs.Text.Tokens
import SearchExport.Text.Blank

/-!
# Placeholders in a pattern

A placeholder is a dollar sign with an opening brace, a name and a closing brace.  The name has at least one
character and may hold any but the closing brace, also dollar signs, opening braces and line ends.

* `Text.placeholder?_eq_some_iff` — when a placeholder stands at the head of a text; `Text.placeholders` —
  placeholders as tokens.
* `Text.Trims` — a text without the blanks around it; `Text.trims_iff` — there is one, and trimming finds it.
-/

set_option autoImplicit false

namespace SearchExport.Text

/-! ## Names -/

/-- The name of a placeholder. -/
structure IsPlaceholderName (name : List Char) : Prop where
  ne_nil : name ≠ []
  open_end : '\x7d' ∉ name

instance (name : List Char) : Decidable (IsPlaceholderName name) :=
  decidable_of_iff (name ≠ [] ∧ '\x7d' ∉ name) ⟨fun h => ⟨h.1, h.2⟩, fun h => ⟨h.ne_nil, h.open_end⟩⟩

/-- The characters of a placeholder. -/
def placeholderChars (name : List Char) : List Char := '$' :: '\x7b' :: (name ++ ['\x7d'])

theorem length_placeholderChars (name : List Char) : (placeholderChars name).length = name.length + 3 := by
  simp [placeholderChars]

theorem placeholderChars_append (name rest : List Char) :
    placeholderChars name ++ rest = '$' :: '\x7b' :: (name ++ '\x7d' :: rest) := by
  simp [placeholderChars]

/-- What stands before the first closing brace. -/
theorem takeWhile_ne_brace {name : List Char} (h : '\x7d' ∉ name) (rest : List Char) :
    (name ++ '\x7d' :: rest).takeWhile (fun c => decide (c ≠ '\x7d')) = name := by
  have hname : ∀ c ∈ name, decide (c ≠ '\x7d') = true := fun c hc =>
    decide_eq_true (ne_of_mem_of_not_mem hc h)
  rw [List.takeWhile_append_of_pos hname, List.takeWhile_cons_of_neg (by simp), List.append_nil]

/-- A text that goes on after its part without a closing brace goes on with one. -/
theorem exists_brace_of_takeWhile {rest : List Char}
    (h : (rest.takeWhile fun c => decide (c ≠ '\x7d')).length ≠ rest.length) :
    ∃ after, (rest.takeWhile fun c => decide (c ≠ '\x7d')) ++ '\x7d' :: after = rest := by
  have hsplit := List.takeWhile_append_dropWhile (p := fun c => decide (c ≠ '\x7d')) (l := rest)
  have hne : (rest.dropWhile fun c => decide (c ≠ '\x7d')) ≠ [] := by
    intro hnil
    rw [hnil, List.append_nil] at hsplit
    exact h (congrArg List.length hsplit)
  obtain ⟨c, after, hcons⟩ := List.exists_cons_of_ne_nil hne
  have hc := List.head_dropWhile_not _ hne
  simp only [hcons, List.head_cons, decide_eq_false_iff_not, Decidable.not_not] at hc
  rw [hcons, hc] at hsplit
  exact ⟨after, hsplit⟩

/-- **A placeholder at the head of a text** has a name, and the brace after it. -/
theorem placeholder?_eq_some_iff {cs name : List Char} {more : Nat} :
    placeholder? cs = some (name, more) ↔
      IsPlaceholderName name ∧ (placeholderChars name).length = more + 1 ∧ placeholderChars name <+: cs := by
  rw [length_placeholderChars]
  constructor
  · intro h
    unfold placeholder? at h
    split at h
    next rest =>
      simp only [Option.ite_none_left_eq_some, Bool.or_eq_true, List.isEmpty_iff, decide_eq_true_eq, not_or,
        Option.some.injEq, Prod.mk.injEq] at h
      obtain ⟨⟨hne, hgoes⟩, rfl, rfl⟩ := h
      obtain ⟨after, hafter⟩ := exists_brace_of_takeWhile hgoes
      refine ⟨⟨hne, fun hmem => ?_⟩, rfl, after, ?_⟩
      · simpa using List.all_eq_true.1 List.all_takeWhile _ hmem
      · rw [placeholderChars_append, hafter]
    next => cases h
  · rintro ⟨hname, hmore, rest, rfl⟩
    obtain rfl : more = name.length + 2 := by omega
    have hempty : name.isEmpty = false := by simpa using hname.ne_nil
    have hlonger : name.length ≠ (name ++ '\x7d' :: rest).length := by simp
    rw [placeholderChars_append, placeholder?]
    simp only [takeWhile_ne_brace hname.open_end, hempty, Bool.false_or, decide_eq_true_eq, if_neg hlonger]

/-- Placeholders as tokens. -/
def placeholders : Spelling placeholder? where
  IsName := IsPlaceholderName
  write := placeholderChars
  write_ne_nil _ := List.cons_ne_nil _ _
  found_iff := placeholder?_eq_some_iff

/-! ## Blanks around a name -/

/-- The second text is the first one without the blanks on either side. -/
structure Trims (cs trimmed : List Char) : Prop where
  cut : ∃ front back, cs = front ++ trimmed ++ back ∧ (∀ c ∈ front, isBlankChar c = true) ∧
    ∀ c ∈ back, isBlankChar c = true
  head : ∀ c, trimmed.head? = some c → isBlankChar c = false
  last : ∀ c, trimmed.getLast? = some c → isBlankChar c = false

theorem trimChars_append_of_blank_front {front : List Char} (h : ∀ c ∈ front, isBlankChar c = true)
    (cs : List Char) : trimChars (front ++ cs) = trimChars cs := by
  rw [trimChars, trimStartChars, List.dropWhile_append_of_pos h]
  rfl

theorem trimEndChars_append_of_blank {back : List Char} (h : ∀ c ∈ back, isBlankChar c = true)
    (cs : List Char) : trimEndChars (cs ++ back) = trimEndChars cs := by
  rw [trimEndChars, List.reverse_append,
    List.dropWhile_append_of_pos fun c hc => h c (List.mem_reverse.1 hc)]
  rfl

theorem trimChars_append_of_blank_back {back : List Char} (h : ∀ c ∈ back, isBlankChar c = true)
    (cs : List Char) : trimChars (cs ++ back) = trimChars cs := by
  rw [trimChars, trimChars, trimStartChars, List.dropWhile_append]
  split
  · rename_i hempty
    have hcs : cs.dropWhile isBlankChar = [] := List.isEmpty_iff.1 hempty
    have hback : trimStartChars back = [] := trimStartChars_eq_nil_iff.2 h
    rw [← trimStartChars, hback, trimStartChars, hcs]
  · exact trimEndChars_append_of_blank h _

theorem trims_trimChars (cs : List Char) : Trims cs (trimChars cs) where
  cut := by
    refine ⟨cs.takeWhile isBlankChar, ((trimStartChars cs).reverse.takeWhile isBlankChar).reverse, ?_, ?_, ?_⟩
    · have hback : trimChars cs ++ ((trimStartChars cs).reverse.takeWhile isBlankChar).reverse =
          trimStartChars cs := by
        rw [trimChars, trimEndChars, ← List.reverse_append, List.takeWhile_append_dropWhile,
          List.reverse_reverse]
      rw [List.append_assoc, hback]
      exact List.takeWhile_append_dropWhile.symm
    · exact List.all_eq_true.1 List.all_takeWhile
    · exact fun c hc => List.all_eq_true.1 List.all_takeWhile c (List.mem_reverse.1 hc)
  head c hc := by
    rw [trimChars, head?_trimEndChars (head?_trimStartChars cs)] at hc
    exact head?_trimStartChars cs c hc
  last := getLast?_trimEndChars _

/-- **There is one text without the blanks** around another one. -/
theorem trims_iff {cs trimmed : List Char} : Trims cs trimmed ↔ trimmed = trimChars cs := by
  constructor
  · rintro ⟨⟨front, back, rfl, hfront, hback⟩, hhead, hlast⟩
    rw [List.append_assoc, trimChars_append_of_blank_front hfront, trimChars_append_of_blank_back hback,
      trimChars_of_edges hhead hlast]
  · rintro rfl
    exact trims_trimChars cs

end SearchExport.Text
