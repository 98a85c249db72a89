import SearchExport.Text.Blank

/-!
# The words of a text

What happens to the words of a text when characters are put around it.

* `wordsFrom_append_blank` — a blank separates the words before it from those after it.
* `wordsFrom_cons`, `wordsFrom_concat` — a character that touches the text joins its first, or its last,
  word and leaves the others alone.
* `wordsFrom_surrounded` — what stands between blanks and has none itself is a word of its own.
* `wordsFrom_trimChars` — trimming changes no word.
-/

set_option autoImplicit false

namespace SearchExport.Text

/-- A blank separates words. -/
theorem wordsFrom_append_blank {c : Char} (hc : isBlankChar c = true) (run cs ds : List Char) :
    wordsFrom run (cs ++ c :: ds) = wordsFrom run cs ++ wordsFrom [] ds := by
  induction cs generalizing run with
  | nil =>
    rw [List.nil_append, wordsFrom, wordsFrom, if_pos hc]
    cases run <;> rfl
  | cons a cs ih =>
    rw [List.cons_append, wordsFrom, wordsFrom]
    by_cases ha : isBlankChar a = true
    · rw [if_pos ha, if_pos ha]
      cases run with
      | nil => exact ih []
      | cons b run => exact congrArg ((b :: run).reverse :: ·) (ih [])
    · rw [if_neg ha, if_neg ha]
      exact ih (a :: run)

/-! ## Characters that touch the text -/

/-- The run that is being read ends up in front of the first word. -/
theorem wordsFrom_run (a c : Char) (run cs : List Char) :
    ∃ w ws, wordsFrom (a :: run) cs = w :: ws ∧
      wordsFrom (a :: run ++ [c]) cs = (c :: w) :: ws := by
  induction cs generalizing a run with
  | nil => exact ⟨_, [], rfl, by simp [wordsFrom]⟩
  | cons d cs ih =>
    by_cases hd : isBlankChar d = true
    · exact ⟨(a :: run).reverse, wordsFrom [] cs, by simp [wordsFrom, hd],
        by simp [wordsFrom, hd]⟩
    · obtain ⟨w, ws, hw, hcw⟩ := ih d (a :: run)
      refine ⟨w, ws, ?_, ?_⟩
      · rw [wordsFrom, if_neg hd, hw]
      · rw [List.cons_append, wordsFrom, if_neg hd, ← List.cons_append, ← List.cons_append, hcw]

/-- A character in front of a text joins the first word. -/
theorem wordsFrom_cons {a c : Char} (ha : isBlankChar a = false) (hc : isBlankChar c = false)
    (cs : List Char) :
    ∃ w ws, wordsFrom [] (a :: cs) = w :: ws ∧ wordsFrom [] (c :: a :: cs) = (c :: w) :: ws := by
  obtain ⟨w, ws, hw, hcw⟩ := wordsFrom_run a c [] cs
  refine ⟨w, ws, ?_, ?_⟩
  · simpa [wordsFrom, ha] using hw
  · simpa [wordsFrom, ha, hc] using hcw

/-- A character at the end of a text joins the last word. -/
theorem wordsFrom_concat {a c : Char} (ha : isBlankChar a = false) (hc : isBlankChar c = false)
    (run cs : List Char) :
    ∃ ws w, wordsFrom run (cs ++ [a]) = ws ++ [w] ∧
      wordsFrom run (cs ++ [a] ++ [c]) = ws ++ [w ++ [c]] := by
  induction cs generalizing run with
  | nil => exact ⟨[], run.reverse ++ [a], by simp [wordsFrom, ha], by simp [wordsFrom, ha, hc]⟩
  | cons d cs ih =>
    by_cases hd : isBlankChar d = true
    · obtain ⟨ws, w, hw, hcw⟩ := ih []
      cases run with
      | nil => exact ⟨ws, w, by simpa [wordsFrom, hd] using hw, by simpa [wordsFrom, hd] using hcw⟩
      | cons b run =>
        refine ⟨(b :: run).reverse :: ws, w, ?_, ?_⟩
        · simpa [wordsFrom, hd] using hw
        · simpa [wordsFrom, hd] using hcw
    · obtain ⟨ws, w, hw, hcw⟩ := ih (d :: run)
      exact ⟨ws, w, by simpa [wordsFrom, hd] using hw, by simpa [wordsFrom, hd] using hcw⟩

/-! ## Words between blanks -/

/-- A text that ends with a blank leaves the words after it alone. -/
theorem wordsFrom_append_of_last {cs : List Char}
    (hlast : ∀ c, cs.getLast? = some c → isBlankChar c = true) (ds : List Char) :
    wordsFrom [] (cs ++ ds) = wordsFrom [] cs ++ wordsFrom [] ds := by
  rcases List.eq_nil_or_concat cs with rfl | ⟨front, b, rfl⟩
  · rfl
  · have hb : isBlankChar b = true := hlast b (by simp)
    have hfront := wordsFrom_append_blank hb [] front []
    rw [List.concat_eq_append, List.append_assoc, List.singleton_append,
      wordsFrom_append_blank hb, hfront]
    simp [wordsFrom]

/-- Characters that are not blank end the run that is being read when a blank or nothing follows. -/
theorem wordsFrom_append_of_head {after : List Char}
    (hhead : ∀ c, after.head? = some c → isBlankChar c = true) {w : List Char}
    (hw : ∀ c ∈ w, isBlankChar c = false) (run : List Char) (hne : run ++ w ≠ []) :
    wordsFrom run (w ++ after) = (run.reverse ++ w) :: wordsFrom [] after := by
  induction w generalizing run with
  | nil =>
    have hrun : run ≠ [] := by simpa using hne
    cases after with
    | nil => simp [wordsFrom, hrun]
    | cons b after => simp [wordsFrom, hhead b rfl, hrun]
  | cons a w ih =>
    obtain ⟨ha, hw⟩ := List.forall_mem_cons.1 hw
    have hrest := ih hw (a :: run) (by simp)
    rw [List.cons_append, wordsFrom, if_neg (by simp [ha]), hrest]
    simp

/-- **A run of characters between blanks** is a word, and the words on both sides are those without it. -/
theorem wordsFrom_surrounded {before w after : List Char}
    (hbefore : ∀ c, before.getLast? = some c → isBlankChar c = true)
    (hafter : ∀ c, after.head? = some c → isBlankChar c = true)
    (hw : ∀ c ∈ w, isBlankChar c = false) (hne : w ≠ []) :
    wordsFrom [] (before ++ w ++ after) = wordsFrom [] before ++ w :: wordsFrom [] after := by
  have hword := wordsFrom_append_of_head hafter hw [] (by simpa using hne)
  rw [List.append_assoc, wordsFrom_append_of_last hbefore, hword]
  rfl

/-! ## Trimming -/

theorem wordsFrom_trimStartChars (cs : List Char) :
    wordsFrom [] (trimStartChars cs) = wordsFrom [] cs := by
  induction cs with
  | nil => rfl
  | cons a cs ih =>
    by_cases ha : isBlankChar a = true
    · rw [trimStartChars, List.dropWhile_cons_of_pos ha, wordsFrom, if_pos ha]
      exact ih
    · rw [trimStartChars, List.dropWhile_cons_of_neg ha]

theorem wordsFrom_blanks {bs : List Char} (hbs : ∀ b ∈ bs, isBlankChar b = true) :
    wordsFrom [] bs = [] := by
  rw [← wordsFrom_trimStartChars, trimStartChars_eq_nil_iff.2 hbs]
  rfl

theorem wordsFrom_trimEndChars (cs : List Char) :
    wordsFrom [] (trimEndChars cs) = wordsFrom [] cs := by
  -- the blanks at the end, which trimming drops
  obtain ⟨bs, hbs, hcs⟩ : ∃ bs, (∀ b ∈ bs, isBlankChar b = true) ∧ cs = trimEndChars cs ++ bs := by
    refine ⟨(cs.reverse.takeWhile isBlankChar).reverse, fun b hb => ?_, ?_⟩
    · exact List.all_eq_true.1 List.all_takeWhile b (List.mem_reverse.1 hb)
    · rw [trimEndChars, ← List.reverse_append, List.takeWhile_append_dropWhile,
        List.reverse_reverse]
  generalize trimEndChars cs = kept at hcs ⊢
  subst hcs
  cases bs with
  | nil => rw [List.append_nil]
  | cons b bs =>
    rw [List.forall_mem_cons] at hbs
    rw [wordsFrom_append_blank hbs.1, wordsFrom_blanks hbs.2, List.append_nil]

/-- Trimming changes no word. -/
theorem wordsFrom_trimChars (cs : List Char) :
    wordsFrom [] (trimChars cs) = wordsFrom [] cs := by
  rw [trimChars, wordsFrom_trimEndChars, wordsFrom_trimStartChars]

end SearchExport.Text
