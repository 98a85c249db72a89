/-!
# White space

A character is *blank* when it has the Unicode property White_Space.  Trimming and splitting into
words are defined on lists of characters; the functions on `String` wrap them.

* `trim_trim` — trimming a second time changes nothing;
* `isBlank_iff_trim` — a text is blank exactly when trimming leaves nothing.
-/

set_option autoImplicit false

namespace SearchExport

/-- The Unicode property White_Space. -/
def isBlankChar (c : Char) : Bool :=
  let n := c.toNat
  (0x09 ≤ n && n ≤ 0x0D) || n == 0x20 || n == 0x85 || n == 0xA0 || n == 0x1680 ||
  (0x2000 ≤ n && n ≤ 0x200A) || n == 0x2028 || n == 0x2029 || n == 0x202F || n == 0x205F ||
  n == 0x3000

namespace Text

/-! ## Trimming -/

/-- The list without the blanks in front. -/
def trimStartChars (cs : List Char) : List Char := cs.dropWhile isBlankChar

/-- The list without the blanks at its end. -/
def trimEndChars (cs : List Char) : List Char := (cs.reverse.dropWhile isBlankChar).reverse

/-- The list without the blanks on either side. -/
def trimChars (cs : List Char) : List Char := trimEndChars (trimStartChars cs)

/-- The text without the blanks in front. -/
def trimStart (s : String) : String := String.ofList (trimStartChars s.toList)

/-- The text without the blanks at its end. -/
def trimEnd (s : String) : String := String.ofList (trimEndChars s.toList)

/-- The text without the blanks on either side. -/
def trim (s : String) : String := String.ofList (trimChars s.toList)

/-- A text without any character that is not blank. -/
def isBlank (s : String) : Bool := s.toList.all isBlankChar

@[simp] theorem toList_trim (s : String) : (trim s).toList = trimChars s.toList := by
  simp [trim]

theorem trimStartChars_eq_nil_iff {cs : List Char} :
    trimStartChars cs = [] ↔ ∀ c ∈ cs, isBlankChar c = true := by
  induction cs with
  | nil => simp [trimStartChars]
  | cons a cs ih =>
    by_cases ha : isBlankChar a = true
    · rw [trimStartChars, List.dropWhile_cons_of_pos ha, List.forall_mem_cons]
      exact ih.trans ⟨fun h => ⟨ha, h⟩, And.right⟩
    · simp [trimStartChars, ha]

theorem head?_trimStartChars (cs : List Char) :
    ∀ c, (trimStartChars cs).head? = some c → isBlankChar c = false := by
  induction cs with
  | nil => simp [trimStartChars]
  | cons a cs ih =>
    intro c h
    by_cases ha : isBlankChar a = true
    · exact ih c (by simpa [trimStartChars, List.dropWhile_cons, ha] using h)
    · simp only [trimStartChars, List.dropWhile_cons, ha] at h
      simp only [Bool.false_eq_true, ↓reduceIte, List.head?_cons, Option.some.injEq] at h
      simpa [← h] using ha

theorem trimStartChars_of_head {cs : List Char}
    (h : ∀ c, cs.head? = some c → isBlankChar c = false) : trimStartChars cs = cs := by
  cases cs with
  | nil => rfl
  | cons a cs => simp [trimStartChars, h a rfl]

theorem trimEndChars_of_last {cs : List Char}
    (h : ∀ c, cs.getLast? = some c → isBlankChar c = false) : trimEndChars cs = cs := by
  have : trimStartChars cs.reverse = cs.reverse :=
    trimStartChars_of_head fun c hc => h c (by simpa using hc)
  rw [trimStartChars] at this
  rw [trimEndChars, this, List.reverse_reverse]

theorem getLast?_trimEndChars (cs : List Char) :
    ∀ c, (trimEndChars cs).getLast? = some c → isBlankChar c = false := by
  intro c h
  exact head?_trimStartChars cs.reverse c (by simpa [trimEndChars, trimStartChars] using h)

/-- Dropping blanks at the end keeps a first character that is not blank. -/
theorem head?_trimEndChars {cs : List Char}
    (h : ∀ c, cs.head? = some c → isBlankChar c = false) :
    (trimEndChars cs).head? = cs.head? := by
  cases cs with
  | nil => rfl
  | cons a cs =>
    have ha := h a rfl
    have : trimEndChars (a :: cs) = a :: trimEndChars cs := by
      have hdrop : ∀ l : List Char,
          (l ++ [a]).dropWhile isBlankChar = l.dropWhile isBlankChar ++ [a] := by
        intro l
        induction l with
        | nil => simp [ha]
        | cons b l ih => by_cases hb : isBlankChar b = true <;> simp [hb, ih]
      simp [trimEndChars, hdrop]
    simp [this]

theorem trimChars_of_edges {cs : List Char}
    (hs : ∀ c, cs.head? = some c → isBlankChar c = false)
    (he : ∀ c, cs.getLast? = some c → isBlankChar c = false) : trimChars cs = cs := by
  rw [trimChars, trimStartChars_of_head hs, trimEndChars_of_last he]

theorem trimChars_trimChars (cs : List Char) : trimChars (trimChars cs) = trimChars cs := by
  refine trimChars_of_edges (fun c h => ?_) (getLast?_trimEndChars _)
  rw [trimChars, head?_trimEndChars (head?_trimStartChars cs)] at h
  exact head?_trimStartChars cs c h

/-- Trimming a trimmed text changes nothing. -/
theorem trim_trim (s : String) : trim (trim s) = trim s := by
  simp [trim, trimChars_trimChars]

theorem trimChars_eq_nil_iff {cs : List Char} :
    trimChars cs = [] ↔ ∀ c ∈ cs, isBlankChar c = true := by
  rw [← trimStartChars_eq_nil_iff]
  constructor
  · intro h
    have h' := head?_trimEndChars (head?_trimStartChars cs)
    rw [← trimChars, h] at h'
    exact List.head?_eq_none_iff.1 h'.symm
  · intro h
    simp [trimChars, h, trimEndChars]

/-- A text is blank exactly when trimming leaves nothing of it. -/
theorem isBlank_iff_trim (s : String) : isBlank s = true ↔ trim s = "" := by
  rw [isBlank, List.all_eq_true, ← trimChars_eq_nil_iff, ← toList_trim]
  exact String.toList_eq_nil_iff

/-! ## Words -/

/-- The maximal runs of characters that are not blank, given the run that is being read. -/
def wordsFrom : List Char → List Char → List (List Char)
  | run, [] => if run.isEmpty then [] else [run.reverse]
  | run, c :: cs =>
    if isBlankChar c then
      if run.isEmpty then wordsFrom [] cs else run.reverse :: wordsFrom [] cs
    else wordsFrom (c :: run) cs

/-- The words of a text: its maximal runs of characters that are not blank. -/
def words (s : String) : List String := (wordsFrom [] s.toList).map String.ofList

end Text

end SearchExport
