import SearchExport.Proofs.Message.Needs
import SearchExport.Proofs.Text.Placeholders

/-!
# Patterns filled with fields

A pattern is read once from the left, and its pieces are written one after the other: a placeholder as the value
of its field, everything else as it stands.  What was written is never read again, whatever it looks like.

* `ShownAs` — what is written for a value; `Message.Writes` — what a message makes of the pieces of a pattern;
  `Message.Lacks` — a placeholder has nothing to show.
* `Message.writes_iff`, `Message.lacks_iff` — the definitions do what these say.
* `Decoration.formatString_by_one_scan` — a decorator that fills a pattern.
-/

set_option autoImplicit false

namespace SearchExport

/-! ## Values -/

/-- What is written for the value of a field: a text as it is, nothing for a value that is missing or null, and
all else as compact JSON. -/
inductive ShownAs : Option Value → List Char → Prop
  | text (s : String) : ShownAs (some (.string s)) s.toList
  | null : ShownAs (some .null) []
  | missing : ShownAs none []
  | json {v : Value} (htext : v.text? = none) (hnull : v ≠ .null) : ShownAs (some v) v.render

theorem Text.trims_placeholder_iff {name : List Char} {field : String} :
    Trims name field.toList ↔ field = placeholderField name := by
  rw [trims_iff, ← String.toList_inj, placeholderField, toList_trim, String.toList_ofList]

theorem shownAs_iff {m : Message} {name shown : List Char} :
    ShownAs (m.get? (placeholderField name)) shown ↔ shown = placeholderText m name := by
  unfold placeholderText
  generalize m.get? (placeholderField name) = value
  constructor
  · intro h
    cases h with
    | text s => rfl
    | null => rfl
    | missing => rfl
    | @json v htext hnull =>
      cases v with
      | null => exact absurd rfl hnull
      | string s => cases htext
      | bool b => rfl
      | number n => rfl
      | array items => rfl
      | object members => rfl
  · rintro rfl
    cases value with
    | none => exact .missing
    | some v =>
      cases v with
      | null => exact .null
      | string s => exact .text s
      | bool b => exact .json rfl nofun
      | number n => exact .json rfl nofun
      | array items => exact .json rfl nofun
      | object members => exact .json rfl nofun

/-! ## Pieces -/

/-- The text that a message makes of the pieces of a pattern.  The blanks around the name of a field do not
count. -/
inductive Message.Writes (m : Message) : List (Text.Segment (List Char)) → List Char → Prop
  | nil : Writes m [] []
  | char (c : Char) {pieces : List (Text.Segment (List Char))} {text : List Char}
      (rest : Writes m pieces text) : Writes m (.char c :: pieces) (c :: text)
  | placeholder {name shown : List Char} {field : String} {pieces : List (Text.Segment (List Char))}
      {text : List Char} (hfield : Text.Trims name field.toList) (hshown : ShownAs (m.get? field) shown)
      (rest : Writes m pieces text) : Writes m (.token name :: pieces) (shown ++ text)

/-- A placeholder among the pieces names a field that is missing or null. -/
def Message.Lacks (m : Message) (pieces : List (Text.Segment (List Char))) : Prop :=
  ∃ name ∈ Text.tokens pieces, ∃ field : String, Text.Trims name field.toList ∧
    (m.get? field = none ∨ m.get? field = some .null)

variable {m : Message} {pieces : List (Text.Segment (List Char))}

/-- **There is one text** for some pieces, and rendering them makes it. -/
theorem Message.writes_iff {text : List Char} :
    m.Writes pieces text ↔ text = Text.render (placeholderText m) pieces := by
  constructor
  · intro h
    induction h with
    | nil => rfl
    | char c _ ih => rw [ih, Text.render_char]
    | placeholder hfield hshown _ ih =>
      rw [Text.trims_placeholder_iff.1 hfield] at hshown
      rw [shownAs_iff.1 hshown, ih, Text.render_token]
  · rintro rfl
    induction pieces with
    | nil => exact .nil
    | cons piece pieces ih =>
      cases piece with
      | char c => exact .char c ih
      | token name =>
        rw [Text.render_token]
        exact .placeholder (Text.trims_placeholder_iff.2 rfl) (shownAs_iff.2 rfl) ih

theorem placeholderIsMissing_iff {name : List Char} :
    placeholderIsMissing m name = true ↔
      m.get? (placeholderField name) = none ∨ m.get? (placeholderField name) = some .null := by
  unfold placeholderIsMissing
  generalize m.get? (placeholderField name) = value
  cases value with
  | none => simp
  | some v => cases v <;> simp

theorem Message.lacks_iff :
    m.Lacks pieces ↔ (Text.tokens pieces).any (placeholderIsMissing m) = true := by
  rw [List.any_eq_true]
  refine exists_congr fun name => and_congr_right fun _ => ?_
  rw [placeholderIsMissing_iff]
  simp only [Text.trims_placeholder_iff, exists_eq_left]

/-! ## Decorators -/

/-- **The two outcomes** of filling a pattern: nothing when all fields are required and one is missing or null,
and else the text of its pieces. -/
theorem renderPattern_eq (pattern : String) (m : Message) (requireAll : Bool) :
    (requireAll = true ∧ m.Lacks (patternSegments pattern) → renderPattern pattern m requireAll = none) ∧
      (¬ (requireAll = true ∧ m.Lacks (patternSegments pattern)) →
        renderPattern pattern m requireAll =
          some (String.ofList (Text.render (placeholderText m) (patternSegments pattern)))) := by
  rw [Message.lacks_iff, ← Bool.and_eq_true]
  exact ⟨fun h => if_pos h, fun h => if_neg h⟩

/-- **A decorator fills its pattern in one scan from the left.**  There is exactly one way to read the pattern: a
placeholder wherever a dollar sign and an opening brace start one, a character for itself everywhere else.  There
is exactly one text of these pieces.  When all fields are required and a placeholder names one that is missing or
null, nothing is rendered and the message stays as it is; in all other cases that text is rendered, and it is the
value of the target afterwards. -/
theorem Decoration.formatString_by_one_scan (m : Message) (target pattern : String) :
    ∃ pieces text,
      (∀ pieces', Text.placeholders.Reads pattern.toList pieces' ↔ pieces' = pieces) ∧
      (∀ text', m.Writes pieces text' ↔ text' = text) ∧
      ∀ requireAll,
        (requireAll = true ∧ m.Lacks pieces →
          renderPattern pattern m requireAll = none ∧ (formatString target pattern requireAll).apply m = m) ∧
        (¬ (requireAll = true ∧ m.Lacks pieces) →
          renderPattern pattern m requireAll = some (String.ofList text) ∧
            ((formatString target pattern requireAll).apply m).get? target =
              some (.string (String.ofList text))) := by
  refine ⟨patternSegments pattern, Text.render (placeholderText m) (patternSegments pattern),
    fun _ => Text.Spelling.reads_iff, fun _ => Message.writes_iff, fun requireAll => ⟨fun h => ?_, fun h => ?_⟩⟩
  · have hnone := (renderPattern_eq pattern m requireAll).1 h
    refine ⟨hnone, ?_⟩
    rw [apply, hnone]
  · have hsome := (renderPattern_eq pattern m requireAll).2 h
    refine ⟨hsome, ?_⟩
    rw [get?_apply_formatString, if_pos rfl, hsome]
    rfl

/-- A name with blanks around it, an empty one, one that is never closed, and a value that looks like a
placeholder itself. -/
theorem Decoration.formatString_by_one_scan_of_nested :
    let m : Message := ⟨"graylog_0", .ofList [("a", .string "$\x7bb\x7d"), ("b", .ofNat 3)]⟩
    let pattern := "$\x7b a \x7d$\x7b\x7d$ $\x7bb\x7d $\x7bopen"
    ∃ pieces, Text.placeholders.Reads pattern.toList pieces ∧ ¬ m.Lacks pieces ∧
      m.Writes pieces "$\x7bb\x7d$\x7b\x7d$ 3 $\x7bopen".toList ∧
      ((formatString "line" pattern true).apply m).get? "line" =
        some (.string "$\x7bb\x7d$\x7b\x7d$ 3 $\x7bopen") := by
  intro m pattern
  obtain ⟨pieces, text, hreads, hwrites, houtcome⟩ := formatString_by_one_scan m "line" pattern
  have hpieces : patternSegments pattern = pieces := (hreads _).1 (Text.Spelling.reads_iff.2 rfl)
  have htext : Text.render (placeholderText m) pieces = text := (hwrites _).1 (Message.writes_iff.2 rfl)
  subst hpieces
  subst htext
  have hpresent : ¬ m.Lacks (patternSegments pattern) := by
    rw [Message.lacks_iff]
    decide +kernel
  have hline : Text.render (placeholderText m) (patternSegments pattern) =
      "$\x7bb\x7d$\x7b\x7d$ 3 $\x7bopen".toList := by decide +kernel
  have hset := ((houtcome true).2 fun h => hpresent h.2).2
  rw [hline, String.ofList_toList] at hset
  exact ⟨_, (hreads _).2 rfl, hpresent, (hwrites _).2 hline.symm, hset⟩

end SearchExport
