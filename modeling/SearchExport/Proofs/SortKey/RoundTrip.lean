import SearchExport.Proofs.Text.Cutting
import SearchExport.Proofs.Text.LetterCase
import SearchExport.Proofs.Text.Placeholders
import SearchExport.SortKey

/-!
# Written sort keys

A sort key is written with its direction after the last colon, so that a field may have colons of its own.
Whatever text is read as a sort key, the written form of the key is read as the same key.

* `SortOrder.ofText_eq_ok_iff` — a direction is read by its names, in any case of their letters.
* `SortKey.Reads` — the two ways to write a sort key; `SortKey.ofText_eq_ok_iff` — nothing else is read.
* `SortKey.IsWritable` — keys whose text leads back: their field is not empty and has no blank at either end.
  `SortKey.Reads.isWritable` — only such keys are read.
* `SortKey.HasNoReading` — texts without a key; `SortKey.exists_fault_iff` — they are what is refused.
* `SortKey.text_round_trip` — the written form, the reading and the refusal.
-/

set_option autoImplicit false

namespace SearchExport

/-! ## Directions -/

namespace SortOrder

/-- The names of a direction. -/
def names : SortOrder → List String
  | .ascending => ["asc", "ascending"]
  | .descending => ["desc", "descending"]

theorem ofText_eq (s : String) :
    ofText s =
      if Text.lowerAscii s ∈ names .ascending then .ok .ascending
      else if Text.lowerAscii s ∈ names .descending then .ok .descending
      else .error (.unknownOrder (Text.lower s)) := by
  have hplain : ∀ name ∈ ["asc", "ascending", "desc", "descending"],
      name.toList.all (fun d => decide (Text.IsPlainLetter d)) = true := by decide
  have hnames : ∀ name ∈ ["asc", "ascending", "desc", "descending"],
      Text.lower s = name ↔ Text.lowerAscii s = name := fun name hname =>
    Text.lower_eq_iff fun d hd => of_decide_eq_true (List.all_eq_true.1 (hplain name hname) d hd)
  simp only [List.forall_mem_cons] at hnames
  obtain ⟨hasc, hascending, hdesc, hdescending, -⟩ := hnames
  simp only [ofText, names, List.mem_cons, List.not_mem_nil, or_false, hasc, hascending, hdesc, hdescending]

theorem names_disjoint : ∀ name ∈ names .ascending, name ∉ names .descending := by
  decide

/-- **A direction is read** by its names, with small and capital letters. -/
theorem ofText_eq_ok_iff {s : String} {order : SortOrder} :
    ofText s = .ok order ↔ Text.lowerAscii s ∈ order.names := by
  rw [ofText_eq]
  by_cases hasc : Text.lowerAscii s ∈ names .ascending
  · have hdesc := names_disjoint _ hasc
    cases order <;> simp [hasc, hdesc]
  · by_cases hdesc : Text.lowerAscii s ∈ names .descending
    · cases order <;> simp [hasc, hdesc]
    · cases order <;> simp [hasc, hdesc]

/-- The text of a direction is one of its names. -/
theorem text_mem_names (order : SortOrder) : Text.lowerAscii order.text ∈ order.names := by
  cases order <;> decide

end SortOrder

namespace SortKey

/-! ## Reading -/

/-- A text reads as a sort key: a field alone, or a field and a direction with a colon between them, the last
one of the text.  Blanks around the text and in front of that colon do not count. -/
inductive Reads (s : String) : SortKey → Prop
  | bare (hcolon : ':' ∉ (Text.trim s).toList) (hfield : Text.trim s ≠ "") :
    Reads s ⟨Text.trim s, .ascending⟩
  | ordered {before after : List Char} {order : SortOrder}
    (hcut : (Text.trim s).toList = before ++ ':' :: after) (hlast : ':' ∉ after)
    (hfield : Text.trim (String.ofList before) ≠ "")
    (horder : Text.lowerAscii (String.ofList after) ∈ order.names) :
    Reads s ⟨Text.trim (String.ofList before), order⟩

/-- A text cannot be read: the field is blank, or what follows the last colon names no direction. -/
inductive HasNoReading (s : String) : Prop
  | bare (hcolon : ':' ∉ (Text.trim s).toList) (hfield : Text.isBlank (Text.trim s) = true)
  | ordered {before after : List Char}
    (hcut : (Text.trim s).toList = before ++ ':' :: after) (hlast : ':' ∉ after)
    (hfault : Text.isBlank (String.ofList before) = true ∨
      ∀ order : SortOrder, Text.lowerAscii (String.ofList after) ∉ order.names)

theorem ofText_of_no_colon {s : String} (hcolon : ':' ∉ (Text.trim s).toList) :
    ofText s =
      if Text.trim s = "" then .error (.missingField (Text.trim s))
      else .ok ⟨Text.trim s, .ascending⟩ := by
  rw [ofText, Text.cutLast_eq_none hcolon]

theorem ofText_of_last_colon {s : String} {before after : List Char}
    (hcut : (Text.trim s).toList = before ++ ':' :: after) (hlast : ':' ∉ after) :
    ofText s = (SortOrder.ofText (String.ofList after)).bind fun order =>
      if Text.trim (String.ofList before) = "" then .error (.missingField (Text.trim s))
      else .ok ⟨Text.trim (String.ofList before), order⟩ := by
  rw [ofText, hcut, Text.cutLast_append before hlast]
  rfl

/-- **What is read** as a sort key. -/
theorem ofText_eq_ok_iff {s : String} {k : SortKey} : ofText s = .ok k ↔ Reads s k := by
  constructor
  · intro h
    by_cases hcolon : ':' ∈ (Text.trim s).toList
    · obtain ⟨before, after, hcut, hlast⟩ := Text.exists_last_cut hcolon
      rw [ofText_of_last_colon hcut hlast] at h
      cases horder : SortOrder.ofText (String.ofList after) with
      | error fault =>
        rw [horder] at h
        cases h
      | ok order =>
        rw [horder, Except.bind] at h
        split at h
        · cases h
        · next hfield =>
          cases h
          exact .ordered hcut hlast hfield (SortOrder.ofText_eq_ok_iff.1 horder)
    · rw [ofText_of_no_colon hcolon] at h
      split at h
      · cases h
      · next hfield =>
        cases h
        exact .bare hcolon hfield
  · intro h
    cases h with
    | bare hcolon hfield => rw [ofText_of_no_colon hcolon, if_neg hfield]
    | ordered hcut hlast hfield horder =>
      rw [ofText_of_last_colon hcut hlast, SortOrder.ofText_eq_ok_iff.2 horder, Except.bind, if_neg hfield]

/-- **What is refused** is what has no reading. -/
theorem exists_fault_iff {s : String} : (∃ fault, ofText s = .error fault) ↔ HasNoReading s := by
  constructor
  · rintro ⟨fault, h⟩
    by_cases hcolon : ':' ∈ (Text.trim s).toList
    · obtain ⟨before, after, hcut, hlast⟩ := Text.exists_last_cut hcolon
      refine .ordered hcut hlast ?_
      rw [ofText_of_last_colon hcut hlast] at h
      by_cases hfield : Text.trim (String.ofList before) = ""
      · exact .inl ((Text.isBlank_iff_trim _).2 hfield)
      · refine .inr fun order horder => ?_
        rw [SortOrder.ofText_eq_ok_iff.2 horder, Except.bind, if_neg hfield] at h
        cases h
    · rw [ofText_of_no_colon hcolon] at h
      split at h
      · next hfield => exact .bare hcolon (by rw [Text.isBlank_iff_trim, hfield]; rfl)
      · cases h
  · intro h
    cases h with
    | bare hcolon hfield =>
      rw [Text.isBlank_iff_trim, Text.trim_trim] at hfield
      exact ⟨_, by rw [ofText_of_no_colon hcolon, if_pos hfield]⟩
    | @ordered before after hcut hlast hfault =>
      rw [ofText_of_last_colon hcut hlast]
      cases horder : SortOrder.ofText (String.ofList after) with
      | error fault => exact ⟨fault, rfl⟩
      | ok order =>
        rcases hfault with hfield | hnamed
        · rw [Text.isBlank_iff_trim] at hfield
          exact ⟨_, by rw [Except.bind, if_pos hfield]⟩
        · exact absurd (SortOrder.ofText_eq_ok_iff.1 horder) (hnamed order)

/-! ## Writing -/

/-- The field of the key is not empty and has no blank at either end. -/
structure IsWritable (k : SortKey) : Prop where
  field_ne : k.field ≠ ""
  head : ∀ c, k.field.toList.head? = some c → isBlankChar c = false
  last : ∀ c, k.field.toList.getLast? = some c → isBlankChar c = false

theorem isWritable_of_trim {s : String} (h : Text.trim s ≠ "") (order : SortOrder) :
    IsWritable ⟨Text.trim s, order⟩ where
  field_ne := h
  head c hc := (Text.trims_trimChars s.toList).head c (by rwa [← Text.toList_trim])
  last c hc := (Text.trims_trimChars s.toList).last c (by rwa [← Text.toList_trim])

/-- Only keys that can be written are read. -/
theorem Reads.isWritable {s : String} {k : SortKey} (h : Reads s k) : k.IsWritable := by
  cases h with
  | bare hcolon hfield => exact isWritable_of_trim hfield .ascending
  | @ordered before after order hcut hlast hfield horder => exact isWritable_of_trim hfield order

theorem IsWritable.trim_field {k : SortKey} (h : k.IsWritable) : Text.trim k.field = k.field := by
  rw [← String.toList_inj, Text.toList_trim, Text.trimChars_of_edges h.head h.last]

theorem toList_text (k : SortKey) : k.text.toList = k.field.toList ++ ':' :: k.order.text.toList := by
  simp [text]

/-- The written form of a key has no blanks around it. -/
theorem IsWritable.trim_text {k : SortKey} (h : k.IsWritable) : Text.trim k.text = k.text := by
  rw [← String.toList_inj, Text.toList_trim]
  refine Text.trimChars_of_edges (fun c hc => h.head c ?_) fun c hc => ?_
  · obtain ⟨first, rest, hfield⟩ := List.exists_cons_of_ne_nil (mt String.toList_eq_nil_iff.1 h.field_ne)
    rw [toList_text, hfield] at hc
    rwa [hfield]
  · have hlast : k.text.toList.getLast? = some 'c' := by
      rw [toList_text]
      cases k.order <;> simp [SortOrder.text]
    rw [hlast] at hc
    cases hc
    rfl

/-- **The written form** reads as the key. -/
theorem IsWritable.reads_text {k : SortKey} (h : k.IsWritable) : Reads k.text k := by
  have hcut : (Text.trim k.text).toList = k.field.toList ++ ':' :: k.order.text.toList := by
    rw [h.trim_text, toList_text]
  have hlast : ':' ∉ k.order.text.toList := by
    cases k.order <;> decide
  have hfield : Text.trim (String.ofList k.field.toList) = k.field := by
    rw [String.ofList_toList, h.trim_field]
  have hread : Reads k.text ⟨Text.trim (String.ofList k.field.toList), k.order⟩ :=
    .ordered hcut hlast (hfield.symm ▸ h.field_ne)
      (by rw [String.ofList_toList]; exact k.order.text_mem_names)
  rwa [hfield] at hread

/-- **Sort texts print and parse consistently**, for every key and every text: the written form of a key with a
field that is not empty and has no blanks around it is read as that key; what is read is such a key; and a text
is refused exactly when it has no reading. -/
theorem text_round_trip :
    (∀ k : SortKey, k.IsWritable → ofText k.text = .ok k) ∧
    (∀ s k, ofText s = .ok k → k.IsWritable ∧ ofText k.text = .ok k) ∧
    ∀ s, (∃ fault, ofText s = .error fault) ↔ HasNoReading s := by
  refine ⟨fun k h => ofText_eq_ok_iff.2 h.reads_text, fun s k h => ?_, fun s => exists_fault_iff⟩
  have hk := (ofText_eq_ok_iff.1 h).isWritable
  exact ⟨hk, ofText_eq_ok_iff.2 hk.reads_text⟩

/-- A field with colons and a blank of its own, and a text with blanks in every place that allows them. -/
theorem text_round_trip_of_colons :
    let k : SortKey := ⟨"a: b:", .descending⟩
    let s := " a: b: :DescEnding "
    (k.IsWritable ∧ ofText k.text = .ok k) ∧
      (ofText s = .ok k ∧ k.IsWritable ∧ ofText k.text = .ok k) := by
  intro k s
  have hfield : Text.trim (String.ofList "a: b: ".toList) = "a: b:" := by decide
  have hread : Reads s ⟨Text.trim (String.ofList "a: b: ".toList), .descending⟩ :=
    .ordered (by decide) (by decide : ':' ∉ "DescEnding".toList) (by decide) (by decide)
  rw [hfield] at hread
  have hs : ofText s = .ok k := ofText_eq_ok_iff.2 hread
  have hk : k.IsWritable := hread.isWritable
  exact ⟨⟨hk, text_round_trip.1 k hk⟩, hs, text_round_trip.2.1 s k hs⟩

end SortKey

end SearchExport
