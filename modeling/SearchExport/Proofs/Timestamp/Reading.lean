import SearchExport.Proofs.Text.Digits
import SearchExport.Proofs.Timestamp.Calendar
import SearchExport.Timestamp.Parser
import SearchExport.Timestamp.Printer

/-!
# Timestamps read back

The reader for data finds in a written timestamp what was written, part by part.

* `Timestamp.shortNumber?_paddedDigits`, `Timestamp.year?_yearText`,
  `Timestamp.fractionDigits_paddedDigits` — the numbers.
* `Timestamp.ofParts?_clock` — the date and the time of day of a timestamp make its whole seconds.
* `Timestamp.ofText?_of_tail` — the whole text, whatever is written of the fraction.
* `Timestamp.ofText?_text` — with the digits that it needs a timestamp is read back as it was.
* `Timestamp.ofText?_millisText` — with three digits of fraction the timestamp is cut to milliseconds.
-/

set_option autoImplicit false

namespace SearchExport.Timestamp

/-! ## Numbers -/

theorem isBlankChar_of_isDigit {c : Char} (hc : Text.isDigit c = true) : isBlankChar c = false := by
  simp only [Text.isDigit, Bool.and_eq_true, decide_eq_true_eq] at hc
  simp only [isBlankChar, Bool.or_eq_false_iff, Bool.and_eq_false_iff, decide_eq_false_iff_not,
    beq_eq_false_iff_ne]
  omega

theorem trimStartChars_of_isDigit {c : Char} (hc : Text.isDigit c = true) (cs : List Char) :
    Text.trimStartChars (c :: cs) = c :: cs :=
  Text.trimStartChars_of_head fun d hd => by
    rw [← Option.some.inj hd]
    exact isBlankChar_of_isDigit hc

/-- A number that fills its width is read back, whatever follows. -/
theorem shortNumber?_paddedDigits {width n : Nat} (hwidth : 0 < width) (h : n < Nat.pow 10 width)
    (rest : List Char) :
    shortNumber? width (Text.paddedDigits width n ++ rest) = some (n, rest) := by
  have hlength := Text.length_paddedDigits hwidth h
  have hdigits : (Text.paddedDigits width n).takeWhile Text.isDigit = Text.paddedDigits width n := by
    have := Text.takeWhile_isDigit_append
      (fun c (hc : c ∈ Text.paddedDigits width n) => Text.isDigit_of_mem_paddedDigits hc)
      (show ∀ c ∈ ([] : List Char).head?, Text.isDigit c = false by simp)
    rwa [List.append_nil] at this
  have hstart : Text.trimStartChars (Text.paddedDigits width n ++ rest) =
      Text.paddedDigits width n ++ rest := by
    obtain ⟨c, cs, hcs, hc⟩ := Text.exists_cons_paddedDigits width n
    rw [hcs]
    exact trimStartChars_of_isDigit hc (cs ++ rest)
  simp only [shortNumber?, hstart, List.take_left' hlength, hdigits, List.drop_left' rfl,
    Text.number_paddedDigits]
  simp [Text.paddedDigits_ne_nil]

/-- A year after a sign is read back when no digit follows. -/
theorem year?_sign (n : Nat) {rest : List Char} (hrest : ∀ c ∈ rest.head?, Text.isDigit c = false) :
    year? ('-' :: (Text.paddedDigits 4 n ++ rest)) = some (-(n : Int), rest) ∧
      year? ('+' :: (Text.paddedDigits 4 n ++ rest)) = some ((n : Int), rest) := by
  have hrun : (Text.paddedDigits 4 n ++ rest).takeWhile Text.isDigit = Text.paddedDigits 4 n :=
    Text.takeWhile_isDigit_append (fun c hc => Text.isDigit_of_mem_paddedDigits hc) hrest
  have hempty : (Text.paddedDigits 4 n).isEmpty = false := by simp [Text.paddedDigits_ne_nil]
  have hminus : Text.trimStartChars ('-' :: (Text.paddedDigits 4 n ++ rest)) =
      '-' :: (Text.paddedDigits 4 n ++ rest) := rfl
  have hplus : Text.trimStartChars ('+' :: (Text.paddedDigits 4 n ++ rest)) =
      '+' :: (Text.paddedDigits 4 n ++ rest) := rfl
  constructor
  · simp only [year?, hminus, hrun, hempty, List.drop_left' rfl, Text.number_paddedDigits,
      Bool.false_eq_true, if_false]
  · simp only [year?, hplus, hrun, hempty, List.drop_left' rfl, Text.number_paddedDigits,
      Bool.false_eq_true, if_false]

/-- A year is read back when no digit follows. -/
theorem year?_yearText (y : Int) {rest : List Char} (hrest : ∀ c ∈ rest.head?, Text.isDigit c = false) :
    year? (yearText y ++ rest) = some (y, rest) := by
  unfold yearText
  by_cases hshort : 0 ≤ y ∧ y ≤ 9999
  · have hfits : y.toNat < 10000 := by omega
    have hread : shortNumber? 4 (Text.paddedDigits 4 y.toNat ++ rest) = some (y.toNat, rest) :=
      shortNumber?_paddedDigits (by decide) hfits rest
    obtain ⟨c, cs, hcs, hc⟩ := Text.exists_cons_paddedDigits 4 y.toNat
    rw [hcs] at hread
    rw [if_pos hshort, hcs]
    unfold year?
    rw [List.cons_append, trimStartChars_of_isDigit hc]
    -- a digit is neither of the signs
    split
    · rename_i hminus
      cases hminus
      cases hc
    · rename_i hplus
      cases hplus
      cases hc
    · rw [← List.cons_append, hread, Option.map_some, Int.toNat_of_nonneg hshort.1]
  · obtain ⟨hminus, hplus⟩ := year?_sign y.natAbs hrest
    rw [if_neg hshort]
    by_cases hneg : y < 0
    · have hvalue : -(y.natAbs : Int) = y := by omega
      rw [if_pos hneg, List.cons_append, hminus, hvalue]
    · have hvalue : (y.natAbs : Int) = y := by omega
      rw [if_neg hneg, List.cons_append, hplus, hvalue]

/-- The digits of a fraction are read back as nanoseconds when no digit follows. -/
theorem fractionDigits_paddedDigits {width n : Nat} (hwidth : 0 < width) (hnine : width ≤ 9)
    (h : n < Nat.pow 10 width) {rest : List Char} (hrest : ∀ c ∈ rest.head?, Text.isDigit c = false) :
    fractionDigits (Text.paddedDigits width n ++ rest) = .ok (n * Nat.pow 10 (9 - width), rest) := by
  have hlength := Text.length_paddedDigits hwidth h
  have hall : ∀ c ∈ Text.paddedDigits width n, Text.isDigit c = true := fun c hc =>
    Text.isDigit_of_mem_paddedDigits hc
  unfold fractionDigits
  rw [Text.takeWhile_isDigit_append hall hrest, Text.dropWhile_isDigit_append hall hrest]
  have hshown : (Text.paddedDigits width n).take 9 = Text.paddedDigits width n :=
    List.take_of_length_le (by omega)
  obtain ⟨c, cs, hcs, _⟩ := Text.exists_cons_paddedDigits width n
  rw [hcs] at hshown hlength ⊢
  simp only [List.cons_append, hshown, hlength]
  rw [← hcs, Text.number_paddedDigits]

/-! ## Marks -/

theorem mark?_cons {c : Char} (hc : isBlankChar c = false) (rest : List Char) :
    mark? c (c :: rest) = some rest := by
  have hstart : Text.trimStartChars (c :: rest) = c :: rest :=
    Text.trimStartChars_of_head fun d hd => by rwa [← Option.some.inj hd]
  simp only [mark?, hstart, if_true]

/-- The nanoseconds after the seconds, which may be missing, and the rest. -/
def fraction? (cs : List Char) : Option (Nat × List Char) :=
  match cs with
  | '.' :: rest => (fractionDigits rest).toOption
  | _ => some (0, cs)

/-! ## Whole seconds -/

theorem date_bounds (t : Timestamp) :
    (Calendar.dateOfDays (t.seconds / 86400)).month < 100 ∧
      (Calendar.dateOfDays (t.seconds / 86400)).day < 100 := by
  obtain ⟨date, hdate⟩ : ∃ date, date = Calendar.dateOfDays (t.seconds / 86400) := ⟨_, rfl⟩
  have hvalid : date.isValid = true := hdate ▸ Calendar.isValid_dateOfDays _
  have hlength : Calendar.daysInMonth date.year date.month ≤ 31 := by
    unfold Calendar.daysInMonth
    repeat' split
    all_goals omega
  simp only [Calendar.Date.isValid, Bool.and_eq_true, decide_eq_true_eq] at hvalid
  rw [← hdate]
  omega

theorem timeOfDay_bounds (t : Timestamp) : 0 ≤ t.timeOfDay ∧ t.timeOfDay < 86400 := by
  unfold timeOfDay
  omega

/-- A leap second comes after the last second of a minute. -/
theorem timeOfDay_of_isLeap {t : Timestamp} (h : t.isLeap = true) : t.timeOfDay.toNat % 60 = 59 := by
  have hlast := t.valid.2.2.2 (of_decide_eq_true h)
  unfold timeOfDay
  omega

theorem clock_bounds (t : Timestamp) :
    t.timeOfDay.toNat / 3600 ≤ 23 ∧ t.timeOfDay.toNat / 60 % 60 ≤ 59 ∧
      (t.timeOfDay.toNat % 60 + if t.isLeap then 1 else 0) ≤ 60 := by
  have := t.timeOfDay_bounds
  refine ⟨by omega, by omega, ?_⟩
  split <;> omega

/-- **The date and the time of day** of a timestamp are those of its whole seconds; with sixty seconds they
are those of a leap second. -/
theorem ofParts?_clock (t : Timestamp) (nanos : Nat) :
    ofParts? (Calendar.dateOfDays (t.seconds / 86400)) (t.timeOfDay.toNat / 3600)
        (t.timeOfDay.toNat / 60 % 60) (t.timeOfDay.toNat % 60 + if t.isLeap then 1 else 0) nanos 0 =
      of? t.seconds (nanos + if t.isLeap then 1000000000 else 0) := by
  obtain ⟨hfirst, hlast⟩ := t.year_bounds
  obtain ⟨hhour, hminute, _⟩ := t.clock_bounds
  have hday := t.timeOfDay_bounds
  have hvalid := Calendar.isValid_dateOfDays (t.seconds / 86400)
  obtain ⟨second, hsecond⟩ :
      ∃ n, n = t.timeOfDay.toNat % 60 + if t.isLeap then 1 else 0 := ⟨_, rfl⟩
  have hsixty : second = 60 ↔ t.isLeap = true := by
    rw [hsecond]
    constructor
    · intro h
      split at h
      · assumption
      · omega
    · intro h
      rw [if_pos h, timeOfDay_of_isLeap h]
  have hwhole : (if second = 60 then 59 else second) = t.timeOfDay.toNat % 60 := by
    by_cases h : t.isLeap = true
    · rw [if_pos (hsixty.2 h), timeOfDay_of_isLeap h]
    · rw [if_neg (mt hsixty.1 h), hsecond, if_neg h, Nat.add_zero]
  have hbound : t.timeOfDay.toNat % 60 ≤ 59 := by omega
  have hseconds : t.seconds / 86400 * 86400 +
      ((t.timeOfDay.toNat / 3600 * 3600 + t.timeOfDay.toNat / 60 % 60 * 60 +
        t.timeOfDay.toNat % 60 : Nat) : Int) - 0 = t.seconds := by
    have hsplit : t.seconds = t.seconds / 86400 * 86400 + t.timeOfDay := by
      unfold timeOfDay
      omega
    omega
  rw [← hsecond]
  simp only [ofParts?, hwhole]
  rw [if_pos ⟨hvalid, hfirst, hlast, hhour, hminute, hbound⟩, Calendar.daysOfDate_dateOfDays, hseconds]
  simp only [hsixty]

/-! ## The whole text -/

/-- **A written timestamp is read back** to its seconds and whatever the fraction denotes. -/
theorem ofText?_of_tail (t : Timestamp) {tail : List Char} {nanos : Nat}
    (htail : fraction? tail = some (nanos, ['Z'])) :
    ofText? (String.ofList (t.dateText ++ 'T' :: (t.clockText ++ tail))) =
      of? t.seconds (nanos + if t.isLeap then 1000000000 else 0) := by
  obtain ⟨hmonth, hday⟩ := date_bounds t
  obtain ⟨hhour, hminute, hsecond⟩ := clock_bounds t
  have hyear : ∀ y rest, year? (yearText y ++ '-' :: rest) = some (y, '-' :: rest) :=
    fun y rest => year?_yearText y (by simp; rfl)
  have htwo : ∀ n rest, n < 100 →
      shortNumber? 2 (Text.paddedDigits 2 n ++ rest) = some (n, rest) :=
    fun n rest hn => shortNumber?_paddedDigits (by decide) hn rest
  have hhyphen : ∀ rest, mark? '-' ('-' :: rest) = some rest := fun rest => mark?_cons rfl rest
  have hcolon : ∀ rest, mark? ':' (':' :: rest) = some rest := fun rest => mark?_cons rfl rest
  have hseparator : ∀ rest, (oneOf ['T', 't', ' '] ('T' :: rest)).toOption = some rest :=
    fun rest => rfl
  have hzone : zone? (Text.trimStartChars ['Z']) = some (0, []) := rfl
  have hend : (decide (86400 ≤ (0 : Int).natAbs) || !(Text.trimStartChars []).isEmpty) = false := rfl
  -- each reader takes its part and leaves the rest to the next one
  have hnext : ∀ {α β : Type} (a : α) (next : α → Option β), (some a >>= next) = next a :=
    fun _ _ => rfl
  unfold ofText?
  simp only [String.toList_ofList, dateText, clockText, List.append_assoc, List.cons_append, hnext,
    hyear, hhyphen, hcolon, hseparator, htwo _ _ hmonth, htwo _ _ hday,
    htwo _ _ (Nat.lt_of_le_of_lt hhour (by decide)),
    htwo _ _ (Nat.lt_of_le_of_lt hminute (by decide)),
    htwo _ _ (Nat.lt_of_le_of_lt hsecond (by decide))]
  unfold fraction? at htail
  split at htail
  · simp only [htail, hnext, hzone, hend, Bool.false_eq_true, if_false]
    exact ofParts?_clock t nanos
  · cases htail
    simp only [hnext, hzone, hend, Bool.false_eq_true, if_false]
    exact ofParts?_clock t 0

/-! ## The shortest fraction -/

theorem fraction?_paddedDigits (width n : Nat) (hwidth : 0 < width) (hnine : width ≤ 9)
    (h : n < Nat.pow 10 width) :
    fraction? ('.' :: (Text.paddedDigits width n ++ ['Z'])) = some (n * Nat.pow 10 (9 - width), ['Z']) := by
  have hstop : ∀ c, ['Z'].head? = some c → Text.isDigit c = false := by simp; rfl
  have hdigits := fractionDigits_paddedDigits hwidth hnine h hstop
  simp only [fraction?, hdigits, Except.toOption]

/-- The groups of three digits that are not written are zeros. -/
theorem fraction?_fractionText (t : Timestamp) :
    fraction? (t.fractionText ++ ['Z']) = some (t.subsecond, ['Z']) := by
  have hbound : t.subsecond < 1000000000 := Nat.mod_lt _ (by decide)
  unfold fractionText
  dsimp only
  by_cases hzero : t.subsecond = 0
  · rw [if_pos hzero, hzero]
    rfl
  rw [if_neg hzero]
  by_cases hmillis : t.subsecond % 1000000 = 0
  · have hread := fraction?_paddedDigits 3 (t.subsecond / 1000000) (by decide)
      (by decide) (show t.subsecond / 1000000 < 1000 by omega)
    have hvalue : t.subsecond / 1000000 * Nat.pow 10 (9 - 3) = t.subsecond :=
      show t.subsecond / 1000000 * 1000000 = t.subsecond by omega
    rw [if_pos hmillis, List.cons_append, hread, hvalue]
  rw [if_neg hmillis]
  by_cases hmicros : t.subsecond % 1000 = 0
  · have hread := fraction?_paddedDigits 6 (t.subsecond / 1000) (by decide)
      (by decide) (show t.subsecond / 1000 < 1000000 by omega)
    have hvalue : t.subsecond / 1000 * Nat.pow 10 (9 - 6) = t.subsecond :=
      show t.subsecond / 1000 * 1000 = t.subsecond by omega
    rw [if_pos hmicros, List.cons_append, hread, hvalue]
  · have hread := fraction?_paddedDigits 9 t.subsecond (by decide) (by decide) hbound
    have hvalue : t.subsecond * Nat.pow 10 (9 - 9) = t.subsecond := Nat.mul_one _
    rw [if_neg hmicros, List.cons_append, hread, hvalue]

theorem subsecond_add_leap (t : Timestamp) :
    (t.subsecond + if t.isLeap then 1000000000 else 0) = t.nanos := by
  have hless := t.valid.2.2.1
  simp only [subsecond, isLeap, decide_eq_true_eq]
  split <;> omega

/-- **A written timestamp** is read back as it was. -/
theorem ofText?_text (t : Timestamp) : ofText? t.text = some t := by
  have htext : t.text =
      String.ofList (t.dateText ++ 'T' :: (t.clockText ++ (t.fractionText ++ ['Z']))) := by
    rw [text, textWith, List.append_assoc]
  rw [htext, ofText?_of_tail t (fraction?_fractionText t), subsecond_add_leap]
  exact dif_pos t.valid

/-! ## Milliseconds -/

/-- The timestamp cut to whole milliseconds. -/
def floorMillis (t : Timestamp) : Timestamp where
  seconds := t.seconds
  nanos := t.nanos / 1000000 * 1000000
  valid := by
    obtain ⟨hfirst, hlast, hnanos, hleap⟩ := t.valid
    exact ⟨hfirst, hlast, by omega, fun h => hleap (by omega)⟩

/-- **With three digits of fraction** a timestamp is read back cut to milliseconds. -/
theorem ofText?_millisText (t : Timestamp) : ofText? t.millisText = some t.floorMillis := by
  obtain ⟨n, hn⟩ : ∃ n, n = t.subsecond / 1000000 := ⟨_, rfl⟩
  have hbound : n < 1000 := by
    have : t.subsecond < 1000000000 := Nat.mod_lt _ (by decide)
    omega
  have hfraction : fraction? ('.' :: (Text.paddedDigits 3 n ++ ['Z'])) = some (n * 1000000, ['Z']) :=
    fraction?_paddedDigits 3 n (by decide) (by decide) hbound
  -- the second of a leap second is shown in the seconds
  have hnanos : (n * 1000000 + if t.isLeap then 1000000000 else 0) = t.floorMillis.nanos := by
    have hless := t.valid.2.2.1
    simp only [hn, subsecond, floorMillis, isLeap, decide_eq_true_eq]
    split <;> omega
  rw [millisText, ← hn, ofText?_of_tail t hfraction, hnanos]
  exact dif_pos t.floorMillis.valid

end SearchExport.Timestamp
