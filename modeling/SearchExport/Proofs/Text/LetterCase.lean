import SearchExport.Text.Lowercase

/-!
# Lower case and ASCII

The lower case of a text is a word of ASCII letters only when the text is that word up to the case of ASCII
letters: beyond ASCII only the Kelvin sign has a lower case that is a letter of ASCII alone.

* `lowerChar_of_ascii`, `toLower_of_not_ascii` — where the two ways to lower a character agree or do nothing.
* `exists_not_plain_lowerChar` — a character beyond ASCII leaves something that is no plain letter.
* `lower_eq_iff` — texts whose lower case is a word of plain letters.
-/

set_option autoImplicit false

namespace SearchExport.Text

/-- A small letter of ASCII other than `k`, which is also the lower case of the Kelvin sign. -/
def IsPlainLetter (c : Char) : Prop := 97 ≤ c.toNat ∧ c.toNat ≤ 122 ∧ c ≠ 'k'

instance (c : Char) : Decidable (IsPlainLetter c) :=
  inferInstanceAs (Decidable (97 ≤ c.toNat ∧ c.toNat ≤ 122 ∧ c ≠ 'k'))

/-! ## Characters -/

theorem lowerChar_of_ascii {c : Char} (h : c.toNat < 128) : lowerChar c = [c.toLower] := by
  have hall : ∀ n < 128, lowerChar (Char.ofNat n) = [(Char.ofNat n).toLower] := by decide +kernel
  have := hall c.toNat h
  rwa [Char.ofNat_toNat] at this

theorem toLower_of_not_ascii {c : Char} (h : 128 ≤ c.toNat) : c.toLower = c := by
  refine dif_neg fun hc => ?_
  have hle := UInt32.le_iff_toNat_le.1 hc.2
  have hlast : 'Z'.val.toNat = 90 := rfl
  have hvalue : c.toNat = c.val.toNat := rfl
  omega

/-- A number that belongs to no character gives the null character. -/
theorem toNat_ofNat (n : Nat) : (Char.ofNat n).toNat = n ∨ (Char.ofNat n).toNat = 0 := by
  by_cases h : n.isValidChar
  · have hvalid : Char.ofNat n = Char.ofNatAux n h := dif_pos h
    exact .inl (by rw [hvalid]; rfl)
  · have hnull : Char.ofNat n = '\x00' := dif_neg h
    exact .inr (by rw [hnull]; rfl)

/-- No number beyond ASCII gives a plain letter, and neither does the one of `k`. -/
theorem not_plain_ofNat {n : Nat} (h : 128 ≤ n ∨ n = 107) : ¬ IsPlainLetter (Char.ofNat n) := by
  rcases h with h | rfl
  · rintro ⟨hlow, hhigh, -⟩
    rcases toNat_ofNat n with hn | hn <;> omega
  · decide

/-- A run of the table that goes beyond ASCII leads to characters beyond ASCII, but for the one of the Kelvin
sign. -/
theorem lowercaseRuns_beyond : ∀ r ∈ lowercaseRuns, 128 ≤ r.2.1 →
    128 ≤ (r.1 : Int) + r.2.2.2 ∨ (r.1 = r.2.1 ∧ (r.1 : Int) + r.2.2.2 = 107) := by
  decide +kernel

theorem exists_not_plain_lowerChar {c : Char} (h : 128 ≤ c.toNat) :
    ∃ d ∈ lowerChar c, ¬ IsPlainLetter d := by
  unfold lowerChar
  split
  · exact ⟨'\u0307', by simp, by decide⟩
  · split
    · next r hr =>
      refine ⟨_, List.mem_singleton_self _, not_plain_ofNat ?_⟩
      have hrun := List.find?_some hr
      simp only [Bool.and_eq_true, decide_eq_true_eq] at hrun
      obtain ⟨⟨hfirst, hlast⟩, -⟩ := hrun
      have := lowercaseRuns_beyond r (List.mem_of_find?_eq_some hr) (by omega)
      omega
    · exact ⟨c, by simp, fun hc => by have := hc.2.1; omega⟩

/-! ## Texts -/

/-- What stands for the first character of a text in its lower case. -/
theorem lowerFrom_cons (passed : List Char) (c : Char) (cs : List Char) :
    ∃ front, lowerFrom passed (c :: cs) = front ++ lowerFrom (c :: passed) cs ∧
      (c.toNat < 128 → front = [c.toLower]) ∧ (128 ≤ c.toNat → ∃ d ∈ front, ¬ IsPlainLetter d) := by
  refine ⟨_, rfl, fun hc => ?_, fun hc => ?_⟩
  · rw [if_neg (by rintro rfl; revert hc; decide)]
    exact lowerChar_of_ascii hc
  · split
    · split
      · exact ⟨'ς', by simp, by decide⟩
      · exact ⟨'σ', by simp, by decide⟩
    · exact exists_not_plain_lowerChar hc

theorem lowerFrom_eq_iff (passed cs : List Char) {word : List Char} (h : ∀ d ∈ word, IsPlainLetter d) :
    lowerFrom passed cs = word ↔ cs.map Char.toLower = word := by
  induction cs generalizing passed word with
  | nil => rfl
  | cons c cs ih =>
    obtain ⟨front, hfront, hascii, hbeyond⟩ := lowerFrom_cons passed c cs
    rw [hfront]
    by_cases hc : c.toNat < 128
    · rw [hascii hc, List.singleton_append, List.map_cons]
      cases word with
      | nil => simp
      | cons d word =>
        rw [List.cons_eq_cons, List.cons_eq_cons, ih _ fun e he => h e (List.mem_cons_of_mem d he)]
    · -- neither word has only plain letters
      obtain ⟨d, hd, hplain⟩ := hbeyond (by omega)
      refine iff_of_false ?_ ?_
      · rintro rfl
        exact hplain (h d (List.mem_append_left _ hd))
      · rintro rfl
        have hlower := (h _ List.mem_cons_self).2.1
        rw [toLower_of_not_ascii (by omega)] at hlower
        omega

/-- **The lower case of a text is a word of plain letters** exactly when the text is that word in some case of
its letters. -/
theorem lower_eq_iff {s word : String} (h : ∀ d ∈ word.toList, IsPlainLetter d) :
    lower s = word ↔ lowerAscii s = word := by
  rw [lower, lowerAscii, ← String.toList_inj, ← String.toList_inj, String.toList_ofList,
    String.toList_ofList]
  exact lowerFrom_eq_iff [] s.toList h

end SearchExport.Text
