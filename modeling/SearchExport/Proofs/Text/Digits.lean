import SearchExport.Text.Digits

/-!
# Written numbers

The decimal digits of a natural number denote it, with or without zeros in front.

* `digits_eq` — the digits by the last one; all other statements follow it.
* `number_digits`, `number_paddedDigits` — what the digits denote.
* `length_digits_le`, `length_paddedDigits` — how many there are.
* `takeWhile_isDigit_append`, `dropWhile_isDigit_append` — where a run of digits ends.
-/

set_option autoImplicit false

namespace SearchExport.Text

/-! ## One digit -/

theorem toNat_digitChar (n : Nat) : (digitChar n).toNat = 48 + n % 10 := by
  have hall : ∀ d < 10, (Char.ofNat (48 + d)).toNat = 48 + d := by decide
  exact hall (n % 10) (Nat.mod_lt n (by decide))

theorem isDigit_digitChar (n : Nat) : isDigit (digitChar n) = true := by
  have := Nat.mod_lt n (show 0 < 10 by decide)
  simp only [isDigit, toNat_digitChar, Bool.and_eq_true, decide_eq_true_eq]
  omega

theorem digitValue?_digitChar (n : Nat) : digitValue? 10 (digitChar n) = some (n % 10) := by
  have := Nat.mod_lt n (show 0 < 10 by decide)
  have hlow : 48 ≤ 48 + n % 10 ∧ 48 + n % 10 ≤ 57 := by omega
  simp [digitValue?, toNat_digitChar, hlow, this]

/-! ## Digits -/

theorem digitsOnto_eq (n : Nat) : ∀ (fuel : Nat) (rest : List Char), n < fuel →
    digitsOnto fuel n rest = digits n ++ rest := by
  induction n using Nat.strongRecOn with
  | _ n ih =>
    intro fuel rest hfuel
    obtain ⟨fuel, rfl⟩ : ∃ f, fuel = f + 1 := ⟨fuel - 1, by omega⟩
    unfold digits
    rw [digitsOnto, digitsOnto]
    by_cases hn : n < 10
    · simp only [if_pos hn, List.singleton_append]
    · have hless : n / 10 < n := by omega
      simp only [if_neg hn]
      rw [ih (n / 10) hless fuel _ (by omega), ih (n / 10) hless n _ hless, List.append_assoc,
        List.singleton_append]

/-- The digits of a number end with its last one. -/
theorem digits_eq (n : Nat) :
    digits n = if n < 10 then [digitChar n] else digits (n / 10) ++ [digitChar n] := by
  unfold digits
  rw [digitsOnto]
  by_cases hn : n < 10
  · simp only [if_pos hn]
  · simp only [if_neg hn]
    exact digitsOnto_eq (n / 10) n _ (by omega)

theorem digits_ne_nil (n : Nat) : digits n ≠ [] := by
  rw [digits_eq]
  split <;> simp

theorem isDigit_of_mem_digits {n : Nat} {c : Char} (hc : c ∈ digits n) : isDigit c = true := by
  induction n using Nat.strongRecOn with
  | _ n ih =>
    rw [digits_eq] at hc
    split at hc
    · rw [List.mem_singleton.1 hc]
      exact isDigit_digitChar n
    · rcases List.mem_append.1 hc with hc | hc
      · exact ih (n / 10) (by omega) hc
      · rw [List.mem_singleton.1 hc]
        exact isDigit_digitChar n

theorem length_digits_le {n width : Nat} (hwidth : 0 < width) (h : n < Nat.pow 10 width) :
    (digits n).length ≤ width := by
  induction width generalizing n with
  | zero => cases hwidth
  | succ width ih =>
    rw [digits_eq]
    split
    · simp
    · have hfits : n / 10 < Nat.pow 10 width := by
        have : n < Nat.pow 10 width * 10 := h
        omega
      have hpos : 0 < width := by
        rcases Nat.eq_zero_or_pos width with rfl | hpos
        · have : n < 10 := h
          omega
        · exact hpos
      have := ih hpos hfits
      simp only [List.length_append, List.length_singleton]
      omega

/-! ## What digits denote -/

theorem numberFrom_append (base acc : Nat) (cs ds : List Char) :
    numberFrom base acc (cs ++ ds) = numberFrom base (numberFrom base acc cs) ds :=
  List.foldl_append

theorem number_digits (n : Nat) : number 10 (digits n) = n := by
  induction n using Nat.strongRecOn with
  | _ n ih =>
    have hlast : ∀ m, numberFrom 10 m [digitChar n] = m * 10 + n % 10 := fun m => by
      simp [numberFrom, digitValue?_digitChar]
    rw [digits_eq, number]
    split
    · rw [hlast]
      omega
    · have hfront : numberFrom 10 0 (digits (n / 10)) = n / 10 := ih (n / 10) (by omega)
      rw [numberFrom_append, hlast, hfront]
      omega

/-! ## Padded digits -/

theorem paddedDigits_ne_nil (width n : Nat) : paddedDigits width n ≠ [] := by
  simp [paddedDigits, digits_ne_nil]

theorem isDigit_of_mem_paddedDigits {width n : Nat} {c : Char} (hc : c ∈ paddedDigits width n) :
    isDigit c = true := by
  rcases List.mem_append.1 hc with hc | hc
  · rw [(List.mem_replicate.1 hc).2]
    rfl
  · exact isDigit_of_mem_digits hc

theorem exists_cons_paddedDigits (width n : Nat) :
    ∃ c cs, paddedDigits width n = c :: cs ∧ isDigit c = true := by
  obtain ⟨c, cs, hcs⟩ := List.exists_cons_of_ne_nil (paddedDigits_ne_nil width n)
  exact ⟨c, cs, hcs, isDigit_of_mem_paddedDigits (hcs ▸ List.mem_cons_self)⟩

theorem length_paddedDigits {width n : Nat} (hwidth : 0 < width) (h : n < Nat.pow 10 width) :
    (paddedDigits width n).length = width := by
  have := length_digits_le hwidth h
  simp only [paddedDigits, List.length_append, List.length_replicate]
  omega

/-- Zeros in front change nothing. -/
theorem number_paddedDigits (width n : Nat) : number 10 (paddedDigits width n) = n := by
  have hzeros : ∀ k, numberFrom 10 0 (List.replicate k '0') = 0 := by
    intro k
    induction k with
    | zero => rfl
    | succ k ih =>
      rw [List.replicate_succ]
      exact ih
  rw [number, paddedDigits, numberFrom_append, hzeros]
  exact number_digits n

/-! ## Runs of digits -/

variable {ds : List Char}

theorem takeWhile_isDigit_append (hds : ∀ c ∈ ds, isDigit c = true) {rest : List Char}
    (hrest : ∀ c ∈ rest.head?, isDigit c = false) : (ds ++ rest).takeWhile isDigit = ds := by
  rw [List.takeWhile_append_of_pos hds]
  cases rest with
  | nil => simp
  | cons c rest => simp [hrest c rfl]

theorem dropWhile_isDigit_append (hds : ∀ c ∈ ds, isDigit c = true) {rest : List Char}
    (hrest : ∀ c ∈ rest.head?, isDigit c = false) : (ds ++ rest).dropWhile isDigit = rest := by
  rw [List.dropWhile_append_of_pos hds]
  cases rest with
  | nil => rfl
  | cons c rest => simp [hrest c rfl]

end SearchExport.Text
