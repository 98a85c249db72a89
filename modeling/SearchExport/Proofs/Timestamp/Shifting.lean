import SearchExport.Timestamp.Basic

/-!
# Timestamps moved by a span

Seconds and nanoseconds together make a position on the time line, on which a leap second lies over the second
after it.  Away from leap seconds order, difference and movement are those of the positions.

* `Timestamp.position`, `Timestamp.ofPosition?` — the position of a timestamp, and the ordinary timestamp at a
  position.
* `Timestamp.later?_cases` — all that moving a timestamp can do.
* `Timestamp.later?_le_of_ordinary`, `Timestamp.later?_le_of_isLeap`, `Timestamp.later?_le_iff_of_leap_before`,
  `Timestamp.later?_le_iff_of_leap_after` — when two timestamps keep their order.
* `Timestamp.since_nanos` — the span between ordinary timestamps.
-/

set_option autoImplicit false

namespace SearchExport

/-! ## Whole seconds of a span -/

/-- The seconds and the rest of a span, both toward zero. -/
theorem Duration.parts (d : Duration) :
    d.nanos = d.nanos.tdiv perSecond * 1000000000 + d.nanos.tmod perSecond ∧
      (0 ≤ d.nanos → 0 ≤ d.nanos.tdiv perSecond ∧ 0 ≤ d.nanos.tmod perSecond ∧
        d.nanos.tmod perSecond < 1000000000) ∧
      (d.nanos ≤ 0 → d.nanos.tdiv perSecond ≤ 0 ∧ d.nanos.tmod perSecond ≤ 0 ∧
        -1000000000 < d.nanos.tmod perSecond) := by
  unfold perSecond
  generalize d.nanos = n
  rcases Int.le_total 0 n with hn | hn
  · rw [Int.tdiv_eq_ediv_of_nonneg hn, Int.tmod_eq_emod_of_nonneg hn]
    omega
  · obtain ⟨m, rfl⟩ : ∃ m, n = -m := ⟨-n, by omega⟩
    have hm : 0 ≤ m := by omega
    rw [Int.neg_tdiv, Int.neg_tmod, Int.tdiv_eq_ediv_of_nonneg hm, Int.tmod_eq_emod_of_nonneg hm]
    omega

namespace Timestamp

/-! ## Positions -/

/-- The nanoseconds since the start of 1970, leap seconds counted from the second before them. -/
def position (t : Timestamp) : Int := t.seconds * Duration.perSecond + t.nanos

/-- The timestamp at a position that is in no leap second. -/
def ofPosition? (p : Int) : Option Timestamp :=
  of? (p / Duration.perSecond) (p % Duration.perSecond).toNat

variable {s t u : Timestamp}

theorem isLeap_iff : t.isLeap = true ↔ 1000000000 ≤ t.nanos := decide_eq_true_iff

theorem not_isLeap_iff : t.isLeap = false ↔ t.nanos < 1000000000 := by
  rw [isLeap, decide_eq_false_iff_not, Nat.not_le]

theorem of?_eq_some_iff {seconds : Int} {nanos : Nat} :
    of? seconds nanos = some t ↔ t.seconds = seconds ∧ t.nanos = nanos := by
  unfold of?
  constructor
  · intro h
    split at h
    · cases h
      exact ⟨rfl, rfl⟩
    · cases h
  · rintro ⟨rfl, rfl⟩
    exact dif_pos t.valid

theorem ofPosition?_eq_some_iff {p : Int} :
    ofPosition? p = some t ↔ t.isLeap = false ∧ t.position = p := by
  rw [ofPosition?, of?_eq_some_iff, not_isLeap_iff, position, Duration.perSecond]
  omega

/-- Ordinary timestamps at one position are the same. -/
theorem eq_of_position (hs : s.isLeap = false) (ht : t.isLeap = false)
    (h : s.position = t.position) : s = t :=
  Option.some.inj
    ((ofPosition?_eq_some_iff.2 ⟨hs, rfl⟩).symm.trans (ofPosition?_eq_some_iff.2 ⟨ht, h.symm⟩))

/-- There is an ordinary timestamp at a position as long as its second lies in the calendar. -/
theorem ofPosition?_eq_none_iff {p : Int} :
    ofPosition? p = none ↔ p < firstSecond * 1000000000 ∨ (lastSecond + 1) * 1000000000 ≤ p := by
  rw [ofPosition?, of?]
  have hnanos : (p % Duration.perSecond).toNat < 1000000000 := by
    unfold Duration.perSecond
    omega
  have hvalid : Valid (p / Duration.perSecond) (p % Duration.perSecond).toNat ↔
      firstSecond ≤ p / 1000000000 ∧ p / 1000000000 ≤ lastSecond := by
    unfold Valid
    unfold Duration.perSecond at *
    omega
  split
  · rename_i h
    rw [hvalid] at h
    simp only [reduceCtorEq, false_iff]
    omega
  · rename_i h
    rw [hvalid] at h
    simp only [true_iff]
    omega

/-! ## Moving -/

theorem later?_of_ordinary (h : t.isLeap = false) (d : Duration) :
    t.later? d = ofPosition? (t.position + d.nanos) := by
  obtain ⟨hparts, _, _⟩ := d.parts
  have htotal : (t.seconds + d.nanos.tdiv Duration.perSecond) * Duration.perSecond +
      (t.nanos + d.nanos.tmod Duration.perSecond) = t.position + d.nanos := by
    unfold position
    unfold Duration.perSecond at *
    omega
  simp only [later?, h, Bool.false_eq_true, false_and, if_false, not_false_eq_true, if_true, htotal]
  rfl

/-- A short span stays within the leap second or ends in the second before it. -/
theorem later?_within (h : t.isLeap = true) {d : Duration} (hback : -1000000000 < d.nanos)
    (hforth : t.nanos + d.nanos < 2000000000) :
    t.later? d = of? t.seconds (t.nanos + d.nanos).toNat := by
  obtain ⟨hparts, hpos, hneg⟩ := d.parts
  have hleap := isLeap_iff.1 h
  have hsecs : d.nanos.tdiv Duration.perSecond = 0 := by omega
  have hfrac : d.nanos.tmod Duration.perSecond = d.nanos := by omega
  have hstays : ¬ (0 < d.nanos ∧ 2000000000 ≤ (t.nanos : Int) + d.nanos) := by omega
  simp only [later?, h, hsecs, hfrac, hstays, Int.lt_irrefl, or_self, not_false_eq_true, true_and,
    if_true]

/-- A span of a second or more back starts from the second after the leap second. -/
theorem later?_back (h : t.isLeap = true) {d : Duration} (hback : d.nanos ≤ -1000000000) :
    t.later? d = ofPosition? (t.position + d.nanos) := by
  obtain ⟨hparts, hpos, hneg⟩ := d.parts
  have hsecs : d.nanos.tdiv Duration.perSecond < 0 := by omega
  have hforth : ¬ (0 < d.nanos.tdiv Duration.perSecond ∨ (0 < d.nanos.tmod Duration.perSecond ∧
      2000000000 ≤ (t.nanos : Int) + d.nanos.tmod Duration.perSecond)) := by omega
  have htotal : (t.seconds + 1 + d.nanos.tdiv Duration.perSecond) * Duration.perSecond +
      ((t.nanos : Int) - 1000000000 + d.nanos.tmod Duration.perSecond) = t.position + d.nanos := by
    unfold position
    unfold Duration.perSecond at *
    omega
  simp only [later?, h, hforth, hsecs, not_true_eq_false, not_false_eq_true, and_false, if_false, htotal]
  rfl

/-- A span that goes on beyond the leap second starts from the second before it. -/
theorem later?_forth (h : t.isLeap = true) {d : Duration} (hforth : 2000000000 ≤ t.nanos + d.nanos) :
    t.later? d = ofPosition? (t.position - 1000000000 + d.nanos) := by
  obtain ⟨hparts, hpos, _⟩ := d.parts
  have hnanos := t.valid.2.2.1
  have hbeyond : 0 < d.nanos.tdiv Duration.perSecond ∨ (0 < d.nanos.tmod Duration.perSecond ∧
      2000000000 ≤ (t.nanos : Int) + d.nanos.tmod Duration.perSecond) := by omega
  have htotal : (t.seconds + d.nanos.tdiv Duration.perSecond) * Duration.perSecond +
      ((t.nanos : Int) - 1000000000 + d.nanos.tmod Duration.perSecond) =
        t.position - 1000000000 + d.nanos := by
    unfold position
    unfold Duration.perSecond at *
    omega
  simp only [later?, h, hbeyond, not_true_eq_false, and_false, false_and, if_false,
    if_true, htotal]
  rfl

/-- **All that moving a timestamp can do**, when it does not leave the calendar. -/
theorem later?_cases {d : Duration} (hlater : t.later? d = some u) :
    (t.isLeap = false ∧ u.isLeap = false ∧ u.position = t.position + d.nanos) ∨
      (t.isLeap = true ∧ -1000000000 < d.nanos ∧ t.nanos + d.nanos < 2000000000 ∧
        u.seconds = t.seconds ∧ u.nanos = t.nanos + d.nanos) ∨
      (t.isLeap = true ∧ d.nanos ≤ -1000000000 ∧ u.isLeap = false ∧
        u.position = t.position + d.nanos) ∨
      (t.isLeap = true ∧ 2000000000 ≤ t.nanos + d.nanos ∧ u.isLeap = false ∧
        u.position = t.position - 1000000000 + d.nanos) := by
  cases hleap : t.isLeap with
  | false =>
    rw [later?_of_ordinary hleap, ofPosition?_eq_some_iff] at hlater
    exact .inl ⟨rfl, hlater⟩
  | true =>
    have hnanos := isLeap_iff.1 hleap
    rcases Int.lt_or_le (-1000000000) d.nanos with hback | hback
    · rcases Int.lt_or_le (t.nanos + d.nanos) 2000000000 with hforth | hforth
      · rw [later?_within hleap hback hforth, of?_eq_some_iff] at hlater
        exact .inr (.inl ⟨rfl, hback, hforth, hlater.1, by omega⟩)
      · rw [later?_forth hleap hforth, ofPosition?_eq_some_iff] at hlater
        exact .inr (.inr (.inr ⟨rfl, hforth, hlater⟩))
    · rw [later?_back hleap hback, ofPosition?_eq_some_iff] at hlater
      exact .inr (.inr (.inl ⟨rfl, hback, hlater⟩))

theorem later?_eq_some_of_ordinary (h : t.isLeap = false) {d : Duration} :
    t.later? d = some u ↔ u.isLeap = false ∧ u.position = t.position + d.nanos := by
  rw [later?_of_ordinary h, ofPosition?_eq_some_iff]

/-! ## Order -/

section Order

variable {v : Timestamp} {d : Duration}

/-- Order on ordinary timestamps is order of their positions. -/
theorem le_iff_position (hs : s.isLeap = false) (ht : t.isLeap = false) :
    s ≤ t ↔ s.position ≤ t.position := by
  rw [not_isLeap_iff] at hs ht
  simp only [le_def, position, Duration.perSecond]
  omega

/-- Moving keeps the order of ordinary timestamps. -/
theorem later?_le_of_ordinary (hs : s.isLeap = false) (ht : t.isLeap = false) (hle : s ≤ t)
    (hu : s.later? d = some u) (hv : t.later? d = some v) : u ≤ v := by
  obtain ⟨huOrdinary, huPosition⟩ := (later?_eq_some_of_ordinary hs).1 hu
  obtain ⟨hvOrdinary, hvPosition⟩ := (later?_eq_some_of_ordinary ht).1 hv
  rw [le_iff_position hs ht] at hle
  rw [le_iff_position huOrdinary hvOrdinary]
  omega

/-- Moving keeps the order within leap seconds. -/
theorem later?_le_of_isLeap (hs : s.isLeap = true) (ht : t.isLeap = true) (hle : s ≤ t)
    (hu : s.later? d = some u) (hv : t.later? d = some v) : u ≤ v := by
  have hsNanos := s.valid.2.2.1
  have htNanos := t.valid.2.2.1
  rw [le_def] at hle ⊢
  -- two leap seconds are a minute apart
  have hsLast := s.valid.2.2.2 (isLeap_iff.1 hs)
  have htLast := t.valid.2.2.2 (isLeap_iff.1 ht)
  simp only [isLeap_iff] at hs ht
  rcases later?_cases hu with h | h | h | h <;> rcases later?_cases hv with h' | h' | h' | h' <;>
    simp only [position, isLeap_iff, not_isLeap_iff, Duration.perSecond] at h h' <;> omega

/-- A timestamp after a leap second is overtaken by it when it lies in the next second, at an earlier
fraction, and is moved back out of that second. -/
theorem later?_le_iff_of_leap_before (hs : s.isLeap = true) (ht : t.isLeap = false) (hle : s ≤ t)
    (hu : s.later? d = some u) (hv : t.later? d = some v) :
    u ≤ v ↔ ¬ (t.seconds = s.seconds + 1 ∧ t.nanos + 1000000000 < s.nanos ∧ t.nanos + d.nanos < 0) := by
  obtain ⟨hvOrdinary, hvPosition⟩ := (later?_eq_some_of_ordinary ht).1 hv
  rw [le_def] at hle ⊢
  have hsNanos := s.valid.2.2.1
  simp only [isLeap_iff] at hs
  simp only [position, not_isLeap_iff, Duration.perSecond] at ht hvOrdinary hvPosition
  rcases later?_cases hu with h | h | h | h <;>
    simp only [position, isLeap_iff, not_isLeap_iff, Duration.perSecond] at h <;> omega

/-- A timestamp before a leap second overtakes it when it lies in the second before, at a later fraction, and
is moved forward out of that second. -/
theorem later?_le_iff_of_leap_after (hs : s.isLeap = false) (ht : t.isLeap = true) (hle : s ≤ t)
    (hu : s.later? d = some u) (hv : t.later? d = some v) :
    u ≤ v ↔
      ¬ (t.seconds = s.seconds ∧ t.nanos < s.nanos + 1000000000 ∧ 1000000000 ≤ s.nanos + d.nanos) := by
  obtain ⟨huOrdinary, huPosition⟩ := (later?_eq_some_of_ordinary hs).1 hu
  rw [le_def] at hle ⊢
  have htNanos := t.valid.2.2.1
  simp only [isLeap_iff] at ht
  simp only [position, not_isLeap_iff, Duration.perSecond] at hs huOrdinary huPosition
  rcases later?_cases hv with h | h | h | h <;>
    simp only [position, isLeap_iff, not_isLeap_iff, Duration.perSecond] at h <;> omega

end Order

/-! ## Spans -/

/-- The span between ordinary timestamps is the difference of their positions. -/
theorem since_nanos (hs : s.isLeap = false) (ht : t.isLeap = false) :
    (t.since s).nanos = t.position - s.position := by
  simp only [since, hs, ht, Bool.false_eq_true, and_false, if_false, position]
  unfold Duration.perSecond
  omega

end Timestamp

end SearchExport
