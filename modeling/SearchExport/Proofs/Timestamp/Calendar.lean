import SearchExport.Timestamp.Basic

/-!
# Dates of days

Every day has a date that exists, and the date leads back to the day.

An era is 400 years, which begin in March.  Its days are counted by centuries, by groups of four years in
a century, and by years in a group: the last group of a century has no leap day, except in the last
century.

* `Calendar.DayParts` — a day of an era by these parts; `Calendar.exists_dayParts` — every day has some.
* `Calendar.marchDate` — the date of a day of a year that begins in March; `Calendar.dateOfDays_eq` — the
  date of every day is one.
* `Calendar.isValid_dateOfDays`, `Calendar.daysOfDate_dateOfDays` — the date exists and leads back.
* `Timestamp.year_bounds` — the years of the calendar.
-/

set_option autoImplicit false

namespace SearchExport

namespace Calendar

/-! ## Days of an era -/

/-- The day `d` of an era is the day `x` of the year `k` of the group `q` of the century `c`.  A year has a
day 365 when it is the last one of a group, and the group is not the last one of a century or the century
is the last one. -/
structure DayParts (d c q k x : Int) : Prop where
  day_eq : d = 36524 * c + 1461 * q + 365 * k + x
  century : 0 ≤ c ∧ c ≤ 3
  group : 0 ≤ q ∧ q ≤ 24
  year : 0 ≤ k ∧ k ≤ 3
  dayOfYear : 0 ≤ x ∧ x ≤ 365
  leapDay : x = 365 → k = 3 ∧ (q = 24 → c = 3)

theorem exists_dayParts {d : Int} (h₀ : 0 ≤ d) (h₁ : d < 146097) : ∃ c q k x, DayParts d c q k x := by
  obtain ⟨c, hc⟩ : ∃ c, c = if d = 146096 then 3 else d / 36524 := ⟨_, rfl⟩
  obtain ⟨q, hq⟩ : ∃ q, q = (d - 36524 * c) / 1461 := ⟨_, rfl⟩
  obtain ⟨s, hs⟩ : ∃ s, s = d - 36524 * c - 1461 * q := ⟨_, rfl⟩
  obtain ⟨k, hk⟩ : ∃ k, k = if s = 1460 then 3 else s / 365 := ⟨_, rfl⟩
  have hcentury : 0 ≤ c ∧ c ≤ 3 := by
    split at hc <;> omega
  have hgroup : 0 ≤ q ∧ q ≤ 24 := by
    split at hc <;> omega
  have hrest : 0 ≤ s ∧ s ≤ 1460 := by omega
  have hyear : 0 ≤ k ∧ k ≤ 3 := by
    split at hk <;> omega
  refine ⟨c, q, k, s - 365 * k, by omega, hcentury, hgroup, hyear, ?_, ?_⟩
  · split at hk <;> omega
  · intro hx
    have hlastYear : s = 1460 ∧ k = 3 := by split at hk <;> omega
    refine ⟨hlastYear.2, fun hlastGroup => ?_⟩
    have hlastDay : d = 36524 * c + 36524 := by omega
    split at hc <;> omega

/-- The quotients of the arithmetic find the year of the era. -/
theorem DayParts.yearOfEra {d c q k x : Int} (h : DayParts d c q k x) :
    (d - d / 1460 + d / 36524 - d / 146096) / 365 = 100 * c + 4 * q + k := by
  obtain ⟨hd, hc, hq, hk, hx, hleap⟩ := h
  have hcenturies : d / 36524 - d / 146096 = c := by
    have hquotient : ∀ n, 36524 * c ≤ n → n < 36524 * c + 36524 → n / 36524 = c := fun n _ _ => by
      omega
    rcases (by omega : d = 146096 ∧ c = 3 ∨ d < 36524 * c + 36524) with ⟨rfl, rfl⟩ | hless
    · rfl
    · have hzero : d / 146096 = 0 := by omega
      rw [hquotient d (by omega) hless, hzero, Int.sub_zero]
  -- a group is one day longer than the divisor, so that the excess may reach one more multiple
  obtain ⟨e, he⟩ : ∃ e, e = (24 * c + q + 365 * k + x) / 1460 := ⟨_, rfl⟩
  have hgroups : d / 1460 = 25 * c + q + e := by omega
  have hdays : d - d / 1460 + d / 36524 - d / 146096 =
      x - e + 365 * (100 * c + 4 * q + k) := by omega
  have hrest : 0 ≤ x - e ∧ x - e < 365 := by omega
  rw [hdays, Int.add_mul_ediv_left _ _ (by decide), Int.ediv_eq_zero_of_lt hrest.1 hrest.2, Int.zero_add]

/-! ## Dates -/

/-- The date of the day `x` of the year that begins in March of the year `y`. -/
def marchDate (y x : Int) : Date :=
  let month := (5 * x + 2) / 153
  let day := x - (153 * month + 2) / 5 + 1
  let m := if month < 10 then month + 3 else month - 9
  ⟨if m ≤ 2 then y + 1 else y, m.toNat, day.toNat⟩

/-- **The date of every day** is the date of a day of a year that begins in March. -/
theorem dateOfDays_eq {n era d c q k x : Int} (hn : n + 719468 = 146097 * era + d)
    (h : DayParts d c q k x) : dateOfDays n = marchDate (400 * era + 100 * c + 4 * q + k) x := by
  have hd : 0 ≤ d ∧ d < 146097 := by
    obtain ⟨hd, hc, hq, hk, hx, hleap⟩ := h
    omega
  have hera : (n + 719468) / 146097 = era := by omega
  have hday : n + 719468 - era * 146097 = d := by omega
  have hx : d - (365 * (100 * c + 4 * q + k) + (100 * c + 4 * q + k) / 4 -
      (100 * c + 4 * q + k) / 100) = x := by
    obtain ⟨hd, hc, hq, hk, hx, hleap⟩ := h
    have hgroups : (100 * c + 4 * q + k) / 4 = 25 * c + q := by omega
    have hcenturies : (100 * c + 4 * q + k) / 100 = c := by omega
    omega
  have hy : 100 * c + 4 * q + k + era * 400 = 400 * era + 100 * c + 4 * q + k := by omega
  simp only [dateOfDays, hera, hday, h.yearOfEra, hx, hy]
  rfl

theorem exists_marchDate (n : Int) :
    ∃ era d c q k x, n + 719468 = 146097 * era + d ∧ DayParts d c q k x ∧
      dateOfDays n = marchDate (400 * era + 100 * c + 4 * q + k) x := by
  obtain ⟨era, hera⟩ : ∃ era, era = (n + 719468) / 146097 := ⟨_, rfl⟩
  obtain ⟨c, q, k, x, h⟩ := exists_dayParts (d := n + 719468 - 146097 * era) (by omega) (by omega)
  have hn : n + 719468 = 146097 * era + (n + 719468 - 146097 * era) := by omega
  exact ⟨era, _, c, q, k, x, hn, h, dateOfDays_eq hn h⟩

/-- Which date the day of a year is, and that the month has the day. -/
theorem marchDate_spec (y : Int) {x : Int} (h₀ : 0 ≤ x) (h₁ : x ≤ 365) :
    ∃ m d : Nat, marchDate y x = ⟨if m ≤ 2 then y + 1 else y, m, d⟩ ∧ 1 ≤ m ∧ m ≤ 12 ∧ 1 ≤ d ∧
      d ≤ 31 ∧ (m = 4 ∨ m = 6 ∨ m = 9 ∨ m = 11 → d ≤ 30) ∧ (m = 2 → d ≤ 28 ∨ x = 365 ∧ d = 29) ∧
      x = (153 * (((m + 9) % 12 : Nat) : Int) + 2) / 5 + d - 1 := by
  obtain ⟨month, hmonth⟩ : ∃ month, month = (5 * x + 2) / 153 := ⟨_, rfl⟩
  obtain ⟨day, hday⟩ : ∃ day, day = x - (153 * month + 2) / 5 + 1 := ⟨_, rfl⟩
  obtain ⟨m, hm⟩ : ∃ m, m = if month < 10 then month + 3 else month - 9 := ⟨_, rfl⟩
  have hdate : marchDate y x = ⟨if m ≤ 2 then y + 1 else y, m.toNat, day.toNat⟩ := by
    simp only [marchDate, hm, hday, hmonth]
  have hmonths : month = 0 ∨ month = 1 ∨ month = 2 ∨ month = 3 ∨ month = 4 ∨ month = 5 ∨ month = 6 ∨
      month = 7 ∨ month = 8 ∨ month = 9 ∨ month = 10 ∨ month = 11 := by omega
  have hpos : 1 ≤ m := by split at hm <;> omega
  have hyear : (m.toNat ≤ 2) = (m ≤ 2) := by
    rw [eq_iff_iff]
    omega
  refine ⟨m.toNat, day.toNat, ?_, ?_⟩
  · rw [hdate]
    simp only [hyear]
  · split at hm <;> omega

/-- A day 365 belongs to a year that ends in a leap year. -/
theorem DayParts.leapYear {d c q k : Int} (h : DayParts d c q k 365) (era : Int) :
    isLeapYear (400 * era + 100 * c + 4 * q + k + 1) = true := by
  obtain ⟨_, hc, hq, _, _, hleap⟩ := h
  obtain ⟨rfl, hlast⟩ := hleap rfl
  simp only [isLeapYear, Bool.and_eq_true, Bool.or_eq_true, decide_eq_true_eq]
  omega

/-- **The date of a day exists.** -/
theorem isValid_dateOfDays (n : Int) : (dateOfDays n).isValid = true := by
  obtain ⟨era, _, c, q, k, x, _, hparts, hdate⟩ := exists_marchDate n
  obtain ⟨m, d, hmarch, hm₁, hm₂, hd₁, hd₂, hthirty, hfebruary, _⟩ :=
    marchDate_spec (400 * era + 100 * c + 4 * q + k) hparts.dayOfYear.1 hparts.dayOfYear.2
  rw [hdate, hmarch]
  simp only [Date.isValid, daysInMonth, Bool.and_eq_true, Bool.or_eq_true, decide_eq_true_eq]
  refine ⟨⟨⟨hm₁, hm₂⟩, hd₁⟩, ?_⟩
  by_cases hfeb : m = 2
  · subst hfeb
    rw [if_pos rfl, if_pos (Nat.le_refl 2)]
    rcases hfebruary rfl with hshort | ⟨rfl, rfl⟩
    · split <;> omega
    · exact Nat.le_of_eq (if_pos (hparts.leapYear era)).symm
  · rw [if_neg hfeb]
    split
    · omega
    · exact hd₂

/-- **The date of a day leads back to it.** -/
theorem daysOfDate_dateOfDays (n : Int) : daysOfDate (dateOfDays n) = n := by
  obtain ⟨era, e, c, q, k, x, hn, hparts, hdate⟩ := exists_marchDate n
  obtain ⟨m, d, hmarch, hm₁, hm₂, _, _, _, _, hx⟩ :=
    marchDate_spec (400 * era + 100 * c + 4 * q + k) hparts.dayOfYear.1 hparts.dayOfYear.2
  obtain ⟨y, hy⟩ : ∃ y, y = 400 * era + 100 * c + 4 * q + k := ⟨_, rfl⟩
  obtain ⟨he, hc, hq, hk, _, _⟩ := hparts
  have hyear : (if m ≤ 2 then (if m ≤ 2 then y + 1 else y) - 1 else if m ≤ 2 then y + 1 else y) = y := by
    split <;> omega
  have hera : y / 400 = era := by omega
  have hgroups : (y - era * 400) / 4 = 25 * c + q := by omega
  have hcenturies : (y - era * 400) / 100 = c := by omega
  rw [hdate, hmarch, ← hy]
  simp only [daysOfDate, hyear, hera, hgroups, hcenturies]
  omega

end Calendar

/-! ## The years of timestamps -/

/-- **The date of a timestamp** is in one of the years of the calendar. -/
theorem Timestamp.year_bounds (t : Timestamp) :
    -262143 ≤ (Calendar.dateOfDays (t.seconds / 86400)).year ∧
      (Calendar.dateOfDays (t.seconds / 86400)).year ≤ 262142 := by
  obtain ⟨hfirst, hlast, _⟩ := t.valid
  have hfirstDay : firstSecond = -96465292 * 86400 := by decide
  have hlastDay : lastSecond = 95026236 * 86400 + 86399 := by decide
  obtain ⟨n, hn⟩ : ∃ n, n = t.seconds / 86400 := ⟨_, rfl⟩
  have hdays : -96465292 ≤ n ∧ n ≤ 95026236 := by omega
  rw [← hn]
  obtain ⟨era, d, c, q, k, x, hday, hparts, hdate⟩ := Calendar.exists_marchDate n
  obtain ⟨m, e, hmarch, hm₁, hm₂, he₁, he₂, _, _, hx⟩ :=
    Calendar.marchDate_spec (400 * era + 100 * c + 4 * q + k) hparts.dayOfYear.1 hparts.dayOfYear.2
  -- January and February are the end of a year that begins in March
  have hwinter : m ≤ 2 ↔ 306 ≤ x := by omega
  obtain ⟨hd, hc, hq, hk, hx₀, _⟩ := hparts
  rw [hdate, hmarch]
  simp only [hwinter]
  -- within an era that is neither the first nor the last one there is nothing to compare
  rcases (by omega : era = -656 ∨ -656 < era ∧ era < 655 ∨ era = 655) with rfl | hbetween | rfl
  · split <;> omega
  · split <;> omega
  · split <;> omega

end SearchExport
