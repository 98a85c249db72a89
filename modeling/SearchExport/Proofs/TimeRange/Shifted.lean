import SearchExport.Proofs.Timestamp.Shifting
import SearchExport.TimeRange

/-!
# Shifted intervals

The bounds of an interval are shifted each on its own, and the outcome is not checked again.  Shifts keep the
order of ordinary timestamps.  A leap second, however, is left backwards like the second after it and forwards
like the second before it, where the other bound may lie.

* `AbsoluteRange.of_eq_ok_iff` — which bounds make an interval; `AbsoluteRange.Made.start_le_stop` — however it
  is made, its bounds are in order.
* `AbsoluteRange.TurnedBy` — the intervals of which a shift exchanges the bounds.
* `AbsoluteRange.shiftedBack_ordered_iff` — all other shifted intervals begin before they end.
-/

set_option autoImplicit false

namespace SearchExport.AbsoluteRange

/-! ## Bounds in order -/

theorem of_eq_ok_iff {start stop : Timestamp} {r : AbsoluteRange} :
    of start stop = .ok r ↔ start ≤ stop ∧ r = ⟨start, stop⟩ := by
  unfold of
  split
  · rename_i h
    simp [Timestamp.not_le.2 h]
  · rename_i h
    simp [Timestamp.not_lt.1 h, eq_comm]

/-- The interval is made of two timestamps or of the texts of two. -/
def Made (r : AbsoluteRange) : Prop :=
  (∃ start stop, of start stop = .ok r) ∨ ∃ first last, ofTexts first last = .ok r

/-- **Intervals that are made** begin before they end, or at the same time. -/
theorem Made.start_le_stop {r : AbsoluteRange} (h : r.Made) : r.start ≤ r.stop := by
  have hof : ∀ {start stop}, of start stop = .ok r → r.start ≤ r.stop := by
    intro start stop hr
    obtain ⟨hle, rfl⟩ := of_eq_ok_iff.1 hr
    exact hle
  obtain ⟨_, _, h⟩ | ⟨first, last, h⟩ := h
  · exact hof h
  unfold ofTexts at h
  cases hfirst : readBound first with
  | error fault =>
    rw [hfirst] at h
    cases h
  | ok start =>
    cases hlast : readBound last with
    | error fault =>
      rw [hfirst, hlast] at h
      cases h
    | ok stop =>
      rw [hfirst, hlast] at h
      exact hof h

theorem shiftedBack_eq_ok_iff {r r' : AbsoluteRange} {offset : Duration} :
    r.shiftedBack offset = .ok r' ↔
      r.start.earlier? offset = some r'.start ∧ r.stop.earlier? offset = some r'.stop := by
  obtain ⟨a, b⟩ := r'
  unfold shiftedBack
  cases r.start.earlier? offset <;> cases r.stop.earlier? offset <;> simp

/-! ## Leap seconds -/

/-- Shifting exchanges the bounds of the interval.  Either a shift back takes the end out of its second, and
the interval starts in the leap second before that one at a later fraction of a second than it ends.  Or a
shift forward takes the start out of its second, and the interval ends in the leap second after that one at
an earlier fraction of a second than it starts. -/
def TurnedBy (r : AbsoluteRange) (offset : Duration) : Prop :=
  (r.start.isLeap = true ∧ r.stop.seconds = r.start.seconds + 1 ∧
      r.stop.subsecond < r.start.subsecond ∧ (r.stop.subsecond : Int) < offset.nanos) ∨
    (r.start.isLeap = false ∧ r.stop.isLeap = true ∧ r.stop.seconds = r.start.seconds ∧
      r.stop.subsecond < r.start.subsecond ∧ 1000000000 ≤ (r.start.subsecond : Int) - offset.nanos)

/-- **A shifted interval** begins before it ends, or at the same time, unless a leap second is in the way. -/
theorem shiftedBack_ordered_iff {r r' : AbsoluteRange} {offset : Duration} (hr : r.Made)
    (hshift : r.shiftedBack offset = .ok r') : r'.start ≤ r'.stop ↔ ¬ r.TurnedBy offset := by
  have hle := hr.start_le_stop
  obtain ⟨hstart, hstop⟩ := shiftedBack_eq_ok_iff.1 hshift
  obtain ⟨start, stop⟩ := r
  dsimp only at hle hstart hstop
  have hneg : offset.neg.nanos = -offset.nanos := rfl
  have hstartNanos := start.valid.2.2.1
  have hstopNanos := stop.valid.2.2.1
  unfold TurnedBy Timestamp.subsecond
  cases hstartLeap : start.isLeap with
  | false =>
    have hstartFraction := Timestamp.not_isLeap_iff.1 hstartLeap
    cases hstopLeap : stop.isLeap with
    | false =>
      have hkept := Timestamp.later?_le_of_ordinary hstartLeap hstopLeap hle hstart hstop
      simpa using hkept
    | true =>
      have hstopFraction := Timestamp.isLeap_iff.1 hstopLeap
      rw [Timestamp.later?_le_iff_of_leap_after hstartLeap hstopLeap hle hstart hstop, hneg]
      simp only [Bool.false_eq_true, false_and, false_or, true_and]
      omega
  | true =>
    have hstartFraction := Timestamp.isLeap_iff.1 hstartLeap
    cases hstopLeap : stop.isLeap with
    | false =>
      have hstopFraction := Timestamp.not_isLeap_iff.1 hstopLeap
      rw [Timestamp.later?_le_iff_of_leap_before hstartLeap hstopLeap hle hstart hstop, hneg]
      simp only [Bool.true_eq_false, Bool.false_eq_true, false_and, or_false, true_and]
      omega
    | true =>
      have hkept := Timestamp.later?_le_of_isLeap hstartLeap hstopLeap hle hstart hstop
      -- the second after a leap second has none
      have hstartLast := start.valid.2.2.2 hstartFraction
      have hstopLast := stop.valid.2.2.2 (Timestamp.isLeap_iff.1 hstopLeap)
      simp only [hkept, true_iff, Bool.true_eq_false, false_and, or_false]
      omega

/-- From half way through a leap second to the last fifth of the second after it, shifted by a second: the end
leaves its second, but stays behind the start. -/
theorem shiftedBack_ordered_of_laterFraction :
    let start : Timestamp := ⟨1483228799, 1500000000, by decide⟩
    let stop : Timestamp := ⟨1483228800, 800000000, by decide⟩
    let shifted : AbsoluteRange := ⟨⟨1483228799, 500000000, by decide⟩, ⟨1483228799, 800000000, by decide⟩⟩
    (⟨start, stop⟩ : AbsoluteRange).Made ∧
      (⟨start, stop⟩ : AbsoluteRange).shiftedBack (.ofSeconds 1) = .ok shifted ∧
      ¬ (⟨start, stop⟩ : AbsoluteRange).TurnedBy (.ofSeconds 1) ∧
      shifted.start ≤ shifted.stop := by
  intro start stop shifted
  have hr : (⟨start, stop⟩ : AbsoluteRange).Made := .inl ⟨start, stop, rfl⟩
  have hshift : (⟨start, stop⟩ : AbsoluteRange).shiftedBack (.ofSeconds 1) = .ok shifted :=
    shiftedBack_eq_ok_iff.2 ⟨by decide, by decide⟩
  have hturned : ¬ (⟨start, stop⟩ : AbsoluteRange).TurnedBy (.ofSeconds 1) := by
    unfold TurnedBy
    decide
  exact ⟨hr, hshift, hturned, (shiftedBack_ordered_iff hr hshift).2 hturned⟩

/-- From half way through a leap second to the first fifth of the second after it, shifted by a second. -/
theorem shiftedBack_of_leapSecond :
    ∃ r : AbsoluteRange, ofTexts "2016-12-31T23:59:60.5Z" "2017-01-01T00:00:00.2Z" = .ok r ∧
      ¬ ∀ (offset : Duration) (r' : AbsoluteRange), r.shiftedBack offset = .ok r' → r'.start ≤ r'.stop := by
  refine ⟨⟨⟨1483228799, 1500000000, by decide⟩, ⟨1483228800, 200000000, by decide⟩⟩, rfl, ?_⟩
  intro hordered
  have hturned := hordered (.ofSeconds 1)
    ⟨⟨1483228799, 500000000, by decide⟩, ⟨1483228799, 200000000, by decide⟩⟩
    (shiftedBack_eq_ok_iff.2 ⟨by decide, by decide⟩)
  exact absurd hturned (by decide)

end SearchExport.AbsoluteRange
