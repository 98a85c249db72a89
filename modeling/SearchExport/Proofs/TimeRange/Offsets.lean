import SearchExport.Proofs.TimeRange.Shifted
import SearchExport.Search.Resolve

/-!
# Exact intervals

Away from leap seconds an interval is what its definition says to the nanosecond, as far back as the calendar
goes, although its length is counted in seconds or as a multiple of another length.

* `Timestamp.LiesBefore` — the instant so many nanoseconds earlier; `Timestamp.earlier?_eq` — it is what moving
  back leads to.
* `TimeRange.resolve_relative` — the last so many seconds.
* `DerivedTimeRange.effective_offset` — an interval, so many of its lengths earlier.
* `TimeRange.Tiled` — the intervals of an offset; `TimeRange.intervals_exact` — every time range has them.
-/

set_option autoImplicit false

namespace SearchExport

/-! ## Multiples of a span -/

namespace Duration

variable {d shift : Duration} {n : Int}

theorem nanos_of_times? (h : d.times? n = some shift) : shift.nanos = d.nanos * n := by
  unfold times? at h
  dsimp only at h
  split at h
  · cases h
    rfl
  · cases h

/-- A multiple exists as long as its whole seconds stay below the greatest number of 64 bits. -/
theorem times?_eq_some (h : shift.nanos = d.nanos * n) (hpos : 0 ≤ shift.nanos)
    (hsmall : shift.nanos < 9223372036854775807 * perSecond) : d.times? n = some shift := by
  have hpow : Int.pow 2 63 = 9223372036854775808 := rfl
  obtain ⟨nanos⟩ := shift
  obtain rfl : nanos = d.nanos * n := h
  have hbounds : -9223372036854775808 < (d.nanos * n) / perSecond ∧
      (d.nanos * n) / perSecond < 9223372036854775808 - 1 := by
    dsimp only at hpos hsmall
    unfold perSecond at *
    omega
  simp only [times?, floorSeconds, hpow, hbounds, and_self, if_true]

end Duration

/-! ## Earlier instants -/

namespace Timestamp

/-- The ordinary timestamp `u` lies so many nanoseconds before `t`. -/
def LiesBefore (u t : Timestamp) (nanos : Int) : Prop :=
  u.isLeap = false ∧ u.position = t.position - nanos

variable {t u : Timestamp} {d : Duration}

/-- Moving back from an ordinary timestamp, or by a second at least. -/
theorem earlier?_eq (h : t.isLeap = false ∨ Duration.perSecond ≤ d.nanos) :
    t.earlier? d = ofPosition? (t.position - d.nanos) := by
  have hneg : t.position + d.neg.nanos = t.position - d.nanos := rfl
  rw [earlier?, ← hneg]
  cases hleap : t.isLeap with
  | false => exact later?_of_ordinary hleap _
  | true =>
    rw [hleap] at h
    refine later?_back hleap (Int.neg_le_neg ?_)
    simpa [Duration.perSecond] using h

theorem position_first : first.position = firstSecond * 1000000000 := by decide

/-- The calendar spans less than so many seconds. -/
theorem position_sub_first_lt (t : Timestamp) :
    t.position - first.position < 16544868105602 * Duration.perSecond := by
  have hcalendar : lastSecond - firstSecond = 16544868105599 := by decide
  obtain ⟨_, hlast, hnanos, _⟩ := t.valid
  rw [position_first, position, Duration.perSecond]
  omega

/-- Moving back leads to the timestamp at the difference, as far as the calendar reaches. -/
theorem exists_liesBefore (h : t.isLeap = false ∨ Duration.perSecond ≤ d.nanos) (hpos : 0 ≤ d.nanos)
    (hreached : first.position ≤ t.position - d.nanos) :
    ∃ u, u.LiesBefore t d.nanos ∧ t.earlier? d = some u := by
  rw [earlier?_eq h]
  obtain ⟨_, hlast, hnanos, _⟩ := t.valid
  cases hu : ofPosition? (t.position - d.nanos) with
  | some u => exact ⟨u, ofPosition?_eq_some_iff.1 hu, rfl⟩
  | none =>
    rw [position_first] at hreached
    rw [ofPosition?_eq_none_iff] at hu
    rw [not_isLeap_iff] at h
    unfold position at *
    unfold Duration.perSecond at *
    omega

theorem earlier?_eq_none (h : t.isLeap = false ∨ Duration.perSecond ≤ d.nanos)
    (hbeyond : t.position - d.nanos < first.position) : t.earlier? d = none := by
  rw [position_first] at hbeyond
  rw [earlier?_eq h, ofPosition?_eq_none_iff]
  exact .inl hbeyond

/-- An instant before another one comes first in their order, also when the later one is in a leap second. -/
theorem LiesBefore.le {nanos : Int} (hu : u.LiesBefore t nanos)
    (h : t.isLeap = false ∧ 0 ≤ nanos ∨ Duration.perSecond ≤ nanos) : u ≤ t := by
  obtain ⟨hordinary, hposition⟩ := hu
  have hnanos := t.valid.2.2.1
  rw [not_isLeap_iff] at hordinary h
  rw [le_def]
  unfold position at hposition
  unfold Duration.perSecond at *
  omega

end Timestamp

/-! ## The last seconds -/

namespace TimeRange

variable {query : TimeRange} {now : Timestamp} {base : AbsoluteRange} {seconds : UInt64}

theorem perSecond_le_ofSeconds (hpos : seconds ≠ 0) :
    Duration.perSecond ≤ (Duration.ofSeconds seconds.toNat).nanos := by
  have hcount : seconds.toNat ≠ 0 := fun hzero => hpos (UInt64.toNat_inj.1 hzero)
  simp only [Duration.ofSeconds, Duration.perSecond]
  omega

/-- **The last so many seconds**, when the calendar reaches back to them. -/
theorem resolve_relative (hpos : seconds ≠ 0)
    (hreached : Timestamp.first.position ≤ now.position - seconds.toNat * Duration.perSecond) :
    ∃ start, start.LiesBefore now (seconds.toNat * Duration.perSecond) ∧
      resolve now (.relative seconds) = .ok ⟨start, now⟩ := by
  have hsecond := perSecond_le_ofSeconds hpos
  obtain ⟨start, hstart, hearlier⟩ := Timestamp.exists_liesBefore (t := now) (.inr hsecond)
    (Int.le_trans (by decide) hsecond) hreached
  refine ⟨start, hstart, ?_⟩
  rw [resolve, if_neg hpos, hearlier]
  exact AbsoluteRange.of_eq_ok_iff.2 ⟨hstart.le (.inr hsecond), rfl⟩

theorem resolve_relative_beyond (hpos : seconds ≠ 0)
    (hbeyond : now.position - seconds.toNat * Duration.perSecond < Timestamp.first.position) :
    resolve now (.relative seconds) = .error (.tooLong seconds) := by
  rw [resolve, if_neg hpos, Timestamp.earlier?_eq_none (.inr (perSecond_le_ofSeconds hpos)) hbeyond]

/-- The bounds of the interval that a time range denotes are in order. -/
theorem of_of_resolve (h : query.resolve now = .ok base) :
    AbsoluteRange.of base.start base.stop = .ok base := by
  have hmade : ∀ {start stop}, AbsoluteRange.of start stop = .ok base →
      AbsoluteRange.of base.start base.stop = .ok base := by
    intro start stop hof
    obtain ⟨_, rfl⟩ := AbsoluteRange.of_eq_ok_iff.1 hof
    exact hof
  cases query with
  | absolute start stop => exact hmade h
  | relative seconds =>
    rw [resolve] at h
    split at h
    · exact hmade h
    · split at h
      · exact hmade h
      · cases h

end TimeRange

/-! ## Offsets -/

namespace AbsoluteRange

/-- The length of the interval by the positions of its bounds. -/
def span (r : AbsoluteRange) : Int := r.stop.position - r.start.position

/-- The interval `r` is `base`, so many of its lengths earlier. -/
def LiesBefore (r base : AbsoluteRange) (lengths : Int) : Prop :=
  r.start.LiesBefore base.start (lengths * base.span) ∧ r.stop.LiesBefore base.stop (lengths * base.span)

/-- Neither bound of the interval is in a leap second. -/
def Ordinary (r : AbsoluteRange) : Prop := r.start.isLeap = false ∧ r.stop.isLeap = false

variable {r base : AbsoluteRange}

theorem duration_nanos (h : base.Ordinary) : base.duration.nanos = base.span :=
  Timestamp.since_nanos h.1 h.2

/-- The bounds of an earlier interval are in order like those of the interval itself. -/
theorem LiesBefore.of_eq_ok {lengths : Int} (hr : r.LiesBefore base lengths) (h : base.Ordinary)
    (hbase : of base.start base.stop = .ok base) : of r.start r.stop = .ok r := by
  obtain ⟨⟨hstart, hstartPosition⟩, ⟨hstop, hstopPosition⟩⟩ := hr
  have hle := (Timestamp.le_iff_position h.1 h.2).1 (of_eq_ok_iff.1 hbase).1
  refine of_eq_ok_iff.2 ⟨(Timestamp.le_iff_position hstart hstop).2 ?_, rfl⟩
  omega

/-- The interval one length earlier ends where the interval starts. -/
theorem LiesBefore.adjacent {s : AbsoluteRange} {lengths : Int} (hr : r.LiesBefore base lengths)
    (hs : s.LiesBefore base (lengths + 1)) : s.stop = r.start := by
  obtain ⟨⟨hstart, hstartPosition⟩, _⟩ := hr
  obtain ⟨_, ⟨hstop, hstopPosition⟩⟩ := hs
  refine Timestamp.eq_of_position hstop hstart ?_
  have hspan : base.span = base.stop.position - base.start.position := rfl
  rw [Int.add_mul, Int.one_mul] at hstopPosition
  omega

theorem span_nonneg (h : base.Ordinary) (hbase : of base.start base.stop = .ok base) : 0 ≤ base.span := by
  have hle := (Timestamp.le_iff_position h.1 h.2).1 (of_eq_ok_iff.1 hbase).1
  unfold span
  omega

end AbsoluteRange

namespace DerivedTimeRange

variable {query : TimeRange} {now : Timestamp} {base : AbsoluteRange} {n : UInt32}

/-- An offset shifts the interval of the query back by a multiple of its length. -/
theorem effective_offset (hbase : query.resolve now = .ok base) (n : UInt32) :
    effective query now (.offset n) =
      if n.toNat < 2147483648 then
        match base.duration.times? n.toNat with
        | some shift => (base.shiftedBack shift).map TimeRange.ofAbsolute
        | none => .error (.tooManyIntervals n)
      else .error (.tooManyIntervals n) := by
  have hpow : Nat.pow 2 31 = 2147483648 := rfl
  simp only [effective, hbase, hpow, bind, Except.bind]
  split
  · cases base.duration.times? n.toNat with
    | none => rfl
    | some shift =>
      simp only [pure, Except.pure]
      cases base.shiftedBack shift <;> rfl
  · rfl

/-- **The interval so many lengths earlier**, when the calendar reaches back to it. -/
theorem effective_offset_reached (hbase : query.resolve now = .ok base) (h : base.Ordinary)
    (hcount : n.toNat < 2147483648)
    (hreached : Timestamp.first.position ≤ base.start.position - n.toNat * base.span) :
    ∃ r : AbsoluteRange, r.LiesBefore base n.toNat ∧
      effective query now (.offset n) = .ok (.ofAbsolute r) := by
  have hspan := AbsoluteRange.span_nonneg h (TimeRange.of_of_resolve hbase)
  obtain ⟨shift, hshift⟩ : ∃ shift : Duration, shift.nanos = n.toNat * base.span := ⟨⟨_⟩, rfl⟩
  have hpos : 0 ≤ shift.nanos := hshift ▸ Int.mul_nonneg (by omega) hspan
  rw [← hshift] at hreached
  have htimes : base.duration.times? n.toNat = some shift := by
    have hcalendar := base.start.position_sub_first_lt
    refine Duration.times?_eq_some ?_ hpos ?_
    · rw [AbsoluteRange.duration_nanos h, hshift, Int.mul_comm]
    · unfold Duration.perSecond at *
      omega
  have hstopReached : Timestamp.first.position ≤ base.stop.position - shift.nanos := by
    unfold AbsoluteRange.span at hspan
    omega
  obtain ⟨a, ha, hstart⟩ := Timestamp.exists_liesBefore (.inl h.1) hpos hreached
  obtain ⟨b, hb, hstop⟩ := Timestamp.exists_liesBefore (.inl h.2) hpos hstopReached
  rw [hshift] at ha hb
  have hshifted : base.shiftedBack shift = .ok ⟨a, b⟩ :=
    AbsoluteRange.shiftedBack_eq_ok_iff.2 ⟨hstart, hstop⟩
  refine ⟨⟨a, b⟩, ⟨ha, hb⟩, ?_⟩
  simp only [effective_offset hbase, if_pos hcount, htimes, hshifted]
  rfl

/-- Too many lengths, or more than the calendar reaches back, are no offset. -/
theorem effective_offset_refused (hbase : query.resolve now = .ok base) (h : base.Ordinary)
    (hrefused : ¬ (n.toNat < 2147483648 ∧
      Timestamp.first.position ≤ base.start.position - n.toNat * base.span)) :
    ∃ fault, effective query now (.offset n) = .error fault := by
  rw [effective_offset hbase]
  split
  · rename_i hcount
    cases htimes : base.duration.times? n.toNat with
    | none => exact ⟨_, rfl⟩
    | some shift =>
      have hshift : shift.nanos = n.toNat * base.span := by
        rw [Duration.nanos_of_times? htimes, AbsoluteRange.duration_nanos h, Int.mul_comm]
      have hbeyond : base.start.position - shift.nanos < Timestamp.first.position := by
        rw [hshift]
        exact Int.not_le.1 fun hreached => hrefused ⟨hcount, hreached⟩
      have hnone : base.start.earlier? shift = none := Timestamp.earlier?_eq_none (.inl h.1) hbeyond
      refine ⟨.beyondCalendar base shift, ?_⟩
      simp only [AbsoluteRange.shiftedBack, hnone]
      rfl
  · exact ⟨_, rfl⟩

/-- An interval in place of that of the query stands for itself at all times. -/
theorem resolve_of_effective_absolute {start stop : Timestamp} {range : TimeRange}
    (h : effective query now (.absolute start stop) = .ok range) (later : Timestamp) :
    range.resolve later = .ok ⟨start, stop⟩ := by
  simp only [effective, bind, Except.bind, pure, Except.pure] at h
  cases hof : AbsoluteRange.of start stop with
  | error fault =>
    rw [hof] at h
    cases h
  | ok r =>
    rw [hof] at h
    cases h
    obtain ⟨_, rfl⟩ := AbsoluteRange.of_eq_ok_iff.1 hof
    exact hof

/-- An offset that exists is the interval so many lengths earlier. -/
theorem liesBefore_of_effective (hbase : query.resolve now = .ok base) (h : base.Ordinary)
    {range : TimeRange} (heffective : effective query now (.offset n) = .ok range) :
    ∃ r : AbsoluteRange, r.LiesBefore base n.toNat ∧ range = .ofAbsolute r := by
  by_cases hreached : n.toNat < 2147483648 ∧
      Timestamp.first.position ≤ base.start.position - n.toNat * base.span
  · obtain ⟨r, hr, hok⟩ := effective_offset_reached hbase h hreached.1 hreached.2
    rw [hok] at heffective
    cases heffective
    exact ⟨r, hr, rfl⟩
  · obtain ⟨fault, hfault⟩ := effective_offset_refused hbase h hreached
    rw [hfault] at heffective
    cases heffective

end DerivedTimeRange

/-! ## All intervals -/

namespace TimeRange

/-- The offsets of a time range that denotes the interval `base`. -/
structure Tiled (query : TimeRange) (now : Timestamp) (base : AbsoluteRange) : Prop where
  /-- An offset is the interval so many lengths earlier, as long as 31 bits hold the number of lengths and the
  calendar reaches back to the interval. -/
  exact : ∀ n : UInt32, n.toNat < 2147483648 →
    Timestamp.first.position ≤ base.start.position - n.toNat * base.span →
      ∃ r : AbsoluteRange, r.LiesBefore base n.toNat ∧
        DerivedTimeRange.effective query now (.offset n) = .ok (.ofAbsolute r)
  refused : ∀ n : UInt32, ¬ (n.toNat < 2147483648 ∧
    Timestamp.first.position ≤ base.start.position - n.toNat * base.span) →
      ∃ fault, DerivedTimeRange.effective query now (.offset n) = .error fault
  /-- The interval of the next offset ends where the one of an offset starts. -/
  adjacent : ∀ (n m : UInt32) (r s : AbsoluteRange), m.toNat = n.toNat + 1 →
    DerivedTimeRange.effective query now (.offset n) = .ok (.ofAbsolute r) →
      DerivedTimeRange.effective query now (.offset m) = .ok (.ofAbsolute s) → s.stop = r.start
  /-- An offset denotes the same interval at all times. -/
  settled : ∀ (n : UInt32) (range : TimeRange),
    DerivedTimeRange.effective query now (.offset n) = .ok range →
      ∃ r, range = .ofAbsolute r ∧ ∀ later, range.resolve later = .ok r

theorem tiled {query : TimeRange} {now : Timestamp} {base : AbsoluteRange}
    (hbase : query.resolve now = .ok base) (h : base.Ordinary) : query.Tiled now base where
  exact _ hcount hreached := DerivedTimeRange.effective_offset_reached hbase h hcount hreached
  refused _ hrefused := DerivedTimeRange.effective_offset_refused hbase h hrefused
  adjacent n m r s hnext hn hm := by
    obtain ⟨a, b⟩ := r
    obtain ⟨c, d⟩ := s
    obtain ⟨⟨_, _⟩, hr, hrange⟩ := DerivedTimeRange.liesBefore_of_effective hbase h hn
    obtain ⟨⟨_, _⟩, hs, hrange'⟩ := DerivedTimeRange.liesBefore_of_effective hbase h hm
    cases hrange
    cases hrange'
    rw [hnext, Int.natCast_add] at hs
    exact hr.adjacent hs
  settled n range hn := by
    obtain ⟨r, hr, rfl⟩ := DerivedTimeRange.liesBefore_of_effective hbase h hn
    exact ⟨r, rfl, fun _ => hr.of_eq_ok h (of_of_resolve hbase)⟩

/-- **Time ranges denote exact intervals**, whatever the time is.  The last seconds are those that end now, as
long as the calendar reaches back to them; all time starts with the epoch; and the offsets of an interval
without leap seconds lie side by side before it.  An interval that is found once stays the same later.  All
that is refused is reported as a value that is not allowed. -/
theorem intervals_exact (now : Timestamp) :
    (∀ seconds : UInt64, seconds ≠ 0 →
      (Timestamp.first.position ≤ now.position - seconds.toNat * Duration.perSecond →
        ∃ start, start.LiesBefore now (seconds.toNat * Duration.perSecond) ∧
          resolve now (.relative seconds) = .ok ⟨start, now⟩) ∧
      (now.position - seconds.toNat * Duration.perSecond < Timestamp.first.position →
        resolve now (.relative seconds) = .error (.tooLong seconds))) ∧
    (.epoch ≤ now → resolve now (.relative 0) = .ok ⟨.epoch, now⟩) ∧
    (now < .epoch → resolve now (.relative 0) = .error (.reversed .epoch now)) ∧
    (∀ (query : TimeRange) (base : AbsoluteRange), query.resolve now = .ok base →
      (∀ later, resolve later (.ofAbsolute base) = .ok base) ∧
        (base.Ordinary → query.Tiled now base)) ∧
    (∀ (query : TimeRange) (start stop : Timestamp) (range : TimeRange),
      DerivedTimeRange.effective query now (.absolute start stop) = .ok range →
        ∀ later, range.resolve later = .ok ⟨start, stop⟩) ∧
    ∀ fault : RangeFault, (ResolveFault.range fault).toError = .validation fault.message := by
  refine ⟨fun seconds hpos => ⟨resolve_relative hpos, resolve_relative_beyond hpos⟩, ?_, ?_, ?_,
    fun _ _ _ _ h => DerivedTimeRange.resolve_of_effective_absolute h, fun _ => rfl⟩
  · intro hepoch
    exact AbsoluteRange.of_eq_ok_iff.2 ⟨hepoch, rfl⟩
  · intro hbefore
    exact if_pos hbefore
  · intro query base hbase
    exact ⟨fun _ => of_of_resolve hbase, tiled hbase⟩

/-- Two hours between half seconds: a thousand times two hours earlier, and too many times. -/
theorem intervals_exact_of_twoHours :
    let now : Timestamp := ⟨1591012800, 0, by decide⟩
    let base : AbsoluteRange :=
      ⟨⟨1420077600, 500000000, by decide⟩, ⟨1420084800, 500000000, by decide⟩⟩
    let query : TimeRange := .ofAbsolute base
    (query.resolve now = .ok base ∧ base.Ordinary) ∧ query.Tiled now base ∧
      (∃ r : AbsoluteRange, r.LiesBefore base 1000 ∧
        DerivedTimeRange.effective query now (.offset 1000) = .ok (.ofAbsolute r)) ∧
      (∃ fault, DerivedTimeRange.effective query now (.offset 2147483648) = .error fault) ∧
      (∃ start, start.LiesBefore now (300 * Duration.perSecond) ∧
        resolve now (.relative 300) = .ok ⟨start, now⟩) := by
  intro now base query
  have hbase : query.resolve now = .ok base := rfl
  have hordinary : base.Ordinary := ⟨rfl, rfl⟩
  obtain ⟨hrelative, _, _, hranges, _, _⟩ := intervals_exact now
  have htiled := (hranges query base hbase).2 hordinary
  exact ⟨⟨hbase, hordinary⟩, htiled, htiled.exact 1000 (by decide) (by decide),
    htiled.refused 2147483648 (by decide), (hrelative 300 (by decide)).1 (by decide)⟩

end TimeRange

end SearchExport
