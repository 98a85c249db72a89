import SearchExport.Duration
import SearchExport.Timestamp.Calendar

/-!
# Timestamps

An instant of universal time with nanoseconds.  A leap second is the last second of a minute with
one second or more of nanoseconds; it comes after that second and before the next one.

* `Timestamp.le`, `Timestamp.lt` — the order, by seconds and then by nanoseconds;
* `Timestamp.since` — the span between two timestamps;
* `Timestamp.earlier?` — a timestamp moved back by a span.
-/

set_option autoImplicit false

namespace SearchExport

/-- The first second of the calendar, at the start of the year -262143. -/
def firstSecond : Int := Calendar.daysOfDate ⟨-262143, 1, 1⟩ * 86400

/-- The last second of the calendar, at the end of the year 262142. -/
def lastSecond : Int := Calendar.daysOfDate ⟨262142, 12, 31⟩ * 86400 + 86399

/-- Whether the parts form a timestamp. -/
def Timestamp.Valid (seconds : Int) (nanos : Nat) : Prop :=
  firstSecond ≤ seconds ∧ seconds ≤ lastSecond ∧ nanos < 2000000000 ∧
    (1000000000 ≤ nanos → seconds % 60 = 59)

instance (seconds : Int) (nanos : Nat) : Decidable (Timestamp.Valid seconds nanos) := by
  unfold Timestamp.Valid; infer_instance

/-- An instant of universal time. -/
structure Timestamp where
  /-- The whole seconds since the start of 1970, leap seconds not counted. -/
  seconds : Int
  /-- The nanoseconds after that second; a second or more within a leap second. -/
  nanos : Nat
  valid : Timestamp.Valid seconds nanos
  deriving DecidableEq

namespace Timestamp

/-- The timestamp with the given parts. -/
def of? (seconds : Int) (nanos : Nat) : Option Timestamp :=
  if h : Valid seconds nanos then some ⟨seconds, nanos, h⟩ else none

/-- The start of 1970. -/
def epoch : Timestamp := ⟨0, 0, by decide⟩

/-- The first timestamp of the calendar. -/
def first : Timestamp := ⟨firstSecond, 0, by decide⟩

/-- Whether the timestamp lies in a leap second. -/
def isLeap (t : Timestamp) : Bool := 1000000000 ≤ t.nanos

/-- The second of the day. -/
def timeOfDay (t : Timestamp) : Int := t.seconds % 86400

/-! ## Order -/

/-- The order of instants. -/
protected def lt (a b : Timestamp) : Prop :=
  a.seconds < b.seconds ∨ (a.seconds = b.seconds ∧ a.nanos < b.nanos)

/-- The order of instants, or equal. -/
protected def le (a b : Timestamp) : Prop :=
  a.seconds < b.seconds ∨ (a.seconds = b.seconds ∧ a.nanos ≤ b.nanos)

instance : LT Timestamp := ⟨Timestamp.lt⟩
instance : LE Timestamp := ⟨Timestamp.le⟩

theorem lt_def {a b : Timestamp} :
    a < b ↔ a.seconds < b.seconds ∨ (a.seconds = b.seconds ∧ a.nanos < b.nanos) := Iff.rfl

theorem le_def {a b : Timestamp} :
    a ≤ b ↔ a.seconds < b.seconds ∨ (a.seconds = b.seconds ∧ a.nanos ≤ b.nanos) := Iff.rfl

instance (a b : Timestamp) : Decidable (a < b) :=
  inferInstanceAs (Decidable (a.seconds < b.seconds ∨ (a.seconds = b.seconds ∧ a.nanos < b.nanos)))

instance (a b : Timestamp) : Decidable (a ≤ b) :=
  inferInstanceAs (Decidable (a.seconds < b.seconds ∨ (a.seconds = b.seconds ∧ a.nanos ≤ b.nanos)))

theorem not_le {a b : Timestamp} : ¬ a ≤ b ↔ b < a := by
  rw [le_def, lt_def]; omega

theorem not_lt {a b : Timestamp} : ¬ a < b ↔ b ≤ a := by
  rw [le_def, lt_def]; omega

/-! ## Arithmetic -/

/-- The span from `b` to `a`.  A leap second of the one with the earlier time of day counts as one
second more. -/
def since (a b : Timestamp) : Duration :=
  let leap : Int :=
    if b.timeOfDay < a.timeOfDay ∧ b.isLeap then 1
    else if a.timeOfDay < b.timeOfDay ∧ a.isLeap then -1
    else 0
  ⟨(a.seconds - b.seconds + leap) * Duration.perSecond + ((a.nanos : Int) - b.nanos)⟩

/-- The timestamp moved by a span, if it stays within the calendar.  A span that leaves a leap
second takes it for the second before it when it goes forward, and for the second after it when it
goes back. -/
def later? (t : Timestamp) (d : Duration) : Option Timestamp :=
  let secs := d.nanos.tdiv Duration.perSecond
  let frac := d.nanos.tmod Duration.perSecond
  let nanos : Int := t.nanos
  if t.isLeap ∧ ¬ (0 < secs ∨ (0 < frac ∧ 2000000000 ≤ nanos + frac)) ∧ ¬ secs < 0 then
    of? t.seconds (nanos + frac).toNat
  else
    let (start, nanos) : Int × Int :=
      if ¬ t.isLeap then (t.seconds, nanos)
      else if 0 < secs ∨ (0 < frac ∧ 2000000000 ≤ nanos + frac) then
        (t.seconds, nanos - 1000000000)
      else (t.seconds + 1, nanos - 1000000000)
    let total := (start + secs) * Duration.perSecond + (nanos + frac)
    of? (total / Duration.perSecond) (total % Duration.perSecond).toNat

/-- The timestamp moved back by a span, if it stays within the calendar. -/
def earlier? (t : Timestamp) (d : Duration) : Option Timestamp := t.later? d.neg

end Timestamp

end SearchExport
