import SearchExport.Timestamp.Parser
import SearchExport.Timestamp.Printer

/-!
# Time ranges

A query asks for the messages of a half-open interval of time.  The interval is given by its bounds
or as a length that ends now; a message list may also ask for the interval of its query shifted back
by whole lengths.

* `AbsoluteRange` — the half-open interval;
* `TimeRange.resolve` — the interval that a time range denotes at a given time;
* `DerivedTimeRange.effective` — the time range of a message list inside its query.
-/

set_option autoImplicit false

namespace SearchExport

/-- A half-open interval of time. -/
structure AbsoluteRange where
  /-- The first instant of the interval. -/
  start : Timestamp
  /-- The first instant after the interval. -/
  stop : Timestamp
  deriving DecidableEq

/-- The interval as messages show it. -/
def AbsoluteRange.display (r : AbsoluteRange) : String :=
  "[" ++ r.start.display ++ ", " ++ r.stop.display ++ ")"

/-- Why a time range denotes no interval. -/
inductive RangeFault where
  /-- The interval ends before it starts. -/
  | reversed (start stop : Timestamp)
  /-- A bound is no timestamp. -/
  | unreadable (text : String) (fault : Timestamp.Fault)
  /-- The length reaches back before the calendar. -/
  | tooLong (seconds : UInt64)
  /-- So many lengths are no span of time. -/
  | tooManyIntervals (intervals : UInt32)
  /-- The shifted interval leaves the calendar. -/
  | beyondCalendar (range : AbsoluteRange) (offset : Duration)

/-- The fault in words. -/
def RangeFault.message : RangeFault → String
  | .reversed start stop =>
    "Invalid time range: from (" ++ start.display ++ ") is after to (" ++ stop.display ++ ")"
  | .unreadable text fault => "Invalid timestamp '" ++ text ++ "': " ++ fault.message
  | .tooLong seconds => "Relative range too large: " ++ Text.ofNat seconds.toNat ++ "s"
  | .tooManyIntervals n => "Offset of " ++ Text.ofNat n.toNat ++ " intervals is out of range"
  | .beyondCalendar range offset =>
    "Cannot shift time range " ++ range.display ++ " back by " ++ offset.iso

namespace AbsoluteRange

/-- The interval with the given bounds, which must be in order. -/
def of (start stop : Timestamp) : Except RangeFault AbsoluteRange :=
  if stop < start then .error (.reversed start stop) else .ok ⟨start, stop⟩

/-- A bound written by RFC 3339. -/
def readBound (s : String) : Except RangeFault Timestamp :=
  (Timestamp.ofRfc3339 s).mapError (.unreadable s)

/-- The interval whose bounds are written by RFC 3339. -/
def ofTexts (start stop : String) : Except RangeFault AbsoluteRange := do
  let a ← readBound start
  let b ← readBound stop
  of a b

/-- The length of the interval. -/
def duration (r : AbsoluteRange) : Duration := r.stop.since r.start

/-- Whether an instant lies in the interval. -/
def contains (r : AbsoluteRange) (t : Timestamp) : Bool := r.start ≤ t && t < r.stop

/-- Whether the closed interval from `first` to `last` has an instant in common with the range. -/
def overlaps (r : AbsoluteRange) (first last : Timestamp) : Bool :=
  first < r.stop && r.start ≤ last

/-- Both bounds moved back by a span. -/
def shiftedBack (r : AbsoluteRange) (offset : Duration) : Except RangeFault AbsoluteRange :=
  match r.start.earlier? offset, r.stop.earlier? offset with
  | some a, some b => .ok ⟨a, b⟩
  | _, _ => .error (.beyondCalendar r offset)

end AbsoluteRange

/-- The time range of a query. -/
inductive TimeRange where
  /-- From one instant to before another. -/
  | absolute (start stop : Timestamp)
  /-- The last so many seconds; none stands for all time since the epoch. -/
  | relative (seconds : UInt64)
  deriving DecidableEq

namespace TimeRange

/-- The interval as a time range. -/
def ofAbsolute (r : AbsoluteRange) : TimeRange := .absolute r.start r.stop

/-- The interval that the time range denotes at the time `now`. -/
def resolve (now : Timestamp) : TimeRange → Except RangeFault AbsoluteRange
  | .absolute start stop => AbsoluteRange.of start stop
  | .relative seconds =>
    if seconds = 0 then AbsoluteRange.of Timestamp.epoch now
    else
      match now.earlier? (Duration.ofSeconds seconds.toNat) with
      | some start => AbsoluteRange.of start now
      | none => .error (.tooLong seconds)

end TimeRange

/-- The time range of a message list, seen from its query. -/
inductive DerivedTimeRange where
  /-- From one instant to before another. -/
  | absolute (start stop : Timestamp)
  /-- The last so many seconds. -/
  | relative (seconds : UInt64)
  /-- The interval of the query, so many of its lengths earlier. -/
  | offset (intervals : UInt32)
  deriving DecidableEq

namespace DerivedTimeRange

/-- The time range to use in place of the one of the query. -/
def effective (query : TimeRange) (now : Timestamp) :
    DerivedTimeRange → Except RangeFault TimeRange
  | .absolute start stop => do
    let r ← AbsoluteRange.of start stop
    return .ofAbsolute r
  | .relative seconds => .ok (.relative seconds)
  | .offset n => do
    let base ← query.resolve now
    let shift ←
      if n.toNat < Nat.pow 2 31 then
        match base.duration.times? n.toNat with
        | some d => pure d
        | none => throw (.tooManyIntervals n)
      else throw (.tooManyIntervals n)
    let r ← base.shiftedBack shift
    return .ofAbsolute r

end DerivedTimeRange

end SearchExport
