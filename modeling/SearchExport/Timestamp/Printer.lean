import SearchExport.Timestamp.Basic

/-!
# Timestamps as text

The date, a `T`, the time of day with no, three, six or nine digits of fraction, whichever is the
fewest that loses nothing, and a mark for universal time.
-/

set_option autoImplicit false

namespace SearchExport.Timestamp

/-- A year with four digits, or with its sign and at least four digits outside of them. -/
def yearText (y : Int) : List Char :=
  if 0 ≤ y ∧ y ≤ 9999 then Text.paddedDigits 4 y.toNat
  else (if y < 0 then '-' else '+') :: Text.paddedDigits 4 y.natAbs

/-- The date part of the text. -/
def dateText (t : Timestamp) : List Char :=
  let d := Calendar.dateOfDays (t.seconds / 86400)
  yearText d.year ++ '-' :: (Text.paddedDigits 2 d.month ++ '-' :: Text.paddedDigits 2 d.day)

/-- Hours, minutes and seconds; a leap second is the sixtieth. -/
def clockText (t : Timestamp) : List Char :=
  let s := t.timeOfDay.toNat
  Text.paddedDigits 2 (s / 3600) ++ ':' :: (Text.paddedDigits 2 (s / 60 % 60) ++
    ':' :: Text.paddedDigits 2 (s % 60 + if t.isLeap then 1 else 0))

/-- The nanoseconds within the second that is shown. -/
def subsecond (t : Timestamp) : Nat := t.nanos % 1000000000

/-- The fraction of the second with the fewest groups of three digits. -/
def fractionText (t : Timestamp) : List Char :=
  let n := t.subsecond
  if n = 0 then []
  else if n % 1000000 = 0 then '.' :: Text.paddedDigits 3 (n / 1000000)
  else if n % 1000 = 0 then '.' :: Text.paddedDigits 6 (n / 1000)
  else '.' :: Text.paddedDigits 9 n

/-- The text with the given mark for universal time. -/
def textWith (mark : List Char) (t : Timestamp) : String :=
  String.ofList (t.dateText ++ 'T' :: (t.clockText ++ t.fractionText ++ mark))

/-- The text that data holds, ending in `Z`. -/
def text (t : Timestamp) : String := t.textWith ['Z']

/-- The text that messages show, ending in a zero offset. -/
def display (t : Timestamp) : String := t.textWith ['+', '0', '0', ':', '0', '0']

/-- The text with exactly three digits of fraction; further digits are cut off. -/
def millisText (t : Timestamp) : String :=
  String.ofList (t.dateText ++ 'T' :: (t.clockText ++
    '.' :: (Text.paddedDigits 3 (t.subsecond / 1000000) ++ ['Z'])))

end SearchExport.Timestamp
