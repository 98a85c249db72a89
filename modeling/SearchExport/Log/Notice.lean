import SearchExport.Log.Level

/-!
# Notices

What the log is told: a message with named data, the part of the program that it comes from, and the
activity in which it came up.
-/

set_option autoImplicit false

namespace SearchExport

/-- A value in the log. -/
inductive Datum where
  /-- A text that is quoted where a reader could take it for something else. -/
  | quoted (text : String)
  /-- A text that stands as it is. -/
  | plain (text : String)
  | count (n : Nat)
  | flag (b : Bool)
  deriving DecidableEq, Repr

/-- An activity that takes a while and within which notices come up. -/
structure LogSpan where
  name : String
  /-- The part of the program that it belongs to. -/
  source : String
  level : LogLevel
  data : List (String × Datum)
  deriving DecidableEq, Repr

/-- What the log is told. -/
structure Notice where
  level : LogLevel
  /-- The part of the program that it comes from. -/
  source : String
  message : String
  data : List (String × Datum) := []
  /-- The activity in which it came up. -/
  span : Option LogSpan := none
  deriving DecidableEq, Repr

/-- Whether a notice has a datum, its message included, of the given name. -/
def Notice.has (n : Notice) (name : String) : Bool :=
  name = "message" || (n.data.map Prod.fst).contains name

/-- What happens to a log. -/
inductive LogEvent where
  | notice (notice : Notice)
  /-- The activity is over. -/
  | closed (span : LogSpan)
  deriving DecidableEq, Repr

/-- The parts of the program. -/
def sourceOf (names : List String) : String := "::".intercalate ("msgexport" :: names)

end SearchExport
