import SearchExport.Log.Notice

/-!
# Output of a program

What a program shows while it runs, in order: lines on its two outputs, and what its log is told.
-/

set_option autoImplicit false

namespace SearchExport

/-- Something that a program shows. -/
inductive Output where
  /-- A line on the standard output. -/
  | out (line : String)
  /-- A line on the error output. -/
  | err (line : String)
  | log (event : LogEvent)
  deriving DecidableEq, Repr

namespace Output

/-- Tells the log something. -/
def notice (n : Notice) : Output := .log (.notice n)

/-- The lines of the standard output. -/
def outLines (outputs : List Output) : List String :=
  outputs.filterMap fun
    | .out line => some line
    | _ => none

/-- What the log was told. -/
def events (outputs : List Output) : List LogEvent :=
  outputs.filterMap fun
    | .log event => some event
    | _ => none

end Output

end SearchExport
