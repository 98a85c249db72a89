import SearchExport.Config.Validation

/-!
# Levels of the log

How important a notice is, and the least important notices that are still written.

* `LogLevel.ofText` — the level that a setting names;
* `Threshold.admits` — whether notices of a level are written.
-/

set_option autoImplicit false

namespace SearchExport

/-- How important a notice is, most important last. -/
inductive LogLevel where
  | trace
  | debug
  | info
  | warn
  | error
  deriving DecidableEq, Repr

namespace LogLevel

/-- The name of a level as it is written. -/
def name : LogLevel → String
  | .trace => "TRACE"
  | .debug => "DEBUG"
  | .info => "INFO"
  | .warn => "WARN"
  | .error => "ERROR"

/-- How much is written when the level is the least important one: one for errors alone, five for
everything. -/
def verbosity : LogLevel → Nat
  | .error => 1
  | .warn => 2
  | .info => 3
  | .debug => 4
  | .trace => 5

/-- The level with the given name in lower case. -/
def ofName? (name : String) : Option LogLevel :=
  if name = "trace" then some .trace
  else if name = "debug" then some .debug
  else if name = "info" then some .info
  else if name = "warn" then some .warn
  else if name = "error" then some .error
  else none

end LogLevel

/-- A text that names no level. -/
structure UnknownLevel where
  name : String
  deriving DecidableEq, Repr

/-- The fault in words. -/
def UnknownLevel.message (f : UnknownLevel) : String :=
  "Invalid log level '" ++ f.name ++ "'. Must be one of: " ++ ", ".intercalate logLevelNames

/-- The level that a setting names, in letters of any case and with blanks around. -/
def LogLevel.ofText (text : String) : Except UnknownLevel LogLevel :=
  let name := Text.lowerAscii (Text.trim text)
  match LogLevel.ofName? (if name = "warning" then "warn" else name) with
  | some l => .ok l
  | none => .error ⟨name⟩

/-- The least important level that is written; without one nothing is. -/
abbrev Threshold := Option LogLevel

namespace Threshold

/-- How much is written. -/
def verbosity : Threshold → Nat
  | some l => l.verbosity
  | none => 0

/-- Whether notices of a level are written. -/
def admits (t : Threshold) (l : LogLevel) : Bool := l.verbosity ≤ t.verbosity

/-- The threshold that writes more. -/
def max (s t : Threshold) : Threshold := if s.verbosity < t.verbosity then t else s

/-- The threshold of a verbosity. -/
def ofVerbosity? : Nat → Option Threshold
  | 0 => some none
  | 1 => some (some .error)
  | 2 => some (some .warn)
  | 3 => some (some .info)
  | 4 => some (some .debug)
  | 5 => some (some .trace)
  | _ => none

/-- The threshold that a text names: its verbosity, or the name of a level in letters of any case. -/
def ofText? (text : String) : Option Threshold :=
  match (Text.natWithin? 5 text.toList).bind ofVerbosity? with
  | some t => some t
  | none =>
    let name := Text.lowerAscii text
    if name = "off" then some none else (LogLevel.ofName? name).map some

end Threshold

end SearchExport
