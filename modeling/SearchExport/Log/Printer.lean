import SearchExport.Json.Printer
import SearchExport.Log.Notice
import SearchExport.Text.Quoted
import SearchExport.Timestamp.Printer

/-!
# Written notices

A notice is a line on the console and a record of JSON in a file.

* `Notice.line` — the line on the console;
* `Notice.record`, `LogSpan.closingRecord` — the records of a file.
-/

set_option autoImplicit false

namespace SearchExport

/-! ## Times -/

/-- A time to the microsecond. -/
def Timestamp.microText (t : Timestamp) : String :=
  String.ofList (t.dateText ++ ['T'] ++ t.clockText ++ ['.'] ++
    Text.paddedDigits 6 (t.subsecond / 1000) ++ ['Z'])

/-! ## Lines -/

/-- A value as it stands in a line. -/
def Datum.text : Datum → String
  | .quoted s => Text.quoted s
  | .plain s => s
  | .count n => Text.ofNat n
  | .flag b => if b then "true" else "false"

/-- Named data with blanks between them. -/
def dataText (data : List (String × Datum)) : String :=
  " ".intercalate (data.map fun d => d.1 ++ "=" ++ d.2.text)

/-- An activity in front of a message. -/
def LogSpan.text (s : LogSpan) : String := s.name ++ "\x7b" ++ dataText s.data ++ "\x7d: "

/-- A level, filled up with blanks in front to the length of the longest one. -/
def LogLevel.column (l : LogLevel) : String :=
  String.ofList (List.replicate (5 - l.name.length) ' ') ++ l.name

/-- The message of a notice with all that belongs to it. -/
def Notice.text (n : Notice) : String :=
  let said := if n.data.isEmpty then n.message else n.message ++ " " ++ dataText n.data
  match n.span with
  | some s => s.text ++ said
  | none => said

/-- A notice as a line. -/
def Notice.line (now : Timestamp) (n : Notice) : String :=
  now.microText ++ " " ++ n.level.column ++ " " ++ n.text

/-! ## Records -/

/-- A value in a record. -/
def Datum.toValue : Datum → Value
  | .quoted s => .string s
  | .plain s => .string s
  | .count n => .ofNat n
  | .flag b => .bool b

/-- Named data as members of a record. -/
def dataMembers (data : List (String × Datum)) : List (String × Value) :=
  data.map fun d => (d.1, d.2.toValue)

/-- An activity in a record. -/
def LogSpan.toValue (s : LogSpan) : Value :=
  .object (dataMembers s.data ++ [("name", .string s.name)])

/-- A record of a file. -/
def recordValue (now : Timestamp) (level : LogLevel) (source : String)
    (fields : List (String × Value)) (span : Option LogSpan) : Value :=
  .object ([("timestamp", .string now.microText), ("level", .string level.name),
    ("fields", .object fields), ("target", .string source)] ++
    match span with
    | some s => [("span", s.toValue), ("spans", .array [s.toValue])]
    | none => [])

/-- A notice as a record. -/
def Notice.record (now : Timestamp) (n : Notice) : Value :=
  recordValue now n.level n.source (("message", .string n.message) :: dataMembers n.data) n.span

/-- The record at the end of an activity. -/
def LogSpan.closingRecord (now : Timestamp) (s : LogSpan) : Value :=
  recordValue now s.level s.source [("message", .string "close")] (some s)

end SearchExport
