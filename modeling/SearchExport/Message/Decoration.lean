import SearchExport.Json.Printer
import SearchExport.Message.Basic
import SearchExport.Search.Basic
import SearchExport.Text.Blank
import SearchExport.Text.Digits
import SearchExport.Text.Scan

/-!
# Decorating messages

Decorators change the fields of messages and nothing else.  They are applied one after the other, by
ascending order; those of equal order as they are listed.

* `renderPattern` — a pattern filled with the fields of a message;
* `Decoration.apply` — one decorator on one message;
* `decorateChunk` — all decorators on all messages of a chunk.
-/

set_option autoImplicit false

namespace SearchExport

/-! ## Patterns -/

/-- The field that a placeholder names; the blanks around the name do not count. -/
def placeholderField (name : List Char) : String := Text.trim (String.ofList name)

/-- What a placeholder stands for: a text as it is, nothing for a field that is missing or null, and
all else as JSON text. -/
def placeholderText (m : Message) (name : List Char) : List Char :=
  match m.get? (placeholderField name) with
  | some (.string s) => s.toList
  | some .null => []
  | none => []
  | some v => v.render

/-- Whether the field of a placeholder is missing or null. -/
def placeholderIsMissing (m : Message) (name : List Char) : Bool :=
  match m.get? (placeholderField name) with
  | some .null => true
  | none => true
  | some _ => false

/-- The segments of a pattern. -/
def patternSegments (pattern : String) : List (Text.Segment (List Char)) :=
  Text.scan Text.placeholder? 0 pattern.toList

/-- The pattern filled with the fields of a message; nothing when all fields are required and one is
missing. -/
def renderPattern (pattern : String) (m : Message) (requireAll : Bool) : Option String :=
  let segments := patternSegments pattern
  if requireAll && (Text.tokens segments).any (placeholderIsMissing m) then none
  else some (String.ofList (Text.render (placeholderText m) segments))

/-! ## Severities -/

/-- The names of the severities, by number. -/
def severityNames : List String :=
  ["Emergency", "Alert", "Critical", "Error", "Warning", "Notice", "Informational", "Debug"]

/-- The name of the severity that a value denotes, as a number or as its text. -/
def severityName? : Value → Option String
  | .number (.int i) => if 0 ≤ i then severityNames[i.toNat]? else none
  | .string s => (Text.natWithin? (UInt64.size - 1) (Text.trim s).toList).bind fun n => severityNames[n]?
  | _ => none

/-! ## Decorators -/

/-- The message with one field set. -/
def Message.set (m : Message) (name : String) (v : Value) : Message :=
  { m with fields := m.fields.set name v }

/-- The message after one decorator. -/
def Decoration.apply (d : Decoration) (m : Message) : Message :=
  match d with
  | .formatString target pattern requireAll =>
    match renderPattern pattern m requireAll with
    | some s => m.set target (.string s)
    | none => m
  | .syslogSeverity source target =>
    match (m.get? source).bind severityName? with
    | some name => m.set target (.string name)
    | none => m
  | .fieldRename source target => { m with fields := m.fields.rename source target }

/-- The decorators in the order in which they are applied. -/
def inApplicationOrder (ds : List Decorator) : List Decorator :=
  ds.mergeSort fun a b => decide (a.order ≤ b.order)

/-- The message after all decorators. -/
def decorateMessage (ds : List Decorator) (m : Message) : Message :=
  (inApplicationOrder ds).foldl (fun m d => d.decoration.apply m) m

/-- The chunk with all its messages decorated. -/
def decorateChunk (ds : List Decorator) (c : Chunk) : Chunk :=
  { c with messages := c.messages.map (decorateMessage ds) }

end SearchExport
