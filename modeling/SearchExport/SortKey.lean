import SearchExport.Text.Blank
import SearchExport.Text.Lowercase
import SearchExport.Text.Split

/-!
# Sort keys

A field and a direction, written `field:order`.

* `SortKey.text` — the written form;
* `SortKey.ofText` — reading it: the part after the last colon is the direction, and without a colon
  the direction is ascending.
-/

set_option autoImplicit false

namespace SearchExport

/-- The direction of a sort. -/
inductive SortOrder where
  | ascending
  | descending
  deriving DecidableEq, Repr

/-- The short name of a direction. -/
def SortOrder.text : SortOrder → String
  | .ascending => "asc"
  | .descending => "desc"

/-- A sort key. -/
structure SortKey where
  field : String
  order : SortOrder
  deriving DecidableEq, Repr

/-- Why a text is no sort key. -/
inductive SortFault where
  /-- The direction, in lower case, has no such name. -/
  | unknownOrder (lowered : String)
  /-- The text names no field. -/
  | missingField (text : String)
  deriving DecidableEq, Repr

/-- The fault in words. -/
def SortFault.message : SortFault → String
  | .unknownOrder lowered => "Invalid sort order '" ++ lowered ++ "'. Must be one of: asc, desc"
  | .missingField text => "Invalid sort '" ++ text ++ "': field name cannot be empty"

/-- The direction that a text names, in any letter case. -/
def SortOrder.ofText (s : String) : Except SortFault SortOrder :=
  let lowered := Text.lower s
  if lowered = "asc" ∨ lowered = "ascending" then .ok .ascending
  else if lowered = "desc" ∨ lowered = "descending" then .ok .descending
  else .error (.unknownOrder lowered)

namespace SortKey

/-- The written form of a sort key. -/
def text (k : SortKey) : String := k.field ++ ":" ++ k.order.text

/-- The sort key that a text denotes. -/
def ofText (s : String) : Except SortFault SortKey :=
  let trimmed := Text.trim s
  match Text.cutLast ':' trimmed.toList with
  | some (field, order) => do
    let field := Text.trim (String.ofList field)
    let order ← SortOrder.ofText (String.ofList order)
    if field = "" then .error (.missingField trimmed) else return ⟨field, order⟩
  | none =>
    if trimmed = "" then .error (.missingField trimmed) else .ok ⟨trimmed, .ascending⟩

end SortKey

end SearchExport
