import SearchExport.Json.Value

/-!
# Environments

The variables that a process is started with.

* `Environment.ofEntries` — the variables of a list, of which the first one of a name counts;
* `Environment.define` — a variable that does not replace one that is set.
-/

set_option autoImplicit false

namespace SearchExport

/-- Variables and their values. -/
structure Environment where
  /-- The value of a variable that is set. -/
  get? : String → Option String := fun _ => none

namespace Environment

/-- The variables of a list. -/
def ofEntries (entries : List (String × String)) : Environment where
  get? name := lookupEntry name entries

/-- Sets a variable unless it is set already. -/
def define (env : Environment) (name value : String) : Environment where
  get? other :=
    match env.get? other with
    | some v => some v
    | none => if other = name then some value else none

end Environment

end SearchExport
