import SearchExport.Config.Codec
import SearchExport.Config.Overrides
import SearchExport.Config.Substitution
import SearchExport.Config.Validation
import SearchExport.Disk
import SearchExport.Toml.Parser

/-!
# Loading the configuration

A configuration file is read, the variables in it are exchanged for their values, it is parsed, the
settings of the environment are put over it, and the outcome is checked.

* `Config.ofText` — the configuration that a text and an environment make;
* `Config.load` — the configuration of a file.
-/

set_option autoImplicit false

namespace SearchExport

/-- Why there is no configuration. -/
inductive LoadFault where
  | missing (path : String)
  | unreadable (path : String) (fault : DiskFault)
  /-- Variables that the text refers to are not set. -/
  | unset (names : List String)
  | malformed
  | override (fault : OverrideFault)
  | invalid (fault : ConfigFault)
  deriving DecidableEq, Repr

/-- The fault in words. -/
def LoadFault.message : LoadFault → String
  | .missing path => "Configuration file not found: " ++ path
  | .unreadable path fault =>
    "Failed to read configuration file " ++ path ++ ": " ++ fault.message
  | .unset names => "Missing required environment variables: " ++ ", ".intercalate names
  | .malformed => "Failed to parse TOML: the text denotes no configuration"
  | .override fault =>
    "Invalid value '" ++ fault.text ++ "' for environment variable " ++ fault.variableName
  | .invalid fault => "Configuration validation failed: " ++ fault.message

/-- The error that ends a command because of the fault. -/
def LoadFault.toError (f : LoadFault) : ExportError := .configuration f.message

namespace Config

/-- The configuration that a TOML text denotes. -/
def ofToml? (text : String) : Option Config := (Document.ofToml? text).bind (ofDocument? .toml)

/-- The configuration that the text of a file and an environment make. -/
def ofText (env : Environment) (text : String) : Except LoadFault Config := do
  let text ← (env.substitute text).mapError .unset
  match ofToml? text with
  | none => throw .malformed
  | some c =>
    let c ← (env.override c).mapError .override
    c.validate.mapError .invalid
    return c

/-- The configuration of a file. -/
def load (env : Environment) (disk : Disk) (path : String) : Except LoadFault Config :=
  if disk.holds path then
    match disk.read path with
    | .ok text => ofText env text
    | .error fault => .error (.unreadable path fault)
  else .error (.missing path)

end Config

end SearchExport
