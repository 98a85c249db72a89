import SearchExport.SortKey

/-!
# Usage

What keeps the arguments of a program from naming a command.
-/

set_option autoImplicit false

namespace SearchExport

/-- The name of the program. -/
def programName : String := "msgexport"

/-- The version of the program. -/
def programVersion : String := "0.4.0"

/-- Why arguments name no command. -/
inductive UsageFault where
  /-- Help is asked for. -/
  | helpAsked
  /-- The version is asked for. -/
  | versionAsked
  /-- There are no arguments at all. -/
  | nothingAsked
  /-- There are options but no command. -/
  | missingCommand
  | unknownCommand (text : String)
  | unknownArgument (text : String)
  /-- An option that is required is not given. -/
  | missingOption (name : String)
  /-- An option is given without the value that it needs. -/
  | missingValue (name : String)
  /-- An option is given with a value that it does not take. -/
  | excessValue (name text : String)
  /-- The value of an option is malformed. -/
  | badValue (name text : String)
  /-- An option is given twice. -/
  | repeated (name : String)
  deriving DecidableEq, Repr

namespace UsageFault

/-- How the program is called. -/
def synopsis : String :=
  "Usage: " ++ programName ++ " [--config PATH] [--log-level LEVEL] COMMAND\n" ++
  "Commands: export --search PATH [--search-type-id ID] [--fields NAMES] [--sort KEYS]\n" ++
  "            [--limit N] [--chunk-size N] [--output PATH]\n" ++
  "          validate-config\n" ++
  "          init [--output PATH] [--with-examples] [--force]\n" ++
  "          help"

/-- What is shown. -/
def message : UsageFault → String
  | .helpAsked => synopsis
  | .versionAsked => programName ++ " " ++ programVersion
  | .nothingAsked => synopsis
  | .missingCommand => "error: a command is required\n\n" ++ synopsis
  | .unknownCommand text => "error: unknown command '" ++ text ++ "'\n\n" ++ synopsis
  | .unknownArgument text => "error: unexpected argument '" ++ text ++ "'\n\n" ++ synopsis
  | .missingOption name => "error: --" ++ name ++ " is required\n\n" ++ synopsis
  | .missingValue name => "error: --" ++ name ++ " needs a value\n\n" ++ synopsis
  | .excessValue name text =>
    "error: --" ++ name ++ " takes no value, but '" ++ text ++ "' is given\n\n" ++ synopsis
  | .badValue name text => "error: '" ++ text ++ "' is no value of --" ++ name ++ "\n\n" ++ synopsis
  | .repeated name => "error: --" ++ name ++ " is given more than once\n\n" ++ synopsis

/-- Whether the program did what it was asked for. -/
def isAnswer : UsageFault → Bool
  | .helpAsked => true
  | .versionAsked => true
  | _ => false

/-- The exit code of a program that ends there. -/
def exitCode (f : UsageFault) : Nat := if f.isAnswer then 0 else 2

end UsageFault

end SearchExport
