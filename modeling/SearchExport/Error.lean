import SearchExport.Text.Digits

/-!
# Errors of an export

What can end an export.  Failures of the search engine are kept as they are inside the errors of a
run.

* `EngineError`, `ExportError` — the causes;
* `message` — their texts;
* `ExportError.exitCode` — how a process reports them.
-/

set_option autoImplicit false

namespace SearchExport

/-- A failure while resolving indices or talking to the search engine. -/
inductive EngineError where
  /-- The query is malformed or not allowed. -/
  | query (detail : String)
  /-- A page could not be fetched. -/
  | execution (detail : String)
  /-- The indices of a request could not be found. -/
  | indexResolution (detail : String)
  /-- The engine could not be reached. -/
  | connectionFailed (detail : String)
  /-- The answer of the engine could not be read. -/
  | invalidResponse (detail : String)
  /-- The engine reported a failure of its own. -/
  | serverError (status : Nat) (detail : String)
  deriving DecidableEq, Repr

namespace EngineError

/-- The text of the error. -/
def message : EngineError → String
  | .query d => "Invalid query: " ++ d
  | .execution d => "Search execution failed: " ++ d
  | .indexResolution d => "Index resolution failed: " ++ d
  | .connectionFailed d => "Failed to connect to search engine: " ++ d
  | .invalidResponse d => "Invalid response from search engine: " ++ d
  | .serverError status d => "Server error: " ++ Text.ofNat status ++ " - " ++ d

/-- Whether the query was at fault. -/
def isQueryError : EngineError → Bool
  | .query _ => true
  | _ => false

/-- Whether the same request may succeed later. -/
def isTransient : EngineError → Bool
  | .connectionFailed _ => true
  | .serverError _ _ => true
  | _ => false

end EngineError

/-- What ends an export before it is complete. -/
inductive ExportError where
  /-- The search does not say what to export, or a setting is wrong. -/
  | configuration (detail : String)
  /-- The selected part of the search is no message list. -/
  | unsupportedSearchType (detail : String)
  /-- A value of the request is not allowed. -/
  | validation (detail : String)
  /-- The engine failed. -/
  | engine (cause : EngineError)
  /-- The sink refused a chunk. -/
  | sink (detail : String)
  /-- A shutdown was asked for after so many chunks. -/
  | interrupted (chunks : Nat)
  deriving DecidableEq, Repr

namespace ExportError

/-- The text of the error. -/
def message : ExportError → String
  | .configuration d => "Configuration error: " ++ d
  | .unsupportedSearchType d => "Unsupported search type: " ++ d
  | .validation d => "Validation error: " ++ d
  | .engine cause => "Export failed: " ++ cause.message
  | .sink d => "Sink error: " ++ d
  | .interrupted n => "Export interrupted after " ++ Text.ofNat n ++ " chunk(s)"

/-- The failure of the engine behind the error. -/
def engineCause? : ExportError → Option EngineError
  | .engine cause => some cause
  | _ => none

/-- The exit code of a process that ends with the error: 2 when the request or the configuration is
wrong, 4 when the engine cannot be reached or fails, 130 after an interrupt and 5 otherwise. -/
def exitCode : ExportError → Nat
  | .configuration _ => 2
  | .unsupportedSearchType _ => 2
  | .validation _ => 2
  | .engine (.query _) => 2
  | .engine _ => 4
  | .interrupted _ => 130
  | .sink _ => 5

end ExportError

end SearchExport
