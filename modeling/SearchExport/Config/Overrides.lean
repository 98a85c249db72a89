import SearchExport.Config.Basic
import SearchExport.Environment.Basic
import SearchExport.Text.Split

/-!
# Settings from the environment

Some settings can be set by a variable of the environment, whatever the configuration file says.

* `overrides` — these variables and what they set;
* `Environment.override` — the configuration with the settings of the environment.
-/

set_option autoImplicit false

namespace SearchExport

/-! ## Values of variables -/

/-- The flag that a text denotes. -/
def flagOf? (text : String) : Option Bool :=
  let word := Text.trim text
  if word = "true" then some true else if word = "false" then some false else none

/-- The number of at most 64 bits that a text denotes. -/
def countOf? (text : String) : Option Nat := Text.natWithin? (UInt64.size - 1) (Text.trimChars text.toList)

/-- The items of a list with commas, trimmed and without blank ones. -/
def itemsOf (text : String) : List String :=
  ((Text.split ',' text).map Text.trim).filter (· ≠ "")

/-! ## Overrides -/

/-- A variable that overrides a setting. -/
structure Override where
  variableName : String
  /-- The configuration with the setting that a text denotes, if it denotes one. -/
  set? : String → Config → Option Config

namespace Override

/-- Overrides a setting of the engine. -/
def ofElasticsearch (name : String)
    (change : String → ElasticsearchSettings → Option ElasticsearchSettings) : Override where
  variableName := name
  set? text c := (change text c.elasticsearch).map fun s => { c with elasticsearch := s }

/-- Overrides a setting of exports. -/
def ofExport (name : String) (change : String → ExportSettings → Option ExportSettings) : Override where
  variableName := name
  set? text c := (change text c.exporting).map fun s => { c with exporting := s }

/-- Overrides a setting of the log file. -/
def ofLog (name : String) (change : String → LogSettings → Option LogSettings) : Override where
  variableName := name
  set? text c := (change text c.logging).map fun s => { c with logging := s }

end Override

/-- The variables that override settings, in the order in which they are looked at. -/
def overrides : List Override :=
  [⟨"MSGEXPORT_APPLICATION_LOG_LEVEL", fun text c =>
      some { c with application := { c.application with logLevel := text } }⟩,
    .ofElasticsearch "MSGEXPORT_ELASTICSEARCH_BASE_URL" fun text s =>
      some { s with baseUrl := text },
    .ofElasticsearch "MSGEXPORT_ELASTICSEARCH_USERNAME" fun text s =>
      some { s with username := some text },
    .ofElasticsearch "MSGEXPORT_ELASTICSEARCH_PASSWORD" fun text s =>
      some { s with password := some ⟨text⟩ },
    .ofElasticsearch "MSGEXPORT_ELASTICSEARCH_TLS_VERIFY" fun text s =>
      (flagOf? text).map fun b => { s with tlsVerify := b },
    .ofElasticsearch "MSGEXPORT_ELASTICSEARCH_TIMEOUT_SECONDS" fun text s =>
      (countOf? text).map fun n => { s with timeoutSeconds := n },
    .ofElasticsearch "MSGEXPORT_ELASTICSEARCH_ALLOW_LEADING_WILDCARD_SEARCHES" fun text s =>
      (flagOf? text).map fun b => { s with allowLeadingWildcard := b },
    .ofExport "MSGEXPORT_EXPORT_CHUNK_SIZE" fun text s =>
      (countOf? text).map fun n => { s with chunkSize := n },
    .ofExport "MSGEXPORT_EXPORT_DEFAULT_FIELDS" fun text s =>
      some { s with fields := itemsOf text },
    ⟨"MSGEXPORT_INDICES_DEFAULT_PATTERNS", fun text c =>
      some { c with indices := { c.indices with defaultPatterns := itemsOf text } }⟩,
    .ofLog "MSGEXPORT_LOGGING_LOCAL_ENABLED" fun text s =>
      (flagOf? text).map fun b => { s with fileEnabled := b },
    .ofLog "MSGEXPORT_LOGGING_LOCAL_PATH" fun text s => some { s with directory := text },
    .ofLog "MSGEXPORT_LOGGING_LOCAL_ROTATION" fun text s => some { s with rotation := text }]

/-- A variable whose text denotes no value of its setting. -/
structure OverrideFault where
  variableName : String
  text : String
  deriving DecidableEq, Repr

namespace Environment

/-- The configuration with one setting of the environment. -/
def overrideOne (env : Environment) (c : Config) (o : Override) : Except OverrideFault Config :=
  match env.get? o.variableName with
  | none => .ok c
  | some text =>
    match o.set? text c with
    | some c => .ok c
    | none => .error ⟨o.variableName, text⟩

/-- The configuration with the settings of the environment. -/
def override (env : Environment) (c : Config) : Except OverrideFault Config :=
  overrides.foldlM env.overrideOne c

end Environment

end SearchExport
