import SearchExport.Binary64.Basic
import SearchExport.Config.Secret
import SearchExport.Engine.Indices
import SearchExport.Request

/-!
# Configuration

The settings of the program, section by section, with their defaults.
-/

set_option autoImplicit false

namespace SearchExport

/-- Settings of the program itself. -/
structure ApplicationSettings where
  logLevel : String := "info"
  deriving DecidableEq

/-- When a failed request to the engine is sent again. -/
structure RetrySettings where
  maxRetries : Nat := 3
  initialDelayMillis : Nat := 1000
  maxDelayMillis : Nat := 30000
  /-- The factor by which the delay grows with every retry. -/
  backoffMultiplier : Binary64 := Binary64.ofNat 2
  deriving DecidableEq

/-- How the engine is reached. -/
structure ElasticsearchSettings where
  baseUrl : String := "http://localhost:9200"
  username : Option String := none
  password : Option Secret := none
  /-- Whether certificates are checked. -/
  tlsVerify : Bool := true
  timeoutSeconds : Nat := 60
  /-- Whether terms of a query string may start with a wildcard. -/
  allowLeadingWildcard : Bool := false
  retry : RetrySettings := { }
  deriving DecidableEq

/-- Defaults of exports. -/
structure ExportSettings where
  chunkSize : Nat := defaultChunkSize
  fields : List String := defaultFields
  deriving DecidableEq

/-- The pattern that is searched when nothing is known about indices. -/
def defaultIndexSettings : IndexSettings where
  defaultPatterns := ["graylog_*"]
  ranges := []

/-- Settings of the log file. -/
structure LogSettings where
  /-- Whether a log file is written. -/
  fileEnabled : Bool := true
  /-- The directory of the log files. -/
  directory : String := "/var/log/msgexport"
  /-- How often a new file is started. -/
  rotation : String := "daily"
  deriving DecidableEq

/-- All settings. -/
structure Config where
  application : ApplicationSettings := { }
  elasticsearch : ElasticsearchSettings := { }
  exporting : ExportSettings := { }
  indices : IndexSettings := defaultIndexSettings
  logging : LogSettings := { }
  deriving DecidableEq

end SearchExport
