import SearchExport.Config.Basic
import SearchExport.Search.Codec

/-!
# Configurations as documents

How the sections are read from a document, where every setting may be missing, and written as a JSON
value, where none is.
-/

set_option autoImplicit false

namespace SearchExport

open Document (fields? required? fieldOr? listOf? optional? natBelow?)

/-- The program settings that a document denotes. -/
def ApplicationSettings.ofDocument? (how : Document.Reading) (d : Document) :
    Option ApplicationSettings := do
  let f ← d.fields? how ["log_level"]
  let level ← fieldOr? f "log_level" "info" Document.text?
  return ⟨level⟩

/-- The retry settings that a document denotes. -/
def RetrySettings.ofDocument? (how : Document.Reading) (d : Document) : Option RetrySettings := do
  let base : RetrySettings := { }
  let f ← d.fields? how ["max_retries", "initial_delay_ms", "max_delay_ms", "backoff_multiplier"]
  let maxRetries ← fieldOr? f "max_retries" base.maxRetries (natBelow? UInt64.size)
  let initial ← fieldOr? f "initial_delay_ms" base.initialDelayMillis (natBelow? UInt64.size)
  let most ← fieldOr? f "max_delay_ms" base.maxDelayMillis (natBelow? UInt64.size)
  let multiplier ← fieldOr? f "backoff_multiplier" base.backoffMultiplier Document.double?
  return ⟨maxRetries, initial, most, multiplier⟩

/-- The secret that a document denotes. -/
def Secret.ofDocument? (d : Document) : Option Secret := d.text?.map Secret.mk

/-- The engine settings that a document denotes. -/
def ElasticsearchSettings.ofDocument? (how : Document.Reading) (d : Document) :
    Option ElasticsearchSettings := do
  let base : ElasticsearchSettings := { }
  let f ← d.fields? how ["base_url", "username", "password", "tls_verify", "timeout_seconds",
    "allow_leading_wildcard_searches", "retry"]
  let baseUrl ← fieldOr? f "base_url" base.baseUrl Document.text?
  let username ← fieldOr? f "username" none (optional? Document.text?)
  let password ← fieldOr? f "password" none (optional? Secret.ofDocument?)
  let tlsVerify ← fieldOr? f "tls_verify" base.tlsVerify Document.flag?
  let timeout ← fieldOr? f "timeout_seconds" base.timeoutSeconds (natBelow? UInt64.size)
  let allow ← fieldOr? f "allow_leading_wildcard_searches" base.allowLeadingWildcard Document.flag?
  let retry ← fieldOr? f "retry" base.retry (RetrySettings.ofDocument? how)
  return ⟨baseUrl, username, password, tlsVerify, timeout, allow, retry⟩

/-- The export settings that a document denotes. -/
def ExportSettings.ofDocument? (how : Document.Reading) (d : Document) : Option ExportSettings := do
  let base : ExportSettings := { }
  let f ← d.fields? how ["chunk_size", "default_fields"]
  let chunkSize ← fieldOr? f "chunk_size" base.chunkSize (natBelow? UInt64.size)
  let fields ← fieldOr? f "default_fields" base.fields (listOf? Document.text?)
  return ⟨chunkSize, fields⟩

/-- The index that a document denotes. -/
def IndexRange.ofDocument? (how : Document.Reading) (d : Document) : Option IndexRange := do
  let f ← d.fields? how ["index_name", "begin", "end", "streams"]
  let name ← required? f "index_name" Document.text?
  let first ← required? f "begin" Timestamp.ofDocument?
  let last ← required? f "end" Timestamp.ofDocument?
  let streams ← fieldOr? f "streams" [] (listOf? Document.text?)
  return ⟨name, first, last, streams⟩

/-- The index settings that a document denotes. -/
def IndexSettings.ofDocument? (how : Document.Reading) (d : Document) : Option IndexSettings := do
  let base := defaultIndexSettings
  let f ← d.fields? how ["default_patterns", "ranges"]
  let patterns ← fieldOr? f "default_patterns" base.defaultPatterns (listOf? Document.text?)
  let ranges ← fieldOr? f "ranges" base.ranges (listOf? (IndexRange.ofDocument? how))
  return ⟨patterns, ranges⟩

/-- The log settings that a document denotes. -/
def LogSettings.ofDocument? (how : Document.Reading) (d : Document) : Option LogSettings := do
  let base : LogSettings := { }
  let f ← d.fields? how ["local_enabled", "local_path", "local_rotation"]
  let enabled ← fieldOr? f "local_enabled" base.fileEnabled Document.flag?
  let path ← fieldOr? f "local_path" base.directory Document.text?
  let rotation ← fieldOr? f "local_rotation" base.rotation Document.text?
  return ⟨enabled, path, rotation⟩

/-- The configuration that a document denotes. -/
def Config.ofDocument? (how : Document.Reading) (d : Document) : Option Config := do
  let base : Config := { }
  let f ← d.fields? how ["application", "elasticsearch", "export", "indices", "logging"]
  let application ← fieldOr? f "application" base.application (ApplicationSettings.ofDocument? how)
  let elasticsearch ←
    fieldOr? f "elasticsearch" base.elasticsearch (ElasticsearchSettings.ofDocument? how)
  let exporting ← fieldOr? f "export" base.exporting (ExportSettings.ofDocument? how)
  let indices ← fieldOr? f "indices" base.indices (IndexSettings.ofDocument? how)
  let logging ← fieldOr? f "logging" base.logging (LogSettings.ofDocument? how)
  return ⟨application, elasticsearch, exporting, indices, logging⟩

/-! ## Writing -/

/-- A double as a JSON value; those without JSON text are written as their names. -/
def doubleValue (x : Binary64) : Value :=
  if x.isFinite then .number (.double x)
  else if x.isNan then .string "NaN"
  else if x.negative then .string "-inf"
  else .string "inf"

/-- The retry settings as a JSON value. -/
def RetrySettings.toValue (s : RetrySettings) : Value :=
  .object [("max_retries", .ofNat s.maxRetries), ("initial_delay_ms", .ofNat s.initialDelayMillis),
    ("max_delay_ms", .ofNat s.maxDelayMillis),
    ("backoff_multiplier", doubleValue s.backoffMultiplier)]

/-- The engine settings as a JSON value, the password in clear. -/
def ElasticsearchSettings.toValue (s : ElasticsearchSettings) : Value :=
  .object [("base_url", .string s.baseUrl), ("username", optionalText s.username),
    ("password", optionalText (s.password.map Secret.exposed)), ("tls_verify", .bool s.tlsVerify),
    ("timeout_seconds", .ofNat s.timeoutSeconds),
    ("allow_leading_wildcard_searches", .bool s.allowLeadingWildcard), ("retry", s.retry.toValue)]

/-- An index as a JSON value. -/
def IndexRange.toValue (r : IndexRange) : Value :=
  .object [("index_name", .string r.indexName), ("begin", .string r.first.text),
    ("end", .string r.last.text), ("streams", .ofTexts r.streams)]

/-- The configuration as a JSON value. -/
def Config.toValue (c : Config) : Value :=
  .object [
    ("application", .object [("log_level", .string c.application.logLevel)]),
    ("elasticsearch", c.elasticsearch.toValue),
    ("export", .object [("chunk_size", .ofNat c.exporting.chunkSize),
      ("default_fields", .ofTexts c.exporting.fields)]),
    ("indices", .object [("default_patterns", .ofTexts c.indices.defaultPatterns),
      ("ranges", .array (c.indices.ranges.map IndexRange.toValue))]),
    ("logging", .object [("local_enabled", .bool c.logging.fileEnabled),
      ("local_path", .string c.logging.directory),
      ("local_rotation", .string c.logging.rotation)])]

end SearchExport
