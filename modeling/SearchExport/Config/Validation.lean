import SearchExport.Config.Basic

/-!
# Validation of the configuration

The first setting that is not allowed, section by section.

* `Config.validate` — the check of all sections;
* `ConfigFault.message` — what is wrong in words.
-/

set_option autoImplicit false

namespace SearchExport

/-- The largest size of a chunk that a configuration may ask for. -/
def maxChunkSize : Nat := 10000

/-- The levels of the log. -/
def logLevelNames : List String := ["trace", "debug", "info", "warn", "error"]

/-- How often a new log file may be started. -/
def rotationNames : List String := ["daily", "hourly", "never"]

/-- What is wrong with a configuration. -/
inductive ConfigFault where
  | unknownLogLevel (name : String)
  | emptyBaseUrl
  | foreignBaseUrl
  | halfCredentials
  | zeroTimeout
  | tooManyRetries
  | shrinkingBackoff
  | delaysReversed
  | chunkSizeOutOfRange
  | noDefaultFields
  | blankDefaultField
  | noIndices
  | blankIndexName
  | indexRangeReversed (name : String)
  | unknownRotation (name : String)
  deriving DecidableEq, Repr

/-- The fault in words. -/
def ConfigFault.message : ConfigFault → String
  | .unknownLogLevel name =>
    "Invalid log_level '" ++ name ++ "'. Must be one of: " ++ ", ".intercalate logLevelNames
  | .emptyBaseUrl => "elasticsearch.base_url cannot be empty"
  | .foreignBaseUrl => "elasticsearch.base_url must start with http:// or https://"
  | .halfCredentials => "elasticsearch.username and elasticsearch.password must be set together"
  | .zeroTimeout => "elasticsearch.timeout_seconds must be > 0"
  | .tooManyRetries => "elasticsearch.retry.max_retries must be <= 10"
  | .shrinkingBackoff => "elasticsearch.retry.backoff_multiplier must be >= 1.0"
  | .delaysReversed => "elasticsearch.retry.initial_delay_ms must be <= max_delay_ms"
  | .chunkSizeOutOfRange =>
    "export.chunk_size must be between 1 and " ++ Text.ofNat maxChunkSize
  | .noDefaultFields => "export.default_fields cannot be empty"
  | .blankDefaultField => "export.default_fields cannot contain empty names"
  | .noIndices =>
    "indices.default_patterns cannot be empty when no indices.ranges are configured"
  | .blankIndexName => "indices.ranges.index_name cannot be empty"
  | .indexRangeReversed name => "indices.ranges '" ++ name ++ "': begin must not be after end"
  | .unknownRotation name =>
    "Invalid logging.local_rotation '" ++ name ++ "'. Must be one of: " ++
      ", ".intercalate rotationNames

/-- Fails with the fault unless the condition holds. -/
def require (condition : Bool) (fault : ConfigFault) : Except ConfigFault Unit :=
  if condition then .ok () else .error fault

/-- The check of the program settings. -/
def ApplicationSettings.validate (s : ApplicationSettings) : Except ConfigFault Unit :=
  require (logLevelNames.contains s.logLevel) (.unknownLogLevel s.logLevel)

/-- The check of the retry settings. -/
def RetrySettings.validate (s : RetrySettings) : Except ConfigFault Unit := do
  require (s.maxRetries ≤ 10) .tooManyRetries
  require (!s.backoffMultiplier.lt (Binary64.ofNat 1)) .shrinkingBackoff
  require (s.initialDelayMillis ≤ s.maxDelayMillis) .delaysReversed

/-- Whether a password is set that is not empty. -/
def ElasticsearchSettings.hasPassword (s : ElasticsearchSettings) : Bool :=
  match s.password with
  | some p => !p.isEmpty
  | none => false

/-- Whether the base address is one of the web. -/
def ElasticsearchSettings.hasWebUrl (s : ElasticsearchSettings) : Bool :=
  let cs := s.baseUrl.toList
  (Text.dropLeading "http://".toList cs).isSome || (Text.dropLeading "https://".toList cs).isSome

/-- The check of the engine settings. -/
def ElasticsearchSettings.validate (s : ElasticsearchSettings) : Except ConfigFault Unit := do
  require (s.baseUrl ≠ "") .emptyBaseUrl
  require s.hasWebUrl .foreignBaseUrl
  require (s.username.isSome == s.hasPassword) .halfCredentials
  require (s.timeoutSeconds ≠ 0) .zeroTimeout
  s.retry.validate

/-- The check of the export settings. -/
def ExportSettings.validate (s : ExportSettings) : Except ConfigFault Unit := do
  require (s.chunkSize ≠ 0 && s.chunkSize ≤ maxChunkSize) .chunkSizeOutOfRange
  require (!s.fields.isEmpty) .noDefaultFields
  require (!s.fields.any Text.isBlank) .blankDefaultField

/-- The check of one index. -/
def IndexRange.validate (r : IndexRange) : Except ConfigFault Unit := do
  require (!Text.isBlank r.indexName) .blankIndexName
  require (decide (r.first ≤ r.last)) (.indexRangeReversed r.indexName)

/-- The check of the index settings. -/
def IndexSettings.validate (s : IndexSettings) : Except ConfigFault Unit := do
  require (!(s.ranges.isEmpty && s.defaultPatterns.isEmpty)) .noIndices
  s.ranges.forM IndexRange.validate

/-- The check of the log settings. -/
def LogSettings.validate (s : LogSettings) : Except ConfigFault Unit :=
  require (rotationNames.contains s.rotation) (.unknownRotation s.rotation)

/-- The check of all sections, one after the other. -/
def Config.validate (c : Config) : Except ConfigFault Unit := do
  c.application.validate
  c.elasticsearch.validate
  c.exporting.validate
  c.indices.validate
  c.logging.validate

end SearchExport
