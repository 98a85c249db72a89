import SearchExport.Command.Report
import SearchExport.Config.Load

/-!
# Checking the configuration

The command that loads the configuration and shows what it says.
-/

set_option autoImplicit false

namespace SearchExport

/-- A setting that is on or off. -/
def flagText (b : Bool) : String := if b then "true" else "false"

/-- The settings in words. -/
def Config.overview (c : Config) : List String :=
  let engine := c.elasticsearch
  ["Configuration Summary:",
    "  Log Level: " ++ c.application.logLevel,
    "  Elasticsearch: " ++ engine.baseUrl,
    "  Authentication: " ++
      match engine.username with
      | some name => "basic (" ++ name ++ ")"
      | none => "none",
    "  TLS Verify: " ++ flagText engine.tlsVerify,
    "  Leading Wildcards: " ++ flagText engine.allowLeadingWildcard,
    "  Max Retries: " ++ Text.ofNat engine.retry.maxRetries,
    "  Chunk Size: " ++ Text.ofNat c.exporting.chunkSize,
    "  Default Fields: " ++ ", ".intercalate c.exporting.fields,
    if c.indices.ranges.isEmpty then
      "  Index Patterns: " ++ ", ".intercalate c.indices.defaultPatterns
    else "  Index Ranges: " ++ Text.ofNat c.indices.ranges.length] ++
  (if c.logging.fileEnabled then
    ["  Log Files: " ++ c.logging.directory ++ " (" ++ c.logging.rotation ++ ")"]
  else []) ++ [""]

/-- Carries out the command that checks the configuration file. -/
def validateConfig (env : Environment) (disk : Disk) (path : String) : Report :=
  let started : Notice := ⟨.info, commandSource "validate", "Validating configuration",
    [("config_path", .plain path)], none⟩
  let (lines, code) := match Config.load env disk path with
    | .ok c => ("✅ Configuration is valid" :: "" :: c.overview, 0)
    | .error f =>
      (["❌ Configuration is invalid", "   Error: " ++ f.toError.message], 2)
  ⟨.notice started ::
    (("🔍 Validating configuration file: " ++ path) :: "" :: lines).map Output.out, disk, .ok code⟩

end SearchExport
