import SearchExport.Command.Line
import SearchExport.Command.Report
import SearchExport.Command.Sample

/-!
# Writing a configuration file

The command that writes a sample of a configuration file.  A file that is there is kept unless it may be
replaced.
-/

set_option autoImplicit false

namespace SearchExport

namespace InitArguments

/-- The content of the file. -/
def content (a : InitArguments) : String :=
  if a.withExamples then explainedSample else minimalSample

/-- What is said when the file is written. -/
def advice (a : InitArguments) : List String :=
  ["✅ Configuration file created: " ++ a.output, "", "Next steps:",
    "  1. Edit " ++ a.output ++ " with your cluster settings",
    "  2. For secured clusters set MSGEXPORT_ELASTICSEARCH_USERNAME and",
    "     MSGEXPORT_ELASTICSEARCH_PASSWORD (or a .env file)",
    "  3. Validate configuration: msgexport validate-config",
    "  4. Run export: msgexport export --search search.json", ""]

/-- What the command says, the disk that it leaves, and its exit code. -/
def outcome (a : InitArguments) (disk : Disk) : List String × Disk × Nat :=
  if disk.holds a.output && !a.force then
    (["❌ Configuration file already exists: " ++ a.output, "   Use --force to overwrite"], disk, 2)
  else
    match disk.write a.output a.content with
    | .ok disk => (a.advice, disk, 0)
    | .error f =>
      (["❌ Failed to write configuration file", "   Error: " ++ f.message], disk, 5)

/-- Carries out the command. -/
def run (a : InitArguments) (disk : Disk) : Report :=
  let started : Notice := ⟨.info, commandSource "init", "Initializing configuration file",
    [("output", .plain a.output)], none⟩
  let (lines, disk, code) := a.outcome disk
  ⟨.notice started ::
    ("📝 Initializing msgexport configuration" :: "" :: lines).map Output.out, disk, .ok code⟩

end InitArguments

end SearchExport
