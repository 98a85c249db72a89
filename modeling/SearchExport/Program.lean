import SearchExport.Command.Export
import SearchExport.Command.Init
import SearchExport.Command.Validate
import SearchExport.Environment.File
import SearchExport.Log.Logger

/-!
# The program

From the arguments to the exit code: the environment file is read, the arguments name a command, the log
is opened as the configuration asks, and the command is carried out.

* `CommandLine.run` — a command without its log;
* `Program.run` — a whole run of the program;
* `Program.paths` — the files that a run looks at.
-/

set_option autoImplicit false

namespace SearchExport

/-- Carries out the command of a command line. -/
def CommandLine.run {π : Type} (line : CommandLine) (w : Surroundings) (disk : Disk) (peer : Peer π)
    (s : π) : Report × π :=
  match line.command with
  | .export a => a.run w disk line.config peer s
  | .validateConfig => (validateConfig w.environment disk line.config, s)
  | .init a => (a.run disk, s)

namespace Program

/-- What a run of the program leaves behind. -/
structure Trace (π : Type) where
  /-- The lines of the standard output. -/
  out : List String
  /-- The lines of the error output, those of the log among them. -/
  err : List String
  disk : Disk
  peer : π
  exitCode : Nat

/-- A notice of the program itself. -/
def notice (level : LogLevel) (message : String) (data : List (String × Datum)) : Output :=
  .notice ⟨level, sourceOf [], message, data, none⟩

/-- What is shown when the disk fails in a command that did not expect it, and the exit code. -/
def conclude : Except DiskFault Nat → List Output × Nat
  | .ok code => ([], code)
  | .error f =>
    ([notice .error "Command execution failed" [("error", .plain f.message)],
      .err ("Error: " ++ f.message)], 5)

/-- The log of a command: the command line names its level, or else the configuration file does, and
without a configuration nothing is written to files. -/
def openLog (line : CommandLine) (w : Surroundings) (disk : Disk) :
    Except ExportError (Logger × Disk) :=
  let config := (Config.load w.environment disk line.config).toOption
  let level := (line.logLevel <|> config.map fun c => c.application.logLevel).getD "info"
  let settings : LogSettings := (config.map Config.logging).getD { fileEnabled := false }
  Logger.start w.environment disk w.now level settings

/-- The lines of the error output. -/
def errorLines (log : Logger) (now : Timestamp) (outputs : List Output) : List String :=
  outputs.filterMap fun
    | .out _ => none
    | .err line => some line
    | .log event => log.line? now event

/-- Runs the program with its arguments, its own name not among them. -/
def run {π : Type} (w : Surroundings) (disk : Disk) (arguments : List String) (peer : Peer π) (s : π) :
    Except UsageFault (Trace π) := do
  let w := { w with environment := w.environment.withFileOf disk }
  let line ← CommandLine.ofArguments w.environment arguments
  match openLog line w disk with
  | .error e =>
    return ⟨[], ["Failed to initialize logging: " ++ e.message], disk, s, 5⟩
  | .ok (log, disk) =>
    let (report, s) := line.run w disk peer s
    let (closing, code) := conclude report.status
    let outputs := .notice log.greeting ::
      notice .info "msgexport starting" [("version", .quoted programVersion)] ::
      report.outputs ++ closing
    return {
      out := Output.outLines outputs
      err := errorLines log w.now outputs
      disk := log.save w.now (Output.events outputs) report.disk
      peer := s
      exitCode := code }

/-! ## Files -/

/-- The paths that a command looks at. -/
def commandPaths : Command → List String
  | .export a => a.search :: a.output.toList
  | .validateConfig => []
  | .init a => [a.output]

/-- The path of the log file that a configuration asks for. -/
def logPaths (c : Config) (now : Timestamp) : List String :=
  if c.logging.fileEnabled then [c.logging.directory ++ "/" ++ c.logging.fileName now] else []

/-- The paths that a run looks at, as far as the disk shows them: where the environment file lies
decides about the configuration, and the configuration about the log. -/
def paths (w : Surroundings) (disk : Disk) (arguments : List String) : List String :=
  let env := w.environment.withFileOf disk
  let named :=
    match CommandLine.ofArguments env arguments with
    | .error _ => []
    | .ok line =>
      let logs := match Config.load env disk line.config with
        | .ok c => logPaths c w.now
        | .error _ => []
      line.config :: commandPaths line.command ++ logs
  EnvironmentFile.paths disk.workingDirectory ++ named

end Program

end SearchExport
