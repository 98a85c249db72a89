import SearchExport.Command.Arguments
import SearchExport.Environment.Basic

/-!
# Command lines

What the program is asked to do.

* `CommandLine.ofArguments` — the command line that arguments and an environment make.
-/

set_option autoImplicit false

namespace SearchExport

/-! ## Commands -/

/-- What is to be exported, and how. -/
structure ExportArguments where
  /-- The path of the stored search. -/
  search : String
  /-- The search type to export. -/
  searchTypeId : Option String := none
  fields : List String := []
  sort : List SortKey := []
  limit : Option Nat := none
  chunkSize : Option Nat := none
  /-- The path of the output; without one it is the standard output. -/
  output : Option String := none
  deriving DecidableEq

/-- Which configuration file is to be written. -/
structure InitArguments where
  /-- The path of the file. -/
  output : String
  /-- Whether every setting is explained. -/
  withExamples : Bool
  /-- Whether a file that is there is replaced. -/
  force : Bool
  deriving DecidableEq, Repr

/-- What the program can do. -/
inductive Command where
  | export (arguments : ExportArguments)
  | validateConfig
  | init (arguments : InitArguments)
  deriving DecidableEq

/-- What the program is asked to do. -/
structure CommandLine where
  /-- The path of the configuration file. -/
  config : String
  /-- The level of the log. -/
  logLevel : Option String
  command : Command
  deriving DecidableEq

/-! ## Options -/

/-- The option that asks for help. -/
def helpOption : OptionSpec := ⟨"help", some 'h', .help⟩

/-- The path of the configuration file when nothing else is said. -/
def defaultConfigPath : String := "msgexport.toml"

namespace CommandLine

/-- The options of the program, with the variables of the environment that stand in for them. -/
def globalOptions : List (OptionSpec × Option String) :=
  [(⟨"config", some 'c', .single .text⟩, some "MSGEXPORT_CONFIG"),
    (⟨"log-level", some 'l', .single .text⟩, some "MSGEXPORT_LOG_LEVEL"),
    (helpOption, none), (⟨"version", some 'V', .version⟩, none)]

/-- The name of the command that shows help. -/
def helpCommand : String := "help"

/-- The names of the commands. -/
def commandNames : List String := ["export", "validate-config", "init", helpCommand]

/-- The options of the export command. -/
def exportOptions : List OptionSpec :=
  [⟨"search", some 's', .single .path⟩, ⟨"search-type-id", some 't', .single .text⟩,
    ⟨"fields", some 'f', .several .text⟩, ⟨"sort", none, .several .sortKey⟩,
    ⟨"limit", none, .single .count⟩, ⟨"chunk-size", none, .single .count⟩,
    ⟨"output", some 'o', .single .path⟩, helpOption]

/-- The options of the command that writes a configuration file. -/
def initOptions : List OptionSpec :=
  [⟨"output", some 'o', .single .text⟩, ⟨"with-examples", none, .switch⟩,
    ⟨"force", none, .switch⟩, helpOption]

/-! ## Reading -/

/-- The options of a command from its arguments. -/
def readOptions (options : List OptionSpec) (arguments : List String) :
    Except UsageFault Progress := do
  let (p, _) ← Progress.read ⟨options, []⟩ { } arguments
  p.settle

/-- The export that options ask for. -/
def exportOf (p : Progress) : Except UsageFault ExportArguments :=
  match p.valueOf? "search" with
  | none => .error (.missingOption "search")
  | some search => .ok {
      search := search
      searchTypeId := p.valueOf? "search-type-id"
      fields := p.valuesOf "fields"
      sort := (p.valuesOf "sort").filterMap fun s => (SortKey.ofText s).toOption
      limit := (p.valueOf? "limit").bind countValue?
      chunkSize := (p.valueOf? "chunk-size").bind countValue?
      output := p.valueOf? "output" }

/-- What the command for help answers. -/
def helpFor : List String → UsageFault
  | [] => .helpAsked
  | name :: more =>
    if commandNames.contains name then
      match more with
      | [] => .helpAsked
      | next :: _ => .unknownCommand next
    else .unknownCommand name

/-- The command with a name and arguments. -/
def commandOf (name : String) (arguments : List String) : Except UsageFault Command :=
  if name = "export" then do
    return .export (← exportOf (← readOptions exportOptions arguments))
  else if name = "validate-config" then do
    let _ ← readOptions [helpOption] arguments
    return .validateConfig
  else if name = "init" then do
    let p ← readOptions initOptions arguments
    return .init ⟨(p.valueOf? "output").getD defaultConfigPath, p.has "with-examples", p.has "force"⟩
  else .error (helpFor arguments)

/-- The options of the program with those that the environment stands in for. -/
def withEnvironment (env : Environment) (p : Progress) : Progress :=
  globalOptions.foldl (fun p o =>
    match o.2.bind env.get? with
    | some text => if p.has o.1.name then p else p.add o.1 [text]
    | none => p) p

/-- The command line that arguments make.  What is wrong with a command is found before what is wrong
with the option in front of it. -/
def ofArguments (env : Environment) (arguments : List String) : Except UsageFault CommandLine := do
  let grammar : Grammar := ⟨globalOptions.map Prod.fst, commandNames⟩
  let (p, rest) ← Progress.read grammar { } arguments
  let command ← rest.mapM fun r => commandOf r.1 r.2
  let p := withEnvironment env (← p.settle)
  match command with
  | some command =>
    return ⟨(p.valueOf? "config").getD defaultConfigPath, p.valueOf? "log-level", command⟩
  | none => throw (if p.given.isEmpty then .nothingAsked else .missingCommand)

end CommandLine

end SearchExport
