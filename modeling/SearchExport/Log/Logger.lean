import SearchExport.Disk
import SearchExport.Environment.Basic
import SearchExport.Error
import SearchExport.Log.Filter
import SearchExport.Log.Printer

/-!
# Logs

A log writes its notices as lines to the console and, when the settings ask for it, as records to a
file.  The filter is the one of the environment when that is well formed, else the level decides.

* `Logger.start` — opens a log;
* `Logger.line?`, `Logger.record?` — what becomes of a notice;
* `Logger.save` — the file at the end.
-/

set_option autoImplicit false

namespace SearchExport

/-- An open log. -/
structure Logger where
  level : LogLevel
  filter : LogFilter
  settings : LogSettings
  /-- The path of the file, if one is written. -/
  file : Option String
  deriving DecidableEq

/-- The variable of the environment with the directives of the filter. -/
def filterVariable : String := "RUST_LOG"

/-- The name of the log file, with the time at which it was started unless it is never replaced. -/
def LogSettings.fileName (s : LogSettings) (now : Timestamp) : String :=
  let date := String.ofList now.dateText
  let hour := String.ofList (now.clockText.take 2)
  if s.rotation = "never" then "msgexport.log"
  else if s.rotation = "hourly" then "msgexport.log." ++ date ++ "-" ++ hour
  else "msgexport.log." ++ date

namespace Logger

/-- Opens a log.  The directory of the file is made when it is not there. -/
def start (env : Environment) (disk : Disk) (now : Timestamp) (levelText : String)
    (settings : LogSettings) : Except ExportError (Logger × Disk) := do
  let level ← (LogLevel.ofText levelText).mapError fun f => .configuration f.message
  let filter :=
    ((env.get? filterVariable).bind LogFilter.ofText?).getD (LogFilter.ofLevel level)
  if settings.fileEnabled then
    let failed (f : DiskFault) : ExportError := .configuration
      ("Failed to create log directory " ++ settings.directory ++ ": " ++ f.message)
    let disk ← (disk.makeDirectories settings.directory).mapError failed
    let path := settings.directory ++ "/" ++ settings.fileName now
    let old := (disk.read path).toOption.getD ""
    let disk ← (disk.write path old).mapError failed
    return (⟨level, filter, settings, some path⟩, disk)
  else return (⟨level, filter, settings, none⟩, disk)

/-- What a log says when it is open. -/
def greeting (l : Logger) : Notice where
  level := .debug
  source := sourceOf ["logging", "structured"]
  message := "Logging initialized"
  data := [("level", .plain l.level.name), ("file_logging", .flag l.settings.fileEnabled),
    ("path", .plain l.settings.directory)]

/-- The notice as it is written: without an activity that is not shown. -/
def shown (l : Logger) (n : Notice) : Notice := { n with span := n.span.filter l.filter.shows }

/-- The line on the console for what happened, if there is one. -/
def line? (l : Logger) (now : Timestamp) : LogEvent → Option String
  | .notice n => if l.filter.admits n then some ((l.shown n).line now) else none
  | .closed _ => none

/-- The record in the file for what happened, if there is one. -/
def record? (l : Logger) (now : Timestamp) : LogEvent → Option Value
  | .notice n => if l.filter.admits n then some ((l.shown n).record now) else none
  | .closed s => if l.filter.shows s then some (s.closingRecord now) else none

/-- The disk with the records of what happened at the end of the file. -/
def save (l : Logger) (now : Timestamp) (events : List LogEvent) (disk : Disk) : Disk :=
  match l.file with
  | none => disk
  | some path =>
    let records := (events.filterMap (l.record? now)).map fun v => v.text ++ "\n"
    let old := (disk.read path).toOption.getD ""
    (disk.write path (old ++ "".intercalate records)).toOption.getD disk

end Logger

end SearchExport
