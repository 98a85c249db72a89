import SearchExport.Export.Identifier
import SearchExport.Http.Connection
import SearchExport.Program
import Std.Async.Signal
import Std.Async.System
import Std.Time

/-!
# The command line

Runs the program on a machine.  What a run needs of the disk is read before it, and what it changed is
written after it.  A run is a function of the outcomes of its requests: it is repeated with one more
outcome as long as there is a request without one.

* `Machine.look` — the disk with what stands at a path;
* `Machine.converse` — the run with the outcomes of all its requests;
* `main` — the program.
-/

set_option autoImplicit false

namespace SearchExport.Machine

/-! ## Disk -/

/-- What stands at a path. -/
def node? (path : String) : IO (Option Node) := do
  match ← (IO.FS.readFile path).toBaseIO with
  | .ok content => return some (.file content)
  | .error (.noFileOrDirectory _ _ _) => return none
  | .error _ => return some .directory

/-- The disk with what stands along some names. -/
def lookAlong (disk : Disk) : Place → List String → IO Disk
  | _, [] => return disk
  | p, name :: names => do
    let q := Disk.stepTo p name
    match ← node? (Disk.pathOf q) with
    | some .directory => lookAlong (disk.put q .directory) q names
    | some (.file content) => return disk.put q (.file content)
    | none => return disk

/-- The disk with what stands on the way to a path and there. -/
def look (disk : Disk) (path : String) : IO Disk :=
  let (start, names) := disk.startOf path
  lookAlong disk start names

/-- The disk with all that a run looks at.  Three rounds are enough: the environment file, the
configuration that it may name, and the log file that the configuration may name. -/
def lookAround (w : Surroundings) (arguments : List String) (disk : Disk) : IO Disk :=
  [1, 2, 3].foldlM (fun disk _ => (Program.paths w disk arguments).foldlM look disk) disk

/-- Writes what differs from the disk before. -/
def save (before after : Disk) : IO Unit :=
  after.entries.forM fun (path, node) =>
    if lookupEntry path before.entries = some node then return
    else
      match node with
      | .directory => IO.FS.createDirAll path
      | .file content => IO.FS.writeFile path content

/-! ## Signals -/

/-- The signals that are waited for. -/
structure Signals where
  terminate : Std.Async.AsyncTask Int
  interrupt : Std.Async.AsyncTask Int

/-- Starts to wait for signals. -/
def Signals.listen : IO Signals := do
  let terminate ← (← Std.Async.Signal.Waiter.mk .sigterm false).wait
  let interrupt ← (← Std.Async.Signal.Waiter.mk .sigint false).wait
  return ⟨terminate, interrupt⟩

/-- The signal that arrived, if one did. -/
def Signals.arrived? (s : Signals) : IO (Option Signal) := do
  if (← s.terminate.getState) matches .finished then return some .terminate
  if (← s.interrupt.getState) matches .finished then return some .interrupt
  return none

/-! ## Runs -/

/-- The number of chunks that a run delivers with some outcomes. -/
def deliveredChunks (outcomes : List HttpOutcome) : Nat :=
  (outcomes.filter fun o => o.page.toOption.isSome).length

/-- Runs the program with the outcomes of its requests, which are sent one after the other; the counter
bounds their number. -/
def converse (w : Surroundings) (disk : Disk) (arguments : List String) (signals : Signals)
    (started : Nat) :
    Nat → List HttpOutcome → IO (Except UsageFault (Program.Trace Conversation))
  | 0, outcomes => return Program.run w disk arguments .resuming { outcomes := outcomes }
  | requests + 1, outcomes => do
    let w := { w with nanos := (← IO.monoNanosNow) - started }
    match Program.run w disk arguments .resuming { outcomes := outcomes } with
    | .error fault => return .error fault
    | .ok trace =>
      match trace.peer.pending with
      | none => return .ok trace
      | some (request, pauseMillis) =>
        IO.sleep pauseMillis.toUInt32
        let outcome ← request.send
        let shutdown := w.shutdown <|>
          (← signals.arrived?).map fun s => ⟨deliveredChunks outcomes, some s⟩
        converse { w with shutdown := shutdown } disk arguments signals started requests
          (outcomes ++ [outcome])

/-- The time on the clock. -/
def now : IO Timestamp := do
  let nanos := (← Std.Time.Timestamp.now).toNanosecondsSinceUnixEpoch.val
  return (Timestamp.of? (nanos / 1000000000) (nanos % 1000000000).toNat).getD .epoch

/-- What surrounds a run on this machine. -/
def surroundings : IO Surroundings := do
  let environment ← Std.Async.System.getEnv
  return {
    environment := { get? := environment.get? }
    now := ← now
    exportId := identifierText (← IO.getRandomBytes 16).toList
    pageBound := UInt64.size }

/-- Some lines, each with its end. -/
def textOf (lines : List String) : String := "".intercalate (lines.map (· ++ "\n"))

end SearchExport.Machine

open SearchExport in
/-- Runs the program. -/
def main (arguments : List String) : IO UInt32 := do
  let w ← Machine.surroundings
  let place := (Text.split '/' (← IO.currentDir).toString).filter (· ≠ "")
  let disk ← Machine.lookAlong { workingDirectory := place } [] place
  let disk ← Machine.lookAround w arguments disk
  let signals ← Machine.Signals.listen
  let started ← IO.monoNanosNow
  match ← Machine.converse w disk arguments signals started UInt64.size [] with
  | .error fault =>
    if fault.isAnswer then IO.println fault.message else IO.eprintln fault.message
    return fault.exitCode.toUInt32
  | .ok trace =>
    IO.eprint (Machine.textOf trace.err)
    IO.print (Machine.textOf trace.out)
    match ← (Machine.save disk trace.disk).toBaseIO with
    | .ok () => return trace.exitCode.toUInt32
    | .error e =>
      IO.eprintln ("Error: " ++ toString e)
      return 5
