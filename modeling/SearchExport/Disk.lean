import SearchExport.Json.Value
import SearchExport.Text.Split

/-!
# Disks

The files and directories that a program sees, as a value.  A path is walked from the root or from the
working directory, one name after the other; what is passed on the way has to be a directory.

* `Disk.locate` — the place that a path leads to;
* `Disk.read`, `Disk.write`, `Disk.makeDirectories` — what programs do with it.
-/

set_option autoImplicit false

namespace SearchExport

/-- What stands at a place of a disk. -/
inductive Node where
  | directory
  | file (content : String)
  deriving DecidableEq, Repr

/-- Why a disk does not do what it is asked for. -/
inductive DiskFault where
  | missing
  | notDirectory
  | isDirectory
  deriving DecidableEq, Repr

/-- The fault in words, with the number that systems give it. -/
def DiskFault.message : DiskFault → String
  | .missing => "No such file or directory (os error 2)"
  | .notDirectory => "Not a directory (os error 20)"
  | .isDirectory => "Is a directory (os error 21)"

/-- The names from the root down to a place. -/
abbrev Place := List String

/-- Files and directories by their places, and the place from which relative paths start. -/
structure Disk where
  workingDirectory : Place := []
  entries : List (String × Node) := []

namespace Disk

/-- A place as an absolute path. -/
def pathOf (p : Place) : String := "/" ++ "/".intercalate p

/-- What stands at a place.  The root is always there. -/
def node? (d : Disk) (p : Place) : Option Node :=
  if p = [] then some .directory else lookupEntry (pathOf p) d.entries

/-- The disk with a node at a place. -/
def put (d : Disk) (p : Place) (n : Node) : Disk :=
  { d with entries := insertEntry (pathOf p) n d.entries }

/-! ## Paths -/

/-- The place one name away from a directory. -/
def stepTo (p : Place) (name : String) : Place :=
  if name = "" || name = "." then p else if name = ".." then p.dropLast else p ++ [name]

/-- Fails unless a directory stands at the place. -/
def requireDirectory (d : Disk) (p : Place) : Except DiskFault Unit :=
  match d.node? p with
  | some .directory => .ok ()
  | some (.file _) => .error .notDirectory
  | none => .error .missing

/-- The place that names lead to. -/
def walk (d : Disk) : Place → List String → Except DiskFault Place
  | p, [] => .ok p
  | p, name :: names => do
    d.requireDirectory p
    d.walk (stepTo p name) names

/-- Where a path starts, and the names that follow. -/
def startOf (d : Disk) (path : String) : Place × List String :=
  match Text.split '/' path with
  | "" :: names => ([], names)
  | names => (d.workingDirectory, names)

/-- The place that a path leads to; the empty path leads nowhere. -/
def locate (d : Disk) (path : String) : Except DiskFault Place :=
  if path = "" then .error .missing
  else
    let (start, names) := d.startOf path
    d.walk start names

/-! ## Operations -/

/-- Whether something stands where a path leads. -/
def holds (d : Disk) (path : String) : Bool :=
  match d.locate path with
  | .ok p => (d.node? p).isSome
  | .error _ => false

/-- The content of a file. -/
def read (d : Disk) (path : String) : Except DiskFault String := do
  let p ← d.locate path
  match d.node? p with
  | some (.file content) => return content
  | some .directory => throw .isDirectory
  | none => throw .missing

/-- The disk with a file where a path leads. -/
def write (d : Disk) (path content : String) : Except DiskFault Disk := do
  let p ← d.locate path
  match d.node? p with
  | some .directory => throw .isDirectory
  | _ => return d.put p (.file content)

/-- The disk with directories along names. -/
def makeAlong (d : Disk) : Place → List String → Except DiskFault Disk
  | p, [] => do
    d.requireDirectory p
    return d
  | p, name :: names =>
    let q := stepTo p name
    match d.node? p, d.node? q with
    | some .directory, none => makeAlong (d.put q .directory) q names
    | some .directory, some _ => d.makeAlong q names
    | _, _ => .error .notDirectory

/-- The disk with a directory where a path leads, and with all that it is in. -/
def makeDirectories (d : Disk) (path : String) : Except DiskFault Disk :=
  let (start, names) := d.startOf path
  if path = "" then .ok d else d.makeAlong start names

end Disk

end SearchExport
