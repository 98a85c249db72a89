import SearchExport.Disk
import SearchExport.Log.Output

/-!
# Reports of commands

What a command shows, what it leaves on the disk, and how it ends.
-/

set_option autoImplicit false

namespace SearchExport

/-- What a command did. -/
structure Report where
  outputs : List Output
  disk : Disk
  /-- The exit code, or the failure of the disk that the command did not expect. -/
  status : Except DiskFault Nat

/-- The part of the program that carries out a command. -/
def commandSource (name : String) : String := sourceOf ["cli", "commands", name]

end SearchExport
