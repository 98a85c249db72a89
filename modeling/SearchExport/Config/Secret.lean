/-!
# Secrets

A text that is never shown where values are shown; whoever needs it asks for it by name.
-/

set_option autoImplicit false

namespace SearchExport

/-- A text that is not to be shown. -/
structure Secret where
  /-- The text itself. -/
  exposed : String
  deriving DecidableEq

/-- Whether there is nothing to hide. -/
def Secret.isEmpty (s : Secret) : Bool := s.exposed = ""

/-- What is shown in place of a secret. -/
def Secret.mask : String := "[REDACTED]"

instance : Repr Secret := ⟨fun _ _ => Secret.mask⟩

instance : ToString Secret := ⟨fun _ => Secret.mask⟩

end SearchExport
