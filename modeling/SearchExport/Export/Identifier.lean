import SearchExport.Url.Basic

/-!
# Identifiers of exports

An export is known to the log by a random identifier of 128 bits, of which six are fixed.
-/

set_option autoImplicit false

namespace SearchExport

/-- The two hexadecimal digits of a byte. -/
def hexByte (b : UInt8) : List Char :=
  [(upperHexDigit (b.toNat / 16)).toLower, (upperHexDigit (b.toNat % 16)).toLower]

/-- The byte at a place of an identifier: the seventh and the ninth say that it is random. -/
def markIdentifier (place : Nat) (b : UInt8) : UInt8 :=
  if place = 6 then b % 16 + 64 else if place = 8 then b % 64 + 128 else b

/-- The identifier that sixteen bytes make, in five groups of digits. -/
def identifierText (bytes : List UInt8) : String :=
  let marked := bytes.mapIdx markIdentifier
  let group (start length : Nat) : String :=
    String.ofList (((marked.drop start).take length).flatMap hexByte)
  "-".intercalate [group 0 4, group 4 2, group 6 2, group 8 2, group 10 6]

end SearchExport
