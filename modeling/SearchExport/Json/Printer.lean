import SearchExport.Binary64.Shortest
import SearchExport.Json.Value

/-!
# Compact JSON text

The text of a value without any white space.  In strings only the quote, the backslash and the
control characters below U+0020 are escaped, so the text of a value is a single line.
-/

set_option autoImplicit false

namespace SearchExport

/-! ## Strings -/

/-- A hexadecimal digit in lower case. -/
def hexDigit (n : Nat) : Char :=
  if n < 10 then Char.ofNat (48 + n) else Char.ofNat (87 + n)

/-- A character as it stands inside a JSON string. -/
def escapeChar (c : Char) : List Char :=
  if c = '"' then ['\\', '"']
  else if c = '\\' then ['\\', '\\']
  else if c = '\n' then ['\\', 'n']
  else if c = '\r' then ['\\', 'r']
  else if c = '\t' then ['\\', 't']
  else if c.toNat = 8 then ['\\', 'b']
  else if c.toNat = 12 then ['\\', 'f']
  else if c.toNat < 32 then
    ['\\', 'u', '0', '0', hexDigit (c.toNat / 16), hexDigit (c.toNat % 16)]
  else [c]

/-- A text as a JSON string. -/
def quoted (cs : List Char) : List Char := '"' :: (cs.flatMap escapeChar ++ ['"'])

/-! ## Numbers -/

/-- Doubles are positional from one hundred thousandth to below ten to the sixteenth; an exponent
outside carries its sign. -/
def Number.layout : Binary64.ScientificText where
  least := -5
  greatest := 15
  positive := ['e', '+']
  negative := ['e', '-']

/-- The text of a number.  A double that is not finite has no JSON text and is written as null. -/
def Number.render : Number → List Char
  | .int i => Text.integer i
  | .double x => if x.isFinite then layout.write x else ['n', 'u', 'l', 'l']

/-! ## Values -/

namespace Value

mutual

/-- The compact text of a value. -/
def render : Value → List Char
  | .null => ['n', 'u', 'l', 'l']
  | .bool true => ['t', 'r', 'u', 'e']
  | .bool false => ['f', 'a', 'l', 's', 'e']
  | .number n => n.render
  | .string s => quoted s.toList
  | .array [] => ['[', ']']
  | .array (v :: vs) => '[' :: (v.render ++ renderItems vs)
  | .object [] => ['\x7b', '\x7d']
  | .object ((k, v) :: ms) => '\x7b' :: (quoted k.toList ++ ':' :: (v.render ++ renderMembers ms))

/-- The items after the first, and the end of the array. -/
def renderItems : List Value → List Char
  | [] => [']']
  | v :: vs => ',' :: (v.render ++ renderItems vs)

/-- The members after the first, and the end of the object. -/
def renderMembers : List (String × Value) → List Char
  | [] => ['\x7d']
  | (k, v) :: ms => ',' :: (quoted k.toList ++ ':' :: (v.render ++ renderMembers ms))

end

/-- The compact JSON text of a value. -/
def text (v : Value) : String := String.ofList v.render

end Value

end SearchExport
