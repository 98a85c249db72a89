import SearchExport.Binary64.Basic

/-!
# JSON values

A value of the JSON data model.  The members of an object keep the order in which they were
inserted.

* `Number` — a 64-bit integer or a double;
* `Value` — the data model;
* `Members.insert` — what a second member of one name does.
-/

set_option autoImplicit false

namespace SearchExport

/-- A number: integers of 64 bits stay exact, all others are doubles. -/
inductive Number where
  /-- An integer from `-2^63` to `2^64 - 1`. -/
  | int (value : Int)
  /-- Any other number. -/
  | double (value : Binary64)
  deriving DecidableEq, Repr

/-- A JSON value. -/
inductive Value where
  | null
  | bool (b : Bool)
  | number (n : Number)
  | string (s : String)
  | array (items : List Value)
  | object (members : List (String × Value))
  deriving Repr, Inhabited

namespace Value

/-- A natural number as a value. -/
def ofNat (n : Nat) : Value := .number (.int n)

/-- An array of texts. -/
def ofTexts (texts : List String) : Value := .array (texts.map .string)

/-- A value that may be missing; a missing one is null. -/
def ofOption (v : Option Value) : Value := v.getD .null

/-- The text that the value is, if it is one. -/
def text? : Value → Option String
  | .string s => some s
  | _ => none

/-- The integer that the value is, if it is one. -/
def int? : Value → Option Int
  | .number (.int i) => some i
  | _ => none

/-- The members of an object. -/
def members? : Value → Option (List (String × Value))
  | .object ms => some ms
  | _ => none

/-- The items of an array. -/
def items? : Value → Option (List Value)
  | .array vs => some vs
  | _ => none

end Value

/-! ## Named entries -/

/-- The first entry with a name. -/
def lookupEntry {α : Type} (name : String) : List (String × α) → Option α
  | [] => none
  | (k, v) :: rest => if k = name then some v else lookupEntry name rest

/-- The entries with `name` set to `v`: in place when the name is there, at the end otherwise. -/
def insertEntry {α : Type} (name : String) (v : α) : List (String × α) → List (String × α)
  | [] => [(name, v)]
  | (k, w) :: rest => if k = name then (k, v) :: rest else (k, w) :: insertEntry name v rest

/-- The entries inserted one after the other. -/
def collectEntries {α : Type} (entries : List (String × α)) : List (String × α) :=
  entries.foldl (fun acc e => insertEntry e.1 e.2 acc) []

end SearchExport
