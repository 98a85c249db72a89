import SearchExport.Json.Value

/-!
# Documents

What has been read from a text and is not yet interpreted.  Unlike a JSON value a document keeps
every entry of a record, also repeated ones, and it may hold parts that can be skipped but not read.

* `Document.ofValue`, `Document.toValue?` — the way from and to JSON values;
* `Document.fields?` — the fields of a record, from entries or from positions;
* `Document.variant?` — the tag of a tagged record and what belongs to it.
-/

set_option autoImplicit false

namespace SearchExport

/-- An uninterpreted document. -/
inductive Document where
  | null
  | flag (b : Bool)
  | number (n : Number)
  | text (s : String)
  | list (items : List Document)
  | record (entries : List (String × Document))
  /-- A part that is well formed but denotes nothing: a number out of range, a text with half a
  character, a container that is nested too deeply. -/
  | unreadable
  deriving Inhabited

namespace Document

/-! ## Values -/

mutual

/-- A value as a document. -/
def ofValue : Value → Document
  | .null => .null
  | .bool b => .flag b
  | .number n => .number n
  | .string s => .text s
  | .array vs => .list (ofItems vs)
  | .object ms => .record (ofMembers ms)

/-- The items of an array as documents. -/
def ofItems : List Value → List Document
  | [] => []
  | v :: vs => ofValue v :: ofItems vs

/-- The members of an object as entries. -/
def ofMembers : List (String × Value) → List (String × Document)
  | [] => []
  | (k, v) :: ms => (k, ofValue v) :: ofMembers ms

end

mutual

/-- The value that a document denotes.  Of entries with one name the last one counts, at the place
of the first. -/
def toValue? : Document → Option Value
  | .null => some .null
  | .flag b => some (.bool b)
  | .number n => some (.number n)
  | .text s => some (.string s)
  | .list ds => (toItems? ds).map .array
  | .record es => (toMembers? es).map fun ms => .object (collectEntries ms)
  | .unreadable => none

/-- The values of all items. -/
def toItems? : List Document → Option (List Value)
  | [] => some []
  | d :: ds => do
    let v ← toValue? d
    let vs ← toItems? ds
    return v :: vs

/-- The values of all entries. -/
def toMembers? : List (String × Document) → Option (List (String × Value))
  | [] => some []
  | (k, d) :: es => do
    let v ← toValue? d
    let ms ← toMembers? es
    return (k, v) :: ms

end

/-- Whether no part of the document is unreadable. -/
def isReadable (d : Document) : Bool := (toValue? d).isSome

/-! ## Scalars -/

/-- The text that the document is. -/
def text? : Document → Option String
  | .text s => some s
  | _ => none

/-- The truth value that the document is. -/
def flag? : Document → Option Bool
  | .flag b => some b
  | _ => none

/-- The natural number below `limit` that the document is. -/
def natBelow? (limit : Nat) : Document → Option Nat
  | .number (.int i) => if 0 ≤ i ∧ i < limit then some i.toNat else none
  | _ => none

/-- The integer from `-limit` to below `limit` that the document is. -/
def intWithin? (limit : Nat) : Document → Option Int
  | .number (.int i) => if -(limit : Int) ≤ i ∧ i < limit then some i else none
  | _ => none

/-- The double that the document is; an integer counts as the double nearest to it. -/
def double? : Document → Option Binary64
  | .number (.int i) => some (Binary64.ofInt i)
  | .number (.double x) => some x
  | _ => none

/-- Every item of a list, read. -/
def listOf? {α : Type} (read : Document → Option α) : Document → Option (List α)
  | .list ds => ds.mapM read
  | _ => none

/-- Null, or what `read` accepts. -/
def optional? {α : Type} (read : Document → Option α) : Document → Option (Option α)
  | .null => some none
  | d => (read d).map some

/-! ## Records -/

/-- The conventions of the place that is read. -/
structure Reading where
  /-- A record that is written as a list may not be longer than its fields. -/
  exact : Bool := true
  /-- A tag may also be given by its number, and an alternative without content by an empty record. -/
  indexed : Bool := false

/-- The conventions for JSON. -/
def Reading.json : Reading := { }

/-- The conventions for TOML. -/
def Reading.toml : Reading where
  exact := false

/-- The conventions inside a tagged record, whose content is read after its tag is known. -/
def Reading.content : Reading where
  indexed := true

/-- The known fields of a record.  They stand under their names, each at most once, or as a list in
the order of `names`; a record may hold further entries, which are not looked at. -/
def fields? (how : Reading) (names : List String) : Document → Option (List (String × Document))
  | .record es =>
    let known := es.filter fun e => names.contains e.1
    if known.length = (known.map Prod.fst).eraseDups.length then some known else none
  | .list ds => if how.exact && names.length < ds.length then none else some (names.zip ds)
  | _ => none

/-- The field `name`, which has to be there. -/
def required? {α : Type} (fields : List (String × Document)) (name : String)
    (read : Document → Option α) : Option α :=
  (lookupEntry name fields).bind read

/-- The field `name`, or `default` when it is not there. -/
def fieldOr? {α : Type} (fields : List (String × Document)) (name : String) (default : α)
    (read : Document → Option α) : Option α :=
  match lookupEntry name fields with
  | none => some default
  | some d => read d

/-! ## Alternatives -/

/-- One of the names, written as a text or as the only entry of a record without content. -/
def choice? (how : Reading) (names : List String) : Document → Option String
  | .text s => if names.contains s then some s else none
  | .record [(k, .null)] => if names.contains k then some k else none
  | .record [(k, .record [])] => if how.indexed && names.contains k then some k else none
  | _ => none

/-- The tag that a document denotes. -/
def tag? (how : Reading) (tags : List String) : Document → Option String
  | .text s => if tags.contains s then some s else none
  | .number (.int i) => if how.indexed && 0 ≤ i then tags[i.toNat]? else none
  | _ => none

/-- The tag of a tagged record, which stands under the name `key` or first in a list, and the rest,
which has to be readable throughout. -/
def variant? (how : Reading) (key : String) (tags : List String) :
    Document → Option (String × Document)
  | .record es =>
    match es.filter (fun e => e.1 = key) with
    | [(_, d)] => do
      let tag ← tag? how tags d
      let rest := Document.record (es.filter fun e => e.1 ≠ key)
      if rest.isReadable then some (tag, rest) else none
    | _ => none
  | .list (d :: ds) => do
    let tag ← tag? how tags d
    let rest := Document.list ds
    if rest.isReadable then some (tag, rest) else none
  | _ => none

end Document

end SearchExport
