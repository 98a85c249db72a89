import SearchExport.Document.Basic

/-!
# Tables of a TOML document

A table is built up from statements.  Headers open tables and dotted keys reach into them; a table may
be opened by a header only once, and dotted keys may only extend tables that dotted keys made.

* `updateTable` — reaches a table by a path and changes it;
* `openTable`, `openTables`, `assign` — what headers and assignments do.
-/

set_option autoImplicit false

namespace SearchExport.Toml

/-- How a table came to be. -/
inductive Origin where
  /-- By a header of its own. -/
  | header
  /-- By the header of a table inside of it. -/
  | implied
  /-- By a dotted key. -/
  | dotted
  deriving DecidableEq, Repr

/-- What stands under a key. -/
inductive Entry where
  /-- A value, which can no longer be extended. -/
  | value (d : Document)
  | table (origin : Origin) (entries : List (String × Entry))
  /-- Tables that were opened one after the other, the last one first. -/
  | tables (last : List (String × Entry)) (earlier : List (List (String × Entry)))

/-- The entries of a table. -/
abbrev Entries := List (String × Entry)

/-- Changes the table at the end of a path.  Missing tables are made, by a dotted key or as implied
by a header; the change is told whether the table was made by a dotted key. -/
def updateTable (dotted : Bool) (change : Bool → Entries → Option Entries) :
    List String → Bool → Entries → Option Entries
  | [], isDotted, es => change isDotted es
  | k :: ks, _, es =>
    match lookupEntry k es with
    | none => do
      let sub ← updateTable dotted change ks dotted []
      return insertEntry k (.table (if dotted then .dotted else .implied) sub) es
    | some (.value _) => none
    | some (.table origin sub) =>
      if dotted && origin = .header then none
      else do
        let sub ← updateTable dotted change ks (origin = .dotted) sub
        return insertEntry k (.table origin sub) es
    | some (.tables last earlier) => do
      let last ← updateTable dotted change ks false last
      return insertEntry k (.tables last earlier) es

/-- Opens the table at the end of a path by its header. -/
def openTable (path : List String) (es : Entries) : Option Entries :=
  match path.getLast? with
  | none => none
  | some k =>
    updateTable false (fun _ es =>
      match lookupEntry k es with
      | none => some (insertEntry k (.table .header []) es)
      | some (.table .implied sub) => some (insertEntry k (.table .header sub) es)
      | _ => none) path.dropLast false es

/-- Opens one more of the tables at the end of a path. -/
def openTables (path : List String) (es : Entries) : Option Entries :=
  match path.getLast? with
  | none => none
  | some k =>
    updateTable false (fun _ es =>
      match lookupEntry k es with
      | none => some (insertEntry k (.tables [] []) es)
      | some (.tables last earlier) => some (insertEntry k (.tables [] (last :: earlier)) es)
      | _ => none) path.dropLast false es

/-- Assigns a value to a dotted key inside a table. -/
def assign (key : List String) (d : Document) (es : Entries) : Option Entries :=
  match key.getLast? with
  | none => none
  | some k =>
    let path := key.dropLast
    updateTable true (fun isDotted es =>
      if isDotted = path.isEmpty then none
      else
        match lookupEntry k es with
        | none => some (insertEntry k (.value d) es)
        | some _ => none) path false es

/-- Assigns a value inside the table that was opened last. -/
def assignIn (header key : List String) (d : Document) (es : Entries) : Option Entries :=
  updateTable false (fun _ es => assign key d es) header false es

mutual

/-- An entry as a document. -/
def Entry.toDocument : Entry → Document
  | .value d => d
  | .table _ es => .record (entriesToDocument es)
  | .tables last earlier =>
    .list ((tablesToDocument earlier).reverse ++ [.record (entriesToDocument last)])

/-- The entries of a table as those of a record. -/
def entriesToDocument : List (String × Entry) → List (String × Document)
  | [] => []
  | (k, e) :: es => (k, e.toDocument) :: entriesToDocument es

/-- Tables as records. -/
def tablesToDocument : List (List (String × Entry)) → List Document
  | [] => []
  | es :: rest => .record (entriesToDocument es) :: tablesToDocument rest

end

end SearchExport.Toml
