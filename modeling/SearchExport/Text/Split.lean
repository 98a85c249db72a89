/-!
# Cutting and searching text

Splitting at a character, cutting into lines, and looking for one list of characters in another.
-/

set_option autoImplicit false

namespace SearchExport.Text

/-- The pieces of a list between the places where `c` stands; there is always at least one. -/
def splitChars (c : Char) : List Char → List (List Char)
  | [] => [[]]
  | d :: ds =>
    if d = c then [] :: splitChars c ds
    else
      match splitChars c ds with
      | [] => [[d]]
      | p :: ps => (d :: p) :: ps

/-- The pieces of a text between the places where `c` stands. -/
def split (c : Char) (s : String) : List String := (splitChars c s.toList).map String.ofList

/-- What stands before and after the first `c`. -/
def cutFirst (c : Char) : List Char → Option (List Char × List Char)
  | [] => none
  | d :: ds => if d = c then some ([], ds) else (cutFirst c ds).map fun p => (d :: p.1, p.2)

/-- What stands before and after the last `c`. -/
def cutLast (c : Char) (cs : List Char) : Option (List Char × List Char) :=
  (cutFirst c cs.reverse).map fun p => (p.2.reverse, p.1.reverse)

/-- The rest of the list after `p`, when the list starts with `p`. -/
def dropLeading : List Char → List Char → Option (List Char)
  | [], cs => some cs
  | _ :: _, [] => none
  | p :: ps, c :: cs => if p = c then dropLeading ps cs else none

/-- What stands before and after the first place where `p` stands. -/
def cutAt (p : List Char) : List Char → Option (List Char × List Char)
  | [] => if p.isEmpty then some ([], []) else none
  | c :: cs =>
    match dropLeading p (c :: cs) with
    | some rest => some ([], rest)
    | none => (cutAt p cs).map fun q => (c :: q.1, q.2)

/-- Whether `p` stands somewhere in the list. -/
def containsChars (p cs : List Char) : Bool := (cutAt p cs).isSome

/-- Whether `p` stands somewhere in the text. -/
def contains (p s : String) : Bool := containsChars p.toList s.toList

/-- The list with every `p`, found from the left and never overlapping, exchanged for `q`.  The
counter bounds the number of exchanges; the length of the list is always enough. -/
def replaceFrom (p q : List Char) : Nat → List Char → List Char
  | 0, cs => cs
  | n + 1, cs =>
    match cutAt p cs with
    | none => cs
    | some (before, after) => before ++ q ++ replaceFrom p q n after

/-- The text with every occurrence of a non-empty `p` exchanged for `q`. -/
def replace (p q s : String) : String :=
  if p.isEmpty then s
  else String.ofList (replaceFrom p.toList q.toList s.toList.length s.toList)

/-- The line without the carriage return that ends it. -/
def dropReturn (line : List Char) : List Char :=
  if line.getLast? = some '\r' then line.dropLast else line

/-- The lines of a text, each ended by a line feed or by a carriage return and a line feed.  A line
feed at the very end starts no further line. -/
def lines (s : String) : List String :=
  let pieces := splitChars '\n' s.toList
  let ended := pieces.dropLast.map dropReturn
  let last := pieces.getLast?.getD []
  (if last.isEmpty then ended else ended ++ [last]).map String.ofList

/-- The number of bytes of the list in UTF-8. -/
def byteLength : List Char → Nat
  | [] => 0
  | c :: cs => c.utf8Size + byteLength cs

end SearchExport.Text
