/-!
# Scanning for tokens

One pass over a text from the left.  Where a token starts it is taken as a whole, everywhere else a
single character; what was taken is never looked at again.

* `Text.scan` — the pass;
* `Text.scan_skip` — passing over characters is the pass over the rest.
-/

set_option autoImplicit false

namespace SearchExport.Text

/-- What a pass over a text takes at one position. -/
inductive Segment (α : Type) where
  /-- A character that starts no token. -/
  | char (c : Char)
  /-- A token. -/
  | token (name : α)
  deriving DecidableEq, Repr

/-- The segments of a text.  `token?` says whether a token starts at the head of a text, and how many
characters of it follow the first one; `skip` characters still belong to the token before. -/
def scan {α : Type} (token? : List Char → Option (α × Nat)) :
    Nat → List Char → List (Segment α)
  | _, [] => []
  | skip + 1, _ :: cs => scan token? skip cs
  | 0, c :: cs =>
    match token? (c :: cs) with
    | some (name, more) => .token name :: scan token? more cs
    | none => .char c :: scan token? 0 cs

theorem scan_skip {α : Type} (token? : List Char → Option (α × Nat)) (n : Nat) (cs : List Char) :
    scan token? n cs = scan token? 0 (cs.drop n) := by
  induction n generalizing cs with
  | zero => simp
  | succ n ih =>
    cases cs with
    | nil => simp [scan]
    | cons c cs => simp [scan, ih]

/-- The text that is made of the segments, with `write` for the tokens. -/
def render {α : Type} (write : α → List Char) (segments : List (Segment α)) : List Char :=
  segments.flatMap fun
    | .char c => [c]
    | .token name => write name

/-- The tokens among the segments. -/
def tokens {α : Type} (segments : List (Segment α)) : List α :=
  segments.filterMap fun
    | .char _ => none
    | .token name => some name

/-- A name between a dollar sign with an opening brace and a closing brace: any characters but the
closing brace, at least one. -/
def placeholder? : List Char → Option (List Char × Nat)
  | '$' :: '\x7b' :: rest =>
    let name := rest.takeWhile (· ≠ '\x7d')
    if name.isEmpty || name.length = rest.length then none else some (name, name.length + 2)
  | _ => none

/-- An ASCII letter or an underscore. -/
def isNameStart (c : Char) : Bool := c.isAlpha || c = '_'

/-- An ASCII letter, a digit or an underscore. -/
def isNameChar (c : Char) : Bool := c.isAlphanum || c = '_'

/-- A name between two dollar signs. -/
def dollarName? : List Char → Option (List Char × Nat)
  | '$' :: rest =>
    let name := rest.takeWhile isNameChar
    if name.head?.any isNameStart && (rest.drop name.length).head? = some '$' then
      some (name, name.length + 1)
    else none
  | _ => none

end SearchExport.Text
