import SearchExport.Log.Notice
import SearchExport.Text.Split

/-!
# Log filters

A filter is a list of directives.  A directive names a part of the program, an activity or data, and
how much is written of what it is about; of several directives about a notice the most specific one
decides, and a directive about an activity lets everything through that comes up within it.

* `Directive.ofText?` — the grammar of directives;
* `LogFilter.ofText?` — a filter of directives between commas;
* `LogFilter.admits` — whether a notice is written.
-/

set_option autoImplicit false

namespace SearchExport

/-- One rule of a filter. -/
structure Directive where
  /-- How the name of the part of the program has to start. -/
  source : Option String := none
  /-- The name of the activity. -/
  span : Option String := none
  /-- The data that have to be there, and their values where they matter. -/
  data : List (String × Option String) := []
  threshold : Threshold := some .trace
  deriving DecidableEq, Repr

namespace Directive

/-! ## Grammar -/

/-- What is read at some point of a directive. -/
inductive Reading where
  | start
  /-- A level or the name of a part of the program, the characters last one first. -/
  | word (read : List Char)
  /-- The name of an activity. -/
  | span (read : List Char)
  /-- One of the data. -/
  | datum (read : List Char)
  /-- The end of the data. -/
  | afterData
  /-- The end of the activity. -/
  | afterSpan
  /-- The level at the end. -/
  | level (read : List Char)

/-- A text from its characters, last one first. -/
def textOf (read : List Char) : String := String.ofList read.reverse

/-- A datum as it stands in a directive: a name, and perhaps a value after an equals sign. -/
def datumOf? (text : String) : Option (String × Option String) :=
  match Text.split '=' text with
  | [] => none
  | name :: values => if text = "" then none else some (name, values.head?)

/-- What one character does to a directive that is being read. -/
def step? (d : Directive) : Reading → Char → Option (Directive × Reading)
  | .start, c =>
    if c = '[' then some (d, .span [])
    else if c = '-' || c = ':' || c = '_' || c.isAlphanum || 128 ≤ c.toNat then some (d, .word [c])
    else none
  | .word read, c =>
    if c = '=' then some ({ d with source := some (textOf read) }, .level [])
    else if c = '[' then some ({ d with source := some (textOf read) }, .span [])
    else some (d, .word (c :: read))
  | .span read, c =>
    if c = ']' then some ({ d with span := some (textOf read) }, .afterSpan)
    else if c = '\x7b' then
      some ({ d with span := if read.isEmpty then none else some (textOf read) }, .datum [])
    else some (d, .span (c :: read))
  | .datum read, c =>
    if c = '\x7d' then
      (datumOf? (textOf read)).map fun x => ({ d with data := d.data ++ [x] }, .afterData)
    else some (d, .datum (c :: read))
  | .afterData, c => if c = ']' then some (d, .afterSpan) else none
  | .afterSpan, c => if c = '=' then some (d, .level []) else none
  | .level read, c => some (d, .level (c :: read))

/-- The directive when the text ends. -/
def finish? (d : Directive) : Reading → Option Directive
  | .word read =>
    match Threshold.ofText? (textOf read) with
    | some t => some { d with threshold := t }
    | none => some { d with source := some (textOf read) }
  | .level read =>
    if read.isEmpty then some d
    else (Threshold.ofText? (textOf read)).map fun t => { d with threshold := t }
  | .afterSpan => some d
  | _ => none

/-- The directive that a text denotes.  With blanks around it a text without a level is the name of a
part of the program that does not exist. -/
def ofText? (text : String) : Option Directive := do
  let word := Text.trim text
  if word = text then
    let (d, reading) ← text.toList.foldlM (fun s c => step? s.1 s.2 c) ({ }, .start)
    finish? d reading
  else if word = "" || Text.contains "=" word then none
  else return { source := some text }

/-! ## Meaning -/

/-- Whether the directive is about an activity: it names one, or data of one. -/
def isAboutSpans (d : Directive) : Bool := d.span.isSome || !d.data.isEmpty

/-- Whether the directive is about notices wherever they come up. -/
def isAboutNotices (d : Directive) : Bool := d.span.isNone && d.data.all fun x => x.2.isNone

/-- Whether the name of a part of the program starts as the directive says. -/
def fitsSource (d : Directive) (source : String) : Bool :=
  match d.source with
  | some front => (Text.dropLeading front.toList source.toList).isSome
  | none => true

/-- The length of the name of the part of the program, and the number of data. -/
def specificity (d : Directive) : Nat × Nat :=
  (((d.source.map fun s => Text.byteLength s.toList + 1).getD 0), d.data.length)

/-- Whether the directive comes before another one. -/
def outranks (d e : Directive) : Bool :=
  let (a, m) := d.specificity
  let (b, n) := e.specificity
  if a ≠ b then b < a
  else if m ≠ n then n < m
  else !decide (d.data.map Prod.fst < e.data.map Prod.fst)

/-- The value of a datum as a text. -/
def datumText : Datum → String
  | .quoted s => s
  | .plain s => s
  | .count n => Text.ofNat n
  | .flag b => if b then "true" else "false"

/-- Whether the directive is about an activity with such a name and such data. -/
def fitsSpan (d : Directive) (s : LogSpan) : Bool :=
  d.fitsSource s.source && d.span.all (· = s.name) &&
    d.data.all fun x => (s.data.map Prod.fst).contains x.1

/-- Whether the values that the directive asks for are the ones of the activity. -/
def fitsValues (d : Directive) (s : LogSpan) : Bool :=
  d.data.all fun x => x.2.all fun v => (s.data.filter fun y => y.1 = x.1).any fun y =>
    datumText y.2 = v

end Directive

/-! ## Filters -/

/-- A list of directives. -/
structure LogFilter where
  directives : List Directive
  deriving DecidableEq, Repr

namespace LogFilter

/-- The filter that directives between commas denote.  Without any directive only errors are
written. -/
def ofText? (text : String) : Option LogFilter := do
  let directives ← ((Text.split ',' text).filter (· ≠ "")).mapM Directive.ofText?
  if directives.isEmpty then return ⟨[{ threshold := some .error }]⟩ else return ⟨directives⟩

/-- Writes the notices of the program down to a level. -/
def ofLevel (level : LogLevel) : LogFilter :=
  ⟨[{ source := some (sourceOf []), threshold := some level }]⟩

/-- The directive that decides among those that fit. -/
def decisive? (fitting : List Directive) : Option Directive :=
  fitting.foldl (fun best d =>
    match best with
    | none => some d
    | some b => if d.outranks b then some d else best) none

/-- Whether the directives about notices let something of a level through. -/
def letsThrough (fitting : List Directive) (level : LogLevel) : Bool :=
  (decisive? fitting).any fun d => d.threshold.admits level

/-- What is written of the notices within an activity, if a directive is about it. -/
def spanThreshold? (f : LogFilter) (s : LogSpan) : Option Threshold :=
  match f.directives.filter fun d => d.isAboutSpans && d.fitsSpan s with
  | [] => none
  | ds => some ((ds.filter (·.fitsValues s)).foldl (fun t d => t.max d.threshold) none)

/-- Whether an activity is shown. -/
def shows (f : LogFilter) (s : LogSpan) : Bool :=
  (f.spanThreshold? s).isSome ||
    letsThrough (f.directives.filter fun d => d.isAboutNotices && d.fitsSource s.source) s.level

/-- Whether a notice is written. -/
def admits (f : LogFilter) (n : Notice) : Bool :=
  (n.span.bind f.spanThreshold?).any (·.admits n.level) ||
    letsThrough (f.directives.filter fun d =>
      d.isAboutNotices && d.fitsSource n.source && d.data.all fun x => n.has x.1) n.level

end LogFilter

end SearchExport
