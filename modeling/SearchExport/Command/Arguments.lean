import SearchExport.Command.Usage
import SearchExport.Text.Digits
import SearchExport.Text.Split

/-!
# Reading arguments

Options have a long name after two hyphens and may have a letter after one hyphen; a value follows in
the same argument or in the next one.  An option is checked when the next one starts, so of two faults
the one of the earlier option is found only if the later argument is known at all.

* `Progress.read` — the arguments up to a command or to their end;
* `Progress.settle` — the option that still waits for its check.
-/

set_option autoImplicit false

namespace SearchExport

/-- What a value has to be. -/
inductive ValueKind where
  | text
  /-- A path, which is never empty. -/
  | path
  /-- A number of at most 64 bits. -/
  | count
  | sortKey
  deriving DecidableEq, Repr

/-- How an option is given. -/
inductive OptionUse where
  /-- At most once, with a value. -/
  | single (kind : ValueKind)
  /-- Any number of times, with values between commas. -/
  | several (kind : ValueKind)
  /-- At most once, without a value. -/
  | switch
  | help
  | version
  deriving DecidableEq, Repr

/-- An option. -/
structure OptionSpec where
  name : String
  letter : Option Char := none
  use : OptionUse
  deriving DecidableEq, Repr

/-- Whether a value belongs to the option. -/
def OptionSpec.takesValue (o : OptionSpec) : Bool :=
  match o.use with
  | .single _ => true
  | .several _ => true
  | _ => false

/-- The number that the value of an option denotes. -/
def countValue? (text : String) : Option Nat := Text.natWithin? (UInt64.size - 1) text.toList

/-- The check of a value. -/
def ValueKind.check (kind : ValueKind) (name text : String) : Except UsageFault Unit :=
  match kind with
  | .text => .ok ()
  | .path => if text = "" then .error (.missingValue name) else .ok ()
  | .count => if (countValue? text).isSome then .ok () else .error (.badValue name text)
  | .sortKey =>
    match SortKey.ofText text with
    | .ok _ => .ok ()
    | .error _ => .error (.badValue name text)

/-- What may be given at some place. -/
structure Grammar where
  options : List OptionSpec
  /-- The commands that may follow. -/
  commands : List String := []

/-- How far arguments are read. -/
structure Progress where
  /-- The options that were given and checked, with their values. -/
  given : List (String × List String) := []
  /-- The option that still has to be checked, and its value when that is known. -/
  waiting : Option (OptionSpec × Option String) := none
  /-- Nothing that follows is an option. -/
  onlyValues : Bool := false

namespace Progress

/-- Whether the option was given. -/
def has (p : Progress) (name : String) : Bool := (p.given.map Prod.fst).contains name

/-- The values of an option, in order. -/
def valuesOf (p : Progress) (name : String) : List String :=
  (p.given.filter fun g => g.1 = name).flatMap Prod.snd

/-- The value of an option. -/
def valueOf? (p : Progress) (name : String) : Option String := (p.valuesOf name).head?

/-- One more option that is checked. -/
def add (p : Progress) (o : OptionSpec) (values : List String) : Progress :=
  { p with given := p.given ++ [(o.name, values)], waiting := none }

/-- Fails when the option was given before. -/
def requireNew (p : Progress) (o : OptionSpec) : Except UsageFault Unit :=
  if p.has o.name then .error (.repeated o.name) else .ok ()

/-- An option with its value, checked. -/
def give (p : Progress) (o : OptionSpec) (text : String) : Except UsageFault Progress :=
  match o.use with
  | .single kind => do
    p.requireNew o
    kind.check o.name text
    return p.add o [text]
  | .several kind => do
    let values := Text.split ',' text
    values.forM (kind.check o.name)
    return p.add o values
  | _ => .error (.excessValue o.name text)

/-- The check of the option that still waits for it. -/
def settle (p : Progress) : Except UsageFault Progress :=
  match p.waiting with
  | none => .ok p
  | some (o, none) => .error (.missingValue o.name)
  | some (o, some text) => p.give o text

/-- An option without a value. -/
def giveSwitch (p : Progress) (o : OptionSpec) : Except UsageFault Progress := do
  let p ← p.settle
  match o.use with
  | .help => throw .helpAsked
  | .version => throw .versionAsked
  | _ =>
    p.requireNew o
    return p.add o []

/-- An option with a value in the same argument, or one whose value is still to come. -/
def giveValue (p : Progress) (o : OptionSpec) (text : Option String) : Except UsageFault Progress := do
  let p ← p.settle
  match text with
  | some text => p.give o text
  | none => return { p with waiting := some (o, none) }

/-! ## Arguments -/

/-- Whether the next argument is the value of an option. -/
def awaitsValue (p : Progress) : Bool :=
  match p.waiting with
  | some (_, none) => true
  | _ => false

/-- An option by its long name. -/
def readLong (g : Grammar) (p : Progress) (body : List Char) : Except UsageFault Progress :=
  let (name, text) := match Text.cutFirst '=' body with
    | some (name, text) => (String.ofList name, some (String.ofList text))
    | none => (String.ofList body, none)
  match g.options.find? fun o => o.name = name with
  | none => .error (.unknownArgument ("--" ++ name))
  | some o =>
    if o.takesValue then p.giveValue o text
    else
      match text with
      | some text => .error (.excessValue name text)
      | none => p.giveSwitch o

/-- Options by their letters; what follows the letter of one that takes a value is the value. -/
def readLetters (g : Grammar) : Progress → List Char → Except UsageFault Progress
  | p, [] => .ok p
  | p, c :: cs =>
    match g.options.find? fun o => o.letter = some c with
    | none => .error (.unknownArgument (String.ofList ['-', c]))
    | some o =>
      if o.takesValue then
        match cs with
        | [] => p.giveValue o none
        | '=' :: text => p.giveValue o (some (String.ofList text))
        | text => p.giveValue o (some (String.ofList text))
      else do readLetters g (← p.giveSwitch o) cs

/-- The fault of an argument that is neither an option nor a value. -/
def strayFault (g : Grammar) (p : Progress) (a : String) : UsageFault :=
  if g.commands.isEmpty then .unknownArgument a
  else if p.onlyValues && g.commands.contains a then .unknownArgument a
  else .unknownCommand a

/-- Reads arguments up to a command, which is returned with the arguments after it, or to their
end. -/
def read (g : Grammar) : Progress → List String →
    Except UsageFault (Progress × Option (String × List String))
  | p, [] => .ok (p, none)
  | p, a :: rest =>
    if p.onlyValues then .error (p.strayFault g a)
    else if !p.awaitsValue && g.commands.contains a then .ok (p, some (a, rest))
    else
      match a.toList with
      | ['-', '-'] => read g { p with onlyValues := true } rest
      | '-' :: '-' :: body => do read g (← readLong g p body) rest
      | '-' :: c :: cs => do read g (← readLetters g p (c :: cs)) rest
      | _ =>
        match p.waiting with
        | some (o, none) => read g { p with waiting := some (o, some a) } rest
        | _ => .error (p.strayFault g a)

end Progress

end SearchExport
