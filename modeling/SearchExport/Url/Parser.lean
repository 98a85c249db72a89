import SearchExport.Url.Host

/-!
# Reading addresses

An address is read on its own or relative to another one, by the rules that web browsers follow.

* `Url.parse` — an address on its own;
* `Url.join` — an address relative to a base.
-/

set_option autoImplicit false

namespace SearchExport.Url

/-! ## Schemes -/

/-- Schemes whose addresses always have a host, with the port that belongs to them. -/
def specialPorts : List (List Char × Nat) :=
  [("http".toList, 80), ("https".toList, 443), ("ws".toList, 80), ("wss".toList, 443),
    ("ftp".toList, 21)]

/-- The scheme of local files. -/
def fileScheme : List Char := "file".toList

/-- Whether a scheme has the rules of the web. -/
def isSpecial (scheme : List Char) : Bool :=
  scheme = fileScheme || specialPorts.any fun p => p.1 = scheme

/-- The port that belongs to a scheme. -/
def defaultPort? (scheme : List Char) : Option Nat :=
  (specialPorts.find? fun p => p.1 = scheme).map Prod.snd

/-- The scheme in front of a text, in lower case, and what follows its colon. -/
def scheme? (cs : List Char) : Option (List Char × List Char) :=
  match cs with
  | c :: _ =>
    if c.isAlpha then
      let name := cs.takeWhile fun c => c.isAlphanum || c = '+' || c = '-' || c = '.'
      match cs.drop name.length with
      | ':' :: rest => some (name.map Char.toLower, rest)
      | _ => none
    else none
  | [] => none

/-! ## Parts -/

/-- A slash, or for special schemes also a backslash. -/
def isSlash (special : Bool) (c : Char) : Bool := c = '/' || (special && c = '\\')

/-- A character that ends the authority. -/
def endsAuthority (special : Bool) (c : Char) : Bool := isSlash special c || c = '?' || c = '#'

/-- The query and the fragment that end a text. -/
def queryAndFragment (special : Bool) (cs : List Char) :
    Option (List Char) × Option (List Char) :=
  let (front, fragment) := match Text.cutFirst '#' cs with
    | some (front, f) => (front, some (percentEncode fragmentSet f))
    | none => (cs, none)
  let query := match front with
    | '?' :: q => some (percentEncode (if special then '\'' :: querySet else querySet) q)
    | _ => none
  (query, fragment)

/-- Whether a segment stands for the place itself. -/
def isDot (segment : List Char) : Bool :=
  ["." , "%2e"].contains (String.ofList (segment.map Char.toLower))

/-- Whether a segment stands for the place above. -/
def isDoubleDot (segment : List Char) : Bool :=
  ["..", ".%2e", "%2e.", "%2e%2e"].contains (String.ofList (segment.map Char.toLower))

/-- The pieces of a text between its slashes. -/
def splitSlashes (special : Bool) : List Char → List (List Char)
  | [] => [[]]
  | c :: cs =>
    if isSlash special c then [] :: splitSlashes special cs
    else
      match splitSlashes special cs with
      | [] => [[c]]
      | p :: ps => (c :: p) :: ps

/-- Appends segments to a path, following those that stand for places.  The last segment of a text
names a place also when it is left out. -/
def walk (path : List (List Char)) : List (List Char) → List (List Char)
  | [] => path
  | [s] =>
    if isDoubleDot s then path.dropLast ++ [[]]
    else if isDot s then path ++ [[]]
    else path ++ [percentEncode pathSet s]
  | s :: t :: ss =>
    let path :=
      if isDoubleDot s then path.dropLast
      else if isDot s then path
      else path ++ [percentEncode pathSet s]
    walk path (t :: ss)

/-- Splits a text where its query or its fragment starts. -/
def cutPath (cs : List Char) : List Char × List Char :=
  let path := cs.takeWhile fun c => c ≠ '?' && c ≠ '#'
  (path, cs.drop path.length)

/-- The address with the path that a text denotes, read from `start`, and with its query and
fragment. -/
def withPathFrom (u : Url) (start : List (List Char)) (cs : List Char) : Url :=
  let special := isSpecial u.scheme
  let (path, rest) := cutPath cs
  let tail := queryAndFragment special rest
  { u with path := .segments (walk start (splitSlashes special path)),
           query := tail.1, fragment := tail.2 }

/-- The address with the path that follows an authority. -/
def withPath (u : Url) (cs : List Char) : Url :=
  let special := isSpecial u.scheme
  match cs with
  | c :: rest =>
    if isSlash special c then u.withPathFrom [] rest
    else if special then u.withPathFrom [] cs
    else
      let tail := queryAndFragment special cs
      { u with path := .segments [], query := tail.1, fragment := tail.2 }
  | [] => if special then u.withPathFrom [] [] else { u with path := .segments [] }

/-- The user name and the password in front of the last `@`, and what follows it. -/
def splitCredentials (authority : List Char) :
    Except UrlFault ((List Char × List Char) × List Char) :=
  match Text.cutLast '@' authority with
  | none => .ok (([], []), authority)
  | some (credentials, host) =>
    if credentials.isEmpty && host.isEmpty then .error .emptyHost
    else
      let (username, password) := (Text.cutFirst ':' credentials).getD (credentials, [])
      .ok ((percentEncode userinfoSet username, percentEncode userinfoSet password), host)

/-- What stands before and after the colon of the port. -/
def splitPort : Bool → List Char → List Char × Option (List Char)
  | _, [] => ([], none)
  | bracketed, c :: cs =>
    if c = ':' && !bracketed then ([], some cs)
    else
      let (host, port) := splitPort (if c = '[' then true else if c = ']' then false else bracketed) cs
      (c :: host, port)

/-- The port that a text denotes, unless it belongs to the scheme. -/
def readPort (scheme : List Char) : Option (List Char) → Except UrlFault (Option Nat)
  | none => .ok none
  | some [] => .ok none
  | some ds =>
    match Text.nat? ds with
    | some n =>
      if 65535 < n then .error .badPort
      else .ok (if defaultPort? scheme = some n then none else some n)
    | none => .error .badPort

/-- The address whose authority and path follow two slashes. -/
def afterSlashes (scheme cs : List Char) : Except UrlFault Url := do
  let special := isSpecial scheme
  let authority := cs.takeWhile fun c => !endsAuthority special c
  let rest := cs.drop authority.length
  let ((username, password), address) ← splitCredentials authority
  let (host, portText) := splitPort false address
  if special && host.isEmpty then throw .emptyHost
  let host ← if special then Host.parse host else Host.parseOpaque host
  if host.isEmpty && !(username.isEmpty && password.isEmpty && portText.isNone) then throw .emptyHost
  let port ← readPort scheme portText
  let u : Url := {
    scheme := scheme, username := username, password := password, host := some host, port := port,
    path := .segments [] }
  return u.withPath rest

/-- The address of a local file. -/
def ofFile (cs : List Char) : Except UrlFault Url :=
  let slashes := cs.takeWhile (isSlash true)
  let empty : Url := { scheme := fileScheme, host := some [], path := .segments [] }
  if slashes.length = 2 then
    let rest := cs.drop 2
    let host := rest.takeWhile fun c => !endsAuthority true c
    if host.isEmpty then .ok (empty.withPath rest)
    else do
      let parsed ← Host.parse host
      let shown := if parsed = "localhost".toList then [] else parsed
      return { empty with host := some shown }.withPath (rest.drop host.length)
  else if 2 < slashes.length then .ok (empty.withPath (cs.drop 2))
  else .ok (empty.withPath cs)

/-! ## Relative addresses -/

/-- An address without scheme, relative to a base with segments. -/
def relativeTo (base : Url) (segments : List (List Char)) (cs : List Char) : Except UrlFault Url :=
  let special := isSpecial base.scheme
  let slashes := cs.takeWhile (isSlash special)
  if 2 ≤ slashes.length then
    if base.scheme = fileScheme then ofFile cs
    else afterSlashes base.scheme (cs.drop (if special then slashes.length else 2))
  else
    match cs with
    | [] => .ok { base with fragment := none }
    | '?' :: _ =>
      let tail := queryAndFragment special cs
      .ok { base with query := tail.1, fragment := tail.2 }
    | '#' :: _ => .ok { base with fragment := (queryAndFragment special cs).2 }
    | c :: rest =>
      if isSlash special c then .ok (base.withPathFrom [] rest)
      else .ok (base.withPathFrom segments.dropLast cs)

/-- The address that follows a scheme. -/
def afterScheme (base : Option Url) (scheme cs : List Char) : Except UrlFault Url :=
  let slashes := cs.takeWhile (isSlash (isSpecial scheme))
  if scheme = fileScheme then ofFile cs
  else if isSpecial scheme then
    match base with
    | some b =>
      match b.path with
      | .segments parts =>
        if b.scheme = scheme && slashes.length < 2 then relativeTo b parts cs
        else afterSlashes scheme (cs.drop slashes.length)
      | .whole _ => afterSlashes scheme (cs.drop slashes.length)
    | none => afterSlashes scheme (cs.drop slashes.length)
  else
    match cs with
    | '/' :: '/' :: rest => afterSlashes scheme rest
    | '/' :: rest => .ok ({ scheme := scheme, path := .segments [] : Url }.withPathFrom [] rest)
    | _ =>
      let (path, rest) := cutPath cs
      let tail := queryAndFragment false rest
      .ok { scheme := scheme, path := .whole (percentEncode [] path),
            query := tail.1, fragment := tail.2 }

/-! ## Texts -/

/-- A control character or a space. -/
def isMargin (c : Char) : Bool := c.toNat ≤ 0x20

/-- The text without its margins, tabs and line ends. -/
def clean (s : String) : List Char :=
  let cs := ((s.toList.dropWhile isMargin).reverse.dropWhile isMargin).reverse
  cs.filter fun c => !(c = '\t' || c = '\n' || c = '\r')

/-- The address that a text denotes, perhaps relative to a base. -/
def read (base : Option Url) (s : String) : Except UrlFault Url :=
  let cs := clean s
  match scheme? cs with
  | some (scheme, rest) => afterScheme base scheme rest
  | none =>
    match base with
    | none => .error .noBase
    | some b =>
      match b.path with
      | .segments parts => relativeTo b parts cs
      | .whole _ =>
        if cs.head? = some '#' then
          .ok { b with fragment := (queryAndFragment (isSpecial b.scheme) cs).2 }
        else .error .unusableBase

/-- The address that a text denotes on its own. -/
def parse (s : String) : Except UrlFault Url := read none s

/-- The address that a text denotes relative to a base. -/
def join (base : Url) (s : String) : Except UrlFault Url := read (some base) s

end SearchExport.Url
