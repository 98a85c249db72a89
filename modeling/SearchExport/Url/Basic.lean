import SearchExport.Text.Digits
import SearchExport.Text.Split

/-!
# Addresses

A parsed URL and its written form.

* `Url.text` — the written form;
* `percentEncode` — characters outside a set as bytes in hexadecimal.
-/

set_option autoImplicit false

namespace SearchExport

/-! ## Percent encoding -/

/-- A hexadecimal digit in upper case. -/
def upperHexDigit (n : Nat) : Char :=
  if n < 10 then Char.ofNat (48 + n) else Char.ofNat (55 + n)

/-- The bytes of a character in UTF-8, each as a percent sign and two hexadecimal digits. -/
def percentEncodeChar (c : Char) : List Char :=
  (String.singleton c).toUTF8.toList.flatMap fun b =>
    ['%', upperHexDigit (b.toNat / 16), upperHexDigit (b.toNat % 16)]

/-- Encodes the characters that `special` marks, and all that are not printable ASCII. -/
def percentEncode (special : List Char) (cs : List Char) : List Char :=
  cs.flatMap fun c =>
    if c.toNat < 0x20 || 0x7E < c.toNat || special.contains c then percentEncodeChar c else [c]

/-- The characters that are encoded in a fragment. -/
def fragmentSet : List Char := [' ', '"', '<', '>', '\x60']

/-- The characters that are encoded in a path. -/
def pathSet : List Char := fragmentSet ++ ['#', '?', '\x7b', '\x7d']

/-- The characters that are encoded in a user name or a password. -/
def userinfoSet : List Char := pathSet ++ ['/', ':', ';', '=', '@', '[', '\\', ']', '^', '|']

/-- The characters that are encoded in a query. -/
def querySet : List Char := [' ', '"', '#', '<', '>']

/-- The bytes that a text with percent signs stands for. -/
def percentDecode : List Char → List UInt8
  | [] => []
  | '%' :: a :: b :: rest =>
    match Text.digitValue? 16 a, Text.digitValue? 16 b with
    | some x, some y => UInt8.ofNat (x * 16 + y) :: percentDecode rest
    | _, _ => 37 :: percentDecode (a :: b :: rest)
  | c :: rest => (String.singleton c).toUTF8.toList ++ percentDecode rest
termination_by cs => cs.length

/-! ## Addresses -/

/-- The path of an address. -/
inductive UrlPath where
  /-- A text without structure. -/
  | whole (text : List Char)
  /-- Segments, each after a slash. -/
  | segments (parts : List (List Char))
  deriving DecidableEq, Repr

/-- A parsed address. -/
structure Url where
  scheme : List Char
  username : List Char := []
  password : List Char := []
  /-- The written form of the host. -/
  host : Option (List Char) := none
  /-- The port, unless it is the one that belongs to the scheme. -/
  port : Option Nat := none
  path : UrlPath
  query : Option (List Char) := none
  fragment : Option (List Char) := none
  deriving DecidableEq, Repr

namespace Url

/-- The written form of the path. -/
def pathText (u : Url) : List Char :=
  match u.path with
  | .whole text => text
  | .segments parts => parts.flatMap fun p => '/' :: p

/-- The written form of user name and password. -/
def credentialText (u : Url) : List Char :=
  if u.username.isEmpty && u.password.isEmpty then []
  else u.username ++ (if u.password.isEmpty then [] else ':' :: u.password) ++ ['@']

/-- The written form of what stands between the scheme and the path. -/
def authorityText (u : Url) : List Char :=
  match u.host with
  | none =>
    match u.path with
    | .segments ([] :: _ :: _) => ['/', '.']
    | _ => []
  | some host =>
    '/' :: '/' :: (u.credentialText ++ host ++
      match u.port with
      | some n => ':' :: Text.digits n
      | none => [])

/-- The characters of the written form. -/
def textChars (u : Url) : List Char :=
  u.scheme ++ ':' :: (u.authorityText ++ u.pathText ++
    (match u.query with
    | some q => '?' :: q
    | none => []) ++
    match u.fragment with
    | some f => '#' :: f
    | none => [])

/-- The written form. -/
def text (u : Url) : String := String.ofList u.textChars

/-- Appends a parameter to the query.  Name and value consist of letters and underscores. -/
def appendParameter (u : Url) (name value : String) : Url :=
  let parameter := name.toList ++ '=' :: value.toList
  match u.query with
  | none => { u with query := some parameter }
  | some [] => { u with query := some parameter }
  | some q => { u with query := some (q ++ '&' :: parameter) }

end Url

end SearchExport
