import SearchExport.Http.Exchange
import SearchExport.Json.Value
import SearchExport.Text.Blank

/-!
# HTTP on the wire

The bytes of a request, and the outcome that the bytes of an answer stand for.  Every exchange has a
connection of its own, which the peer closes at the end of its answer.

* `HttpRequest.bytes` — what is sent;
* `HttpEnding` — how the bytes of an answer end;
* `dechunk?`, `HttpHead.body?` — a body in chunks, and the body that follows a head;
* `HttpOutcome.ofBytes` — what the bytes of an answer and their end stand for.
-/

set_option autoImplicit false

namespace SearchExport

/-! ## Requests -/

/-- Host and port as the peer wants to hear them. -/
def Url.hostText (u : Url) : String :=
  String.ofList (u.host.getD [] ++
    match u.port with
    | some n => ':' :: Text.digits n
    | none => [])

/-- The lines in front of the body. -/
def HttpRequest.headLines (r : HttpRequest) : List String :=
  ["POST " ++ r.target ++ " HTTP/1.1", "host: " ++ r.url.hostText, "accept: */*",
    "content-type: " ++ HttpRequest.contentType,
    "content-length: " ++ Text.ofNat r.body.utf8ByteSize, "connection: close"] ++
  (r.authorization.map fun a => "authorization: " ++ a).toList

/-- The bytes of a request. -/
def HttpRequest.bytes (r : HttpRequest) : ByteArray :=
  ("".intercalate (r.headLines.map (· ++ "\r\n")) ++ "\r\n" ++ r.body).toUTF8

/-! ## Heads of answers -/

/-- The bytes as characters, one for each. -/
def charsOfBytes (bytes : List UInt8) : List Char := bytes.map fun b => Char.ofNat b.toNat

/-- What stands before and after the first empty line. -/
def cutHead? : List UInt8 → Option (List UInt8 × List UInt8)
  | 13 :: 10 :: 13 :: 10 :: rest => some ([], rest)
  | b :: rest => (cutHead? rest).map fun p => (b :: p.1, p.2)
  | [] => none

/-- What an answer says about its body. -/
structure HttpHead where
  status : Nat
  /-- Names in lower case, and values. -/
  fields : List (String × String)

namespace HttpHead

/-- Name and value of a line. -/
def field? (line : String) : Option (String × String) :=
  (Text.cutFirst ':' line.toList).map fun p =>
    (String.ofList ((Text.trimChars p.1).map Char.toLower), String.ofList (Text.trimChars p.2))

/-- The head that some lines make: the status stands second on the first one. -/
def ofLines? : List String → Option HttpHead
  | [] => none
  | first :: rest =>
    match Text.words first with
    | _ :: status :: _ => (Text.nat? status.toList).map fun n => ⟨n, rest.filterMap field?⟩
    | _ => none

/-- The head that some bytes make. -/
def ofBytes? (bytes : List UInt8) : Option HttpHead :=
  ofLines? (Text.lines (String.ofList (charsOfBytes bytes)))

/-- The number of bytes of the body. -/
def length? (h : HttpHead) : Option Nat :=
  (lookupEntry "content-length" h.fields).bind fun n => Text.nat? n.toList

/-- Whether the body comes in chunks. -/
def isChunked (h : HttpHead) : Bool :=
  (lookupEntry "transfer-encoding" h.fields).any fun e => e.toLower = "chunked"

end HttpHead

/-! ## Bodies -/

/-- The length that stands in front of a chunk, and what follows its line. -/
def chunkLength? (bytes : List UInt8) : Option (Nat × List UInt8) :=
  let line := bytes.takeWhile (· ≠ 10)
  let length := (charsOfBytes line).takeWhile fun c => (Text.digitValue? 16 c).isSome
  if length.isEmpty || line.length = bytes.length then none
  else some (Text.number 16 length, bytes.drop (line.length + 1))

/-- The body that chunks make; an empty one is the last.  The counter bounds the number of chunks. -/
def dechunkFrom? : Nat → List UInt8 → Option (List UInt8)
  | 0, _ => none
  | fuel + 1, bytes => do
    let (length, rest) ← chunkLength? bytes
    if length = 0 then some []
    else if rest.length < length + 2 then none
    else
      let body ← dechunkFrom? fuel (rest.drop (length + 2))
      some (rest.take length ++ body)

/-- The body that chunks make. -/
def dechunk? (bytes : List UInt8) : Option (List UInt8) := dechunkFrom? bytes.length bytes

/-- How the bytes of an answer end. -/
inductive HttpEnding where
  /-- The peer closed the connection. -/
  | closed
  /-- The connection broke. -/
  | broken
  /-- Nothing more came in time. -/
  | stalled
  deriving DecidableEq, Repr

/-- The body that follows a head; nothing when some of it is missing.  A body of unknown length goes on until
the peer closes the connection. -/
def HttpHead.body? (h : HttpHead) (ending : HttpEnding) (bytes : List UInt8) : Option (List UInt8) :=
  if h.isChunked then dechunk? bytes
  else
    match h.length? with
    | some n => if bytes.length < n then none else some (bytes.take n)
    | none => if ending = .closed then some bytes else none

/-! ## Answers -/

/-- What is said about an exchange that took too long. -/
def HttpRequest.timeoutText (r : HttpRequest) : String :=
  "error sending request for url (" ++ r.url.text ++ ")"

/-- The outcome when no head came. -/
def HttpOutcome.unanswered (r : HttpRequest) : HttpEnding → HttpOutcome
  | .closed | .broken => .refused r
  | .stalled => .timedOut r.timeoutText

/-- The outcome that the bytes of a connection stand for.  Answers with a status below 200 only announce
another one; the counter bounds their number.

The peer has answered as soon as the head is there: a body that is not text, breaks off or does not come in time
is an empty one, which no page can be read from. -/
def HttpOutcome.ofBytesWithin (r : HttpRequest) (ending : HttpEnding) : Nat → List UInt8 → HttpOutcome
  | 0, _ => .refused r
  | fuel + 1, bytes =>
    match cutHead? bytes with
    | none => .unanswered r ending
    | some (head, rest) =>
      match HttpHead.ofBytes? head with
      | none => .refused r
      | some h =>
        if h.status < 200 then ofBytesWithin r ending fuel rest
        else
          let text := (h.body? ending rest).bind fun body => String.fromUTF8? ⟨body.toArray⟩
          .response h.status (text.getD "")

/-- The outcome that the bytes of a connection stand for. -/
def HttpOutcome.ofBytes (r : HttpRequest) (ending : HttpEnding) (bytes : List UInt8) : HttpOutcome :=
  .ofBytesWithin r ending 100 bytes

end SearchExport
