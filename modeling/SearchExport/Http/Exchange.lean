import SearchExport.Text.Digits
import SearchExport.Url.Basic

/-!
# Exchanges over HTTP

A request is sent to a peer, and either a response comes back or the exchange fails.

* `HttpRequest`, `HttpOutcome` — what is sent and what comes of it;
* `Peer` — whoever takes the requests, with a state of its own;
* `Peer.scripted` — a peer that answers from a list and records the requests;
* `Peer.resuming` — a peer that knows the first outcomes and keeps the request that comes next.
-/

set_option autoImplicit false

namespace SearchExport

/-- A request with a JSON body. -/
structure HttpRequest where
  url : Url
  authorization : Option String
  body : String
  /-- How long the exchange may take. -/
  timeoutSeconds : Nat

/-- The media type of every request. -/
def HttpRequest.contentType : String := "application/json"

/-- Path and query of the address that a request goes to. -/
def HttpRequest.target (r : HttpRequest) : String :=
  String.ofList (r.url.pathText ++
    match r.url.query with
    | some q => '?' :: q
    | none => [])

/-- What comes of a request. -/
inductive HttpOutcome where
  /-- The peer answered. -/
  | response (status : Nat) (body : String)
  /-- No answer came in time. -/
  | timedOut (detail : String)
  /-- The peer could not be reached or broke off. -/
  | unreachable (detail : String)
  deriving DecidableEq, Repr

/-- Whoever takes requests. -/
structure Peer (π : Type) where
  exchange : π → HttpRequest → π × HttpOutcome
  /-- Lets so many milliseconds pass before the next request. -/
  pause : π → Nat → π := fun s _ => s

/-- The failure to reach the peer of a request. -/
def HttpOutcome.refused (r : HttpRequest) : HttpOutcome :=
  .unreachable ("error sending request for url (" ++ r.url.text ++ ")")

/-- The outcomes that are still to come, and the requests that were taken. -/
structure Script where
  outcomes : List HttpOutcome
  taken : List HttpRequest := []

/-- Answers from a list whose last entry repeats, and records the requests. -/
def Peer.scripted : Peer Script where
  exchange s r :=
    let taken := s.taken ++ [r]
    match s.outcomes with
    | [] => (⟨[], taken⟩, .refused r)
    | [o] => (⟨[o], taken⟩, o)
    | o :: os => (⟨os, taken⟩, o)

/-- A conversation that goes on: the outcomes that are known and were not used yet, the pause since the
last request, and the first request without a known outcome together with the pause before it. -/
structure Conversation where
  outcomes : List HttpOutcome
  pauseMillis : Nat := 0
  pending : Option (HttpRequest × Nat) := none

/-- Answers from the known outcomes and keeps the first request beyond them. -/
def Peer.resuming : Peer Conversation where
  exchange c r :=
    match c.outcomes with
    | o :: os => (⟨os, 0, c.pending⟩, o)
    | [] => ({ c with pending := c.pending <|> some (r, c.pauseMillis) }, .refused r)
  pause c millis := { c with pauseMillis := c.pauseMillis + millis }

/-- Cannot be reached. -/
def Peer.absent (π : Type) : Peer π where
  exchange s r := (s, .refused r)

/-! ## Status codes -/

/-- The phrases of the status codes. -/
def statusPhrases : List (Nat × String) :=
  [(100, "Continue"), (101, "Switching Protocols"), (102, "Processing"), (200, "OK"),
    (201, "Created"), (202, "Accepted"), (203, "Non Authoritative Information"),
    (204, "No Content"), (205, "Reset Content"), (206, "Partial Content"), (207, "Multi-Status"),
    (208, "Already Reported"), (226, "IM Used"), (300, "Multiple Choices"),
    (301, "Moved Permanently"), (302, "Found"), (303, "See Other"), (304, "Not Modified"),
    (305, "Use Proxy"), (307, "Temporary Redirect"), (308, "Permanent Redirect"),
    (400, "Bad Request"), (401, "Unauthorized"), (402, "Payment Required"), (403, "Forbidden"),
    (404, "Not Found"), (405, "Method Not Allowed"), (406, "Not Acceptable"),
    (407, "Proxy Authentication Required"), (408, "Request Timeout"), (409, "Conflict"),
    (410, "Gone"), (411, "Length Required"), (412, "Precondition Failed"),
    (413, "Payload Too Large"), (414, "URI Too Long"), (415, "Unsupported Media Type"),
    (416, "Range Not Satisfiable"), (417, "Expectation Failed"), (418, "I'm a teapot"),
    (421, "Misdirected Request"), (422, "Unprocessable Entity"), (423, "Locked"),
    (424, "Failed Dependency"), (425, "Too Early"), (426, "Upgrade Required"),
    (428, "Precondition Required"), (429, "Too Many Requests"),
    (431, "Request Header Fields Too Large"), (451, "Unavailable For Legal Reasons"),
    (500, "Internal Server Error"), (501, "Not Implemented"), (502, "Bad Gateway"),
    (503, "Service Unavailable"), (504, "Gateway Timeout"), (505, "HTTP Version Not Supported"),
    (506, "Variant Also Negotiates"), (507, "Insufficient Storage"), (508, "Loop Detected"),
    (510, "Not Extended"), (511, "Network Authentication Required")]

/-- A status code with its phrase. -/
def statusText (status : Nat) : String :=
  let phrase := (statusPhrases.find? fun p => p.1 = status).map Prod.snd
  Text.ofNat status ++ " " ++ phrase.getD "<unknown status code>"

end SearchExport
