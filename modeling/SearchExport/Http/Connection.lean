import SearchExport.Http.Wire
import Std.Async.DNS
import Std.Async.TCP
import Std.Async.Timer

/-!
# Connections

Requests that go over the network.  Only plain connections are made: an address with another scheme
than `http` cannot be reached.

* `HttpRequest.send` — sends a request and waits for what comes of it, but no longer than it may take.
-/

set_option autoImplicit false

namespace SearchExport

open Std.Async

/-- Takes what a peer sends until it closes the connection, in at most so many pieces. -/
def receiveAll (socket : TCP.Socket.Client) (received : IO.Ref ByteArray) : Nat → Async HttpEnding
  | 0 => return .broken
  | pieces + 1 => do
    match ← socket.recv? 65536 with
    | some bytes =>
      received.modify (· ++ bytes)
      receiveAll socket received pieces
    | none => return .closed

namespace HttpRequest

/-- The name of the host as resolvers want it: brackets only stand in addresses. -/
def hostName (r : HttpRequest) : String :=
  String.ofList ((r.url.host.getD []).filter fun c => c ≠ '[' && c ≠ ']')

/-- The place of a socket at the port of the address. -/
def endpoint (r : HttpRequest) : Std.Net.IPAddr → Std.Net.SocketAddress
  | .v4 a => .v4 ⟨a, (r.url.port.getD 80).toUInt16⟩
  | .v6 a => .v6 ⟨a, (r.url.port.getD 80).toUInt16⟩

/-- A connection to the first of some places that accepts one. -/
def connect (r : HttpRequest) : List Std.Net.IPAddr → Async (Option TCP.Socket.Client)
  | [] => return none
  | ip :: others => do
    let socket ← TCP.Socket.Client.mk
    try
      socket.connect (r.endpoint ip)
      return some socket
    catch _ => r.connect others

/-- Sends the request, however long it takes, and keeps what was received of the answer. -/
def sendUntimed (r : HttpRequest) (received : IO.Ref ByteArray) : Async HttpOutcome := do
  try
    match ← r.connect (← DNS.getAddrInfo r.hostName "").toList with
    | none => return .refused r
    | some socket =>
      socket.send r.bytes
      let ending ← try receiveAll socket received UInt32.size catch _ => pure .broken
      return .ofBytes r ending (← received.get).toList
  catch _ => return .refused r

/-- Sends the request within the time that it may take.  What was received by then is looked at like an answer
that ended there. -/
def send (r : HttpRequest) : IO HttpOutcome := do
  if r.url.scheme ≠ "http".toList then return .refused r
  else
    let received ← IO.mkRef ByteArray.empty
    let limit : Async HttpOutcome := do
      sleep (.ofNat (r.timeoutSeconds * 1000))
      return .ofBytes r .stalled (← received.get).toList
    letI : Inhabited HttpOutcome := ⟨.refused r⟩
    Async.block (Async.race (r.sendUntimed received) limit)

end HttpRequest

end SearchExport
