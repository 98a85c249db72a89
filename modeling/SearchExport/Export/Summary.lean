import SearchExport.Binary64.Basic

/-!
# Summaries of exports

What an export did, counted.

* `Summary.record` — one more chunk;
* `Summary.throughput` — messages per second.
-/

set_option autoImplicit false

namespace SearchExport

/-- Why an export stopped fetching. -/
inductive StopReason where
  /-- A page was not full. -/
  | exhausted
  /-- The limit of the request was reached. -/
  | limitReached
  /-- There was no index to search. -/
  | noIndices
  deriving DecidableEq, Repr

/-- The name of the reason. -/
def StopReason.name : StopReason → String
  | .exhausted => "exhausted"
  | .limitReached => "limit_reached"
  | .noIndices => "no_indices"

/-- What an export did. -/
structure Summary where
  /-- The chunks that the sink accepted. -/
  chunks : Nat := 0
  /-- The messages of these chunks. -/
  messages : Nat := 0
  /-- The pages that were asked for. -/
  pages : Nat := 0
  /-- The indices that were searched. -/
  indices : Nat := 0
  /-- Set once the export is complete. -/
  stopReason : Option StopReason := none
  /-- How long the export took, in nanoseconds. -/
  nanos : Nat := 0
  deriving DecidableEq, Repr

namespace Summary

/-- One more chunk with so many messages. -/
def record (s : Summary) (messages : Nat) : Summary :=
  { s with chunks := s.chunks + 1, messages := s.messages + messages }

/-- The duration in seconds: the whole seconds and the rest, each a double. -/
def seconds (s : Summary) : Binary64 :=
  (Binary64.ofNat (s.nanos / 1000000000)).add
    ((Binary64.ofNat (s.nanos % 1000000000)).div (Binary64.ofNat 1000000000))

/-- The messages per second, zero without any duration. -/
def throughput (s : Summary) : Binary64 :=
  if s.seconds.isZero then Binary64.zero false else (Binary64.ofNat s.messages).div s.seconds

end Summary

end SearchExport
