import SearchExport.Error
import SearchExport.Json.Printer
import SearchExport.Message.Decoration

/-!
# Sinks

A sink takes the chunks of an export one after the other and may refuse one, which ends the export.

* `Sink.collecting` — keeps the chunks;
* `Sink.ndjson` — writes a line of JSON for every message;
* `Sink.counting` — counts the chunks that another sink accepts;
* `Sink.interruptible` — refuses chunks once a shutdown was asked for;
* `Sink.decorating` — decorates the chunks on their way to another sink.
-/

set_option autoImplicit false

namespace SearchExport

/-- A consumer of chunks with a state of its own. -/
structure Sink (σ : Type) where
  accept : σ → Chunk → σ × Except ExportError Unit

/-! ## Collecting -/

/-- Keeps every chunk. -/
def Sink.collecting : Sink (List Chunk) where
  accept chunks c := (chunks ++ [c], .ok ())

/-! ## Writing lines -/

/-- Where lines are written: what was taken up to now, how much can be taken at all, and whether the
device still obeys. -/
structure ByteTarget where
  taken : List UInt8 := []
  /-- The number of bytes that can be taken; without it there is no bound. -/
  capacity : Option Nat := none
  /-- Whether flushing fails. -/
  flushFails : Bool := false

namespace ByteTarget

/-- Takes as many bytes as there is room for, and fails when some are left. -/
def write (t : ByteTarget) (bytes : List UInt8) : ByteTarget × Except String Unit :=
  match t.capacity with
  | none => ({ t with taken := t.taken ++ bytes }, .ok ())
  | some n =>
    let room := n - t.taken.length
    ({ t with taken := t.taken ++ bytes.take room },
      if bytes.length ≤ room then .ok () else .error "no space left")

/-- Passes on what was taken. -/
def flush (t : ByteTarget) : Except String Unit :=
  if t.flushFails then .error "device gone" else .ok ()

/-- The text of the bytes taken; a character that was cut at the end shows as U+FFFD. -/
def text (t : ByteTarget) : String :=
  let upTo (n : Nat) := String.fromUTF8? ⟨(t.taken.take n).toArray⟩
  let n := t.taken.length
  match upTo n with
  | some s => s
  | none => (([n - 1, n - 2, n - 3].findSome? upTo).getD "").push '\ufffd'

end ByteTarget

/-- The line of a message: its row as compact JSON and a line feed. -/
def Message.line (fields : List String) (m : Message) : List Char :=
  (m.row fields).toValue.render ++ ['\n']

/-- The bytes of a list of characters in UTF-8. -/
def utf8Bytes (cs : List Char) : List UInt8 := (String.ofList cs).toUTF8.toList

/-- A writer of lines and the number of lines that it has written completely. -/
structure LineWriter where
  target : ByteTarget := { }
  written : Nat := 0

namespace LineWriter

/-- Writes the lines of messages up to the first failure. -/
def writeAll (fields : List String) (w : LineWriter) : List Message → LineWriter × Except String Unit
  | [] => (w, .ok ())
  | m :: ms =>
    match w.target.write (utf8Bytes (m.line fields)) with
    | (target, .ok ()) => writeAll fields ⟨target, w.written + 1⟩ ms
    | (target, .error e) => ({ w with target := target }, .error e)

/-- Writes the lines of a chunk and flushes the target. -/
def accept (w : LineWriter) (c : Chunk) : LineWriter × Except ExportError Unit :=
  match writeAll c.fields w c.messages with
  | (w, .error e) => (w, .error (.sink ("Failed to write message: " ++ e)))
  | (w, .ok ()) =>
    (w, w.target.flush.mapError fun e => .sink ("Failed to flush output: " ++ e))

end LineWriter

/-- Writes a line of JSON for every message. -/
def Sink.ndjson : Sink LineWriter := ⟨LineWriter.accept⟩

/-! ## Wrapping sinks -/

/-- Counts the chunks that another sink accepts. -/
def Sink.counting {σ : Type} (inner : Sink σ) : Sink (σ × Nat) where
  accept s c :=
    match inner.accept s.1 c with
    | (t, .ok ()) => ((t, s.2 + 1), .ok ())
    | (t, .error e) => ((t, s.2), .error e)

/-- Refuses every chunk once `stopped` holds of the inner state; counts the chunks accepted
before. -/
def Sink.interruptible {σ : Type} (stopped : σ → Bool) (inner : Sink σ) : Sink (σ × Nat) where
  accept s c :=
    if stopped s.1 then (s, .error (.interrupted s.2))
    else
      match inner.accept s.1 c with
      | (t, .ok ()) => ((t, s.2 + 1), .ok ())
      | (t, .error e) => ((t, s.2), .error e)

/-- Decorates every chunk before another sink takes it. -/
def Sink.decorating {σ : Type} (decorators : List Decorator) (inner : Sink σ) : Sink σ where
  accept s c := inner.accept s (decorateChunk decorators c)

end SearchExport
