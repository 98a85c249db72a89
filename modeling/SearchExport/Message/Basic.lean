import SearchExport.Fields

/-!
# Messages and chunks

A message is the index it was found in and its fields.  A chunk is the messages of one page together
with the fields that were asked for, in the order in which they are to be written.

* `Message.row` — the fields of a message as they are written;
* `Chunk` — what is handed over at once.
-/

set_option autoImplicit false

namespace SearchExport

/-! ## Well-known fields -/

namespace Field

/-- The unique identifier of a message. -/
def messageId : String := "gl2_message_id"

/-- The identifier of the stored document. -/
def documentId : String := "_id"

/-- The streams of a message. -/
def streams : String := "streams"

/-- The time of a message. -/
def timestamp : String := "timestamp"

/-- The sender of a message. -/
def source : String := "source"

/-- The text of a message. -/
def message : String := "message"

end Field

/-! ## Messages -/

/-- A message that was found. -/
structure Message where
  /-- The index that holds the message. -/
  index : String
  fields : Fields

namespace Message

/-- The value of a field. -/
def get? (m : Message) (name : String) : Option Value := m.fields.get? name

/-- The identifier of the stored document, if it is a text. -/
def documentId? (m : Message) : Option String := (m.get? Field.documentId).bind Value.text?

/-- The message without the fields that are not named. -/
def keep (m : Message) (names : List String) : Message := { m with fields := m.fields.keep names }

/-- The named fields in the given order; what is missing is null. -/
def row (m : Message) (names : List String) : Fields :=
  Fields.ofList (names.map fun n => (n, (m.get? n).getD .null))

end Message

/-! ## Chunks -/

/-- The messages of one page. -/
structure Chunk where
  /-- The fields that were asked for, in order. -/
  fields : List String
  messages : List Message
  /-- Whether no chunk of the export came before. -/
  isFirst : Bool

namespace Chunk

/-- The number of messages. -/
def size (c : Chunk) : Nat := c.messages.length

/-- Whether the chunk has no messages. -/
def isEmpty (c : Chunk) : Bool := c.messages.isEmpty

/-- The chunk with other messages. -/
def withMessages (c : Chunk) (messages : List Message) : Chunk := { c with messages := messages }

/-- The chunk whose messages have only the fields that were asked for. -/
def keepRequested (c : Chunk) : Chunk :=
  { c with messages := c.messages.map fun m => m.keep c.fields }

end Chunk

end SearchExport
