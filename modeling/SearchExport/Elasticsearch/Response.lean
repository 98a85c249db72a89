import SearchExport.Engine.Page
import SearchExport.Json.Parser

/-!
# Answers of Elasticsearch

The parts of a search response and of an error response that are used.

* `Page.ofResponse?` — the page that a response holds;
* `failureText?` — what an error response says.
-/

set_option autoImplicit false

namespace SearchExport

open Document (fields? required? fieldOr? listOf? optional?)

/-- The fields of a record, as a message has them. -/
def Fields.ofDocument? : Document → Option Fields
  | .record entries => (Document.toMembers? entries).map Fields.ofList
  | _ => none

/-- The hit that a document denotes. -/
def Hit.ofDocument? (d : Document) : Option Hit := do
  let f ← d.fields? .json ["_index", "_id", "_source", "sort"]
  let index ← required? f "_index" Document.text?
  let id ← required? f "_id" Document.text?
  let source ← fieldOr? f "_source" Fields.empty Fields.ofDocument?
  let sort ← fieldOr? f "sort" [] (listOf? Document.toValue?)
  return ⟨index, id, source, sort⟩

/-- The page in the envelope of a response. -/
def Page.ofEnvelope? (d : Document) : Option Page := do
  let f ← d.fields? .json ["hits"]
  let hits ← fieldOr? f "hits" [] (listOf? Hit.ofDocument?)
  return ⟨hits⟩

/-- The page that a response denotes. -/
def Page.ofDocument? (d : Document) : Option Page := do
  let f ← d.fields? .json ["hits"]
  required? f "hits" Page.ofEnvelope?

/-- The page that the text of a response holds. -/
def Page.ofResponse? (body : String) : Option Page :=
  (Document.ofJson? body).bind Page.ofDocument?

/-- What the detail of an error says: a record with a type and perhaps a reason, or a text. -/
def failureDetail? (d : Document) : Option String :=
  if d.isReadable then
    match d with
    | .text s => some s
    | .record _ => do
      let f ← d.fields? .content ["type", "reason"]
      let kind ← required? f "type" Document.text?
      let reason ← fieldOr? f "reason" none (optional? Document.text?)
      return match reason with
        | some r => kind ++ ": " ++ r
        | none => kind
    | _ => none
  else none

/-- What the text of an error response says. -/
def failureText? (body : String) : Option String := do
  let d ← Document.ofJson? body
  let f ← d.fields? .json ["error"]
  required? f "error" failureDetail?

end SearchExport
