import SearchExport.Engine.Query

/-!
# Pages and engines

An engine answers a query with a page of hits, in the order of the sort, or with an error.

* `Page.cursor?` — the place after which the next page starts;
* `Engine` — anything that answers queries, one after the other;
* `Engine.ofHistory` — an engine given by its answers to all queries so far.
-/

set_option autoImplicit false

namespace SearchExport

/-- A document as the engine returns it. -/
structure Hit where
  index : String
  id : String
  source : Fields
  /-- The values of the sort keys. -/
  sortValues : List Value

/-- The hits of one page, in the order of the engine. -/
structure Page where
  hits : List Hit

/-- The sort values of the last hit. -/
def Page.cursor? (p : Page) : Option (List Value) := p.hits.getLast?.map Hit.sortValues

/-- A hit as a message; the identifier of the document becomes a field. -/
def Hit.toMessage (h : Hit) : Message where
  index := h.index
  fields := h.source.set Field.documentId (.string h.id)

/-- An engine with a state of its own. -/
structure Engine (ε : Type) where
  ask : ε → EngineQuery → ε × Except EngineError Page

/-- The engine whose answer is a function of all queries up to now, the latest one last. -/
def Engine.ofHistory (answer : List EngineQuery → Except EngineError Page) :
    Engine (List EngineQuery) where
  ask history q := (history ++ [q], answer (history ++ [q]))

end SearchExport
