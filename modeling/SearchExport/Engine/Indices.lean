import SearchExport.Error
import SearchExport.NameSet
import SearchExport.TimeRange

/-!
# Indices to search

Either the indices are known with the time they span and the streams they serve, or there are only
patterns of index names.

* `IndexRange.indicesFor` — the known indices for some streams and an interval of time;
* `IndexSettings.resolve` — these, or the patterns when no index is known.
-/

set_option autoImplicit false

namespace SearchExport

/-- The time span and the streams of one index. -/
structure IndexRange where
  indexName : String
  /-- The time of the first message. -/
  first : Timestamp
  /-- The time of the last message. -/
  last : Timestamp
  /-- The streams that write into the index; none means every stream. -/
  streams : List String
  deriving DecidableEq

/-- Whether the index may hold messages of the streams; no streams mean all. -/
def IndexRange.serves (r : IndexRange) (streams : NameSet) : Bool :=
  r.streams.isEmpty || streams.isEmpty || (NameSet.ofList r.streams).meets streams

/-- Which indices there are. -/
structure IndexSettings where
  /-- The patterns to search when no index is known. -/
  defaultPatterns : List String
  /-- The known indices. -/
  ranges : List IndexRange
  deriving DecidableEq

/-- The known indices that may hold messages of the streams within the interval. -/
def IndexRange.indicesFor (ranges : List IndexRange) (streams : NameSet)
    (timeRange : AbsoluteRange) : NameSet :=
  NameSet.ofList
    ((ranges.filter fun r => timeRange.overlaps r.first r.last && r.serves streams).map
      IndexRange.indexName)

/-- The indices that may hold messages of the streams within the interval.  The known indices take
precedence over the patterns. -/
def IndexSettings.resolve (s : IndexSettings) (streams : NameSet) (timeRange : AbsoluteRange) :
    Except EngineError NameSet :=
  if s.ranges.isEmpty then
    let patterns := NameSet.ofList s.defaultPatterns
    if patterns.isEmpty then .error (.indexResolution "no index patterns configured")
    else .ok patterns
  else .ok (IndexRange.indicesFor s.ranges streams timeRange)

end SearchExport
