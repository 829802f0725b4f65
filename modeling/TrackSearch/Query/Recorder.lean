/-
A store that holds no tracks and keeps the calls made on it.
-/
import TrackSearch.Catalog.FieldSet
import TrackSearch.Query.Call

namespace TrackSearch

/-- The fields that a store can filter on, and the calls made on it so far. -/
structure Recorder where
  supported : FieldSet := FieldSet.full
  calls : List Call := []
  deriving DecidableEq, Repr

namespace Recorder

def record (r : Recorder) (c : Call) : Recorder :=
  { r with calls := r.calls ++ [c] }

def recordAll (r : Recorder) (cs : List Call) : Recorder :=
  { r with calls := r.calls ++ cs }

def depth (r : Recorder) : Int :=
  Call.depth r.calls

end Recorder

end TrackSearch
