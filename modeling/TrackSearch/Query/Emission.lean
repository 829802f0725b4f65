/-
Calls that are made until a fault stops them.
-/
import TrackSearch.Error
import TrackSearch.Query.Call

namespace TrackSearch

/-- Some calls, and the fault that stopped them if there was one.  The calls made before a fault are
not taken back. -/
structure Emission where
  calls : List Call := []
  failure : Option SearchError := none
  deriving DecidableEq, Repr

namespace Emission

def ofCalls (calls : List Call) : Emission :=
  { calls }

def fail (e : SearchError) : Emission :=
  { failure := some e }

/-- The calls of two emissions, or those of the first alone if it was stopped. -/
def andThen (a b : Emission) : Emission :=
  match a.failure with
  | some _ => a
  | none => { calls := a.calls ++ b.calls, failure := b.failure }

instance : Append Emission where
  append := andThen

/-- The calls of several emissions, up to the first that was stopped. -/
def concat (es : List Emission) : Emission :=
  es.foldr (· ++ ·) {}

end Emission

end TrackSearch
