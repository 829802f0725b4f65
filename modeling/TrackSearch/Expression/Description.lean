/-
Elements in words.
-/
import TrackSearch.Expression.Basic
import TrackSearch.Text.Quoted

namespace TrackSearch

def MatchKind.phrase : MatchKind → String
  | contains => "contains"
  | equals => "equals"
  | lessThan => "less-than"
  | greaterThan => "greater-than"

/-- An element in words, as in `not score less-than "50"`. -/
def Element.describe (e : Element) : String :=
  (if e.negate then "not " else "") ++ (if e.isUnqualified then "any" else e.field) ++ " " ++
    e.matchKind.phrase ++ " " ++ Text.quoted e.text

end TrackSearch
