/-
What can be wrong with a search, and how it is told to the user.
-/
import TrackSearch.Catalog.Field

namespace TrackSearch

inductive SearchError
  /-- The value typed for a field that needs a number is none. -/
  | invalidNumber (field : Field) (text : String)
  /-- No field goes by the name. -/
  | unknownField (name : String)
  /-- The date format holds a specifier that means nothing. -/
  | invalidDateFormat (format : String)
  deriving DecidableEq, Repr

namespace SearchError

def message : SearchError → String
  | invalidNumber field text =>
    "invalid number for " ++ field.name ++ ": '" ++ text ++ "'\n  hint: " ++ field.name ++
      " expects a numeric value"
  | unknownField name =>
    "unknown field: '" ++ name ++ "'\n  hint: run 'songq fields' to list valid names"
  | invalidDateFormat format =>
    "invalid date format '" ++ format ++ "': unrecognized specifier"

end SearchError

end TrackSearch
