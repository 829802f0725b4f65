/-
The written form of an expression, which reads back to the expression itself.
-/
import TrackSearch.Expression.Basic
import TrackSearch.Text.Blank
import TrackSearch.Text.Split

namespace TrackSearch

/-- The characters that mean something outside quotes, white space apart. -/
def operatorChars : List Char :=
  ['"', ':', '-', '<', '>', '=']

/-- Whether a value would not be read as one plain word. -/
def needsQuotes (text : String) : Bool :=
  text.isEmpty || text == "AND" || text == "OR" ||
    text.toList.any fun c => Text.isBlank c || operatorChars.contains c

/-- The value of an element, between quotes if it needs them. -/
def writeValue (text : String) : String :=
  if needsQuotes text then "\"" ++ text ++ "\"" else text

/-- The sign, the field with its colon and the operator, as far as the element has them, and the
value. -/
def Element.write (e : Element) : String :=
  (if e.negate then "-" else "") ++
  (if e.field.isEmpty then "" else e.field ++ ":") ++
  (match e.matchKind.symbol? with
    | some c => String.singleton c
    | none => "") ++
  writeValue e.text

def Group.write (g : Group) : String :=
  Text.join " OR " (g.map Element.write)

def Expression.write (e : Expression) : String :=
  Text.join " " (e.groups.map Group.write)

end TrackSearch
