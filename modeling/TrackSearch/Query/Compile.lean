/-
The query of an expression.

A group becomes a scope of which one part has to hold, and an element of it a scope of its own: of
which one part has to hold, or every part if the element is negated.  The value of an element is
converted by the kind of its field:

    rating     4           8
    length     200         200000          seconds to milliseconds
    filesize   100         104857600       megabytes to bytes; equality is a range of one megabyte
    format     flac        3               the code of the file type
    date       2w          1717243200      seconds since the epoch; equality is a range of two days

An element with a field that nothing is known of, or that the store does not support, or with a date
that is none, leaves its scope empty.
-/
import TrackSearch.Catalog.FieldSet
import TrackSearch.Catalog.FileType
import TrackSearch.DateValue.Resolver
import TrackSearch.Expression.Tokenizer
import TrackSearch.Number.Binary64
import TrackSearch.Query.Emission
import TrackSearch.Query.Recorder

namespace TrackSearch

open Number

/-! ## Values -/

def secondsPerDay : Int := 86400

def bytesPerMegabyte : Int := 1048576

/-- The whole number that a text denotes, and 0 if it denotes none. -/
def wholeValue (text : String) : Int64 :=
  (readWord? (Text.trim text.toList)).getD 0

def finiteValue? (text : String) : Option Binary64 :=
  Binary64.read? (Text.trim text.toList)

/-- Twice the number that a text denotes without its fraction, and 0 if it denotes none. -/
def starsValue (text : String) : Int64 :=
  ((finiteValue? text).map fun x => x.truncScaled 1).getD 0

def MatchKind.comparison : MatchKind → Comparison
  | contains | equals => .equals
  | lessThan => .lessThan
  | greaterThan => .greaterThan

/-! ## Elements -/

/-- Turns the open scope into one of which every part has to hold, with a field strictly between two
values.  The scope that the element opened is closed and stays empty. -/
def betweenCalls (exclude : Bool) (field : Field) (low high : Int64) : List Call :=
  [.endScope, .beginAnd, .numberFilter exclude field low .greaterThan,
    .numberFilter exclude field high .lessThan]

/-- The calls for a value of an unqualified element: a scope with a filter for each supported
default field. -/
def defaultTextCalls (exclude : Bool) (text : String) (supported : FieldSet) : List Call :=
  [.beginOr] ++
  (Field.defaultText.filter supported.supports).map (.textFilter exclude · text false false) ++
  [.endScope]

/-- The calls for a number of megabytes.  For equality these are the sizes from the whole megabytes
of its absolute value, which is excluded, up to the next whole megabyte. -/
def fileSizeCalls (exclude : Bool) (field : Field) (x : Binary64) (k : MatchKind) : List Call :=
  match k.comparison with
  | .equals =>
    let floor := (clamp (x.wholeScaled 0)).toInt
    let next := (clamp (floor + 1)).toInt
    betweenCalls exclude field (clamp (floor * bytesPerMegabyte)) (clamp (next * bytesPerMegabyte))
  | comparison => [.numberFilter exclude field (x.truncScaled 20) comparison]

/-- The calls for a date.  A date counted back from now is compared by age: the tracks of less than
two weeks are those with a later date. -/
def dateCalls (exclude : Bool) (field : Field) (date : Resolution) (k : MatchKind) : List Call :=
  if date.isValid then
    match k.comparison with
    | .equals =>
      betweenCalls exclude field (clamp (date.value.toInt - secondsPerDay))
        (clamp (date.value.toInt + secondsPerDay))
    | comparison =>
      let later := (comparison == .lessThan) != date.isAbsolute
      [.numberFilter exclude field date.value (if later then .greaterThan else .lessThan)]
  else []

/-- The calls for a value of a supported field. -/
def fieldCalls (dates : Resolver) (field : Field) (e : Element) : Except SearchError (List Call) :=
  match field.kind with
  | .text =>
    let exact := e.matchKind == .equals
    .ok [.textFilter e.negate field e.text exact exact]
  | .number => .ok [.numberFilter e.negate field (wholeValue e.text) e.matchKind.comparison]
  | .rating => .ok [.numberFilter e.negate field (starsValue e.text) e.matchKind.comparison]
  | .length =>
    let milliseconds := clamp ((wholeValue e.text).toInt * 1000)
    .ok [.numberFilter e.negate field milliseconds e.matchKind.comparison]
  | .format =>
    .ok [.numberFilter e.negate field (clamp (FileType.ofName e.text).code) e.matchKind.comparison]
  | .fileSize =>
    match finiteValue? e.text with
    | some x => .ok (fileSizeCalls e.negate field x e.matchKind)
    | none => .error (.invalidNumber field e.text)
  | .date => .ok (dateCalls e.negate field (dates.resolve e.text) e.matchKind)

def elementCalls (dates : Resolver) (supported : FieldSet) (e : Element) :
    Except SearchError (List Call) :=
  if e.isUnqualified then .ok (defaultTextCalls e.negate e.text supported)
  else
    match Field.ofName? e.field with
    | some field => if supported.supports field then fieldCalls dates field e else .ok []
    | none => .ok []

/-! ## Expressions -/

/-- An element with its scope.  A fault leaves the scope open. -/
def Element.compile (dates : Resolver) (supported : FieldSet) (e : Element) : Emission :=
  Emission.ofCalls [if e.negate then .beginAnd else .beginOr] ++
  (match elementCalls dates supported e with
    | .ok calls => Emission.ofCalls (calls ++ [.endScope])
    | .error err => Emission.fail err)

/-- A group with its scope. -/
def Group.compile (dates : Resolver) (supported : FieldSet) (g : Group) : Emission :=
  Emission.ofCalls [.beginOr] ++ Emission.concat (g.map (Element.compile dates supported)) ++
    Emission.ofCalls [.endScope]

/-- The query of an expression for a store that supports the given fields. -/
def Expression.compile (dates : Resolver) (supported : FieldSet) (e : Expression) : Emission :=
  Emission.concat (e.groups.map (Group.compile dates supported))

def Recorder.compile (r : Recorder) (dates : Resolver) (e : Expression) :
    Recorder × Option SearchError :=
  let emission := e.compile dates r.supported
  (r.recordAll emission.calls, emission.failure)

end TrackSearch
