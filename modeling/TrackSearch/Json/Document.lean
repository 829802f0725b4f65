/-
Expressions, queries and dates as JSON values.
-/
import TrackSearch.DateValue.Resolution
import TrackSearch.Expression.Basic
import TrackSearch.Json.Value
import TrackSearch.Query.Call

namespace TrackSearch

/-! ## Expressions -/

namespace Element

def toJson (e : Element) : Json :=
  .object [("field", .string e.field), ("text", .string e.text), ("negate", .bool e.negate),
    ("match_kind", .string e.matchKind.key)]

def ofJson? (j : Json) : Option Element :=
  match j.record? ["field", "text", "negate", "match_kind"] with
  | some [field, text, negate, matchKind] => do
    some {
      field := ← field.string?
      text := ← text.string?
      negate := ← negate.bool?
      matchKind := ← matchKind.named? Json.isNull MatchKind.all MatchKind.key }
  | _ => none

end Element

namespace Expression

def toJson (e : Expression) : Json :=
  .object [("groups", .array (e.groups.map fun g => .array (g.map Element.toJson)))]

/-- Groups are read as they are, also empty ones. -/
def ofJson? (j : Json) : Option Expression :=
  match j.record? ["groups"] with
  | some [groups] => (groups.listOf? (Json.listOf? Element.ofJson?)).map Expression.mk
  | _ => none

end Expression

/-! ## Calls -/

namespace Call

/-- What the name of a call says of it: which calls without operands it is, or that it is a text
filter or a number filter, and whether it excludes. -/
inductive Shape
  | beginOr | beginAnd | endScope
  | textFilter (exclude : Bool)
  | numberFilter (exclude : Bool)
  deriving DecidableEq, Repr

namespace Shape

def all : List Shape :=
  [beginOr, beginAnd, endScope, textFilter false, textFilter true, numberFilter false,
    numberFilter true]

def key : Shape → String
  | beginOr => "begin_or"
  | beginAnd => "begin_and"
  | endScope => "end_scope"
  | textFilter false => "add_filter"
  | textFilter true => "exclude_filter"
  | numberFilter false => "add_number_filter"
  | numberFilter true => "exclude_number_filter"

def operands : Shape → List String
  | textFilter _ => ["field", "text", "match_start", "match_end"]
  | numberFilter _ => ["field", "value", "comparison"]
  | _ => []

end Shape

def shape : Call → Shape
  | .beginOr => .beginOr
  | .beginAnd => .beginAnd
  | .endScope => .endScope
  | .textFilter exclude .. => .textFilter exclude
  | .numberFilter exclude .. => .numberFilter exclude

def operandsToJson : Call → List Json
  | .textFilter _ field text matchStart matchEnd =>
    [.string field.key, .string text, .bool matchStart, .bool matchEnd]
  | .numberFilter _ field value comparison =>
    [.string field.key, .integer value.toInt, .string comparison.key]
  | _ => []

def toJson (c : Call) : Json :=
  .object (("call", .string c.shape.key) :: c.shape.operands.zip c.operandsToJson)

/-- The operand that goes by a name, for which an object without entries says as little as null. -/
def named? {α : Type} (members : List α) (key : α → String) (j : Json) : Option α :=
  j.named? Json.isNullOrEmpty members key

/-- The call of a shape with the given operands. -/
def ofOperands? : Shape → List Json → Option Call
  | .beginOr, [] => some .beginOr
  | .beginAnd, [] => some .beginAnd
  | .endScope, [] => some .endScope
  | .textFilter exclude, [field, text, matchStart, matchEnd] => do
    some (.textFilter exclude (← named? Field.all Field.key field) (← text.string?)
      (← matchStart.bool?) (← matchEnd.bool?))
  | .numberFilter exclude, [field, value, comparison] => do
    some (.numberFilter exclude (← named? Field.all Field.key field) (← value.word?)
      (← named? Comparison.all Comparison.key comparison))
  | _, _ => none

/-- A call is an object with its name under `call`, or an array with its name in front. -/
def ofJson? (j : Json) : Option Call :=
  let shape? (name : Json) : Option Shape :=
    name.string?.bind fun s => Shape.all.find? fun shape => shape.key == s
  match j with
  | .object entries => do
    let shape ← (Json.valueAt? entries "call").bind shape?
    ofOperands? shape (← shape.operands.mapM (Json.valueAt? entries))
  | .array (name :: operands) => do
    ofOperands? (← shape? name) operands
  | _ => none

end Call

/-! ## Dates -/

namespace Resolution

def toJson (r : Resolution) : Json :=
  .object [("value", .integer r.value.toInt), ("is_absolute", .bool r.isAbsolute)]

def ofJson? (j : Json) : Option Resolution :=
  match j.record? ["value", "is_absolute"] with
  | some [value, isAbsolute] => do
    some { value := ← value.word?, isAbsolute := ← isAbsolute.bool? }
  | _ => none

end Resolution

end TrackSearch
