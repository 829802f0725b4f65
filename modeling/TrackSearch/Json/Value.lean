/-
JSON values, and reading typed values out of them.  Reading is strict: nothing is converted, and a
key that is wanted has to occur exactly once.  Keys that are not wanted may be there.
-/
import TrackSearch.Number.Integer

namespace TrackSearch

inductive Json
  | null
  | bool (b : Bool)
  | integer (n : Int)
  /-- A number that is not written as an integer. -/
  | real (text : String)
  | string (s : String)
  | array (items : List Json)
  | object (entries : List (String × Json))
  deriving Inhabited

namespace Json

def bool? : Json → Option Bool
  | bool b => some b
  | _ => none

def string? : Json → Option String
  | string s => some s
  | _ => none

def array? : Json → Option (List Json)
  | array items => some items
  | _ => none

/-- An integer that fits a 64-bit word. -/
def word? : Json → Option Int64
  | integer n => Number.word? n
  | _ => none

/-- The value of a key, if it occurs exactly once. -/
def valueAt? (entries : List (String × Json)) (key : String) : Option Json :=
  match entries.filter fun e => e.1 == key with
  | [(_, v)] => some v
  | _ => none

/-- The values of the given keys, in their order.  An array with just as many items will do for the
object. -/
def record? (keys : List String) : Json → Option (List Json)
  | object entries => keys.mapM (valueAt? entries)
  | array items => if items.length = keys.length then some items else none
  | _ => none

def isNull : Json → Bool
  | null => true
  | _ => false

/-- Whether a value is null or an object without entries. -/
def isNullOrEmpty : Json → Bool
  | null | object [] => true
  | _ => false

/-- The member of a list that goes by the name in a JSON value.  The name may also be written as the
only key of an object, with a value that says nothing. -/
def named? {α : Type} (saysNothing : Json → Bool) (members : List α) (key : α → String) :
    Json → Option α
  | string s => members.find? fun a => key a == s
  | object [(s, v)] => if saysNothing v then members.find? fun a => key a == s else none
  | _ => none

/-- The items of an array, each read by the same reader. -/
def listOf? {α : Type} (read? : Json → Option α) (j : Json) : Option (List α) :=
  j.array?.bind fun items => items.mapM read?

end Json

end TrackSearch
