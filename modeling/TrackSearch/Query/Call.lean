/-
Queries as sequences of calls on the store that holds the tracks.

A call opens a scope, closes the innermost one, or adds a filter to it.  What stands directly in a
scope, filters and inner scopes, is combined by the operator of that scope, and the scopes that
stand in no other one all have to hold.
-/
import TrackSearch.Catalog.Field
import TrackSearch.Number.Integer
import TrackSearch.Text.Quoted

namespace TrackSearch

inductive Comparison
  | equals | lessThan | greaterThan
  deriving DecidableEq, Repr

namespace Comparison

def all : List Comparison :=
  [equals, lessThan, greaterThan]

def symbol : Comparison → String
  | equals => "="
  | lessThan => "<"
  | greaterThan => ">"

def key : Comparison → String
  | equals => "equals"
  | lessThan => "less_than"
  | greaterThan => "greater_than"

end Comparison

inductive Call
  /-- Opens a scope of which one part has to hold. -/
  | beginOr
  /-- Opens a scope of which every part has to hold. -/
  | beginAnd
  | endScope
  /-- A field has to hold a text, or with `exclude` must not.  The match can be tied to the start
  and to the end of the field. -/
  | textFilter (exclude : Bool) (field : Field) (text : String) (matchStart matchEnd : Bool)
  /-- A field has to compare with a value, or with `exclude` must not. -/
  | numberFilter (exclude : Bool) (field : Field) (value : Int64) (comparison : Comparison)
  deriving DecidableEq, Repr

namespace Call

def opens : Call → Bool
  | beginOr | beginAnd => true
  | _ => false

/-- The scopes that a call opens, less those that it closes. -/
def depthChange : Call → Int
  | beginOr | beginAnd => 1
  | endScope => -1
  | _ => 0

/-- The kind of a text match in one word. -/
def matchWord : Bool → Bool → String
  | true, true => "equals"
  | true, false => "starts-with"
  | false, true => "ends-with"
  | false, false => "contains"

def write : Call → String
  | beginOr => "begin_or"
  | beginAnd => "begin_and"
  | endScope => "end"
  | textFilter exclude field text matchStart matchEnd =>
    (if exclude then "exclude " else "add ") ++ field.name ++ " " ++
      matchWord matchStart matchEnd ++ " " ++ Text.quoted text
  | numberFilter exclude field value comparison =>
    (if exclude then "exclude_number " else "add_number ") ++ field.name ++ " " ++
      comparison.symbol ++ " " ++ Number.writeInt value.toInt

/-- The scopes left open after a sequence of calls; negative when more were closed than opened. -/
def depth : List Call → Int
  | [] => 0
  | c :: cs => c.depthChange + depth cs

/-- A call on one line, two spaces further in for every open scope. -/
def writeAt (depth : Nat) (c : Call) : String :=
  String.ofList (List.replicate (2 * depth) ' ') ++ c.write

/-- The depth at which a call is written, when that before it is known.  The end of a scope stands
where its beginning does, and an end without a beginning leaves the depth at zero. -/
def shownDepth (depth : Nat) : Call → Nat
  | endScope => depth - 1
  | _ => depth

/-- The depth behind a call that is written at a depth. -/
def depthBehind (shown : Nat) (c : Call) : Nat :=
  if c.opens then shown + 1 else shown

/-- The lines of a sequence of calls that starts at a depth. -/
def outlineFrom : Nat → List Call → List String
  | _, [] => []
  | depth, c :: cs =>
    let shown := shownDepth depth c
    c.writeAt shown :: outlineFrom (depthBehind shown c) cs

def outline (calls : List Call) : List String :=
  outlineFrom 0 calls

end Call

end TrackSearch
