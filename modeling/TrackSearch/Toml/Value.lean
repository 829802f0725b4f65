/-
TOML values, and the tables that the sections of a document make up.

A table can be defined once.  It can be defined by a header, by the dotted keys of its entries, or
implied by the header of a table inside it; only an implied one can still be given a header, and
only one that has no header can be added to by dotted keys.
-/

namespace TrackSearch
namespace Toml

inductive Value
  | string (s : String)
  | boolean (b : Bool)
  | integer (text : String)
  | float (text : String)
  | time (text : String)
  | array (items : List Value)
  | table (entries : List (String × Value))
  deriving Inhabited

inductive Origin
  | header | dotted | implied
  deriving DecidableEq, Repr

/-- What a key stands for while its document is being read. -/
inductive Node
  /-- A value, to which nothing can be added. -/
  | value (v : Value)
  | table (origin : Origin) (entries : List (String × Node))
  /-- The tables of an array, one for each of its headers. -/
  | tables (each : List (List (String × Node)))

abbrev Entries := List (String × Node)

/-- A key in its parts, with the value it is given. -/
abbrev Pair := List String × Value

/-- A header and the pairs below it. -/
structure Section where
  /-- Whether the header adds a table to an array. -/
  isArray : Bool
  path : List String
  pairs : List Pair

mutual

def Node.toValue : Node → Value
  | .value v => v
  | .table _ entries => .table (entriesToValues entries)
  | .tables each => .array (tablesToValues each)

def entriesToValues : List (String × Node) → List (String × Value)
  | [] => []
  | (k, n) :: entries => (k, n.toValue) :: entriesToValues entries

def tablesToValues : List (List (String × Node)) → List Value
  | [] => []
  | entries :: each => .table (entriesToValues entries) :: tablesToValues each

end

namespace Entries

/-- Puts a node in the place of another one. -/
def replace (es : Entries) (key : String) (n : Node) : Entries :=
  es.map fun e => if e.1 = key then (key, n) else e

/-- Changes the entries of the table at a path.  Tables that are not there are added; a path of
dotted keys enters no table that has a header. -/
def change? (dotted : Bool) (act : Entries → Option Entries) :
    List String → Entries → Option Entries
  | [], es => act es
  | k :: path, es =>
    match es.lookup k with
    | none => do
      let inner ← change? dotted act path []
      some (es ++ [(k, .table (if dotted then .dotted else .implied) inner)])
    | some (.table origin inner) => do
      if dotted && origin == .header then none
      let inner ← change? dotted act path inner
      some (replace es k (.table origin inner))
    | some (.tables each) => do
      if dotted then none
      let inner ← change? dotted act path (← each.getLast?)
      some (replace es k (.tables (each.dropLast ++ [inner])))
    | some (.value _) => none

/-- Adds a pair whose key is new. -/
def addPair? (es : Entries) (pair : Pair) : Option Entries := do
  let key ← pair.1.getLast?
  change? true
    (fun es => if (es.lookup key).isSome then none else some (es ++ [(key, .value pair.2)]))
    pair.1.dropLast es

def addPairs? (es : Entries) (pairs : List Pair) : Option Entries :=
  pairs.foldlM addPair? es

/-- Adds the table of a section. -/
def addSection? (es : Entries) (s : Section) : Option Entries := do
  let key ← s.path.getLast?
  change? false
    (fun es =>
      match s.isArray, es.lookup key with
      | false, none => do some (es ++ [(key, .table .header (← addPairs? [] s.pairs))])
      | false, some (.table .implied inner) => do
        some (replace es key (.table .header (← addPairs? inner s.pairs)))
      | true, none => do some (es ++ [(key, .tables [← addPairs? [] s.pairs])])
      | true, some (.tables each) => do
        some (replace es key (.tables (each ++ [← addPairs? [] s.pairs])))
      | _, _ => none)
    s.path.dropLast es

end Entries

/-- The table of a document: the pairs above the first header, and then the sections. -/
def assemble? (pairs : List Pair) (sections : List Section) : Option (List (String × Value)) := do
  let es ← Entries.addPairs? [] pairs
  let es ← sections.foldlM Entries.addSection? es
  some (entriesToValues es)

end Toml
end TrackSearch
