/-
Search expressions: a conjunction of groups, each of them a disjunction of elements, each of them a
condition on one field or on the default fields of a track.
-/

namespace TrackSearch

inductive MatchKind
  | contains | equals | lessThan | greaterThan
  deriving DecidableEq, Repr

namespace MatchKind

def all : List MatchKind :=
  [contains, equals, lessThan, greaterThan]

/-- The operator character of a comparison.  Containment has none. -/
def symbol? : MatchKind → Option Char
  | contains => none
  | equals => some '='
  | lessThan => some '<'
  | greaterThan => some '>'

def ofSymbol? (c : Char) : Option MatchKind :=
  if c = '=' then some equals
  else if c = '<' then some lessThan
  else if c = '>' then some greaterThan
  else none

theorem ofSymbol?_eq_some_iff {c : Char} {k : MatchKind} :
    ofSymbol? c = some k ↔ k.symbol? = some c := by
  unfold ofSymbol?
  cases k <;> simp only [symbol?] <;> split <;> (try split) <;> (try split) <;> simp_all [eq_comm]

def key : MatchKind → String
  | contains => "contains"
  | equals => "equals"
  | lessThan => "less_than"
  | greaterThan => "greater_than"

end MatchKind

/-- One condition on a track. -/
structure Element where
  /-- The name of the field as it was typed.  An empty name means the default fields. -/
  field : String := ""
  text : String := ""
  negate : Bool := false
  matchKind : MatchKind := .contains
  deriving DecidableEq, Repr

def Element.isUnqualified (e : Element) : Bool :=
  e.field.isEmpty

/-- Elements of which one has to match. -/
abbrev Group := List Element

/-- Groups all of which have to match. -/
structure Expression where
  groups : List Group := []
  deriving DecidableEq, Repr

namespace Expression

/-- The expression of the groups that are not empty. -/
def ofGroups (groups : List Group) : Expression :=
  ⟨groups.filter fun g => !g.isEmpty⟩

def elements (e : Expression) : List Element :=
  e.groups.flatten

end Expression

end TrackSearch
