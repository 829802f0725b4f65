/-
What a sequence of calls asks of a track.

`evaluate?` takes the calls one at a time and keeps a stack of open scopes, as the contract of a
store has it: a filter or a closed scope counts as one part of the innermost open scope, the parts of
a scope are combined by its operator, and outside all scopes every part has to hold.

A sequence whose scopes are all closed is the flat form of a row of `Part`s, which are trees.
`run?_calls` says that the stack takes the calls of a tree as the value of the tree, and
`evaluate?_callsAll` that a whole sequence comes to what its trees come to.
-/
import TrackSearch.Expression.PlainText
import TrackSearch.Query.Call

namespace TrackSearch

/-! ## Tracks and filters -/

/-- A track, as far as a filter can tell it from others. -/
structure Track where
  /-- Whether a field holds a text, at its start and at its end if the match is tied to them. -/
  hasText : Field → String → Bool → Bool → Bool
  number : Field → Int64

/-- The track with the given texts and numbers, when texts are compared letter by letter. -/
def Track.ofValues (text : Field → String) (number : Field → Int64) : Track where
  hasText field value matchStart matchEnd :=
    match matchStart, matchEnd with
    | true, true => text field == value
    | true, false => value.toList.isPrefixOf (text field).toList
    | false, true => value.toList.isSuffixOf (text field).toList
    | false, false => occursIn value.toList (text field).toList
  number := number

def Comparison.holds (n value : Int64) : Comparison → Bool
  | equals => n == value
  | lessThan => decide (n < value)
  | greaterThan => decide (value < n)

theorem Comparison.holds_lessThan_iff {n value : Int64} :
    lessThan.holds n value = true ↔ n.toInt < value.toInt := by
  rw [holds, decide_eq_true_iff, Int64.lt_iff_toInt_lt]

theorem Comparison.holds_greaterThan_iff {n value : Int64} :
    greaterThan.holds n value = true ↔ value.toInt < n.toInt := by
  rw [holds, decide_eq_true_iff, Int64.lt_iff_toInt_lt]

/-- What a filter asks of a field, before it is turned into its opposite or not. -/
inductive Filter
  | text (field : Field) (text : String) (matchStart matchEnd : Bool)
  | number (field : Field) (value : Int64) (comparison : Comparison)
  deriving DecidableEq, Repr

namespace Filter

def holds (τ : Track) : Filter → Bool
  | text field value matchStart matchEnd => τ.hasText field value matchStart matchEnd
  | number field value comparison => comparison.holds (τ.number field) value

def call (exclude : Bool) : Filter → Call
  | text field value matchStart matchEnd => .textFilter exclude field value matchStart matchEnd
  | number field value comparison => .numberFilter exclude field value comparison

end Filter

/-! ## The stack of open scopes -/

inductive Junction
  | any | every
  deriving DecidableEq, Repr

namespace Junction

def unit : Junction → Bool
  | any => false
  | every => true

def combine : Junction → Bool → Bool → Bool
  | any, a, b => a || b
  | every, a, b => a && b

def call : Junction → Call
  | any => .beginOr
  | every => .beginAnd

@[simp] theorem call_any : any.call = .beginOr := rfl

@[simp] theorem call_every : every.call = .beginAnd := rfl

theorem combine_unit (j : Junction) (a : Bool) : j.combine a j.unit = a := by
  cases j <;> cases a <;> rfl

theorem unit_combine (j : Junction) (a : Bool) : j.combine j.unit a = a := by
  cases j <;> cases a <;> rfl

theorem combine_assoc (j : Junction) (a b c : Bool) :
    j.combine (j.combine a b) c = j.combine a (j.combine b c) := by
  cases j
  · exact Bool.or_assoc a b c
  · exact Bool.and_assoc a b c

end Junction

/-- An open scope, with the value of the parts it has had so far. -/
structure Frame where
  junction : Junction
  value : Bool
  deriving DecidableEq, Repr

namespace Frame

def new (j : Junction) : Frame :=
  ⟨j, j.unit⟩

def add (f : Frame) (b : Bool) : Frame :=
  { f with value := f.junction.combine f.value b }

end Frame

/-- The open scopes, from the inside out.  The outermost of them is no scope of the calls but what
stands around them. -/
structure Scopes where
  top : Frame
  below : List Frame
  deriving DecidableEq, Repr

namespace Scopes

def push (s : Scopes) (j : Junction) : Scopes :=
  ⟨Frame.new j, s.top :: s.below⟩

def add (s : Scopes) (b : Bool) : Scopes :=
  { s with top := s.top.add b }

/-- Closes the innermost scope, whose value becomes a part of the scope around it. -/
def pop? (s : Scopes) : Option Scopes :=
  match s.below with
  | [] => none
  | f :: fs => some ⟨f.add s.top.value, fs⟩

def step? (τ : Track) (s : Scopes) : Call → Option Scopes
  | .beginOr => some (s.push .any)
  | .beginAnd => some (s.push .every)
  | .endScope => s.pop?
  | .textFilter exclude field text matchStart matchEnd =>
    some (s.add (exclude != τ.hasText field text matchStart matchEnd))
  | .numberFilter exclude field value comparison =>
    some (s.add (exclude != comparison.holds (τ.number field) value))

/-- Takes some calls, unless one of them closes a scope where none is open. -/
def run? (τ : Track) : List Call → Scopes → Option Scopes
  | [], s => some s
  | c :: cs, s => (s.step? τ c).bind (run? τ cs)

end Scopes

/-- What a sequence of calls says of a track, if it opens and closes its scopes in order. -/
def Call.evaluate? (τ : Track) (calls : List Call) : Option Bool :=
  match Scopes.run? τ calls ⟨Frame.new .every, []⟩ with
  | some ⟨top, []⟩ => some top.value
  | _ => none

/-! ## Trees of scopes -/

inductive Part
  | filter (exclude : Bool) (f : Filter)
  | scope (junction : Junction) (parts : List Part)

namespace Part

mutual

def calls : Part → List Call
  | filter exclude f => [f.call exclude]
  | scope junction parts => junction.call :: (callsAll parts ++ [.endScope])

def callsAll : List Part → List Call
  | [] => []
  | p :: ps => p.calls ++ callsAll ps

end

mutual

/-- What a part says of a track. -/
def holds (τ : Track) : Part → Bool
  | filter exclude f => exclude != f.holds τ
  | scope junction parts => holdsAll τ junction parts

def holdsAll (τ : Track) (j : Junction) : List Part → Bool
  | [] => j.unit
  | p :: ps => j.combine (p.holds τ) (holdsAll τ j ps)

end

theorem callsAll_eq_flatMap (ps : List Part) : callsAll ps = ps.flatMap calls := by
  induction ps with
  | nil => rw [callsAll, List.flatMap_nil]
  | cons p ps ih => rw [callsAll, ih, List.flatMap_cons]

theorem holdsAll_any (τ : Track) (ps : List Part) :
    holdsAll τ .any ps = ps.any fun p => p.holds τ := by
  induction ps with
  | nil => rw [holdsAll]; rfl
  | cons p ps ih => rw [holdsAll, ih]; rfl

theorem holdsAll_every (τ : Track) (ps : List Part) :
    holdsAll τ .every ps = ps.all fun p => p.holds τ := by
  induction ps with
  | nil => rw [holdsAll]; rfl
  | cons p ps ih => rw [holdsAll, ih]; rfl

@[simp] theorem holds_filter (τ : Track) (exclude : Bool) (f : Filter) :
    (filter exclude f).holds τ = (exclude != f.holds τ) := by
  rw [holds]

@[simp] theorem holds_scope_any (τ : Track) (ps : List Part) :
    (scope .any ps).holds τ = ps.any fun p => p.holds τ := by
  rw [holds, holdsAll_any]

@[simp] theorem holds_scope_every (τ : Track) (ps : List Part) :
    (scope .every ps).holds τ = ps.all fun p => p.holds τ := by
  rw [holds, holdsAll_every]

end Part

/-! ## The stack and the trees -/

namespace Scopes

theorem run?_append (τ : Track) (cs ds : List Call) (s : Scopes) :
    run? τ (cs ++ ds) s = (run? τ cs s).bind (run? τ ds) := by
  induction cs generalizing s with
  | nil => rfl
  | cons c cs ih =>
    rw [List.cons_append, run?, run?, Option.bind_assoc]
    exact Option.bind_congr fun t _ => ih t

theorem step?_filter (τ : Track) (s : Scopes) (exclude : Bool) (f : Filter) :
    s.step? τ (f.call exclude) = some (s.add (exclude != f.holds τ)) := by
  cases f <;> rfl

theorem step?_junction (τ : Track) (s : Scopes) (j : Junction) :
    s.step? τ j.call = some (s.push j) := by
  cases j <;> rfl

theorem add_add (s : Scopes) (a b : Bool) :
    (s.add a).add b = s.add (s.top.junction.combine a b) := by
  obtain ⟨⟨j, v⟩, below⟩ := s
  show (⟨⟨j, j.combine (j.combine v a) b⟩, below⟩ : Scopes) = ⟨⟨j, j.combine v (j.combine a b)⟩, below⟩
  rw [Junction.combine_assoc]

theorem add_unit (s : Scopes) : s.add s.top.junction.unit = s := by
  obtain ⟨⟨j, v⟩, below⟩ := s
  show (⟨⟨j, j.combine v j.unit⟩, below⟩ : Scopes) = ⟨⟨j, v⟩, below⟩
  rw [Junction.combine_unit]

/-- A scope that is opened, given its parts and closed is one part of the scope around it. -/
theorem pop?_add_push (s : Scopes) (j : Junction) (b : Bool) :
    ((s.push j).add b).pop? = some (s.add b) := by
  show some (⟨s.top.add (j.combine j.unit b), s.below⟩ : Scopes) = _
  rw [Junction.unit_combine]
  rfl

-- By recursion on the part and on the rows of parts in it.  The state is general, since the parts of
-- a scope are taken with one scope more open.
mutual

/-- The calls of a part add the value of the part to the innermost scope. -/
theorem run?_calls (τ : Track) (p : Part) (s : Scopes) :
    run? τ p.calls s = some (s.add (p.holds τ)) := by
  cases p with
  | filter exclude f =>
    rw [Part.calls, Part.holds, run?, step?_filter]
    rfl
  | scope j parts =>
    rw [Part.calls, Part.holds, run?, step?_junction, Option.bind_some, run?_append,
      run?_callsAll τ parts (s.push j), Option.bind_some, run?, step?]
    show (((s.push j).add (Part.holdsAll τ j parts)).pop?).bind _ = _
    rw [pop?_add_push]
    rfl

theorem run?_callsAll (τ : Track) (ps : List Part) (s : Scopes) :
    run? τ (Part.callsAll ps) s = some (s.add (Part.holdsAll τ s.top.junction ps)) := by
  cases ps with
  | nil =>
    rw [Part.callsAll, Part.holdsAll, add_unit]
    rfl
  | cons p ps =>
    rw [Part.callsAll, Part.holdsAll, run?_append, run?_calls τ p s, Option.bind_some,
      run?_callsAll τ ps (s.add (p.holds τ)), ← add_add]
    rfl

end

end Scopes

/-- The calls of some parts hold of the tracks that all of the parts hold of. -/
theorem Call.evaluate?_callsAll (τ : Track) (ps : List Part) :
    Call.evaluate? τ (Part.callsAll ps) = some (ps.all fun p => p.holds τ) := by
  rw [Call.evaluate?, Scopes.run?_callsAll, ← Part.holdsAll_every]
  show some (Junction.every.combine Junction.every.unit _) = _
  rw [Junction.unit_combine]
  rfl

end TrackSearch
