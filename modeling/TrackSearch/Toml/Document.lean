/-
Reading a TOML document.
-/
import TrackSearch.Toml.Scalar

namespace TrackSearch
namespace Toml

/-! ## Between the values -/

/-- The text behind white space, line ends and comments. -/
def skipTrivia (inComment : Bool) : List Char → Option (List Char)
  | [] => some []
  | '\n' :: cs => skipTrivia false cs
  | '\r' :: '\n' :: cs => skipTrivia false cs
  | '#' :: cs => skipTrivia true cs
  | c :: cs =>
    if inComment then (if isText c then skipTrivia true cs else none)
    else if isSpace c then skipTrivia false cs
    else some (c :: cs)

/-- The text of the next line, when nothing but white space and a comment is left of this one. -/
def endLine (inComment : Bool) : List Char → Option (List Char)
  | [] => some []
  | '\n' :: cs => some cs
  | '\r' :: '\n' :: cs => some cs
  | '#' :: cs => endLine true cs
  | c :: cs =>
    if (if inComment then isText c else isSpace c) then endLine inComment cs else none

def skipSpaces (cs : List Char) : List Char :=
  cs.dropWhile isSpace

/-! ## Keys -/

def isKeyChar (c : Char) : Bool :=
  c.isAlphanum || c == '-' || c == '_'

/-- One part of a key: a word, or a string on one line. -/
def takeKeyPart? : List Char → Option (String × List Char)
  | '"' :: cs => (takeBasic? cs).map fun (s, rest) => (String.ofList s, rest)
  | '\'' :: cs => (takeLiteral? cs).map fun (s, rest) => (String.ofList s, rest)
  | cs =>
    let word := cs.takeWhile isKeyChar
    if word.isEmpty then none else some (String.ofList word, cs.drop word.length)

/-- How many parts a key can have, and how many arrays and inline tables a value can be inside one
another. -/
def depthLimit : Nat := 80

/-- The parts of a key, at most `room` of them, with points between them, and the text from the
first character behind them that is no space. -/
def takeKeyParts? : Nat → List Char → Option (List String × List Char)
  | 0, _ => none
  | room + 1, cs => do
    let (part, rest) ← takeKeyPart? (skipSpaces cs)
    match skipSpaces rest with
    | '.' :: rest =>
      let (parts, rest) ← takeKeyParts? room rest
      some (part :: parts, rest)
    | rest => some ([part], rest)

def takeKey? (cs : List Char) : Option (List String × List Char) :=
  takeKeyParts? depthLimit cs

/-! ## Values -/

mutual

/-- A value in front, with at most `room` arrays and inline tables inside one another, and the text
behind it. -/
def takeValue? : Nat → Nat → List Char → Option (Value × List Char)
  | 0, _, _ => none
  | fuel + 1, room, cs =>
    match room, cs with
    | room + 1, '[' :: cs => (takeItems? fuel room cs).map fun (items, rest) => (.array items, rest)
    | room + 1, '\x7b' :: cs => do
      let (pairs, rest) ← takeInline? fuel room cs
      let es ← Entries.addPairs? [] pairs
      some (.table (entriesToValues es), rest)
    | _, '"' :: _ | _, '\'' :: _ => (takeString? cs).map fun (s, rest) => (.string s, rest)
    | _, cs => takeScalar? cs

/-- The rest of an array, up to its closing bracket. -/
def takeItems? : Nat → Nat → List Char → Option (List Value × List Char)
  | 0, _, _ => none
  | fuel + 1, room, cs => do
    match ← skipTrivia false cs with
    | ']' :: rest => some ([], rest)
    | cs =>
      let (item, rest) ← takeValue? fuel room cs
      match ← skipTrivia false rest with
      | ',' :: rest =>
        let (items, rest) ← takeItems? fuel room rest
        some (item :: items, rest)
      | ']' :: rest => some ([item], rest)
      | _ => none

/-- The rest of an inline table, up to its closing brace.  Lines can end anywhere in it but inside a
key. -/
def takeInline? : Nat → Nat → List Char → Option (List Pair × List Char)
  | 0, _, _ => none
  | fuel + 1, room, cs => do
    match ← skipTrivia false cs with
    | '\x7d' :: rest => some ([], rest)
    | cs =>
      let (key, rest) ← takeKey? cs
      match ← skipTrivia false rest with
      | '=' :: rest =>
        let (value, rest) ← takeValue? fuel room (← skipTrivia false rest)
        match ← skipTrivia false rest with
        | ',' :: rest =>
          let (pairs, rest) ← takeInline? fuel room rest
          some ((key, value) :: pairs, rest)
        | '\x7d' :: rest => some ([(key, value)], rest)
        | _ => none
      | _ => none

end

/-! ## Lines -/

/-- A key and its value on a line, and the text of the next line. -/
def takePair? (cs : List Char) : Option (Pair × List Char) := do
  let (key, rest) ← takeKey? cs
  match rest with
  | '=' :: rest =>
    let (value, rest) ← takeValue? (2 * rest.length + 2) depthLimit (skipSpaces rest)
    some ((key, value), ← endLine false rest)
  | _ => none

/-- A header on a line, given what follows its first bracket, and the text of the next line. -/
def takeHeader? (cs : List Char) : Option (Section × List Char) := do
  let (isArray, cs) := match cs with
    | '[' :: cs => (true, cs)
    | cs => (false, cs)
  let (path, rest) ← takeKey? cs
  match isArray, rest with
  | true, ']' :: ']' :: rest | false, ']' :: rest =>
    some ({ isArray, path, pairs := [] }, ← endLine false rest)
  | _, _ => none

/-- The pairs above the first header of a text, and the sections. -/
def takeLines : Nat → List Char → Option (List Pair × List Section)
  | 0, _ => none
  | fuel + 1, cs => do
    match ← skipTrivia false cs with
    | [] => some ([], [])
    | '[' :: cs =>
      let (header, rest) ← takeHeader? cs
      let (pairs, sections) ← takeLines fuel rest
      some ([], { header with pairs } :: sections)
    | cs =>
      let (pair, rest) ← takePair? cs
      let (pairs, sections) ← takeLines fuel rest
      some (pair :: pairs, sections)

/-- The table that a document stands for.  A byte order mark in front is not part of it. -/
def read? (text : String) : Option (List (String × Value)) := do
  let cs := match text.toList with
    | c :: cs => if c.toNat = 0xFEFF then cs else c :: cs
    | [] => []
  let (pairs, sections) ← takeLines (cs.length + 1) cs
  assemble? pairs sections

end Toml
end TrackSearch
