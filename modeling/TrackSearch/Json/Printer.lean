/-
The written form of JSON values: an item or an entry to a line, indented by two spaces for every
array and object around it.
-/
import TrackSearch.Json.Value

namespace TrackSearch
namespace Json

/-- How a character is written between quotes.  Control characters are the only ones that need an
escape besides the quote and the backslash. -/
def escapeChar (c : Char) : List Char :=
  if c = '"' ∨ c = '\\' then ['\\', c]
  else if c = '\x08' then ['\\', 'b']
  else if c = '\x0c' then ['\\', 'f']
  else if c = '\n' then ['\\', 'n']
  else if c = '\r' then ['\\', 'r']
  else if c = '\t' then ['\\', 't']
  else if c.toNat < 0x10 then "\\u000".toList ++ Nat.toDigits 16 c.toNat
  else if c.toNat < 0x20 then "\\u00".toList ++ Nat.toDigits 16 c.toNat
  else [c]

def writeString (s : String) : String :=
  String.ofList ('"' :: s.toList.flatMap escapeChar ++ ['"'])

def newLine (depth : Nat) : String :=
  "\n" ++ String.ofList (List.replicate (2 * depth) ' ')

mutual

/-- A value at a depth. -/
def writeAt (depth : Nat) : Json → String
  | null => "null"
  | bool b => if b then "true" else "false"
  | integer n => Number.writeInt n
  | real text => text
  | string s => writeString s
  | array [] => "[]"
  | array (item :: items) =>
    "[" ++ newLine (depth + 1) ++ writeAt (depth + 1) item ++ writeItems (depth + 1) items ++
      newLine depth ++ "]"
  | object [] => "\x7b\x7d"
  | object ((key, value) :: entries) =>
    "\x7b" ++ newLine (depth + 1) ++ writeString key ++ ": " ++ writeAt (depth + 1) value ++
      writeEntries (depth + 1) entries ++ newLine depth ++ "\x7d"

def writeItems (depth : Nat) : List Json → String
  | [] => ""
  | item :: items => "," ++ newLine depth ++ writeAt depth item ++ writeItems depth items

def writeEntries (depth : Nat) : List (String × Json) → String
  | [] => ""
  | (key, value) :: entries =>
    "," ++ newLine depth ++ writeString key ++ ": " ++ writeAt depth value ++
      writeEntries depth entries

end

def write (j : Json) : String :=
  writeAt 0 j

end Json
end TrackSearch
