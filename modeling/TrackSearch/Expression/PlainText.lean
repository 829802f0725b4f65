/-
Telling a plain list of words from a text that uses the syntax of expressions.
-/
import TrackSearch.Text.LetterCase

namespace TrackSearch

def occursIn (part : List Char) : List Char → Bool
  | [] => part.isEmpty
  | c :: cs => part.isPrefixOf (c :: cs) || occursIn part cs

/-- Whether a text has a quote, a colon or a minus sign, or has the letters of a keyword in a row,
in any letter case and inside any word: `android` counts, since `and` is in it. -/
def usesSyntax (text : String) : Bool :=
  (text.toList.any fun c => c == '"' || c == ':' || c == '-') ||
    occursIn "AND".toList (Text.upper text).toList || occursIn "OR".toList (Text.upper text).toList

end TrackSearch
