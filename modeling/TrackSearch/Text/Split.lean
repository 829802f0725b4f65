/-
Texts cut into pieces at a separator, and pieces put together with one.
-/

namespace TrackSearch
namespace Text

/-- The text cut at each occurrence of a separator; the pieces are one more than the
separators. -/
def splitAt (sep : Char) : List Char → List (List Char)
  | [] => [[]]
  | c :: cs =>
    if c = sep then [] :: splitAt sep cs
    else
      match splitAt sep cs with
      | [] => [[c]]
      | piece :: rest => (c :: piece) :: rest

/-- The pieces with a separator between any two neighbours. -/
def join (sep : String) : List String → String
  | [] => ""
  | [s] => s
  | s :: t :: rest => s ++ sep ++ join sep (t :: rest)

end Text
end TrackSearch
