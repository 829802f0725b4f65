/-
The help texts of the commands.
-/
import TrackSearch.Command.Environment
import TrackSearch.Command.Palette

namespace TrackSearch
namespace Help

def examples (env : Environment) (text : String) : String :=
  if env.shouldColorize then String.ofList (Palette.paintExamples text.toList) else text

/-- The sequences that start the styles of the help for headings, usage, literals, placeholders and
valid values.  Without colours they are empty. -/
def styles (env : Environment) : List String :=
  let colors := [Palette.headerColor, Palette.headerColor, Palette.literalColor,
    Palette.contextColor, Palette.contextColor]
  colors.map fun color =>
    if env.shouldColorize then String.ofList (Palette.start color) else ""

def syntaxText : String :=
  "Expression syntax:\n" ++
  "  love                      Any default text field contains \"love\"\n" ++
  "  artist:cure               Artist contains \"cure\"\n" ++
  "  artist:=Cure              Artist is exactly \"Cure\"\n" ++
  "  year:<1990 rating:>3      Numeric comparisons\n" ++
  "  -genre:live               Exclude matches\n" ++
  "  a OR b                    Either term\n" ++
  "  lastplayed:<2w            Played within the last two weeks"

def parseExamples : String :=
  "Examples:\n" ++
  "  songq parse \"love artist:cure\"         Show groups and the normalized form\n" ++
  "  songq parse \"a OR b\" -o json           Emit the parsed expression as JSON"

def compileExamples : String :=
  "Examples:\n" ++
  "  songq compile \"rating:4\"               Show builder calls\n" ++
  "  songq compile love --fields title,url  Restrict the backend's fields\n" ++
  "  songq compile \"size:10\" -o json        Emit calls as JSON"

def dateExamples : String :=
  "Examples:\n" ++
  "  songq date 2w3d                        Two weeks and three days ago\n" ++
  "  songq date \"last month\"                A relative phrase\n" ++
  "  songq date 25.12.1990                  An absolute date"

def completionExamples : String :=
  "Examples:\n" ++
  "  songq completion bash > ~/.local/share/bash-completion/completions/songq\n" ++
  "  songq completion zsh > ~/.zfunc/_songq\n" ++
  "  songq completion fish > ~/.config/fish/completions/songq.fish"

def version : String :=
  "songq 0.1.0\n"

end Help
end TrackSearch
