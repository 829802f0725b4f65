/-
Scripts by which a shell completes the names of the commands.
-/
import TrackSearch.Text.Split

namespace TrackSearch

inductive Shell
  | bash | elvish | fish | powershell | zsh
  deriving DecidableEq, Repr

namespace Shell

def all : List Shell :=
  [bash, elvish, fish, powershell, zsh]

def name : Shell → String
  | bash => "bash"
  | elvish => "elvish"
  | fish => "fish"
  | powershell => "powershell"
  | zsh => "zsh"

def ofName? (name : String) : Option Shell :=
  all.find? fun s => s.name == name

/-- The words that a script offers. -/
def words : List String :=
  ["parse", "compile", "date", "fields", "advanced", "completion", "help"]

def script : Shell → String
  | bash => "complete -W \"" ++ Text.join " " words ++ "\" songq\n"
  | elvish =>
    "set edit:completion:arg-completer[songq] = \x7b|@args| put " ++ Text.join " " words ++
      " \x7d\n"
  | fish =>
    "complete -c songq -n __fish_use_subcommand -f -a \"" ++ Text.join " " words ++ "\"\n"
  | powershell =>
    "Register-ArgumentCompleter -Native -CommandName songq -ScriptBlock \x7b\n" ++
    "    param($word)\n" ++
    "    @('" ++ Text.join "', '" words ++ "') -like \"$word*\"\n" ++
    "\x7d\n"
  | zsh => "#compdef songq\n_arguments '1:command:(" ++ Text.join " " words ++ ")'\n"

end Shell

end TrackSearch
