/-
The program: it takes the arguments, the environment, the clock and the files from the system, and
prints what the command prints.
-/
import Std.Time
import TrackSearch.Command.Help
import TrackSearch.Command.Run
import TrackSearch.Text.Split

namespace TrackSearch

open Calendar

def readClock : IO Int := do
  let now ← Std.Time.Timestamp.now
  return now.toSecondsSinceUnixEpoch.val

def readEnvironment : IO Environment := do
  let stdout ← IO.getStdout
  return {
    config := ← IO.getEnv "SONGQ_CONFIG"
    noColor := ← IO.getEnv "NO_COLOR"
    color := ← IO.getEnv "COLOR"
    isTerminal := ← stdout.isTty }

/-- What a path leads to.  A file that cannot be read counts as a directory, whose text cannot be
read either. -/
def readFile (path : String) : IO FileState := do
  try
    return .file (← IO.FS.readBinFile path)
  catch
    | .noFileOrDirectory .. => return .missing
    | _ => return .directory

def refusalText (env : Environment) : Arguments.Refusal → String
  | .version => Help.version
  | .help | .nothingGiven =>
    "Parse, explain and compile music collection search expressions\n\n" ++
    "Usage: songq [--config <path>] <command>\n\n" ++
    "Commands: " ++ Text.join ", " (Arguments.CommandName.all.map Arguments.CommandName.name) ++
    "\n\n" ++ Help.examples env Help.syntaxText ++ "\n"
  | .invalidValue => "error: an option has no value, or one that it cannot have\n"
  | .argumentConflict => "error: an option is given twice\n"
  | .unknownArgument => "error: unexpected argument\n"
  | .missingArgument => "error: an argument is missing\n"
  | .unneededValue => "error: a value is given to an option that has none\n"
  | .invalidCommand => "error: unrecognized command\n"
  | .missingCommand => "error: a command is missing\n"

def runProgram (args : List String) : IO UInt32 := do
  let env ← readEnvironment
  match Arguments.read args with
  | .error refusal =>
    if refusal.wasAskedFor then
      IO.print (refusalText env refusal)
      return 0
    IO.eprint (refusalText env refusal)
    return 2
  | .ok line =>
    let state ← match line.configPath? env with
      | some path => readFile path
      | none => pure .missing
    match Instant.ofSeconds? (← readClock) with
    | none => return 1
    | some now =>
      match line.run { env, now, files := fun _ => state } with
      | .ok text =>
        IO.print text
        return 0
      | .error e =>
        IO.eprintln ("error: " ++ e.message)
        return 1

end TrackSearch

def main (args : List String) : IO UInt32 :=
  TrackSearch.runProgram args
