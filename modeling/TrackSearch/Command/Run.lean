/-
Running a command.
-/
import TrackSearch.Command.Arguments
import TrackSearch.Command.Environment
import TrackSearch.Config

namespace TrackSearch

open Calendar

/-- What the outcome of a command depends on besides its arguments. -/
structure World where
  env : Environment
  now : Instant
  files : String → FileState

/-- The path of the settings: the given one, else the one in the environment. -/
def Arguments.CommandLine.configPath? (line : Arguments.CommandLine) (env : Environment) :
    Option String :=
  line.config.or env.configPath?

/-- The settings of a path, and the default ones without a path. -/
def World.config (w : World) : Option String → Except CommandError Config
  | some path => Config.load path (w.files path)
  | none => .ok {}

def orCommandError {α : Type} (x : Except SearchError α) : Except CommandError α :=
  x.mapError CommandError.search

/-- What a command prints.  Only a command that needs the settings reads them, and fields on the
command line take the place of those in the settings. -/
def Arguments.CommandLine.run (w : World) (line : Arguments.CommandLine) :
    Except CommandError String :=
  match line.command with
  | .parse expression form => .ok (Report.parse expression form)
  | .compile expression fields form => do
    let config ← w.config (line.configPath? w.env)
    let supported ← orCommandError
      (if fields.isEmpty then config.supported else FieldSet.ofNames fields)
    let formats ← orCommandError config.formats
    orCommandError (Report.compile expression supported { now := w.now, formats } form)
  | .date text form => do
    let config ← w.config (line.configPath? w.env)
    let formats ← orCommandError config.formats
    .ok (Report.date text { now := w.now, formats } form)
  | .fields form => do
    let config ← w.config (line.configPath? w.env)
    let supported ← orCommandError config.supported
    .ok (Report.fields supported form)
  | .advanced expression => .ok (Report.advanced expression)
  | .completion shell => .ok shell.script

end TrackSearch
