/-
What a command takes from its surroundings besides its arguments.
-/

namespace TrackSearch

structure Environment where
  /-- `SONGQ_CONFIG`: the path of the settings when no argument gives one. -/
  config : Option String := none
  /-- `NO_COLOR`: colours are off when it is 1. -/
  noColor : Option String := none
  /-- `COLOR`: colours are on when it is 1, also where the output is no terminal. -/
  color : Option String := none
  isTerminal : Bool := false
  deriving DecidableEq, Repr

namespace Environment

/-- The path of the settings.  An empty path counts as none. -/
def configPath? (env : Environment) : Option String :=
  env.config.filter fun path => !path.isEmpty

def shouldColorize (env : Environment) : Bool :=
  if env.noColor == some "1" then false
  else if env.color == some "1" then true
  else env.isTerminal

end Environment

end TrackSearch
