/-
The command line.

The arguments are read from left to right, first those of the program and then those of its command.
An option takes its value from the same argument or from the next one, and a value is looked at when
the argument after it has been read; a fault in the arguments of the command comes before one in a
value still waiting to be looked at by the program.
-/
import TrackSearch.Command.Completion
import TrackSearch.Command.Report
import TrackSearch.Text.Split

namespace TrackSearch
namespace Arguments

inductive Command
  | parse (expression : String) (form : ReportForm)
  | compile (expression : String) (fields : List String) (form : ReportForm)
  | date (text : String) (form : ReportForm)
  | fields (form : ReportForm)
  | advanced (expression : String)
  | completion (shell : Shell)
  deriving DecidableEq, Repr

structure CommandLine where
  config : Option String
  command : Command
  deriving DecidableEq, Repr

inductive Refusal
  /-- An option has no value, or a value that it cannot have. -/
  | invalidValue
  /-- An option that can be given once is given twice. -/
  | argumentConflict
  | unknownArgument
  | missingArgument
  /-- A value is given to an option that has none. -/
  | unneededValue
  | invalidCommand
  | missingCommand
  /-- The help of the program is shown because nothing is given at all. -/
  | nothingGiven
  | help
  | version
  deriving DecidableEq, Repr

/-- Whether the user asked for what is shown in place of running a command. -/
def Refusal.wasAskedFor : Refusal → Bool
  | help | version => true
  | _ => false

/-! ## What a command takes -/

inductive OptionName
  | config | output | fields | help | version
  deriving DecidableEq, Repr

namespace OptionName

def long : OptionName → String
  | config => "config"
  | output => "output"
  | fields => "fields"
  | help => "help"
  | version => "version"

def short? : OptionName → Option Char
  | output => some 'o'
  | help => some 'h'
  | version => some 'V'
  | _ => none

def takesValue : OptionName → Bool
  | help | version => false
  | _ => true

end OptionName

inductive Operand
  /-- A text, which can start with a minus sign if it is no option of the command. -/
  | text
  | shell
  deriving DecidableEq, Repr

inductive CommandName
  | parse | compile | date | fields | advanced | completion
  deriving DecidableEq, Repr

namespace CommandName

def all : List CommandName :=
  [parse, compile, date, fields, advanced, completion]

def name : CommandName → String
  | parse => "parse"
  | compile => "compile"
  | date => "date"
  | fields => "fields"
  | advanced => "advanced"
  | completion => "completion"

end CommandName

structure Level where
  options : List OptionName
  operand : Option Operand := none
  takesCommand : Bool := false

def programLevel : Level where
  options := [.config, .help, .version]
  takesCommand := true

def CommandName.level : CommandName → Level
  | .parse | .date => { options := [.config, .output, .help], operand := some .text }
  | .compile => { options := [.config, .fields, .output, .help], operand := some .text }
  | .fields => { options := [.config, .output, .help] }
  | .advanced => { options := [.config, .help], operand := some .text }
  | .completion => { options := [.config, .help], operand := some .shell }

namespace Level

def long? (l : Level) (name : String) : Option OptionName :=
  l.options.find? fun o => o.long == name

def short? (l : Level) (c : Char) : Option OptionName :=
  l.options.find? fun o => o.short? == some c

end Level

/-! ## Values -/

structure Values where
  config : Option String := none
  output : Option ReportForm := none
  fields : List String := []
  text : Option String := none
  shell : Option Shell := none
  deriving DecidableEq, Repr

/-- An argument that has been read and not yet looked at. -/
inductive Pending
  | option (name : OptionName) (value : Option String)
  | operand (kind : Operand) (value : String)
  deriving DecidableEq, Repr

namespace Values

def withOption (v : Values) (name : OptionName) (value : String) : Except Refusal Values :=
  match name with
  | .config =>
    if v.config.isSome then .error .argumentConflict
    else if value.isEmpty then .error .invalidValue
    else .ok { v with config := some value }
  | .output =>
    if v.output.isSome then .error .argumentConflict
    else
      match ReportForm.all.find? fun form => form.name == value with
      | some form => .ok { v with output := some form }
      | none => .error .invalidValue
  | .fields =>
    .ok { v with fields := v.fields ++ (Text.splitAt ',' value.toList).map String.ofList }
  | .help => .error .help
  | .version => .error .version

def resolve (v : Values) : Option Pending → Except Refusal Values
  | none => .ok v
  | some (.option _ none) => .error .invalidValue
  | some (.option name (some value)) => v.withOption name value
  | some (.operand .text value) => .ok { v with text := some value }
  | some (.operand .shell value) =>
    match Shell.ofName? value with
    | some shell => .ok { v with shell := some shell }
    | none => .error .invalidValue

end Values

/-! ## Reading a level -/

structure State where
  values : Values := {}
  pending : Option Pending := none
  /-- The option whose value is the next argument. -/
  awaiting : Option OptionName := none
  hasOperand : Bool := false
  /-- Whether every argument is an operand from here on. -/
  onlyOperands : Bool := false
  deriving DecidableEq, Repr

namespace State

def settle (s : State) : Except Refusal State := do
  let values ← s.values.resolve s.pending
  .ok { s with values, pending := none }

def nextOperand (s : State) (l : Level) : Option Operand :=
  if s.hasOperand then none else l.operand

def readOption (s : State) (name : OptionName) (attached : Option String) :
    Except Refusal State := do
  if name.takesValue then
    let s ← s.settle
    match attached with
    | some value =>
      let values ← s.values.withOption name value
      .ok { s with values, awaiting := none }
    | none => .ok { s with pending := some (.option name none), awaiting := some name }
  else
    match attached with
    | some _ => .error .unneededValue
    | none =>
      let _ ← s.settle
      .error (if name = .version then .version else .help)

/-- Reads an argument that is no option: the value that an option waits for, or the operand. -/
def readPlain (s : State) (l : Level) (arg : String) : Except Refusal State :=
  match s.onlyOperands, s.awaiting with
  | false, some name =>
    .ok { s with pending := some (.option name (some arg)), awaiting := none }
  | _, _ =>
    match s.nextOperand l with
    | some kind => do
      let s ← s.settle
      .ok { s with pending := some (.operand kind arg), awaiting := none, hasOperand := true }
    | none =>
      let isCommand := arg == "help" || CommandName.all.any fun c => c.name == arg
      .error (if l.takesCommand && !(s.onlyOperands && isCommand) then .invalidCommand
        else .unknownArgument)

/-- Reads an argument that starts with two minus signs. -/
def readLong (s : State) (l : Level) (arg : String) (body : List Char) : Except Refusal State :=
  let name := body.takeWhile (· != '=')
  let attached := match body.drop name.length with
    | _ :: value => some (String.ofList value)
    | [] => none
  match l.long? (String.ofList name) with
  | some o => s.readOption o attached
  | none =>
    if s.nextOperand l = some .text then s.readPlain l arg else .error .unknownArgument

def readShort (s : State) (l : Level) (arg : String) (body : List Char) : Except Refusal State :=
  if s.nextOperand l = some .text ∧ (body.any fun c => (l.short? c).isNone) = true then
    s.readPlain l arg
  else
    match body with
    | c :: rest =>
      match l.short? c with
      | some o =>
        let attached := match rest with
          | [] => none
          | '=' :: value => some (String.ofList value)
          | value => some (String.ofList value)
        s.readOption o (if o.takesValue then attached else none)
      | none => .error .unknownArgument
    | [] => s.readPlain l arg

def read (s : State) (l : Level) (arg : String) : Except Refusal State :=
  if s.onlyOperands then s.readPlain l arg
  else
    match arg.toList with
    | ['-', '-'] => .ok { s with onlyOperands := true }
    | '-' :: '-' :: body => s.readLong l arg body
    | ['-'] => s.readPlain l arg
    | '-' :: body => s.readShort l arg body
    | _ => s.readPlain l arg

end State

/-! ## Reading the line -/

/-- The values that the arguments of a command give. -/
def readCommand (l : Level) (args : List String) : Except Refusal Values := do
  let s ← args.foldlM (fun (s : State) arg => s.read l arg) {}
  let s ← s.settle
  .ok s.values

def required {α : Type} (value : Option α) : Except Refusal α :=
  match value with
  | some a => .ok a
  | none => .error .missingArgument

def CommandName.withValues (c : CommandName) (v : Values) : Except Refusal Command :=
  let form := v.output.getD .text
  match c with
  | .parse => do .ok (.parse (← required v.text) form)
  | .compile => do .ok (.compile (← required v.text) v.fields form)
  | .date => do .ok (.date (← required v.text) form)
  | .fields => .ok (.fields form)
  | .advanced => do .ok (.advanced (← required v.text))
  | .completion => do .ok (.completion (← required v.shell))

/-- The commands whose help is asked for: none, or one. -/
def readHelp : List String → Refusal
  | [] => .help
  | [arg] =>
    if arg = "help" ∨ (CommandName.all.any fun c => c.name == arg) = true then .help
    else .invalidCommand
  | _ => .invalidCommand

/-- The end of a line that names no command. -/
def withoutCommand (s : State) : Except Refusal CommandLine := do
  let s ← s.settle
  .error (if s.values.config.isSome then .missingCommand else .nothingGiven)

/-- Reads the arguments of the program up to the name of a command, and then those of the
command. -/
def readProgram (s : State) : List String → Except Refusal CommandLine
  | [] => withoutCommand s
  | arg :: args =>
    if s.onlyOperands = false ∧ s.awaiting = none then
      if arg = "help" then .error (readHelp args)
      else
        match CommandName.all.find? fun c => c.name == arg with
        | some c => do
          let v ← readCommand c.level args
          let command ← c.withValues v
          let s ← s.settle
          .ok { config := v.config.or s.values.config, command }
        | none => do readProgram (← s.read programLevel arg) args
    else do readProgram (← s.read programLevel arg) args

def read (args : List String) : Except Refusal CommandLine :=
  readProgram {} args

end Arguments
end TrackSearch
