import RelayGateway.Text.Search

/-! # The command line

* `Options`: the settings file and the log level that may be given.
* `Command`: what an invocation asks for.
* `Command.ofArguments`: reads the arguments from the left; the first help, version or mistake decides.
-/

set_option autoImplicit false

namespace RelayGateway

def usageText : String :=
  "LLM API gateway core\n\n" ++
  "Usage: llm-gateway [OPTIONS]\n\n" ++
  "Options:\n" ++
  "  -c, --config <CONFIG>        the settings file\n" ++
  "      --log-level <LOG_LEVEL>  the log level\n" ++
  "  -h, --help                   print help\n" ++
  "  -V, --version                print version\n"

/-- What may be given on the command line. -/
structure Options where
  settingsPath : Option String := none
  logLevel : Option String := none
  deriving DecidableEq

/-- What an invocation asks for. -/
inductive Command where
  | run (options : Options)
  | help
  | version
  /-- The arguments cannot be understood. -/
  | mistake
  deriving DecidableEq

namespace Options

/-- The options with a settings file, which may be given once and must have a name. -/
def withSettings (options : Options) (path : String) : Option Options :=
  if path = "" ∨ options.settingsPath.isSome then none
  else some { options with settingsPath := some path }

/-- The options with a log level, which may be given once. -/
def withLogLevel (options : Options) (level : String) : Option Options :=
  if options.logLevel.isSome then none else some { options with logLevel := some level }

end Options

/-- An argument of the command line. -/
inductive Argument where
  /-- An option with its value, or without one if that is the next argument. -/
  | settings (value : Option String)
  | logLevel (value : Option String)
  | help
  | version
  | endOfOptions
  | other
  deriving DecidableEq

namespace Argument

def ofLetters : List Char → Argument
  | ['c'] => .settings none
  | 'c' :: '=' :: value => .settings (some (String.ofList value))
  | 'c' :: value => .settings (some (String.ofList value))
  | 'h' :: _ => .help
  | 'V' :: _ => .version
  | _ => .other

def ofWord (name : String) : Option String → Argument
  | none =>
    if name = "config" then .settings none
    else if name = "log-level" then .logLevel none
    else if name = "help" then .help
    else if name = "version" then .version
    else .other
  | some value =>
    if name = "config" then .settings (some value)
    else if name = "log-level" then .logLevel (some value)
    else .other

def ofText (text : String) : Argument :=
  match text.toList with
  | ['-', '-'] => .endOfOptions
  | '-' :: '-' :: word =>
    let (name, value) := word.span fun c => c != '='
    ofWord (String.ofList name) (if value.isEmpty then none else some (String.ofList (value.drop 1)))
  | '-' :: letter :: letters => ofLetters (letter :: letters)
  | _ => .other

/-- Whether an argument can be the value of the option before it. -/
def isValue (text : String) : Bool :=
  text == "-" || !Text.startsWith text "-"

end Argument

namespace Command

/-- Reads the arguments after those that gave `options`. `awaiting` takes the value of the option that
was read last, if that is still to come. -/
def read (options : Options) (awaiting : Option (String → Option Options)) :
    List String → Command
  | [] => if awaiting.isSome then .mistake else .run options
  | text :: rest =>
    match awaiting with
    | some take =>
      if Argument.isValue text then
        match take text with
        | some options => read options none rest
        | none => .mistake
      else .mistake
    | none =>
      match Argument.ofText text with
      | .help => .help
      | .version => .version
      | .endOfOptions => if rest.isEmpty then .run options else .mistake
      | .other => .mistake
      | .settings none => read options (some options.withSettings) rest
      | .logLevel none => read options (some options.withLogLevel) rest
      | .settings (some value) =>
        match options.withSettings value with
        | some options => read options none rest
        | none => .mistake
      | .logLevel (some value) =>
        match options.withLogLevel value with
        | some options => read options none rest
        | none => .mistake

def ofArguments (arguments : List String) : Command := read {} none arguments

end Command

end RelayGateway
