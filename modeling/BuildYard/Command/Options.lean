import BuildYard.Command.Arguments
import BuildYard.Log.Journal
import BuildYard.Settings

/-!
# The options of `stevedore`

What the command line of the yard says: how to log, how to reach the engine,
where the settings are, and what to do.
-/

set_option autoImplicit false

namespace BuildYard.Command

/-- The name under which the yard is called. -/
def programName : String := "stevedore"

/-- The version of the yard. -/
def version : String := "0.2.0"

/-- The line that tells a program and its version. -/
def versionLine (program : String) : String :=
  program ++ " " ++ version ++ "\n"

/-- The format that is written in exactly one of the words. -/
def format? (word : String) : Option Log.Format :=
  [Log.Format.text, Log.Format.json].find? (·.word == word)

/-- The level that is written in exactly one of the words. -/
def level? (word : String) : Option Log.Level :=
  Log.Level.all.find? (·.word == word)

/-- Whether a word may be a path. -/
def isPath (word : String) : Bool :=
  !word.isEmpty

/-- What a build is to do. -/
structure BuildOrder where
  /-- the file with the container set -/
  spec : String
  /-- the directory to which build contexts are relative -/
  workspace : String := "."
  /-- command lines that run before the build phase -/
  checkout : List String := []
  /-- variables for every command, as they were written -/
  env : List String := []
  workdir : Option String := none
  /-- the file in which the agent container is remembered -/
  state : Option String := none
  command : List String
  deriving DecidableEq, Repr, Inhabited

/-- What is to be done. -/
inductive Job where
  /-- nothing, which explains the command line -/
  | nothing
  /-- to see whether the engine answers -/
  | ping
  | run (order : BuildOrder)
  deriving DecidableEq, Repr, Inhabited

/-- What the command line says. -/
structure Options where
  logFormat : Option Log.Format := none
  logLevel : Log.Level := .info
  driver : Option DriverKind := none
  /-- the settings file -/
  settings : Option String := none
  job : Job
  deriving DecidableEq, Repr, Inhabited

/-- What the command line may say. -/
def grammar : Arguments.Grammar :=
  { program := { versioned := true }
    shared :=
      [{ long := "log-format", accepts := fun word => (format? word).isSome },
        { long := "log-level", accepts := fun word => (level? word).isSome },
        { long := "driver", accepts := fun word => (DriverKind.ofWord? word).isSome },
        { long := "settings", accepts := isPath }]
    commands :=
      [("ping", {}),
        ("run",
          { options :=
              [{ long := "spec", required := true, accepts := isPath },
                { long := "workspace", accepts := isPath },
                { long := "checkout", repeatable := true },
                { long := "env", short := some 'e', repeatable := true },
                { long := "workdir" },
                { long := "state", accepts := isPath }]
            tail := some {} })] }

/-- What explains the command line. -/
def usage : String :=
  Text.join "\n"
    ["Container provisioning for CI builds", "",
      "Usage: stevedore [OPTIONS] [COMMAND]", "",
      "Commands:",
      "  ping  Check that the container engine answers",
      "  run   Provision the containers of one build, run commands in them, then clean up",
      "  help  Print this message", "",
      "Options:",
      "      --log-format <text|json>",
      "      --log-level <error|warn|info|debug|trace>",
      "      --driver <cli|native>",
      "      --settings <PATH>",
      "  -h, --help",
      "  -V, --version", ""]

namespace Options

/-- The job that an order asks for. -/
def jobOf (order : Arguments.Order) : Job :=
  match order.command with
  | some "ping" => .ping
  | some "run" =>
    .run
      { spec := (order.value? "spec").getD ""
        workspace := (order.value? "workspace").getD "."
        checkout := order.values "checkout"
        env := order.values "env"
        workdir := order.value? "workdir"
        state := order.value? "state"
        command := order.words }
  | _ => .nothing

/-- What an order says. -/
def ofOrder (order : Arguments.Order) : Options :=
  { logFormat := (order.value? "log-format").bind format?
    logLevel := ((order.value? "log-level").bind level?).getD .info
    driver := (order.value? "driver").bind DriverKind.ofWord?
    settings := order.value? "settings"
    job := jobOf order }

/-- Reads the arguments of the command. -/
def read (arguments : List String) : Except Arguments.Stop Options :=
  (grammar.read arguments).map ofOrder

end Options

/-! ## Logging -/

/-- The variables of an environment. -/
abbrev Environment := String → Option String

/-- The name of the variable for the format of the log. -/
def formatVariable : String := "STEVEDORE_LOG_FORMAT"

/-- The name of the variable for the filter of the log. -/
def filterVariable : String := "STEVEDORE_LOG"

/-- The name of the variable for a filter that other programs heed, too. -/
def commonFilterVariable : String := "RUST_LOG"

/-- The name of the variable for the moments of spans that are logged. -/
def momentsVariable : String := "STEVEDORE_LOG_SPAN_EVENTS"

namespace Options

/-- The word for the format of the log: the one on the command line, else the one in the
environment. -/
def formatWord (options : Options) (environment : Environment) : String :=
  ((options.logFormat.map Log.Format.word).or (environment formatVariable)).getD
    Log.Format.text.word

/-- The filter that a level on the command line stands for. -/
def levelFilter (level : Log.Level) : String :=
  "stevedore=" ++ level.word ++ ",stevedore_core=" ++ level.word

/-- The filter of the log: one in the environment, else the one for the level. -/
def filterText (options : Options) (environment : Environment) : String :=
  ((environment filterVariable).or (environment commonFilterVariable)).getD
    (levelFilter options.logLevel)

/-- How the log is shown. -/
def journal (options : Options) (environment : Environment) : Log.Journal :=
  let format := Log.Format.ofWord (options.formatWord environment)
  { filter := Log.Filter.ofText (options.filterText environment)
    format
    moments := ((environment momentsVariable).map Log.Moment.ofText).getD
      (Log.Moment.usual format) }

end Options

end BuildYard.Command
