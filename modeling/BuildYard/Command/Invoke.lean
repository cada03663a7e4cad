import BuildYard.Command.Run

/-!
# A call of the yard

A call begins with arguments and an environment and ends with an exit code:
that of the build's command after a build, 1 after a failure, 2 after wrong
arguments. What it has to tell goes to the output; failures and wrong
arguments are told where the errors of processes go.
-/

set_option autoImplicit false

namespace BuildYard.Command

/-- Writes to the output. -/
def say (text : String) : Work Unit :=
  Work.act (.write .output text)

/-- Writes to the errors. -/
def complain (text : String) : Work Unit :=
  Work.act (.write .errors text)

/-- What is said of wrong arguments. -/
def misuseText (program : String) : String :=
  "error: unexpected or missing arguments\n\nFor more information, try '" ++ program ++
    " --help'.\n"

/-- What is done when reading the arguments of a program ends early. -/
def answerStop (program usage : String) : Arguments.Stop → Work Nat
  | .help => do
    say usage
    pure 0
  | .version => do
    say (versionLine program)
    pure 0
  | .misuse => do
    complain (misuseText program)
    pure 2

/-- Ends a duty: a failure is told. -/
def ended (duty : Duty Nat) : Work Nat := do
  match ← duty.run with
  | .ok code => pure code
  | .error failure => do
    complain ("Error: " ++ failure.report ++ "\n")
    pure 1

namespace Options

/-- What the command works with. -/
def context (options : Options) (environment : Environment) : Duty Context := do
  let overrides := Overrides.ofEnvironment environment
  let settings ← Duty.attempt ConfigError.chain (Settings.load options.settings overrides)
  pure { chosen := options.driver, overrides, settings }

/-- Reports what is logged and how. -/
def noteLogging (options : Options) (environment : Environment) : Duty Unit := do
  .note .debug .logging
    ("Logging initialized with format: " ++ options.formatWord environment)
  .note .debug .command ("CLI initialized with log level: " ++ options.logLevel.word)

/-- Does the job; the answer is the exit code. -/
def perform (options : Options) (environment : Environment) : Duty Nat := do
  options.noteLogging environment
  match options.job with
  | .nothing => do
    .ofWork (say usage)
    pure 0
  | .ping => do ping (← options.context environment)
  | .run order => do runBuild (← options.context environment) order

end Options

/-- A call of the yard; the answer is the exit code. -/
def invoke (arguments : List String) (environment : Environment) : Work Nat :=
  match Options.read arguments with
  | .error stop => answerStop programName usage stop
  | .ok options => ended (options.perform environment)

/-- How a call shows what it reports; a call with wrong arguments reports nothing. -/
def journalOf (arguments : List String) (environment : Environment) : Log.Journal :=
  match Options.read arguments with
  | .error _ => { filter := { directives := [] } }
  | .ok options => options.journal environment

end BuildYard.Command
