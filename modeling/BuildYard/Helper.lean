import BuildYard.Command.Invoke
import BuildYard.Host

/-!
# The helper inside work containers

The helper does two things for the yard. It waits, so that a container has
something to do until it is ended, and it goes to a directory and becomes
another program there, so that a process has a directory without a shell in
the image. A program that cannot be run is told by the exit code: 127 if there
is none, 126 otherwise.
-/

set_option autoImplicit false

namespace BuildYard.Helper

/-- The name of the helper. -/
def programName : String := "trampoline"

/-- What the helper may be told. -/
def grammar : Arguments.Grammar :=
  { program := { versioned := true }
    commandRequired := true
    commands :=
      [("wait", {}),
        ("cdexec",
          { singles := [Command.isPath], tail := some { hyphens := true } })] }

/-- What explains the helper. -/
def usage : String :=
  Text.join "\n"
    ["Helper injected into build containers", "",
      "Usage: trampoline <COMMAND>", "",
      "Commands:",
      "  wait    Idle until terminated",
      "  cdexec  Run a command in a directory",
      "  help    Print this message", ""]

/-- What the helper does. -/
inductive Task where
  | wait
  /-- becomes a program in a directory -/
  | enter (dir program : String) (arguments : List String)
  deriving DecidableEq, Repr, Inhabited

/-- Reads the arguments of the helper. -/
def Task.read (arguments : List String) : Except Arguments.Stop Task := do
  let order ← grammar.read arguments
  match order.command, order.words with
  | some "cdexec", dir :: program :: rest => .ok (.enter dir program rest)
  | some "wait", _ => .ok .wait
  | _, _ => .error .misuse

/-- The exit code for a program that could not be run. -/
def exitCode : IoError → Int
  | .notFound => 127
  | _ => 126

/-- Writes a text to the errors. -/
def complain (text : String) : Host.Task Unit :=
  Host.ask (.write .errors (Bytes.ofString text))

/-- Goes to a directory and becomes a program there. -/
def enter (dir program : String) (arguments : List String) : Host.Task Host.Ending := do
  if ← Host.ask (.directory dir) then
    match ← Host.ask (.become dir program arguments) with
    | .ok ending => pure ending
    | .error cause => do
      complain (programName ++ ": cannot run " ++ program ++ ": " ++ cause.message ++ "\n")
      pure (.exited (exitCode cause))
  else do
    complain ("Error: " ++ dir ++ " is not a directory\n")
    pure (.exited 1)

/-- What comes of reading the arguments ending early. -/
def answerStop : Arguments.Stop → Host.Task Host.Ending
  | .help => do
    Host.ask (.write .output (Bytes.ofString usage))
    pure (.exited 0)
  | .version => do
    Host.ask (.write .output (Bytes.ofString (Command.versionLine programName)))
    pure (.exited 0)
  | .misuse => do
    complain (Command.misuseText programName)
    pure (.exited 2)

/-- A call of the helper. -/
def invoke (arguments : List String) : Host.Task Host.Ending :=
  match Task.read arguments with
  | .error stop => answerStop stop
  | .ok .wait => do
    Host.ask .awaitSignal
    pure (.exited 0)
  | .ok (.enter dir program rest) => enter dir program rest

end BuildYard.Helper
