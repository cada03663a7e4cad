import BuildYard.Text.Literal

/-!
# Processes to start

A starter describes a process: its arguments, which of them are secret, its
variables, its directory and where its output goes. Whatever is shown of a
starter has secret arguments and the values of variables replaced.

Inside a container the directory is entered by the helper, if there is one,
and variables are set by the program `env` in front of the command.
-/

set_option autoImplicit false

namespace BuildYard

/-- What stands for a secret. -/
def maskText : String := "****"

/-- The helper's place in a work container. -/
def helperPath : String := "/trampoline"

/-- The description of a process. -/
structure Starter where
  /-- the program and its arguments -/
  cmds : List String := []
  /-- which arguments are secret; a missing mark means no -/
  masks : List Bool := []
  envs : List (String × String) := []
  pwd : Option String := none
  /-- whether someone receives the standard output -/
  stdout : Bool := false
  /-- whether someone receives the error output; it is logged otherwise -/
  stderr : Bool := false
  deriving DecidableEq, Repr, Inhabited

namespace Starter

/-- The marks made as many as the arguments. -/
def marks (starter : Starter) : List Bool :=
  starter.masks.take starter.cmds.length ++
    List.replicate (starter.cmds.length - starter.masks.length) false

/-- The starter with one more argument, a secret one. -/
def maskedArg (starter : Starter) (arg : String) : Starter :=
  { starter with
    cmds := starter.cmds ++ [arg]
    masks := starter.marks ++ [true] }

/-- Whether the argument at `index` is secret. -/
def isMasked (starter : Starter) (index : Nat) : Bool :=
  starter.masks[index]?.getD false

/-- Arguments with the marked ones replaced. -/
def redact : List String → List Bool → List String
  | [], _ => []
  | arg :: args, [] => arg :: redact args []
  | arg :: args, mask :: masks => (if mask then maskText else arg) :: redact args masks

/-- The arguments as they may be shown. -/
def redactedCmds (starter : Starter) : List String :=
  redact starter.cmds starter.masks

/-- Whether a variable is set. -/
def hasEnv (starter : Starter) (name : String) : Bool :=
  starter.envs.any (·.1 == name)

/-- The starter with those variables added that are not set. -/
def withMissing (starter : Starter) (more : List (String × String)) : Starter :=
  more.foldl
    (fun s pair => if s.hasEnv pair.1 then s else { s with envs := s.envs ++ [pair] }) starter

/-- The words in front of the command: the helper entering the directory. -/
def entering (starter : Starter) (useHelper : Bool) : List String :=
  match useHelper, starter.pwd with
  | true, some dir => [helperPath, "cdexec", dir]
  | _, _ => []

/-- The words that set the variables, each written by `write`. -/
def settingWords (starter : Starter) (write : String × String → String) : List String :=
  if starter.envs.isEmpty then [] else "env" :: starter.envs.map write

/-- The arguments that run inside the container. -/
def argv (starter : Starter) (useHelper : Bool) : List String :=
  starter.entering useHelper ++ starter.settingWords (fun pair => pair.1 ++ "=" ++ pair.2) ++
    starter.cmds

/-- The same arguments as they may be shown. -/
def redactedArgv (starter : Starter) (useHelper : Bool) : List String :=
  starter.entering useHelper ++ starter.settingWords (fun pair => pair.1 ++ "=" ++ maskText) ++
    starter.redactedCmds

/-- How messages show a starter. -/
def display (starter : Starter) : String :=
  "ProcStarter \x7b cmds: " ++ Text.Literal.texts starter.redactedCmds ++
    ", envs: " ++ Text.Literal.texts (starter.envs.map (·.1)) ++
    ", pwd: " ++ Text.Literal.optional starter.pwd ++
    ", stdout: " ++ Text.Literal.flag starter.stdout ++
    ", stderr: " ++ Text.Literal.flag starter.stderr ++ " \x7d"

end Starter

end BuildYard
