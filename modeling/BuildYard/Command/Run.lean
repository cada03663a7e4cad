import BuildYard.Build.Agent
import BuildYard.Build.Clean
import BuildYard.Build.Files
import BuildYard.Build.Run
import BuildYard.Command.Ping
import BuildYard.Text.Words

/-!
# Running a build

One build from end to end: the agent is prepared and attached, the checkout
commands run, then the command of the build, and at the end everything is
cleared away whatever happened before. A checkout command that is not
successful ends the build with its exit code. What the next build can take
over is kept in a file, if one is named.

A failure of the build is told before a failure of the clearing away.
-/

set_option autoImplicit false

namespace BuildYard.Command

/-- Reports an event of this command. -/
def tell (level : Log.Level) (text : String) : Duty Unit :=
  .note level .runCommand text

/-! ## Before anything exists -/

/-- The words of every checkout command. -/
def checkoutWords : List String → Except Failure (List (List String))
  | [] => .ok []
  | line :: rest =>
    match Text.Words.split? line with
    | none =>
      .error
        { text := "Invalid checkout command '" ++ line ++ "'", causes := [Text.Words.unclosed] }
    | some words => (checkoutWords rest).map (words :: ·)

/-- The name and the value of a variable. -/
def assignment? (pair : String) : Option (String × String) :=
  match Text.splitFirst? '=' pair.toList with
  | some ([], _) | none => none
  | some (name, value) => some (String.ofList name, String.ofList value)

/-- The variables for every command. -/
def assignments : List String → Except Failure (List (String × String))
  | [] => .ok []
  | pair :: rest =>
    match assignment? pair with
    | none =>
      .error { text := "Invalid environment variable '" ++ pair ++ "', expected KEY=VALUE" }
    | some found => (assignments rest).map (found :: ·)

/-- The commands of a build and what they share. -/
structure Plan where
  checkout : List (List String)
  command : List String
  envs : List (String × String)
  workdir : Option String
  deriving DecidableEq, Repr, Inhabited

/-- The plan of a build. -/
def Plan.ofOrder (order : BuildOrder) : Except Failure Plan := do
  let checkout ← checkoutWords order.checkout
  let envs ← assignments order.env
  pure { checkout, command := order.command, envs, workdir := order.workdir }

/-! ## What builds leave to each other -/

/-- What is said of a text that is no record of a build. -/
def noRecord : String := "not a record of an agent container and a volume"

/-- What an earlier build left, according to a file; nothing if there is no file. -/
def readLeft (path : String) : Duty CarryOver := do
  if ← .ofWork (Work.act (.present path)) then do
    let text ← Duty.attemptTo ("Failed to read state file " ++ path)
      (fun cause : IoError => [cause.message]) (Work.readText path)
    match CarryOver.read? text with
    | some left => pure left
    | none => throw { text := "Failed to parse state file " ++ path, causes := [noRecord] }
  else do
    tell .debug ("No state file at " ++ path ++ ", starting fresh")
    pure {}

/-- Keeps in a file what a build leaves. -/
def writeLeft (path : String) (left : CarryOver) : Duty Unit :=
  Duty.attemptTo ("Failed to write state file " ++ path) (fun cause : IoError => [cause.message])
    (Work.act (.writeFile path left.toJson.pretty))

/-! ## The build -/

/-- A command that works on a build. -/
abbrev OnBuild (α : Type) := ExceptT Failure (StateT Build (Program Action Action.Answer)) α

namespace OnBuild

/-- An operation of a build. -/
def ofOperation {α : Type} (operation : Build.Operation α) : OnBuild α :=
  ExceptT.mk do
    match ← operation.run with
    | .ok value => pure (.ok value)
    | .error cause => pure (.error (Failure.ofChain cause.chain))

/-- A duty that leaves the build alone. -/
def ofDuty {α : Type} (duty : Duty α) : OnBuild α :=
  ExceptT.mk (StateT.lift duty.run)

end OnBuild

/-- A command of the plan as a process. -/
def Plan.starter (plan : Plan) (cmds : List String) : Starter :=
  { cmds, envs := plan.envs, pwd := plan.workdir, stdout := true, stderr := true }

/-- Runs one command in the container of the current phase; the answer is its exit
code. -/
def runCommand (plan : Plan) (cmds : List String) : OnBuild Int := do
  let line := Text.join " " cmds
  let phase := (← get).session.phase
  .ofDuty (tell .info ("Running " ++ line ++ " (" ++ phase.name ++ " phase)"))
  let process ← .ofOperation (Build.runProcess (plan.starter cmds))
  let code ← .ofDuty (.attempt EngineError.chain (Work.act (.wait process)))
  .ofDuty (tell .debug (line ++ " exited with " ++ toString code))
  pure code

/-- Runs commands one after another up to one that is not successful, whose exit code is
the answer. -/
def runCheckout (plan : Plan) : List (List String) → OnBuild (Option Int)
  | [] => pure none
  | cmds :: rest => do
    let code ← runCommand plan cmds
    if code = 0 then runCheckout plan rest
    else do
      .ofDuty (tell .warn
        ("Checkout command exited with " ++ toString code ++ "; skipping the build"))
      pure (some code)

/-- Runs the commands of both phases. -/
def runPhases (plan : Plan) : OnBuild Int := do
  match ← runCheckout plan plan.checkout with
  | some code => pure code
  | none => do
    .ofOperation Build.advancePhase
    runCommand plan plan.command

/-- Lets go of the agent and reports how its process ended. -/
def detach (process : Running) : Duty Unit := do
  let (stopped, process) ← .ofWork (Work.act (.stop process))
  if stopped then tell .debug ("Detaching from agent " ++ process.description)
  match ← .ofWork (Work.act (.wait process)) with
  | .ok code => tell .debug ("Agent process ended with exit code " ++ toString code)
  | .error cause => tell .warn ("Agent process ended abnormally: " ++ cause.message)

/-- Prepares and attaches the agent, runs the commands and lets go of the agent. -/
def runWithAgent (plan : Plan) : OnBuild Int := do
  .ofOperation Build.prepareAgent
  let process ← .ofOperation (Build.attachAgent none)
  let outcome ← ExceptT.lift (runPhases plan).run
  .ofDuty (detach process)
  MonadExcept.ofExcept outcome

/-- The exit code of the yard for that of a command; one that is no byte becomes 1. -/
def exitCode (code : Int) : Nat :=
  if 0 ≤ code && code ≤ 255 then code.toNat else 1

/-- What the whole comes to, from what the build and the clearing away came to. -/
def settleOutcome (outcome : Except Failure Int) (cleaned : Except ProvisionError Unit) :
    Duty Nat :=
  match outcome, cleaned with
  | .ok code, .ok () => pure (exitCode code)
  | .ok _, .error cleanup => throw (Failure.ofChain cleanup.chain)
  | .error failure, .ok () => throw failure
  | .error failure, .error cleanup => do
    tell .warn ("Cleanup after the failed build also failed: " ++ cleanup.message)
    throw failure

/-- Runs a build from end to end; the answer is the exit code. -/
def runBuild (context : Context) (order : BuildOrder) : Duty Nat :=
  .within { part := .runCommand, name := "execute" } do
    let declared ← Duty.attempt ConfigError.chain (ContainerSet.ofFile order.spec)
    let plan ← (MonadExcept.ofExcept (Plan.ofOrder order) : Duty Plan)
    let left ← match order.state with
      | some path => readLeft path
      | none => pure {}
    context.connect
    let build ← Duty.attempt ProvisionError.chain
      (Build.begin declared (Session.ofCarryOver left) context.settings)
    let (outcome, build) ← Duty.ofWork
      ((runWithAgent plan).run.run { build with workspace := order.workspace })
    let (cleaned, build) ← Duty.ofWork (Build.clean.runOn build)
    match order.state with
    | some path => writeLeft path build.session.carryOver
    | none => pure ()
    settleOutcome outcome cleaned

end BuildYard.Command
