import BuildYard.Engine.Launch
import BuildYard.Running

/-!
# The engine by its command line

Every operation is one or more runs of the engine's program. A run that has to
succeed yields what the program wrote, without the blanks around it; one that
looks for something yields `none` when the program says that there is no such
thing. Processes are started and their streams passed on.
-/

set_option autoImplicit false

namespace BuildYard

/-- A way to the engine by its command line. -/
structure ByCommand where
  /-- the program -/
  program : String
  endpoint : Endpoint
  agent : AgentSettings
  deriving DecidableEq, Repr, Inhabited

namespace ByCommand

/-- A run of the engine's program. -/
def invocation (driver : ByCommand) (arguments : List String) : Host.Invocation :=
  { program := driver.program
    arguments := (driver.endpoint.host.map (["-H", ·])).getD [] ++ arguments
    environment := driver.endpoint.environment }

/-- A debug event. -/
def debug (text : String) : Attempt Unit :=
  ExceptT.lift (Host.note .debug .commandLineDriver text)

/-- How a run of the program came out that was not successful or was. -/
structure Output where
  successful : Bool
  out : Bytes
  err : Bytes
  deriving DecidableEq, Repr, Inhabited

/-- The error text of a run, without the blanks around it. -/
def Output.complaint (output : Output) : String :=
  Text.trim (Bytes.textLossy output.err)

/-- What a run wrote, without the blanks around it. -/
def Output.text (output : Output) : String :=
  Text.trim (Bytes.textLossy output.out)

/-- Runs the program to its end. -/
def invoke (driver : ByCommand) (arguments : List String) (input : Option Bytes) :
    Attempt Output := do
  debug ("Running " ++ driver.program ++ " " ++ Text.join " " arguments)
  match ← ExceptT.lift (Host.ask (.invoke (driver.invocation arguments) input)) with
  | .notStarted cause => do
    debug ("Failed to spawn " ++ driver.program ++ ": " ++ cause.message)
    throw (.notInstalled driver.program)
  | .unread => throw (.io .brokenPipe)
  | .ended code out err => pure { successful := code == some 0, out, err }

/-- A run that has to succeed. -/
def run (driver : ByCommand) (operation : String) (arguments : List String)
    (input : Option Bytes) : Attempt String := do
  let output ← driver.invoke arguments input
  if output.successful then pure output.text else throw (.cli operation output.complaint)

/-- Whether an error text says that something does not exist. -/
def saysMissing (complaint : String) : Bool :=
  let folded := Text.fold complaint.toList
  Text.contains "no such".toList folded || Text.contains "not found".toList folded

/-- A run that looks whether something exists. -/
def probe (driver : ByCommand) (operation : String) (arguments : List String) :
    Attempt Bool := do
  let output ← driver.invoke arguments none
  if output.successful then pure true
  else if saysMissing (Bytes.textLossy output.err) then do
    debug (operation ++ " found nothing: " ++ output.complaint)
    pure false
  else throw (.cli operation output.complaint)

/-! ## Launches -/

/-- The arguments for what a container shares with an agent, or `none` when a
quotation in the raw options is not closed. -/
def sharedArguments? : Option (Handle × Hints) → Option (List String)
  | none => some []
  | some (beside, hints) =>
    hints.rawArgs?.map fun raw =>
      ["--volumes-from", beside.id, "--net=container:" ++ beside.id,
        "--ipc=container:" ++ beside.id] ++
      ((hints.memory.map (["-m", ·])).getD []) ++
      hints.volumes.flatMap (["-v", ·]) ++ raw

/-- The arguments that create a container. -/
def creationArguments? (creation : Launch.Creation) : Option (List String) :=
  (sharedArguments? creation.shared).map fun shared =>
    ["create"] ++ (if creation.interactive then ["--interactive", "--log-driver=none"] else []) ++
      shared ++
      ((creation.tmpDir.map fun dir => ["--env", "TMPDIR=" ++ dir]).getD []) ++
      ((creation.workDir.map (["--workdir", ·])).getD []) ++
      ((creation.user.map (["--user", ·])).getD []) ++
      ((creation.workspace.map fun (volume, root) =>
        ["--volume", volume ++ ":" ++ root]).getD []) ++
      [creation.image] ++ creation.command

/-- Creates a container. -/
def create (driver : ByCommand) (creation : Launch.Creation) : Attempt String :=
  match creationArguments? creation with
  | some arguments => driver.run "create" arguments none
  | none => throw (.cli "create" ("invalid raw options: " ++ Text.Words.unclosed))

/-- The contents of a file inside a container. -/
def copyOut (driver : ByCommand) (id path : String) : Attempt Bytes := do
  let output ← driver.invoke ["cp", id ++ ":" ++ path, "-"] none
  if !output.successful then throw (.cli "cp" output.complaint)
  else
    match Archive.firstFile output.out with
    | .ok contents => pure contents
    | .error fault => throw (.archive fault.message)

/-- A step of a launch as runs of the program. -/
def step (driver : ByCommand) : (s : Launch.Step) → Host.Task s.Answer
  | .create creation => (driver.create creation).run
  | .copyOut id path => (driver.copyOut id path).run
  | .copyIn id dir archive =>
    ((fun _ => ()) <$> driver.run "cp" ["cp", "-", id ++ ":" ++ dir] (some archive) :
      Attempt Unit).run
  | .start id => ((fun _ => ()) <$> driver.run "start" ["start", id] none : Attempt Unit).run
  | .discard id =>
    (fun outcome => (outcome.map fun _ => ()).mapError EngineError.message) <$>
      (driver.run "rm" ["rm", "-f", id] none).run
  | .readFile path => Host.ask (.read path)
  | .report level text => Host.note level .commandLineDriver text

/-! ## Processes -/

/-- The lines of a byte sequence up to one that is no text, and whether there is one. -/
def textLines (bytes : Bytes) : List String × Bool :=
  go (Bytes.splitLines bytes)
where
  /-- The texts of lines up to one that is none. -/
  go : List Bytes → List String × Bool
    | [] => ([], false)
    | line :: rest =>
      match Bytes.text? line with
      | some text => let (texts, broken) := go rest; (text :: texts, broken)
      | none => ([], true)

/-- Passes on what a process wrote. The failure is that of a line for the log that is
no text. -/
def passOn (description : String) (sinks : Sinks) (child : Host.Child) :
    Host.Task (Except EngineError Unit) := do
  match sinks.out with
  | some sink => Host.ask (.write sink child.out)
  | none => pure ()
  match sinks.err with
  | some sink => do
    Host.ask (.write sink child.err)
    pure (.ok ())
  | none => do
    let (lines, broken) := textLines child.err
    lines.forM fun line => Host.remark .warn .processes line (some description)
    pure (if broken then .error (.io .notText) else .ok ())

/-- What the handle of a process knows of its end: the exit code, or minus one. -/
def resultOf (passed : Except EngineError Unit) (code : Int) : Except EngineError Int :=
  passed.map fun _ => code

/-- The course of a process that the program runs. -/
def course (description : String) (sinks : Sinks) (child : Host.Child) : Course :=
  Course.after (passOn description sinks child) fun passed =>
    match child.ending with
    | .exited code => .ended (resultOf passed code)
    | .signalled => .ended (resultOf passed (-1))
    | .untilStopped =>
      .idle (Course.after (Host.remark .debug .processes "Killing engine process" none) fun _ =>
        .ended (resultOf passed (-1)))

/-- Starts the program for a process. -/
def start (driver : ByCommand) (arguments : List String) (input : Option Host.Input) :
    Attempt Host.Child := do
  match ← ExceptT.lift (Host.ask (.start (driver.invocation arguments) input)) with
  | .ok child => pure child
  | .error _ => throw (.notInstalled driver.program)

/-- Starts the agent container and attaches to it. -/
def attach (driver : ByCommand) (agent : Handle) (input : Option Host.Input) :
    Attempt Running := do
  let child ← driver.start ["start", "--interactive", "--attach", agent.id] input
  debug ("Attached to agent container " ++ agent.display)
  let description := "agent " ++ agent.shortId
  pure (.begin description (course description .agent child))

/-- The arguments in front of a command that runs in a container. -/
def execArguments (driver : ByCommand) (container : String) (starter : Starter) : List String :=
  ["exec"] ++
    (if driver.agent.helper.isSome then []
      else (starter.pwd.map (["--workdir", ·])).getD []) ++
    [container]

/-- Runs a process in a container. -/
def exec (driver : ByCommand) (container : String) (starter : Starter) : Attempt Running := do
  let useHelper := driver.agent.helper.isSome
  let front := driver.execArguments container starter
  let description := Text.join " " (starter.redactedArgv useHelper)
  debug ("Running " ++ driver.program ++ " " ++ Text.join " " front ++ " " ++ description)
  let child ← driver.start (front ++ starter.argv useHelper) none
  pure (.begin description (course description starter.sinks child))

/-! ## Operations -/

/-- An operation of the engine as runs of the program. -/
def attempt (driver : ByCommand) : (call : Call) → Attempt (call.Value)
  | .serverVersion => do
    let version ←
      driver.run "version" ["version", "--format", "\x7b\x7b.Server.Version\x7d\x7d"] none
    debug ("Engine server version " ++ version)
    pure version
  | .hasVolume name =>
    if name.isEmpty then pure false else driver.probe "volume inspect" ["volume", "inspect", name]
  | .createVolume => do
    let name ← driver.run "volume create" ["volume", "create"] none
    if name.isEmpty then throw (.cli "volume create" "engine returned no volume name")
    else
      debug ("Created volume " ++ name)
      pure name
  | .removeVolume name => (fun _ => ()) <$> driver.run "volume rm" ["volume", "rm", name] none
  | .hasContainer id =>
    if id.isEmpty then pure false
    else
      driver.probe "inspect"
        ["inspect", "--type", "container", "--format", "\x7b\x7b.Id\x7d\x7d", id]
  | .launchAgent image volume => (Launch.agent driver.agent image volume).perform driver.step
  | .attachAgent agent input => driver.attach agent input
  | .launchWork image agent hints =>
    (Launch.work driver.agent image agent hints).perform driver.step
  | .launchSidecar image agent hints => (Launch.sidecar image agent hints).perform driver.step
  | .exec container starter => driver.exec container starter
  | .removeContainer handle => (fun _ => ()) <$> driver.run "rm" ["rm", "-f", handle.id] none
  | .pullImage image => (fun _ => ()) <$> driver.run "pull" ["pull", image] none
  | .hasImage image =>
    driver.probe "image inspect" ["image", "inspect", "--format", "\x7b\x7b.Id\x7d\x7d", image]
  | .buildImage context tag forcePull =>
    (fun _ => ()) <$>
      driver.run "build" ["build", "--pull=" ++ Text.Literal.flag forcePull, "-t", tag, "-"]
        (some context)
  | .close => driver.endpoint.close

/-- The driver after an operation: closing gives up the key material. -/
def next (driver : ByCommand) : Call → ByCommand
  | .close => { driver with endpoint := driver.endpoint.closed }
  | _ => driver

end ByCommand

end BuildYard
