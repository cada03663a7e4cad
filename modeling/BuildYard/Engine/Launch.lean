import BuildYard.Account
import BuildYard.Archive.Reader
import BuildYard.Engine.Call
import BuildYard.Engine.Endpoint

/-!
# Launching containers

How a container comes to be, in steps that every way of talking to an engine
knows: it is created, files are copied into it, and it is started. A launch is
a program over these steps. Whatever fails after a container was created, the
container is removed again, and the failure of the step is what is reported.

The agent container gets the payload and is not started. A work container
gets the build account and the helper. A sidecar is only started.
-/

set_option autoImplicit false

namespace BuildYard.Launch

/-- A container to be created. -/
structure Creation where
  image : String
  /-- the command, unless it is the image's own -/
  command : List String := []
  tmpDir : Option String := none
  user : Option String := none
  workDir : Option String := none
  /-- the volume with the workspace and where it is mounted -/
  workspace : Option (String × String) := none
  /-- the container whose volumes, network and IPC namespace it shares, and the hints -/
  shared : Option (Handle × Hints) := none
  /-- its streams are those of an agent: its input stays open, its output is not kept -/
  interactive : Bool := false
  deriving DecidableEq, Repr, Inhabited

/-- A step of a launch. -/
inductive Step where
  | create (creation : Creation)
  /-- the contents of a file inside a container -/
  | copyOut (id path : String)
  /-- unpacks an archive in a directory inside a container -/
  | copyIn (id dir : String) (archive : Bytes)
  | start (id : String)
  /-- removes a container that did not become ready -/
  | discard (id : String)
  /-- the contents of a file of the host -/
  | readFile (path : String)
  | report (level : Log.Level) (text : String)
  deriving Inhabited

/-- What each step is answered with. -/
abbrev Step.Answer : Step → Type
  | create _ => Except EngineError String
  | copyOut _ _ => Except EngineError Bytes
  | copyIn _ _ _ => Except EngineError Unit
  | start _ => Except EngineError Unit
  | discard _ => Except String Unit
  | readFile _ => Except IoError Bytes
  | report _ _ => Unit

/-- Takes one step. -/
def take (step : Step) : Program Step Step.Answer step.Answer :=
  Program.question step

/-- A program over the steps of a launch, which ends early when one fails. -/
abbrev Plan (α : Type) := ExceptT EngineError (Program Step Step.Answer) α

/-! ## Single steps -/

/-- Creates a container and yields its id. -/
def create (creation : Creation) : Plan String :=
  ExceptT.mk (take (.create creation))

/-- The contents of a file inside a container. -/
def copyOut (id path : String) : Plan Bytes :=
  ExceptT.mk (take (.copyOut id path))

/-- Unpacks an archive in a directory inside a container. -/
def copyIn (id dir : String) (archive : Bytes) : Plan Unit :=
  ExceptT.mk (take (.copyIn id dir archive))

/-- Starts a container. -/
def start (id : String) : Plan Unit :=
  ExceptT.mk (take (.start id))

/-- The contents of a file of the host. -/
def readFile (path : String) : Plan Bytes := do
  match ← ExceptT.lift (take (.readFile path)) with
  | .ok contents => pure contents
  | .error cause => throw (.io cause)

/-- Reports something. -/
def report (level : Log.Level) (text : String) : Plan Unit :=
  ExceptT.lift (take (.report level text))

/-! ## Files inside a container -/

/-- Puts one file into a directory inside a container. -/
def putFile (id dir name : String) (contents : Bytes) (mode : Nat) : Plan Unit := do
  match Archive.singleFile name contents mode with
  | .ok archive => copyIn id dir archive
  | .error fault => throw (.archive fault.message)

/-- Adds a line to a text file inside a container. -/
def appendToFile (id path line : String) : Plan Unit := do
  let contents ← copyOut id path
  let (dir, name) := Path.splitInContainer path
  putFile id dir name (appendLine contents line) 0o644

/-- Copies the payload of the agent into the workspace root, if there is one. -/
def injectPayload (agent : AgentSettings) (id : String) : Plan Unit := do
  match agent.payload, agent.payloadName? with
  | some payload, some name =>
    let contents ← readFile payload
    putFile id agent.workspaceRoot name contents 0o644
  | _, _ => pure ()

/-- Adds the build account to the groups and users of a container. -/
def injectAccount (agent : AgentSettings) (id : String) : Plan Unit := do
  appendToFile id "/etc/group" (Account.groupEntry agent)
  appendToFile id "/etc/passwd" (Account.passwdEntry agent)

/-- Copies the helper into a container, if there is one. -/
def injectHelper (agent : AgentSettings) (id : String) : Plan Unit := do
  match agent.helper with
  | some helper =>
    let contents ← readFile helper
    let (dir, name) := Path.splitInContainer helperPath
    putFile id dir name contents 0o555
  | none => pure ()

/-! ## Whole launches -/

/-- Removes a container that did not become ready; a failure of that is only reported. -/
def discard (id : String) : Program Step Step.Answer Unit := do
  match ← take (.discard id) with
  | .ok () => pure ()
  | .error text =>
    take (.report .warn ("Failed to remove half-built container " ++ id ++ ": " ++ text))

/-- Runs `setup` for the container `id`, which is removed if that fails. -/
def orDiscard (id : String) (setup : Plan Unit) : Plan Unit :=
  ExceptT.mk do
    match ← setup.run with
    | .ok () => pure (.ok ())
    | .error cause => do
      discard id
      pure (.error cause)

/-- The agent container for a volume. -/
def agentCreation (agent : AgentSettings) (image volume : String) : Creation :=
  { image
    command := agent.command
    tmpDir := some agent.tmpDir
    user := some agent.user
    workspace := some (volume, agent.workspaceRoot)
    interactive := true }

/-- A work container beside an agent. -/
def workCreation (agent : AgentSettings) (image : String) (beside : Handle) (hints : Hints) :
    Creation :=
  { image
    command := Account.idleCommand agent
    tmpDir := some agent.tmpDir
    user := some agent.user
    workDir := some agent.workspaceRoot
    shared := some (beside, hints) }

/-- A sidecar beside an agent. -/
def sidecarCreation (image : String) (beside : Handle) (hints : Hints) : Creation :=
  { image, shared := some (beside, hints) }

/-- Creates the agent container, which is not started. -/
def agent (settings : AgentSettings) (image volume : String) : Plan Handle := do
  let id ← create (agentCreation settings image volume)
  report .debug ("Created agent container " ++ id)
  orDiscard id (injectPayload settings id)
  pure { image, id }

/-- Makes a created work container ready and starts it. -/
def setUpWork (settings : AgentSettings) (id : String) : Plan Unit := do
  injectAccount settings id
  injectHelper settings id
  start id

/-- Creates and starts a work container. -/
def work (settings : AgentSettings) (image : String) (beside : Handle) (hints : Hints) :
    Plan Handle := do
  let id ← create (workCreation settings image beside hints)
  report .debug ("Created work container " ++ id)
  orDiscard id (setUpWork settings id)
  pure { image, id }

/-- Creates and starts a sidecar. -/
def sidecar (image : String) (beside : Handle) (hints : Hints) : Plan Handle := do
  let id ← create (sidecarCreation image beside hints)
  orDiscard id (start id)
  report .debug ("Started sidecar container " ++ id)
  pure { image, id }

/-- A plan whose steps are tasks of the host. -/
def Plan.perform {α : Type} (step : (s : Step) → Host.Task s.Answer) (plan : Plan α) :
    Attempt α :=
  ExceptT.mk (Prod.fst <$>
    plan.run.through (fun s (state : Unit) => do pure (← step s, state)) ())

end BuildYard.Launch
