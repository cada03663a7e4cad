import BuildYard.Archive.Reader
import BuildYard.Engine.Call
import BuildYard.Running
import BuildYard.Text.Digits

/-!
# An engine in memory

An engine that consists of what it knows: its volumes, containers and images,
what was asked of it, and which operations are to fail. It answers at once and
runs nothing; of commands it only knows `echo`, and an agent sends back what
it is fed. Names of volumes and ids of containers come from one counter, so
that none occurs twice.
-/

set_option autoImplicit false

namespace BuildYard

/-- What a container was created for. -/
inductive Role where
  | agent
  | work
  | sidecar
  deriving DecidableEq, Repr, Inhabited

/-- The word for a role. -/
def Role.name : Role → String
  | agent => "agent"
  | work => "work"
  | sidecar => "sidecar"

/-- A container of an engine in memory. -/
structure Container where
  id : String
  image : String
  role : Role
  running : Bool
  /-- the container whose namespaces it shares -/
  agent : Option String := none
  hints : Hints := {}
  deriving DecidableEq, Repr, Inhabited

/-- A process that was run in a container. -/
structure Execution where
  container : String
  /-- its arguments as they may be shown -/
  argv : List String
  envs : List (String × String)
  pwd : Option String
  deriving DecidableEq, Repr, Inhabited

/-- An engine in memory. -/
structure InMemory where
  /-- it cannot be reached -/
  unavailable : Bool := false
  /-- the operations that fail -/
  failing : List String := []
  /-- the exit code of every command -/
  exitCode : Int := 0
  version : String := "24.0.7"
  volumes : List String := []
  containers : List Container := []
  images : List String := []
  /-- the tags of the images that were built, in order -/
  built : List String := []
  /-- how many names and ids were given out -/
  given : Nat := 0
  closed : Bool := false
  /-- the operations asked for and what each was about, in order -/
  calls : List (String × String) := []
  executions : List Execution := []
  deriving DecidableEq, Repr, Inhabited

namespace InMemory

/-- A list with an element, which is added unless it is there. -/
def including (items : List String) (item : String) : List String :=
  if items.contains item then items else items ++ [item]

/-- The container with an id. -/
def container? (engine : InMemory) (id : String) : Option Container :=
  engine.containers.find? (·.id == id)

/-- The engine with a container, in the place of one with the same id. -/
def put (engine : InMemory) (container : Container) : InMemory :=
  { engine with
    containers := engine.containers.filter (·.id ≠ container.id) ++ [container] }

/-- The engine with a container running or stopped. -/
def setRunning (engine : InMemory) (id : String) (running : Bool) : InMemory :=
  { engine with
    containers := engine.containers.map fun c => if c.id == id then { c with running } else c }

/-- The next name that begins with `front`. -/
def nextName (engine : InMemory) (front : String) : String :=
  front ++ Text.padded 4 (engine.given + 1)

/-- A new container. -/
def create (engine : InMemory) (front image : String) (role : Role) (agent : Option Handle)
    (hints : Hints) : Handle × InMemory :=
  let id := engine.nextName front
  let container : Container :=
    { id, image, role, running := role ≠ .agent, agent := agent.map (·.id), hints }
  ({ image, id }, { (engine.put container) with given := engine.given + 1 })

/-- Notes an operation; the failure with which it is answered, if it is to fail. -/
def enter (engine : InMemory) (call : Call) : Option EngineError × InMemory :=
  let noted := { engine with calls := engine.calls ++ [(call.operation, call.target)] }
  if engine.unavailable then (some (.notInstalled "mock"), noted)
  else if engine.failing.contains call.operation then
    (some (.cli call.operation "mock failure"), noted)
  else (none, noted)

/-- Whether an operation is answered without the engine: nothing has an empty name. -/
def isVoid : Call → Bool
  | .hasVolume name => name.isEmpty
  | .hasContainer id => id.isEmpty
  | _ => false

/-- The course of an agent: it sends back what it is fed. -/
def agentCourse : Option Host.Input → Course
  | none => .ended (.ok 0)
  | some input =>
    .ask (.write .agent input.data) fun _ =>
      if input.staysOpen then .idle (.ended (.ok 137)) else .ended (.ok 0)

/-- What a command writes: `echo` its arguments, any other nothing. -/
def echoed? : List String → Option String
  | program :: arguments =>
    if program = "echo" then some (Text.join " " arguments ++ "\n") else none
  | [] => none

/-- The course of a command. -/
def commandCourse (exitCode : Int) (starter : Starter) : Course :=
  match echoed? starter.cmds, starter.stdout with
  | some text, true =>
    .ask (.write .output (Bytes.ofString text)) fun _ => .ended (.ok exitCode)
  | _, _ => .ended (.ok exitCode)

/-- What an operation does that is not made to fail. -/
def effect (engine : InMemory) : (call : Call) → Except EngineError (call.Value) × InMemory
  | .serverVersion => (.ok engine.version, engine)
  | .hasVolume name => (.ok (engine.volumes.contains name), engine)
  | .createVolume =>
    let name := engine.nextName "vol"
    (.ok name,
      { engine with volumes := including engine.volumes name, given := engine.given + 1 })
  | .removeVolume name =>
    if engine.volumes.contains name then
      (.ok (), { engine with volumes := engine.volumes.filter (· ≠ name) })
    else (.error (.cli "remove_volume" "no such volume"), engine)
  | .hasContainer id => (.ok (engine.container? id).isSome, engine)
  | .launchAgent image volume =>
    if engine.volumes.contains volume then
      let (handle, engine) := engine.create "agent" image .agent none {}
      (.ok handle, engine)
    else (.error (.cli "create" "no such volume"), engine)
  | .attachAgent agent input =>
    (.ok (.begin ("agent " ++ agent.shortId) (agentCourse input)), engine.setRunning agent.id true)
  | .launchWork image agent hints =>
    let (handle, engine) := engine.create "work" image .work (some agent) hints
    (.ok handle, engine)
  | .launchSidecar image agent hints =>
    let (handle, engine) := engine.create "side" image .sidecar (some agent) hints
    (.ok handle, engine)
  | .exec container starter =>
    if ((engine.container? container).map (·.running)).getD false then
      let execution : Execution :=
        { container, argv := starter.redactedArgv false, envs := starter.envs, pwd := starter.pwd }
      let process := Running.begin (Text.join " " starter.redactedCmds)
        (commandCourse engine.exitCode starter)
      (.ok { process with listening := false },
        { engine with executions := engine.executions ++ [execution] })
    else (.error (.cli "exec" "container is not running"), engine)
  | .removeContainer handle =>
    if (engine.container? handle.id).isSome then
      (.ok (), { engine with containers := engine.containers.filter (·.id ≠ handle.id) })
    else (.error (.cli "rm" "no such container"), engine)
  | .pullImage image => (.ok (), { engine with images := including engine.images image })
  | .hasImage image => (.ok (engine.images.contains image), engine)
  | .buildImage context tag _ =>
    match Archive.firstFile context with
    | .ok _ =>
      (.ok (),
        { engine with
          images := including engine.images tag
          built := engine.built ++ [tag] })
    | .error fault => (.error (.archive fault.message), engine)
  | .close => (.ok (), { engine with closed := true })

/-- The answer to what has an empty name. -/
def nothing : (call : Call) → Option (Except EngineError (call.Value))
  | .hasVolume _ => some (.ok false)
  | .hasContainer _ => some (.ok false)
  | _ => none

/-- An operation of an engine in memory. -/
def perform (engine : InMemory) (call : Call) :
    Except EngineError (call.Value) × InMemory :=
  match isVoid call, nothing call with
  | true, some answer => (answer, engine)
  | _, _ =>
    match engine.enter call with
    | (some failure, engine) => (.error failure, engine)
    | (none, engine) => engine.effect call

/-- What the engine reports of an operation. -/
def remark (call : Call) : String :=
  "MockDriver " ++ call.operation ++ " called for " ++ call.target

/-! ## Arranging what an engine knows -/

/-- The engine with a running agent container of an earlier build. -/
def addAgent (engine : InMemory) (id image : String) : InMemory :=
  engine.put { id, image, role := .agent, running := true }

/-- The engine with one more operation that fails. -/
def failOn (engine : InMemory) (operation : String) : InMemory :=
  { engine with failing := engine.failing ++ [operation] }

/-- The engine with an operation that no longer fails. -/
def succeedOn (engine : InMemory) (operation : String) : InMemory :=
  { engine with failing := engine.failing.filter (· ≠ operation) }

/-- What the calls of an operation were about, in their order. -/
def targetsOf (engine : InMemory) (operation : String) : List String :=
  (engine.calls.filter (·.1 == operation)).map (·.2)

end InMemory

end BuildYard
