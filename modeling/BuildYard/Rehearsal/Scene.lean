import BuildYard.BuildContext
import BuildYard.Rehearsal.Script
import BuildYard.Rehearsal.Shell

/-!
# The scene of a rehearsal

A scene stands for the host: it has files, a scripted engine at a place of its
own, and it keeps what was asked of the engine, what was reported and what the
processes wrote. It answers every question that the yard can ask, so that a
whole build runs in it.
-/

set_option autoImplicit false

namespace BuildYard.Rehearsal

/-! ## Places -/

/-- The directory of a build's sources. -/
def workspaceDir : String := "/rehearsal/workspace"

/-- The directory in which a command is called. -/
def callDir : String := "/rehearsal/here"

/-- The directory of the scripted engine. -/
def engineDir : String := "/rehearsal/engine"

/-- The directory of key material. -/
def keysDir : String := "/rehearsal/keys"

/-- The program of the scripted engine. -/
def engineProgram : String := engineDir ++ "/docker"

/-- The host at which the scripted engine's API listens. -/
def engineHost : String := "unix://" ++ engineDir ++ "/http.sock"

/-- The files of a host on which there is nothing but a scripted engine. -/
def bareFiles : FileTree :=
  [(workspaceDir, .directory 0o755 []), (callDir, .directory 0o755 []),
    (engineProgram, .file 0o755 []), (engineDir ++ "/http.sock", .file 0o755 [])].foldl
    (fun (tree : FileTree) (path, new) => tree.insertAt path new) (.directory 0o755 [])

/-! ## Scenes -/

/-- Something that reached the engine. -/
inductive Recorded where
  /-- a run of its program, with the key files that were there -/
  | command (invocation : Host.Invocation) (keyFiles : List String) (input : Bytes)
  | api (request : Host.Request)
  deriving Inhabited

/-- The state of a rehearsal. -/
structure Scene where
  script : List Entry := []
  files : FileTree := bareFiles
  /-- where relative paths begin -/
  base : String := workspaceDir
  /-- the key material that is kept, by directory -/
  keys : List (String × List (String × String)) := []
  recorded : List Recorded := []
  log : List Log.Entry := []
  output : Bytes := []
  errors : Bytes := []
  agent : Bytes := []
  /-- how many numbers were drawn -/
  drawn : Nat := 0
  /-- a signal to end comes to a program that waits -/
  signalled : Bool := false
  deriving Inhabited

namespace Scene

/-- The scene with its records and what the processes wrote forgotten. -/
def fresh (scene : Scene) : Scene :=
  { scene with recorded := [], log := [], output := [], errors := [], agent := [] }

/-- The names of the key files that an invocation is told of. -/
def keyFilesOf (scene : Scene) (invocation : Host.Invocation) : List String :=
  match invocation.environment.find? (·.1 == "DOCKER_CERT_PATH") with
  | some (_, dir) =>
    (((scene.keys.find? (·.1 == dir)).map (·.2)).getD []).map (·.1)
  | none => []

/-- Why a program cannot be started, unless it is the scripted engine's. -/
def startFault? (scene : Scene) (invocation : Host.Invocation) : Option IoError :=
  if (invocation.program :: invocation.arguments).any (·.contains (Char.ofNat 0)) then
    some (.other "nul byte found in provided data")
  else if invocation.program == engineProgram then none
  else if invocation.program.contains '/' && scene.files.present scene.base invocation.program then
    some .permissionDenied
  else some .notFound

/-- Records a run of the program. -/
def recordRun (scene : Scene) (invocation : Host.Invocation) (rule : CommandRule)
    (script : List Entry) (input : Bytes) : Scene :=
  { scene with
    script
    recorded := scene.recorded ++
      [.command invocation (scene.keyFilesOf invocation) (if rule.reads then input else [])] }

/-- Whether requests to a host reach the scripted engine. -/
def reaches (host : String) : Bool :=
  host == engineHost

/-- What is said of a host that nobody answers at. -/
def silence : ApiError :=
  .other "nobody answers"

/-- Answers a question. -/
def answer (question : Host.Ask) (scene : Scene) : question.Answer × Scene :=
  match question with
  | .log entry => ((), { scene with log := scene.log ++ [entry] })
  | .read path => (scene.files.read scene.base path, scene)
  | .present path => (scene.files.present scene.base path, scene)
  | .writeFile path text =>
    match scene.files.write scene.base path (Bytes.ofString text) with
    | .ok files => (.ok (), { scene with files })
    | .error cause => (.error cause, scene)
  | .write .output data => ((), { scene with output := scene.output ++ data })
  | .write .errors data => ((), { scene with errors := scene.errors ++ data })
  | .write .agent data => ((), { scene with agent := scene.agent ++ data })
  | .storeKeys files => (.ok keysDir, { scene with keys := scene.keys ++ [(keysDir, files)] })
  | .discardKeys dir => (.ok (), { scene with keys := scene.keys.filter (·.1 ≠ dir) })
  | .invoke invocation input =>
    match scene.startFault? invocation with
    | some cause => (.notStarted cause, scene)
    | none =>
      let (rule, script) := commandRule invocation.arguments scene.script
      (rule.outcome (input.getD []), scene.recordRun invocation rule script (input.getD []))
  | .start invocation input =>
    match scene.startFault? invocation with
    | some cause => (.error cause, scene)
    | none =>
      let fed := input.getD {}
      let (rule, script) := commandRule invocation.arguments scene.script
      (.ok (rule.child fed), scene.recordRun invocation rule script fed.data)
  | .send host request =>
    if reaches host then
      let (rule, script) := apiRule request scene.script
      (.ok rule.reply, { scene with script, recorded := scene.recorded ++ [.api request] })
    else (.error silence, scene)
  | .connect host request input =>
    if reaches host then
      let (rule, script) := apiRule request scene.script
      (.ok (rule.connection input),
        { scene with script, recorded := scene.recorded ++ [.api request] })
    else (.error silence, scene)
  | .context workspace context file =>
    (BuildContext.prepare scene.files scene.base workspace context file, scene)
  | .freshNumber => (scene.drawn + 1, { scene with drawn := scene.drawn + 1 })
  | .directory path => (scene.files.directoryAt scene.base path, scene)
  | .become dir program arguments =>
    match Shell.launchIn scene.files scene.base dir scene.signalled program arguments with
    | .ok done =>
      (.ok done.ending,
        { scene with output := scene.output ++ done.out, errors := scene.errors ++ done.err })
    | .error cause => (.error cause, scene)
  | .awaitSignal => ((), scene)

/-- Runs a task in a scene. -/
def perform {α : Type} (scene : Scene) (task : Host.Task α) : α × Scene :=
  task.run answer scene

end Scene

end BuildYard.Rehearsal
