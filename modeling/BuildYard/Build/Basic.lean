import BuildYard.Build.Resolve
import BuildYard.ContainerSet
import BuildYard.Session

/-!
# Builds

A build has the containers that its job declares, settings, and a session that
records what exists for it so far. Its operations are work that may change the
session and may fail; an operation that fails leaves recorded whatever it
created before.
-/

set_option autoImplicit false

namespace BuildYard

/-- A build. -/
structure Build where
  declared : ContainerSet
  settings : Settings
  session : Session
  /-- the directory on the host to which build contexts are relative -/
  workspace : String := "."
  /-- the tags of the image sources resolved so far -/
  resolved : List (ImageSource × String) := []
  /-- every declared sidecar runs -/
  sidecarsLaunched : Bool := false
  deriving DecidableEq, Repr, Inhabited

namespace Build

/-- Work on a build that may fail. -/
abbrev Operation (α : Type) :=
  ExceptT ProvisionError (StateT Build (Program Action Action.Answer)) α

/-- Runs an operation on a build. -/
def Operation.runOn {α : Type} (operation : Operation α) (build : Build) :
    Work (Except ProvisionError α × Build) :=
  StateT.run (ExceptT.run operation) build

/-- Work as an operation that leaves the build alone. -/
def liftWork {α : Type} (work : Work α) : Operation α :=
  ExceptT.lift (StateT.lift work)

/-- Work that may fail as an operation that leaves the build alone. -/
def liftOr {ε α : Type} (wrap : ε → ProvisionError) (work : Work (Except ε α)) :
    Operation α := do
  match ← liftWork work with
  | .ok value => pure value
  | .error cause => throw (wrap cause)

/-- An operation on the engine; `wrap` says what its failure means for the build. -/
def call (wrap : EngineError → ProvisionError) (call : Call) : Operation call.Value :=
  liftOr wrap (Work.call call)

/-- Reports an event. -/
def note (level : Log.Level) (text : String) : Operation Unit :=
  liftWork (Work.note level .builds text)

/-- The build as it is. -/
def current : Operation Build :=
  get

/-- Changes the session. -/
def changeSession (change : Session → Session) : Operation Unit :=
  modify fun build => { build with session := change build.session }

/-- An operation inside a span. -/
def within {α : Type} (name : String) (operation : Operation α) : Operation α :=
  ExceptT.mk fun build =>
    Work.within { part := .builds, name } (operation.runOn build)

/-- The agent container, without which nothing can be launched. -/
def agent : Operation Handle := do
  match (← current).session.agent with
  | some handle => pure handle
  | none => throw .agentNotPrepared

/-- Begins a build, which needs an engine that answers. -/
def begin (declared : ContainerSet) (session : Session) (settings : Settings) :
    Work (Except ProvisionError Build) :=
  Work.within { part := .builds, name := "new" } do
    match ← Work.call .serverVersion with
    | .ok version => do
      Work.note .info .builds ("Connected to container engine " ++ version)
      pure (.ok { declared, settings, session })
    | .error cause => pure (.error (.engineUnreachable cause))

/-- The tag of an image source, which is resolved once in a build. -/
def resolveImage (source : ImageSource) : Operation String := do
  let build ← current
  match build.resolved.find? (·.1.same source) with
  | some (_, tag) => pure tag
  | none => do
    let tag ← liftOr (.imageResolutionFailed source.describe)
      (source.resolve build.workspace).run
    modify fun build => { build with resolved := build.resolved ++ [(source, tag)] }
    pure tag

end Build

end BuildYard
