import BuildYard.Engine.ByApi
import BuildYard.Engine.ByCommand
import BuildYard.Engine.InMemory

/-!
# Ways to an engine

A driver is one of the ways to ask an engine for an operation. Which one is
used, nobody has to know who asks. A driver is connected by its settings; the
API needs a socket that is there, or a plain host, and no keys.
-/

set_option autoImplicit false

namespace BuildYard

/-- A way to an engine. -/
inductive Driver where
  | byCommand (driver : ByCommand)
  | byApi (driver : ByApi)
  | inMemory (engine : InMemory)
  deriving Inhabited

namespace Driver

/-- The kind of a driver, unless its engine is in memory. -/
def kind? : Driver → Option DriverKind
  | byCommand _ => some .cli
  | byApi _ => some .native
  | inMemory _ => none

/-- A task of one operation inside a span; closing has none. -/
def spanned {α : Type} (part : Log.Part) (call : Call) (task : Host.Task α) : Host.Task α :=
  match call with
  | .close => task
  | call => Host.within { part, name := call.operation } task

/-- An operation on the engine, and the driver after it. -/
def perform (driver : Driver) (call : Call) :
    Host.Task (Except EngineError (call.Value) × Driver) :=
  match driver with
  | byCommand driver => do
    let answer ← spanned .commandLineDriver call (driver.attempt call).run
    pure (answer, byCommand (driver.next call))
  | byApi driver => do
    let answer ← spanned .apiDriver call (driver.attempt call).run
    pure (answer, byApi (driver.next call))
  | inMemory engine => do
    if !InMemory.isVoid call then
      Host.note .debug .memoryDriver (InMemory.remark call)
    let (answer, engine) := engine.perform call
    pure (answer, inMemory engine)

/-! ## Connecting -/

/-- The beginning of a text that stands for a local socket. -/
def socketScheme : String := "unix://"

/-- Whether the API can be reached at a host. -/
def checkHost (host : String) : Attempt Unit := do
  if host.startsWith socketScheme then
    let path := (host.drop socketScheme.length).toString
    if ← ExceptT.lift (Host.ask (.present path)) then pure ()
    else throw (.api (.noSocket path))
  else if host.startsWith "tcp://" || host.startsWith "http://" then pure ()
  else
    throw (.config
      ("unsupported engine endpoint '" ++ host ++ "' for the native driver"))

/-- Connects to the engine's API; without a host nothing is checked. -/
def connectApi (engine : EngineSettings) (agent : AgentSettings) : Attempt Driver := do
  if engine.tlsVerify || engine.hasKeyMaterial then
    throw (.config "TLS endpoints are not supported by the native driver; use the cli driver")
  let endpoint ← Endpoint.ofSettings engine
  endpoint.host.forM checkHost
  pure (byApi { endpoint, agent })

/-- Prepares the use of the engine's command line. -/
def connectCommand (engine : EngineSettings) (agent : AgentSettings) : Attempt Driver := do
  let endpoint ← Endpoint.ofSettings engine
  pure (byCommand { program := engine.dockerPath, endpoint, agent })

/-- Connects in the way of a kind. -/
def connect (kind : DriverKind) (settings : Settings) : Attempt Driver := do
  ExceptT.lift (Host.note .debug .drivers ("Creating " ++ kind.name ++ " driver"))
  match kind with
  | .cli => connectCommand settings.engine settings.agent
  | .native => connectApi settings.engine settings.agent

end Driver

end BuildYard
