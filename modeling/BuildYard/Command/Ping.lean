import BuildYard.Command.Failure
import BuildYard.Command.Options

/-!
# Asking whether the engine answers

The command connects to the engine in the way that the command line, the
environment or the settings choose, and tells the version that it answers
with.
-/

set_option autoImplicit false

namespace BuildYard.Command

/-- What a command works with once the settings are loaded. -/
structure Context where
  /-- the kind of driver on the command line -/
  chosen : Option DriverKind
  overrides : Overrides
  settings : Settings
  deriving DecidableEq, Repr, Inhabited

namespace Context

/-- The kind of driver that a command uses. -/
def driverKind (context : Context) : DriverKind :=
  context.overrides.detect context.chosen context.settings

/-- Connects to the engine. -/
def connect (context : Context) : Duty Unit :=
  .attempt EngineError.chain (Work.act (.connect context.driverKind context.settings))

end Context

/-- What is told of an engine that answers. -/
def answerLine (kind : DriverKind) (engineVersion : String) : String :=
  kind.name ++ " driver: engine " ++ engineVersion ++ "\n"

/-- What is told of an engine that does not answer. -/
def unreachable (kind : DriverKind) : String :=
  "Container engine is unreachable through the " ++ kind.name ++ " driver"

/-- Asks the engine for its version and tells it; the answer is the exit code. -/
def ping (context : Context) : Duty Nat :=
  .within { part := .pingCommand, name := "execute" } do
    context.connect
    let kind := context.driverKind
    let engineVersion ←
      Duty.attemptTo (unreachable kind) EngineError.chain (Work.call .serverVersion)
    .ofWork (Work.act (.write .output (answerLine kind engineVersion)))
    .attempt EngineError.chain (Work.call .close)
    pure 0

end BuildYard.Command
