import BuildYard.Build.Action
import BuildYard.Engine.Driver

/-!
# From actions to the host

The yard carries out the actions of a build: operations on the engine go to
the driver that is connected, and all else is a question to the host. A
process that is told to stop goes on first as far as it can, as it would have
by itself.
-/

set_option autoImplicit false

namespace BuildYard.Yard

/-- What an operation is answered with while no engine is connected. -/
def unconnected : EngineError :=
  .config "no engine is connected"

/-- What waiting for a process is answered with that nobody can stop any more. -/
def endless : EngineError :=
  .taskLost "the process waits for a word to stop that nobody can give"

/-- Connects to an engine. -/
def connect (kind : DriverKind) (settings : Settings) (driver : Option Driver) :
    Host.Task (Except EngineError Unit × Option Driver) := do
  match ← (Driver.connect kind settings).run with
  | .ok connected => pure (.ok (), some connected)
  | .error cause => pure (.error cause, driver)

/-- Lets a process go on, then tells it to stop. -/
def stop (process : Running) : Host.Task (Bool × Running) := do
  let settled ← process.settle
  pure settled.stop

/-- Carries out an action. -/
def perform (action : Action) (driver : Option Driver) :
    Host.Task (action.Answer × Option Driver) :=
  match action with
  | .engine call =>
    match driver with
    | some driver => do
      let (answer, driver) ← driver.perform call
      pure (answer, some driver)
    | none => pure (.error unconnected, none)
  | .log entry => do
    Host.ask (.log entry)
    pure ((), driver)
  | .context workspace context file => do
    pure (← Host.ask (.context workspace context file), driver)
  | .freshNumber => do
    pure (← Host.ask .freshNumber, driver)
  | .wait process => do
    pure ((← process.wait).getD (.error endless), driver)
  | .stop process => do
    pure (← stop process, driver)
  | .connect kind settings => connect kind settings driver
  | .present path => do
    pure (← Host.ask (.present path), driver)
  | .readFile path => do
    pure (← Host.ask (.read path), driver)
  | .writeFile path text => do
    pure (← Host.ask (.writeFile path text), driver)
  | .write sink text => do
    Host.ask (.write sink (Bytes.ofString text))
    pure ((), driver)

/-- Carries out work. -/
def carryOut {α : Type} (work : Work α) (driver : Option Driver) :
    Host.Task (α × Option Driver) :=
  work.through perform driver

end BuildYard.Yard
