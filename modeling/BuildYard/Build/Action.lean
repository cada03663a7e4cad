import BuildYard.Engine.Call
import BuildYard.Settings

/-!
# What a build does

A build acts through the engine, reports what it does, and waits for the
processes it started. An action is one such effect as a value; what a build
does is a program over actions. A command of the yard may also read and write
files and write to whoever called it.
-/

set_option autoImplicit false

namespace BuildYard

/-- One effect of a build or of a command. -/
inductive Action where
  | engine (call : Call)
  | log (entry : Log.Entry)
  /-- the archive of a build context below a workspace -/
  | context (workspace context file : String)
  /-- a number that did not occur before -/
  | freshNumber
  /-- waits until a process has ended -/
  | wait (process : Running)
  /-- tells a process to stop after it went on as far as it could -/
  | stop (process : Running)
  /-- connects to the engine, which the calls that follow reach -/
  | connect (kind : DriverKind) (settings : Settings)
  | present (path : String)
  | readFile (path : String)
  | writeFile (path text : String)
  /-- writes a text where the output or the errors of processes go -/
  | write (sink : Host.Sink) (text : String)

namespace Action

/-- What each action is answered with. -/
abbrev Answer : Action → Type
  | engine call => Except EngineError call.Value
  | log _ => Unit
  | context _ _ _ => Except ResolutionError Bytes
  | freshNumber => Nat
  | wait _ => Except EngineError Int
  | stop _ => Bool × Running
  | connect _ _ => Except EngineError Unit
  | present _ => Bool
  | readFile _ => Except IoError Bytes
  | writeFile _ _ => Except IoError Unit
  | write _ _ => Unit

end Action

/-- A program over actions. -/
abbrev Work (α : Type) := Program Action Action.Answer α

namespace Work

/-- One action. -/
def act (action : Action) : Work action.Answer :=
  Program.question action

/-- An operation on the engine. -/
def call (call : Call) : Work (Except EngineError call.Value) :=
  act (.engine call)

/-- Reports an event. -/
def note (level : Log.Level) (part : Log.Part) (text : String) : Work Unit :=
  act (.log (.event level part text))

/-- Work inside a span. -/
def within {α : Type} (span : Log.Span) (work : Work α) : Work α := do
  act (.log (.opened span))
  let value ← work
  act (.log (.closed span))
  pure value

end Work

end BuildYard
