import BuildYard.Build.Basic
import BuildYard.Build.Yard
import BuildYard.Rehearsal.Scene

/-!
# The stage of a rehearsal

On a stage there is a scene, the driver that is connected to an engine, if
one is, and the build that goes on, if one does. What is done on a stage
leaves another stage.
-/

set_option autoImplicit false

namespace BuildYard.Rehearsal

/-- A scene with what is going on in it. -/
structure Stage where
  scene : Scene := {}
  driver : Option Driver := none
  build : Option Build := none
  deriving Inhabited

namespace Stage

/-- Does a task of the host. -/
def host {α : Type} (stage : Stage) (task : Host.Task α) : α × Stage :=
  let (value, scene) := stage.scene.perform task
  (value, { stage with scene })

/-- Does work. -/
def work {α : Type} (stage : Stage) (work : Work α) : α × Stage :=
  let ((value, driver), stage) := stage.host (Yard.carryOut work stage.driver)
  (value, { stage with driver })

/-- Asks the engine for an operation. -/
def call (stage : Stage) (call : Call) : Except EngineError call.Value × Stage :=
  stage.work (Work.call call)

/-- Does an operation on the build; without a build there is nothing to do it with. -/
def operate {α : Type} (stage : Stage) (operation : Build.Operation α) :
    Except ProvisionError α × Stage :=
  match stage.build with
  | none => (.error .agentNotPrepared, stage)
  | some build =>
    let ((result, build), stage) := stage.work (operation.runOn build)
    (result, { stage with build := some build })

/-- The engine in memory, if that is the one that is connected. -/
def memory? (stage : Stage) : Option InMemory :=
  match stage.driver with
  | some (.inMemory engine) => some engine
  | _ => none

/-- Changes the engine in memory. -/
def alter (stage : Stage) (change : InMemory → InMemory) : Stage :=
  match stage.memory? with
  | some engine => { stage with driver := some (.inMemory (change engine)) }
  | none => stage

/-- The stage with what was recorded in its scene forgotten. -/
def fresh (stage : Stage) : Stage :=
  { stage with scene := stage.scene.fresh }

/-! ## Watching a process -/

/-- What is seen of a process. -/
structure Watched where
  /-- it has ended, seen before it was told anything -/
  finished : Bool
  /-- what came of telling it to stop, time after time -/
  stopped : List Bool
  /-- what it came to, unless it goes on for ever -/
  result : Option (Except EngineError Int)
  deriving Inhabited

/-- Tells a process to stop, `times` times. -/
def stopAgain (process : Running) : Nat → List Bool × Running
  | 0 => ([], process)
  | times + 1 =>
    let (stopped, process) := process.stop
    let (more, process) := stopAgain process times
    (stopped :: more, process)

/-- Watches a process to its end: it goes on as far as it can, if it is to `settle`, and is
told to stop `times` times. -/
def watch (stage : Stage) (process : Running) (settle : Bool) (times : Nat) :
    Watched × Stage :=
  let (process, stage) := if settle then stage.host process.settle else (process, stage)
  let (stopped, told) := stopAgain process times
  let (result, stage) := stage.host told.wait
  ({ finished := process.isFinished, stopped, result }, stage)

end Stage

end BuildYard.Rehearsal
