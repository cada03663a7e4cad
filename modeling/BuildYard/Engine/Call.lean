import BuildYard.Handle
import BuildYard.Placement
import BuildYard.Running
import BuildYard.Starter

/-!
# What a container engine can be asked for

The operations on an engine that a build needs, as values. Each has its own
type of answer. Asking whether something exists fails only when the engine
cannot tell; that it does not exist is an answer.
-/

set_option autoImplicit false

namespace BuildYard

/-- Where the streams of a process go; one without a sink is not passed on, and error
output is then logged. -/
structure Sinks where
  out : Option Host.Sink
  err : Option Host.Sink
  deriving DecidableEq, Repr, Inhabited

/-- The sinks of an agent: its output is listened to, its error output logged. -/
def Sinks.agent : Sinks :=
  { out := some .agent, err := none }

/-- The sinks that a starter asks for. -/
def Starter.sinks (starter : Starter) : Sinks :=
  { out := if starter.stdout then some .output else none
    err := if starter.stderr then some .errors else none }

/-- An operation on the engine. -/
inductive Call where
  /-- the version of the engine, which also tells that it can be reached -/
  | serverVersion
  | hasVolume (name : String)
  /-- a new volume; the engine names it -/
  | createVolume
  | removeVolume (name : String)
  /-- whether a container exists, running or not -/
  | hasContainer (id : String)
  /-- creates the agent container on a volume, with the payload inside, not started -/
  | launchAgent (image volume : String)
  /-- starts the agent container, its input fed -/
  | attachAgent (agent : Handle) (input : Option Host.Input)
  /-- creates and starts a container that idles in the agent's namespaces, with the
  build account and the helper inside -/
  | launchWork (image : String) (agent : Handle) (hints : Hints)
  /-- creates and starts a container in the agent's namespaces -/
  | launchSidecar (image : String) (agent : Handle) (hints : Hints)
  /-- runs a process in a container -/
  | exec (container : String) (starter : Starter)
  /-- removes a container whatever its state -/
  | removeContainer (handle : Handle)
  | pullImage (image : String)
  | hasImage (image : String)
  /-- builds an image from the archive of a context -/
  | buildImage (context : Bytes) (tag : String) (forcePull : Bool)
  /-- gives up what is kept for talking to the engine -/
  | close
  deriving Inhabited

namespace Call

/-- What an operation yields. -/
abbrev Value : Call → Type
  | serverVersion => String
  | hasVolume _ => Bool
  | createVolume => String
  | removeVolume _ => Unit
  | hasContainer _ => Bool
  | launchAgent _ _ => Handle
  | attachAgent _ _ => Running
  | launchWork _ _ _ => Handle
  | launchSidecar _ _ _ => Handle
  | exec _ _ => Running
  | removeContainer _ => Unit
  | pullImage _ => Unit
  | hasImage _ => Bool
  | buildImage _ _ _ => Unit
  | close => Unit

/-- The name of an operation. -/
def operation : Call → String
  | serverVersion => "server_version"
  | hasVolume _ => "has_volume"
  | createVolume => "create_volume"
  | removeVolume _ => "remove_volume"
  | hasContainer _ => "has_container"
  | launchAgent _ _ => "launch_agent_container"
  | attachAgent _ _ => "attach_agent"
  | launchWork _ _ _ => "launch_work_container"
  | launchSidecar _ _ _ => "launch_sidecar_container"
  | exec _ _ => "exec_in_container"
  | removeContainer _ => "remove_container"
  | pullImage _ => "pull_image"
  | hasImage _ => "check_image_exists"
  | buildImage _ _ _ => "build_from_dockerfile"
  | close => "close"

/-- What an operation is mainly about: an image, an id, a name or nothing. -/
def target : Call → String
  | serverVersion | createVolume | close => ""
  | hasVolume name | removeVolume name => name
  | hasContainer id => id
  | launchAgent image _ => image
  | attachAgent agent _ => agent.id
  | launchWork image _ _ => image
  | launchSidecar image _ _ => image
  | exec container _ => container
  | removeContainer handle => handle.id
  | pullImage image | hasImage image => image
  | buildImage _ tag _ => tag

end Call

end BuildYard
