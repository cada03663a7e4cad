import BuildYard.Build.Basic

/-!
# The agent of a build

Before anything else a build needs its agent container, which keeps the
workspace on a volume. What an earlier build left is taken over when the
engine still has it. A volume that was created for an agent that could not be
launched is removed again, and the session does not change.
-/

set_option autoImplicit false

namespace BuildYard.Build

/-- The failure to tell whether something exists. -/
def uncertain (resource : Resource) (target : String) (cause : EngineError) : ProvisionError :=
  .existenceCheckFailed resource target cause

/-- The volume for the workspace, and whether it was created for this call. -/
def ensureVolume : Operation (String × Bool) := do
  let kept ← match (← current).session.volume with
    | some volume => do
      if ← call (uncertain .volume volume) (.hasVolume volume) then
        note .debug ("Reusing workspace volume " ++ volume)
        pure (some volume)
      else pure none
    | none => pure none
  match kept with
  | some volume => pure (volume, false)
  | none => do
    let volume ← call (.creationFailed .volume "agent workspace") .createVolume
    pure (volume, true)

/-- Removes a volume whose agent could not be launched; a failure is only reported. -/
def giveUpVolume (volume : String) : Operation Unit := do
  match ← liftWork (Work.call (.removeVolume volume)) with
  | .ok () => pure ()
  | .error cause =>
    note .warn ("Failed to remove volume " ++ volume ++ " after agent launch failed: " ++
      cause.message)

/-- Launches an agent container. -/
def launchNewAgent : Operation Unit := do
  let (volume, created) ← ensureVolume
  let image := (← current).settings.images.agent
  match ← liftWork (Work.call (.launchAgent image volume)) with
  | .ok agent => do
    note .info ("Launched agent container " ++ agent.display ++ " on volume " ++ volume)
    changeSession fun session => { session with agent := some agent, volume := some volume }
  | .error cause => do
    if created then giveUpVolume volume
    throw (.creationFailed .agentContainer image cause)

/-- Makes sure that the agent container and its volume exist. -/
def prepareAgent : Operation Unit :=
  within "prepare_agent" do
    match (← current).session.agent with
    | some agent => do
      if ← call (uncertain .agentContainer agent.id) (.hasContainer agent.id) then
        note .info ("Reusing agent container " ++ agent.display)
      else do
        note .info ("Agent container " ++ agent.display ++ " is gone, launching a new one")
        launchNewAgent
    | none => launchNewAgent

/-- Starts the agent container, its input fed. -/
def attachAgent (input : Option Host.Input) : Operation Running :=
  within "attach_agent" do
    let handle ← agent
    call (.executionFailed handle.id) (.attachAgent handle input)

/-- Starts the agent container and waits for it; the answer is its exit code. -/
def launchAgent (input : Option Host.Input) : Operation Int :=
  within "launch_agent" do
    let handle ← agent
    let process ← attachAgent input
    liftOr (.executionFailed handle.id) (Work.act (.wait process))

end BuildYard.Build
