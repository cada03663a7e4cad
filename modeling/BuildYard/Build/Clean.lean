import BuildYard.Build.Basic

/-!
# Clearing a build away

What a build created is removed: first the sidecars, then the work and the
checkout container. The agent container and its volume stay for the next build
unless the settings say otherwise. Every removal is attempted whatever happens
to the others, and all failures are reported together. The session forgets
what was to be removed.
-/

set_option autoImplicit false

namespace BuildYard

namespace Session

/-- Sidecars in the order of the names `declared`, then any others by name. -/
def sidecarsInOrder (session : Session) (declared : List String) : List (String × Handle) :=
  let named := declared.eraseDups.filterMap fun name =>
    (session.sidecar? name).map (name, ·)
  let others := session.sidecars.filter fun sidecar => !declared.contains sidecar.1
  named ++ others.mergeSort fun a b => decide (a.1 ≤ b.1)

/-- The containers to remove, in order, each with what it is called in messages. -/
def removals (session : Session) (declared : List String) (withAgent : Bool) :
    List (String × Handle) :=
  (session.sidecarsInOrder declared).map (fun (name, handle) => ("sidecar " ++ name, handle)) ++
    (session.work.map (Resource.workContainer.name, ·)).toList ++
    (session.checkout.map (Resource.checkoutContainer.name, ·)).toList ++
    (if withAgent then (session.agent.map (Resource.agentContainer.name, ·)).toList else [])

/-- The volume to remove, if there is one. -/
def volumeToRemove (session : Session) (withAgent : Bool) : Option String :=
  if withAgent then session.volume else none

/-- The session without what is removed. -/
def cleared (session : Session) (withAgent : Bool) : Session :=
  { session with
    sidecars := []
    work := none
    checkout := none
    agent := if withAgent then none else session.agent
    volume := if withAgent then none else session.volume }

end Session

namespace Build

/-- Removes containers in order; the failures in the same order. -/
def removeAll : List (String × Handle) → Work (List CleanupFailure)
  | [] => pure []
  | (resource, handle) :: rest => do
    Work.note .debug .builds ("Removing " ++ resource ++ " " ++ handle.display)
    match ← Work.call (.removeContainer handle) with
    | .ok () => removeAll rest
    | .error cause => do
      Work.note .warn .builds
        ("Failed to remove " ++ resource ++ " " ++ handle.display ++ ": " ++ cause.message)
      let failures ← removeAll rest
      pure ({ resource, target := handle.id, cause } :: failures)

/-- Removes the volume, if there is one to remove. -/
def removeVolume : Option String → Work (List CleanupFailure)
  | none => pure []
  | some volume => do
    match ← Work.call (.removeVolume volume) with
    | .ok () => pure []
    | .error cause => do
      Work.note .warn .builds ("Failed to remove volume " ++ volume ++ ": " ++ cause.message)
      pure [{ resource := Resource.volume.name, target := volume, cause }]

/-- Gives up what is kept for talking to the engine. -/
def closeDriver : Work (List CleanupFailure) := do
  match ← Work.call .close with
  | .ok () => pure []
  | .error cause => do
    Work.note .warn .builds ("Failed to release driver resources: " ++ cause.message)
    pure [{ resource := "driver", target := "engine connection", cause }]

/-- A build with everything removed that is to be removed. -/
def cleaned (build : Build) : Build :=
  { build with
    session := build.session.cleared (!build.settings.agent.reuse)
    sidecarsLaunched := false }

/-- All removals of a build, and the failures among them. -/
def clearAway (build : Build) : Work (List CleanupFailure) := do
  let withAgent := !build.settings.agent.reuse
  let containers ← removeAll
    (build.session.removals (build.declared.sidecars.map (·.name)) withAgent)
  let volumes ← removeVolume (build.session.volumeToRemove withAgent)
  let driver ← closeDriver
  pure (containers ++ volumes ++ driver)

/-- Removes what the build created and gives up what is kept for talking to the engine. -/
def clean : Operation Unit :=
  within "clean" do
    let build ← current
    let failures ← liftWork build.clearAway
    modify cleaned
    if failures.isEmpty then note .info "Build containers removed"
    else throw (.cleanupFailed failures)

end Build

end BuildYard
