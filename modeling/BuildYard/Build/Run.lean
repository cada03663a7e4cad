import BuildYard.Build.Basic

/-!
# Processes of a build

A process runs in the container of the current phase, which is launched when
the first process needs it. In the build phase all sidecars run before that,
in the order of their declaration, and each is launched once. Two sidecars of
one name cannot both run, and the second is refused before it is launched.
-/

set_option autoImplicit false

namespace BuildYard.Build

/-- Launches a container of the set beside the agent. -/
def launchDeclared (spec : ContainerSpec) (beside : Handle) (resource : Resource) :
    Operation Handle := do
  let image ← resolveImage spec.image
  let hints := spec.effectiveHints
  match resource with
  | .sidecarContainer =>
    call (.creationFailed resource image) (.launchSidecar image beside hints)
  | _ => call (.creationFailed resource image) (.launchWork image beside hints)

/-- The checkout container, launched if there is none. -/
def ensureCheckout : Operation Handle := do
  match (← current).session.checkout with
  | some container => pure container
  | none => do
    let beside ← agent
    let image ← resolveImage (.named (← current).settings.images.checkout false)
    let container ← call (.creationFailed .checkoutContainer image) (.launchWork image beside {})
    note .info ("Launched checkout container " ++ container.display)
    changeSession fun session => { session with checkout := some container }
    pure container

/-- The work container, launched if there is none. -/
def ensureWork : Operation Handle := do
  match (← current).session.work with
  | some container => pure container
  | none => do
    let beside ← agent
    let container ← launchDeclared (← current).declared.work beside .workContainer
    note .info ("Launched work container " ++ container.display)
    changeSession fun session => { session with work := some container }
    pure container

/-- Launches those of the sidecars that do not run; `seen` are the names before them. -/
def launchSidecars (beside : Handle) (seen : List String) : List Sidecar → Operation Unit
  | [] => pure ()
  | sidecar :: rest => do
    if seen.contains sidecar.name then throw (.sidecarCollision sidecar.name)
    else if ((← current).session.sidecar? sidecar.name).isSome then
      note .debug ("Sidecar " ++ sidecar.name ++ " already running")
    else do
      let container ← launchDeclared sidecar.container beside .sidecarContainer
      note .info ("Launched sidecar " ++ sidecar.name ++ " as " ++ container.display)
      changeSession (·.withSidecar sidecar.name container)
    launchSidecars beside (sidecar.name :: seen) rest

/-- Makes sure that every declared sidecar runs. -/
def ensureSidecars : Operation Unit := do
  let build ← current
  if build.sidecarsLaunched || build.declared.sidecars.isEmpty then pure ()
  else do
    let beside ← agent
    launchSidecars beside [] build.declared.sidecars
    modify fun build => { build with sidecarsLaunched := true }

/-- The container for a process and the process with what the images add to its
variables. -/
def placeFor (starter : Starter) : Operation (Handle × Starter) := do
  let build ← current
  match build.session.phase with
  | .preCheckout => do
    let container ← ensureCheckout
    pure (container, starter)
  | .build => do
    ensureSidecars
    let container ← ensureWork
    pure (container, starter.withMissing build.declared.environment)

/-- Runs a process in the container of the current phase. -/
def runProcess (starter : Starter) : Operation Running :=
  within "run_process" do
    let (container, starter) ← placeFor starter
    note .debug ("Running " ++ starter.display ++ " in " ++ container.display)
    call (.executionFailed container.id) (.exec container.id starter)

/-- Ends the phase before the build phase. -/
def advancePhase : Operation Unit := do
  if (← current).session.phase = .preCheckout then
    note .info ("Checkout complete, switching to " ++ Phase.build.name ++ " phase")
    changeSession fun session => { session with phase := .build }

end BuildYard.Build
