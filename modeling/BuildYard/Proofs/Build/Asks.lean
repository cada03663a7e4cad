import BuildYard.Build.Agent
import BuildYard.Build.Clean
import BuildYard.Build.Run
import BuildYard.Proofs.Program.Questions

/-!
# What the operations of a build may ask

Each operation asks only what it needs. Preparing the agent looks for the agent
and the volume, makes what is missing and takes back a volume; finding the
place for a process resolves images and launches containers; clearing away
removes. None of them waits for a process, touches a file or connects to
another engine.
-/

set_option autoImplicit false

namespace BuildYard

namespace Action

/-- What the preparation of an agent may ask. -/
def Prepares : Action → Prop
  | .log _ => True
  | .engine call =>
    match call with
    | .hasContainer _ | .hasVolume _ | .createVolume | .launchAgent _ _ | .removeVolume _ => True
    | _ => False
  | _ => False

/-- What may be asked to find the place for a process. -/
def Places : Action → Prop
  | .log _ | .context _ _ _ | .freshNumber => True
  | .engine call =>
    match call with
    | .hasImage _ | .pullImage _ | .buildImage _ _ _ | .launchWork _ _ _ | .launchSidecar _ _ _ =>
      True
    | _ => False
  | _ => False

/-- What clearing a build away may ask. -/
def ClearsAway : Action → Prop
  | .log _ => True
  | .engine call =>
    match call with
    | .removeContainer _ | .removeVolume _ | .close => True
    | _ => False
  | _ => False

end Action

/-! ## Images -/

namespace ImageSource

open BuildYard.Action (Places)

theorem call_asks (c : Call) (may : Places (.engine c)) : Program.Asks Places (call c).run := by
  refine (Program.Asks.lift (Program.asks_question may)).andThen fun answer => ?_
  cases answer with
  | error cause => exact Program.asks_pure
  | ok value => exact Program.asks_pure

theorem resolveNamed_asks (image : String) (forcePull : Bool) :
    Program.Asks Places (resolveNamed image forcePull).run := by
  refine (call_asks (.hasImage image) trivial).andThen fun found => ?_
  split
  · refine (Program.Asks.lift (Work.asks_note fun _ => trivial)).andThen fun _ => ?_
    exact (call_asks (.pullImage image) trivial).andThen fun _ => Program.asks_pure
  · exact Program.asks_pure

theorem resolveDockerfile_asks (workspace context file : String) (forcePull : Bool) :
    Program.Asks Places (resolveDockerfile workspace context file forcePull).run := by
  refine Program.Asks.andThen (Program.asks_question trivial) fun archive => ?_
  refine (Program.Asks.lift (Program.asks_question trivial)).andThen fun number => ?_
  refine (Program.Asks.lift (Work.asks_note fun _ => trivial)).andThen fun _ => ?_
  exact (call_asks (.buildImage archive _ forcePull) trivial).andThen fun _ => Program.asks_pure

theorem resolve_asks (workspace : String) (source : ImageSource) :
    Program.Asks Places (source.resolve workspace).run := by
  refine Work.asks_within (fun _ => trivial) ?_
  cases source with
  | named image forcePull => exact resolveNamed_asks image forcePull
  | dockerfile context file forcePull =>
    exact resolveDockerfile_asks workspace context file forcePull
  | engineSocket =>
    exact (Program.Asks.lift (Work.asks_note fun _ => trivial)).andThen fun _ => Program.asks_pure

end ImageSource

namespace Build

open BuildYard.Action (Prepares Places ClearsAway)

/-! ## The agent -/

/-- The volume that is kept, or a new one. -/
def keptOrNew : Option String → Operation (String × Bool)
  | some volume => pure (volume, false)
  | none => do
    let volume ← call (.creationFailed .volume "agent workspace") .createVolume
    pure (volume, true)

theorem ensureVolume_asks : Asks Prepares ensureVolume := by
  have settle (kept : Option String) : Asks Prepares (keptOrNew kept) := by
    cases kept with
    | none => exact (asks_call trivial).bind fun _ => asks_pure
    | some volume => exact asks_pure
  refine asks_current.bind fun build => ?_
  dsimp only
  cases build.session.volume with
  | none => exact asks_pure.bind settle
  | some volume =>
    refine (asks_call trivial).bind fun found => ?_
    cases found with
    | false => exact asks_pure.bind settle
    | true => exact (asks_note fun _ => trivial).bind fun _ => asks_pure.bind settle

theorem giveUpVolume_asks (volume : String) : Asks Prepares (giveUpVolume volume) := by
  refine (asks_liftWork (Program.asks_question trivial)).bind fun answer => ?_
  cases answer with
  | error cause => exact asks_note fun _ => trivial
  | ok removed => exact asks_pure

theorem launchNewAgent_asks : Asks Prepares launchNewAgent := by
  refine ensureVolume_asks.bind fun ⟨volume, created⟩ => asks_current.bind fun build => ?_
  refine (asks_liftWork (Program.asks_question trivial)).bind fun answer => ?_
  cases answer with
  | ok agent => exact (asks_note fun _ => trivial).bind fun _ => asks_changeSession
  | error cause =>
    cases created with
    | false => exact asks_throw
    | true => exact (giveUpVolume_asks volume).bind fun _ => asks_throw

/-- **Preparing an agent only makes calls and reports.** -/
theorem prepareAgent_asks : Asks Prepares prepareAgent := by
  refine asks_within (fun _ => trivial) (asks_current.bind fun build => ?_)
  cases build.session.agent with
  | none => exact launchNewAgent_asks
  | some handle =>
    refine (asks_call trivial).bind fun found => ?_
    cases found with
    | true => exact asks_note fun _ => trivial
    | false => exact (asks_note fun _ => trivial).bind fun _ => launchNewAgent_asks

/-! ## Places for processes -/

theorem resolveImage_asks (source : ImageSource) : Asks Places (resolveImage source) := by
  refine asks_current.bind fun build => ?_
  cases build.resolved.find? (·.1.same source) with
  | some entry => exact asks_pure
  | none =>
    refine (asks_liftOr (source.resolve_asks build.workspace)).bind fun tag => ?_
    exact asks_modify.bind fun _ => asks_pure

theorem launchDeclared_asks (spec : ContainerSpec) (beside : Handle) (resource : Resource) :
    Asks Places (launchDeclared spec beside resource) := by
  refine (resolveImage_asks spec.image).bind fun image => ?_
  dsimp only
  split
  · exact asks_call trivial
  · exact asks_call trivial

theorem ensureCheckout_asks : Asks Places ensureCheckout := by
  refine asks_current.bind fun build => ?_
  cases build.session.checkout with
  | some container => exact asks_pure
  | none =>
    refine asks_agent.bind fun beside => asks_current.bind fun _ => ?_
    refine (resolveImage_asks _).bind fun image => (asks_call trivial).bind fun container => ?_
    exact (asks_note fun _ => trivial).bind fun _ => asks_changeSession.bind fun _ => asks_pure

theorem ensureWork_asks : Asks Places ensureWork := by
  refine asks_current.bind fun build => ?_
  cases build.session.work with
  | some container => exact asks_pure
  | none =>
    refine asks_agent.bind fun beside => asks_current.bind fun _ => ?_
    refine (launchDeclared_asks _ beside .workContainer).bind fun container => ?_
    exact (asks_note fun _ => trivial).bind fun _ => asks_changeSession.bind fun _ => asks_pure

theorem launchSidecars_asks (beside : Handle) (seen : List String) (sidecars : List Sidecar) :
    Asks Places (launchSidecars beside seen sidecars) := by
  induction sidecars generalizing seen with
  | nil => exact asks_pure
  | cons sidecar rest ih =>
    have onward := ih (sidecar.name :: seen)
    rw [launchSidecars]
    split
    · exact asks_throw.bind fun _ => onward
    · refine asks_current.bind fun build => ?_
      split
      · exact (asks_note fun _ => trivial).bind fun _ => onward
      · refine (launchDeclared_asks _ beside .sidecarContainer).bind fun container => ?_
        exact (asks_note fun _ => trivial).bind fun _ => asks_changeSession.bind fun _ => onward

theorem ensureSidecars_asks : Asks Places ensureSidecars := by
  refine asks_current.bind fun build => ?_
  split
  · exact asks_pure
  · refine asks_agent.bind fun beside => (launchSidecars_asks beside [] _).bind fun _ => ?_
    exact asks_modify

/-- **Whatever finding the place for a process asks, it starts no process.** -/
theorem placeFor_asks (starter : Starter) : Asks Places (placeFor starter) := by
  refine asks_current.bind fun build => ?_
  cases build.session.phase with
  | preCheckout => exact ensureCheckout_asks.bind fun _ => asks_pure
  | build =>
    exact ensureSidecars_asks.bind fun _ => ensureWork_asks.bind fun _ => asks_pure

/-! ## Clearing away -/

theorem removeAll_asks (containers : List (String × Handle)) :
    (removeAll containers).Asks ClearsAway := by
  induction containers with
  | nil => exact Program.asks_pure
  | cons container rest ih =>
    refine (Work.asks_note fun _ => trivial).bind fun _ => ?_
    refine (Program.asks_question trivial).bind fun answer => ?_
    cases answer with
    | ok removed => exact ih
    | error cause =>
      exact (Work.asks_note fun _ => trivial).bind fun _ => ih.bind fun _ => Program.asks_pure

theorem removeVolume_asks (volume : Option String) : (removeVolume volume).Asks ClearsAway := by
  cases volume with
  | none => exact Program.asks_pure
  | some volume =>
    refine (Program.asks_question trivial).bind fun answer => ?_
    cases answer with
    | ok removed => exact Program.asks_pure
    | error cause => exact (Work.asks_note fun _ => trivial).bind fun _ => Program.asks_pure

theorem closeDriver_asks : closeDriver.Asks ClearsAway := by
  refine (Program.asks_question trivial).bind fun answer => ?_
  cases answer with
  | ok closed => exact Program.asks_pure
  | error cause => exact (Work.asks_note fun _ => trivial).bind fun _ => Program.asks_pure

/-- **Clearing a build away asks for removals and for nothing else.** -/
theorem clean_asks : Asks ClearsAway clean := by
  refine asks_within (fun _ => trivial) (asks_current.bind fun build => ?_)
  have removals : build.clearAway.Asks ClearsAway :=
    (removeAll_asks _).bind fun _ => (removeVolume_asks _).bind fun _ =>
      closeDriver_asks.bind fun _ => Program.asks_pure
  refine (asks_liftWork removals).bind fun failures => asks_modify.bind fun _ => ?_
  split
  · exact asks_note fun _ => trivial
  · exact asks_throw

end Build

end BuildYard
