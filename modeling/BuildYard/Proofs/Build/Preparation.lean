import BuildYard.Build.Agent
import BuildYard.Proofs.Build.Ensures

/-!
# How an agent is prepared and attached

Preparing the agent makes calls of few shapes. The agent and the volume that
are recorded are looked for first; what is missing is created; an agent that
cannot be launched takes a new volume with it. `Prepared` lists these shapes,
each with the result and the build that it leaves, and `prepareAgent_prepared`
says that there is no other. Attaching makes one call, and none without an
agent.
-/

set_option autoImplicit false

namespace BuildYard

/-- A session with another agent, which keeps its workspace on `volume`. -/
def Session.withAgent (session : Session) (handle : Handle) (volume : String) : Session :=
  { session with agent := some handle, volume := some volume }

namespace Build

/-! ## The volume -/

/-- No volume can be taken over: none is recorded, or the engine does not have it. -/
inductive VolumeMissing (session : Session) : List CallMade → Prop where
  | unrecorded (none : session.volume = none) : VolumeMissing session []
  | gone {volume : String} (recorded : session.volume = some volume) :
      VolumeMissing session [⟨.hasVolume volume, .ok false⟩]

/-- How the search for a volume comes out, and whether the volume is new. -/
inductive VolumeSought (session : Session) :
    Except ProvisionError (String × Bool) → List CallMade → Prop where
  | kept {volume : String} (recorded : session.volume = some volume) :
      VolumeSought session (.ok (volume, false)) [⟨.hasVolume volume, .ok true⟩]
  | uncertain {volume : String} (recorded : session.volume = some volume) (cause : EngineError) :
      VolumeSought session (.error (.existenceCheckFailed .volume volume cause))
        [⟨.hasVolume volume, .error cause⟩]
  | created {calls : List CallMade} (missing : VolumeMissing session calls) (volume : String) :
      VolumeSought session (.ok (volume, true)) (calls ++ [⟨.createVolume, .ok volume⟩])
  | notCreated {calls : List CallMade} (missing : VolumeMissing session calls)
      (cause : EngineError) :
      VolumeSought session (.error (.creationFailed .volume "agent workspace" cause))
        (calls ++ [⟨.createVolume, .error cause⟩])

/-- A volume is created when none can be taken over. -/
theorem createVolume_sought {build : Build} {before : List CallMade}
    (missing : VolumeMissing build.session before) :
    Ensures (do
        let volume ← call (.creationFailed .volume "agent workspace") .createVolume
        pure (volume, true)) build fun result calls after =>
      after = build ∧ VolumeSought build.session result (before ++ calls) := by
  refine ensures_call_bind.mpr ⟨fun volume => ?_, fun cause => ?_⟩
  · exact ensures_pure.mpr ⟨rfl, .created missing volume⟩
  · exact ⟨rfl, .notCreated missing cause⟩

theorem ensureVolume_sought (build : Build) :
    Ensures ensureVolume build fun result calls after =>
      after = build ∧ VolumeSought build.session result calls := by
  simp only [ensureVolume, ensures_current_bind]
  cases recorded : build.session.volume with
  | none =>
    simp only [pure_bind]
    exact createVolume_sought (.unrecorded recorded)
  | some volume =>
    refine ensures_call_bind.mpr ⟨fun found => ?_, fun cause => ?_⟩
    · cases found with
      | false =>
        simp only [Bool.false_eq_true, if_false, pure_bind]
        exact createVolume_sought (.gone recorded)
      | true =>
        simp only [if_true, ensures_note_bind, pure_bind]
        exact ensures_pure.mpr ⟨rfl, .kept recorded⟩
    · exact ⟨rfl, .uncertain recorded cause⟩

/-! ## The agent -/

/-- No agent can be taken over: none is recorded, or the engine does not have it. -/
inductive AgentMissing (session : Session) : List CallMade → Prop where
  | unrecorded (none : session.agent = none) : AgentMissing session []
  | gone {handle : Handle} (recorded : session.agent = some handle) :
      AgentMissing session [⟨.hasContainer handle.id, .ok false⟩]

/-- What is done about the volume of an agent that could not be launched. -/
inductive GivenUp (volume : String) : Bool → List CallMade → Prop where
  | kept : GivenUp volume false []
  | removed (answer : Except EngineError Unit) :
      GivenUp volume true [⟨.removeVolume volume, answer⟩]

theorem giveUpVolume_givenUp (volume : String) (build : Build) :
    Ensures (giveUpVolume volume) build fun result calls after =>
      result = .ok () ∧ after = build ∧ GivenUp volume true calls := by
  refine ensures_liftWork_bind.mpr (Work.ensures_call.mpr fun answer => ?_)
  cases answer with
  | error cause => exact ensures_note.mpr ⟨rfl, rfl, .removed (.error cause)⟩
  | ok removed => exact ensures_pure.mpr ⟨rfl, rfl, .removed (.ok removed)⟩

/-- How the preparation of an agent comes out. -/
inductive Prepared (build : Build) : Outcome Unit where
  | kept {handle : Handle} (recorded : build.session.agent = some handle) :
      Prepared build (.ok ()) [⟨.hasContainer handle.id, .ok true⟩] build
  | uncertain {handle : Handle} (recorded : build.session.agent = some handle)
      (cause : EngineError) :
      Prepared build (.error (.existenceCheckFailed .agentContainer handle.id cause))
        [⟨.hasContainer handle.id, .error cause⟩] build
  | noVolume {checks search : List CallMade} {cause : ProvisionError}
      (missing : AgentMissing build.session checks)
      (sought : VolumeSought build.session (.error cause) search) :
      Prepared build (.error cause) (checks ++ search) build
  | launched {checks search : List CallMade} {volume : String} {created : Bool}
      (missing : AgentMissing build.session checks)
      (sought : VolumeSought build.session (.ok (volume, created)) search) (handle : Handle) :
      Prepared build (.ok ())
        (checks ++ (search ++ [⟨.launchAgent build.settings.images.agent volume, .ok handle⟩]))
        { build with session := build.session.withAgent handle volume }
  | notLaunched {checks search cleanup : List CallMade} {volume : String} {created : Bool}
      (missing : AgentMissing build.session checks)
      (sought : VolumeSought build.session (.ok (volume, created)) search)
      (cause : EngineError) (givenUp : GivenUp volume created cleanup) :
      Prepared build (.error (.creationFailed .agentContainer build.settings.images.agent cause))
        (checks ++ (search ++
          ⟨.launchAgent build.settings.images.agent volume, .error cause⟩ :: cleanup)) build

theorem launchNewAgent_prepared {build : Build} {checks : List CallMade}
    (missing : AgentMissing build.session checks) :
    Ensures launchNewAgent build fun result calls after =>
      Prepared build result (checks ++ calls) after := by
  refine (ensureVolume_sought build).bind ?_ ?_
  · rintro ⟨volume, created⟩ search _ ⟨rfl, sought⟩
    simp only [ensures_current_bind, ensures_liftWork_bind]
    refine Work.ensures_call.mpr fun answer => ?_
    cases answer with
    | ok handle =>
      simp only [ensures_note_bind, ensures_changeSession]
      exact .launched missing sought handle
    | error cause =>
      cases created with
      | false =>
        simp only [Bool.false_eq_true, if_false, ensures_throw]
        exact .notLaunched missing sought cause .kept
      | true =>
        simp only [if_true]
        refine (giveUpVolume_givenUp volume _).bind ?_ ?_
        · rintro _ cleanup _ ⟨-, rfl, givenUp⟩
          refine ensures_throw.mpr ?_
          simpa using Prepared.notLaunched missing sought cause givenUp
        · rintro _ _ _ ⟨failed, -, -⟩
          cases failed
  · rintro cause search _ ⟨rfl, sought⟩
    exact .noVolume missing sought

/-- **Preparing an agent comes out in one of the ways listed.** -/
theorem prepareAgent_prepared (build : Build) :
    Ensures prepareAgent build (Prepared build) := by
  simp only [prepareAgent, ensures_within, ensures_current_bind]
  cases recorded : build.session.agent with
  | none => exact launchNewAgent_prepared (.unrecorded recorded)
  | some handle =>
    refine ensures_call_bind.mpr ⟨fun found => ?_, fun cause => ?_⟩
    · cases found with
      | false =>
        simp only [Bool.false_eq_true, if_false, ensures_note_bind]
        exact launchNewAgent_prepared (.gone recorded)
      | true =>
        simp only [if_true, ensures_note]
        exact .kept recorded
    · exact .uncertain recorded cause

/-! ## Attaching -/

/-- Without an agent nothing is attached; with one there is one call, to that agent. -/
inductive Attached {α : Type} (build : Build) (input : Option Host.Input) :
    Except ProvisionError α → List CallMade → Prop where
  | notPrepared (none : build.session.agent = none) :
      Attached build input (.error .agentNotPrepared) []
  | called {handle : Handle} {result : Except ProvisionError α}
      (recorded : build.session.agent = some handle) (answer : Except EngineError Running)
      (failed : ∀ cause, answer = .error cause →
        result = .error (.executionFailed handle.id cause)) :
      Attached build input result [⟨.attachAgent handle input, answer⟩]

theorem attachAgent_attached (build : Build) (input : Option Host.Input) :
    Ensures (attachAgent input) build fun result calls after =>
      after = build ∧ Attached build input result calls := by
  simp only [attachAgent, ensures_within]
  cases recorded : build.session.agent with
  | none => exact (ensures_agent_bind_none recorded).mpr ⟨rfl, .notPrepared recorded⟩
  | some handle =>
    refine (ensures_agent_bind recorded).mpr (ensures_call.mpr fun answer => ⟨rfl, ?_⟩)
    refine .called recorded answer ?_
    rintro cause rfl
    rfl

theorem launchAgent_attached (build : Build) (input : Option Host.Input) :
    Ensures (launchAgent input) build fun result calls after =>
      after = build ∧ Attached build input result calls := by
  simp only [launchAgent, ensures_within]
  cases recorded : build.session.agent with
  | none => exact (ensures_agent_bind_none recorded).mpr ⟨rfl, .notPrepared recorded⟩
  | some handle =>
    refine (ensures_agent_bind recorded).mpr ((attachAgent_attached build input).bind ?_ ?_)
    · rintro process calls _ ⟨rfl, attached⟩
      refine ensures_liftOr.mpr (Work.ensures_wait.mpr fun answer => ⟨rfl, ?_⟩)
      cases attached with
      | called same started failed =>
        refine .called same started fun cause equal => ?_
        cases failed cause equal
    · rintro cause calls _ ⟨rfl, attached⟩
      cases attached with
      | notPrepared none => exact ⟨rfl, .notPrepared none⟩
      | called same started failed =>
        refine ⟨rfl, .called same started fun cause equal => ?_⟩
        have failure := failed cause equal
        injection failure with failure
        rw [failure]

end Build

end BuildYard
