import BuildYard.Proofs.Build.Agents
import BuildYard.Proofs.Build.Ledger

/-!
# Preparing an agent is all or nothing

A preparation that fails leaves the build as it was, and what it created it has
passed to a removal: a new volume goes with the agent that could not be
launched on it. One that succeeds has either found the agent and touched
nothing, or launched one and recorded it together with the volume that it runs
on, which is the recorded one if the engine still has that. A volume that the
preparation did not create is never removed (`prepareAgent_atomic`).
-/

set_option autoImplicit false

namespace BuildYard

/-! ## Volumes that calls create and remove -/

namespace CallMade

/-- The volume that a call created, if it did. -/
def createdVolume : CallMade → Option String
  | ⟨.createVolume, .ok volume⟩ => some volume
  | _ => none

/-- The volume that a call was to remove, whatever came of it. -/
def volumeRemoval : CallMade → Option String
  | ⟨.removeVolume volume, _⟩ => some volume
  | _ => none

/-- A call that uses no agent creates no container but an agent. -/
theorem created_of_unused {call : CallMade} (unused : call.usedAgent = none) :
    call.created = call.launchedAgent := by
  obtain ⟨question, answer⟩ := call
  cases question with
  | launchAgent image volume => cases answer <;> rfl
  | launchWork image agent hints => cases unused
  | launchSidecar image agent hints => cases unused
  | _ => rfl

end CallMade

/-- The volumes created, in order. -/
def volumesCreatedBy (calls : List CallMade) : List String :=
  calls.filterMap CallMade.createdVolume

/-- The volumes passed to a removal, in order. -/
def volumesRemovedBy (calls : List CallMade) : List String :=
  calls.filterMap CallMade.volumeRemoval

section Append

variable (calls more : List CallMade)

theorem volumesCreatedBy_append :
    volumesCreatedBy (calls ++ more) = volumesCreatedBy calls ++ volumesCreatedBy more :=
  List.filterMap_append

theorem volumesRemovedBy_append :
    volumesRemovedBy (calls ++ more) = volumesRemovedBy calls ++ volumesRemovedBy more :=
  List.filterMap_append

end Append

namespace Build

/-! ## The volumes of a preparation -/

section Volumes

variable {session : Session} {calls : List CallMade}

/-- Calls that neither create nor remove a volume. -/
def LeavesVolumes (calls : List CallMade) : Prop :=
  volumesCreatedBy calls = [] ∧ volumesRemovedBy calls = []

theorem AgentMissing.leavesVolumes (missing : AgentMissing session calls) :
    LeavesVolumes calls := by
  cases missing <;> exact ⟨rfl, rfl⟩

/-- The volume that a search came out with, if it is a new one. -/
def newVolume : Except ProvisionError (String × Bool) → List String
  | .ok (volume, true) => [volume]
  | _ => []

theorem length_newVolume (result : Except ProvisionError (String × Bool)) :
    (newVolume result).length ≤ 1 := by
  rcases result with cause | ⟨volume, created⟩
  · exact Nat.zero_le 1
  · cases created
    · exact Nat.zero_le 1
    · exact Nat.le_refl 1

/-- **A search creates the volume that it calls new, and removes none.** -/
theorem VolumeSought.volumes {result : Except ProvisionError (String × Bool)}
    (sought : VolumeSought session result calls) :
    volumesCreatedBy calls = newVolume result ∧ volumesRemovedBy calls = [] := by
  cases sought with
  | kept => exact ⟨rfl, rfl⟩
  | uncertain => exact ⟨rfl, rfl⟩
  | created missing => cases missing <;> exact ⟨rfl, rfl⟩
  | notCreated missing => cases missing <;> exact ⟨rfl, rfl⟩

/-- **Giving up removes a volume exactly if it is new.** -/
theorem GivenUp.volumes {volume : String} {created : Bool}
    (givenUp : GivenUp volume created calls) :
    volumesCreatedBy calls = [] ∧ volumesRemovedBy calls = newVolume (.ok (volume, created)) := by
  cases givenUp <;> exact ⟨rfl, rfl⟩

end Volumes

/-! ## Launches of an agent -/

section Launches

variable {session : Session} {calls : List CallMade}

/-- Calls that do not try to launch an agent. -/
def LaunchesNoAgent (calls : List CallMade) : Prop :=
  ∀ image volume answer, ⟨.launchAgent image volume, answer⟩ ∉ calls

theorem AgentMissing.launchesNoAgent (missing : AgentMissing session calls) :
    LaunchesNoAgent calls := by
  intro image volume answer
  cases missing <;> simp

theorem VolumeSought.launchesNoAgent {result : Except ProvisionError (String × Bool)}
    (sought : VolumeSought session result calls) : LaunchesNoAgent calls := by
  intro image volume answer
  cases sought with
  | kept => simp
  | uncertain => simp
  | created missing => cases missing <;> simp
  | notCreated missing => cases missing <;> simp

theorem GivenUp.launchesNoAgent {volume : String} {created : Bool}
    (givenUp : GivenUp volume created calls) : LaunchesNoAgent calls := by
  intro image volume answer
  cases givenUp <;> simp

end Launches

/-! ## Atomicity -/

/-- **A preparation is all or nothing**, and it neither leaks a volume nor destroys one. -/
structure Atomic (build : Build) (result : Except ProvisionError Unit) (calls : List CallMade)
    (after : Build) : Prop where
  /-- a failure leaves the build as it was, with no agent, and every volume that was created,
  one at most, was passed to a removal once -/
  failed : ∀ cause, result = .error cause →
    after = build ∧ createdBy calls = [] ∧ (volumesCreatedBy calls).length ≤ 1 ∧
      volumesRemovedBy calls = volumesCreatedBy calls
  /-- if the agent could not be launched, that is the failure, whatever came of the volume -/
  reported : ∀ image volume cause, ⟨.launchAgent image volume, .error cause⟩ ∈ calls →
    result = .error (.creationFailed .agentContainer image cause)
  /-- a success without a launch has created nothing and leaves the build as it was -/
  kept : result = .ok () → agentsBy calls = [] →
    after = build ∧ createdBy calls = [] ∧ volumesCreatedBy calls = []
  /-- a launch is a success that changes the agent and the volume only: they are what was
  launched and what it runs on; that is the volume that was created if one was, and the
  recorded one if the engine said that it exists -/
  launched : ∀ agent ∈ agentsBy calls, result = .ok () ∧ createdBy calls = [agent] ∧
    ∃ volume, ⟨.launchAgent build.settings.images.agent volume, .ok agent⟩ ∈ calls ∧
      after = { build with session := build.session.withAgent agent volume } ∧
      (∀ created ∈ volumesCreatedBy calls, volume = created) ∧
      ∀ recorded, build.session.volume = some recorded →
        ⟨.hasVolume recorded, .ok true⟩ ∈ calls → volume = recorded
  /-- a success removes no volume -/
  spared : result = .ok () → volumesRemovedBy calls = []
  /-- only what this preparation created is ever removed -/
  own : ∀ volume ∈ volumesRemovedBy calls, volume ∈ volumesCreatedBy calls

section Prepared

variable {build after : Build} {result : Except ProvisionError Unit} {calls : List CallMade}

theorem Prepared.createdBy_eq (prepared : Prepared build result calls after) :
    createdBy calls = agentsBy calls :=
  List.filterMap_congr fun call made =>
    CallMade.created_of_unused (prepared.moves.preparation_unused call made)

/-- What is given back of the volumes created: all of them after a failure, none otherwise. -/
def givenBack : Except ProvisionError Unit → List String → List String
  | .ok _, _ => []
  | .error _, created => created

/-- The volumes of a preparation that came as far as launching an agent. -/
theorem volumes_launching {checks search rest : List CallMade} {volume image : String}
    {created : Bool} (missing : AgentMissing build.session checks)
    (sought : VolumeSought build.session (.ok (volume, created)) search)
    (answer : Except EngineError Handle) (idle : volumesCreatedBy rest = []) :
    volumesCreatedBy (checks ++ (search ++ ⟨.launchAgent image volume, answer⟩ :: rest)) =
        newVolume (.ok (volume, created)) ∧
      volumesRemovedBy (checks ++ (search ++ ⟨.launchAgent image volume, answer⟩ :: rest)) =
        volumesRemovedBy rest := by
  obtain ⟨checked, unchecked⟩ := missing.leavesVolumes
  obtain ⟨searched, spared⟩ := sought.volumes
  rw [volumesCreatedBy_append, volumesCreatedBy_append, volumesRemovedBy_append,
    volumesRemovedBy_append, checked, unchecked, searched, spared]
  refine ⟨?_, rfl⟩
  change _ ++ volumesCreatedBy rest = _
  rw [idle, List.append_nil]

/-- **A preparation creates one volume at most, and gives it back if it fails.** -/
theorem Prepared.volumes (prepared : Prepared build result calls after) :
    (volumesCreatedBy calls).length ≤ 1 ∧
      volumesRemovedBy calls = givenBack result (volumesCreatedBy calls) := by
  cases prepared with
  | kept => exact ⟨Nat.zero_le 1, rfl⟩
  | uncertain => exact ⟨Nat.zero_le 1, rfl⟩
  | noVolume missing sought =>
    obtain ⟨checked, unchecked⟩ := missing.leavesVolumes
    obtain ⟨searched, spared⟩ := sought.volumes
    rw [volumesCreatedBy_append, volumesRemovedBy_append, checked, unchecked, searched, spared]
    exact ⟨Nat.zero_le 1, rfl⟩
  | launched missing sought agent =>
    have none : volumesCreatedBy [] = [] := rfl
    obtain ⟨new, kept⟩ := volumes_launching missing sought (.ok agent) none
    rw [new, kept]
    exact ⟨length_newVolume _, rfl⟩
  | notLaunched missing sought cause givenUp =>
    obtain ⟨none, removed⟩ := givenUp.volumes
    obtain ⟨new, kept⟩ := volumes_launching missing sought (.error cause) none
    rw [new, kept, removed]
    exact ⟨length_newVolume _, rfl⟩

/-- **A preparation launches no agent and leaves the build as it was, or it launches one,
succeeds and records it.** -/
theorem Prepared.cases_launched (prepared : Prepared build result calls after) :
    (agentsBy calls = [] ∧ after = build ∧ (result = .ok () → volumesCreatedBy calls = [])) ∨
      ∃ checks search volume created agent, AgentMissing build.session checks ∧
        VolumeSought build.session (.ok (volume, created)) search ∧ result = .ok () ∧
        calls = checks ++
          (search ++ [⟨.launchAgent build.settings.images.agent volume, .ok agent⟩]) ∧
        after = { build with session := build.session.withAgent agent volume } := by
  cases prepared with
  | kept => exact .inl ⟨rfl, rfl, fun _ => rfl⟩
  | uncertain => exact .inl ⟨rfl, rfl, nofun⟩
  | noVolume missing sought =>
    refine .inl ⟨?_, rfl, nofun⟩
    rw [agentsBy_append, missing.agentsBy_eq, sought.agentsBy_eq, List.append_nil]
  | launched missing sought agent =>
    exact .inr ⟨_, _, _, _, agent, missing, sought, rfl, rfl, rfl⟩
  | notLaunched missing sought cause givenUp =>
    refine .inl ⟨?_, rfl, nofun⟩
    rw [agentsBy_append, agentsBy_append, missing.agentsBy_eq, sought.agentsBy_eq]
    cases givenUp <;> rfl

/-- **What keeps an agent from being launched is what a preparation reports**, also when the
volume could not be given back. -/
theorem Prepared.reported (prepared : Prepared build result calls after) {image volume : String}
    {cause : EngineError} (tried : ⟨.launchAgent image volume, .error cause⟩ ∈ calls) :
    result = .error (.creationFailed .agentContainer image cause) := by
  cases prepared with
  | kept => simp at tried
  | uncertain => simp at tried
  | noVolume missing sought =>
    rcases List.mem_append.mp tried with checked | searched
    · exact absurd checked (missing.launchesNoAgent _ _ _)
    · exact absurd searched (sought.launchesNoAgent _ _ _)
  | launched missing sought agent =>
    rcases List.mem_append.mp tried with checked | later
    · exact absurd checked (missing.launchesNoAgent _ _ _)
    rcases List.mem_append.mp later with searched | launch
    · exact absurd searched (sought.launchesNoAgent _ _ _)
    · simp at launch
  | notLaunched missing sought other givenUp =>
    rcases List.mem_append.mp tried with checked | later
    · exact absurd checked (missing.launchesNoAgent _ _ _)
    rcases List.mem_append.mp later with searched | launch
    · exact absurd searched (sought.launchesNoAgent _ _ _)
    rcases List.mem_cons.mp launch with same | cleanup
    · cases same
      rfl
    · exact absurd cleanup (givenUp.launchesNoAgent _ _ _)

/-- The volume that an agent was launched on is new, or it is the one that the engine has. -/
theorem VolumeSought.volume_unique {volume : String} {created : Bool}
    (sought : VolumeSought build.session (.ok (volume, created)) calls) :
    (∀ new ∈ newVolume (.ok (volume, created)), volume = new) ∧
      ∀ recorded, build.session.volume = some recorded →
        ⟨.hasVolume recorded, .ok true⟩ ∈ calls → volume = recorded := by
  refine ⟨fun new member => ?_, fun recorded known found => ?_⟩
  · cases created with
    | false => cases member
    | true => exact (List.mem_singleton.mp member).symm
  · cases sought with
    | kept same => exact Option.some.inj (same.symm.trans known)
    | created missing => cases missing <;> simp at found

theorem Prepared.atomic (prepared : Prepared build result calls after) :
    Atomic build result calls after := by
  obtain ⟨once, removed⟩ := prepared.volumes
  refine ⟨?_, fun _ _ _ => prepared.reported, ?_, ?_, ?_, ?_⟩
  · rintro cause rfl
    rcases prepared.cases_launched with ⟨none, same, -⟩ | ⟨_, _, _, _, _, -, -, failed, -⟩
    · exact ⟨same, prepared.createdBy_eq.trans none, once, removed⟩
    · cases failed
  · intro succeeded none
    rcases prepared.cases_launched with ⟨-, same, idle⟩ | ⟨_, _, _, _, _, -, -, -, rfl, -⟩
    · exact ⟨same, prepared.createdBy_eq.trans none, idle succeeded⟩
    · rw [agentsBy_append, agentsBy_append] at none
      simp [agentsBy, CallMade.launchedAgent] at none
  · intro agent member
    have created := prepared.createdBy_eq
    rcases prepared.cases_launched with
      ⟨none, -⟩ | ⟨_, _, volume, _, other, missing, sought, succeeded, rfl, same⟩
    · rw [none] at member
      cases member
    · rw [agentsBy_append, agentsBy_append, missing.agentsBy_eq,
        sought.agentsBy_eq] at created member
      obtain rfl := List.mem_singleton.mp member
      obtain ⟨new, confirmed⟩ := sought.volume_unique
      refine ⟨succeeded, created, volume, by simp, same, ?_, fun recorded known found => ?_⟩
      · rw [(volumes_launching missing sought (.ok agent) rfl).1]
        exact new
      · refine confirmed recorded known ?_
        rcases List.mem_append.mp found with checked | later
        · cases missing <;> simp at checked
        · simpa using later
  · rintro rfl
    exact removed
  · intro volume member
    rw [removed] at member
    cases result with
    | ok done => cases member
    | error cause => exact member

end Prepared

/-- **Whatever the session and whatever the engine answers, preparing the agent is all or
nothing.** -/
theorem prepareAgent_atomic (build : Build) : Ensures prepareAgent build (Atomic build) :=
  (prepareAgent_prepared build).mono fun _ _ _ => Prepared.atomic

end Build

end BuildYard
