import BuildYard.Build.Clean
import BuildYard.Proofs.Build.Ensures

/-!
# How a build is cleared away

Clearing away attempts every removal in order, whatever came of those before,
then the removal of the volume and the closing of the driver. Each part yields
the failures among its attempts (`Removed`, `VolumeRemoved`, `Closed`), and the
session forgets what was to be removed in any case (`Cleared`).
-/

set_option autoImplicit false

namespace BuildYard.Build

/-- Containers are removed in order; the failures are those of the removals that failed. -/
inductive Removed : List (String × Handle) → List CleanupFailure → List CallMade → Prop where
  | nil : Removed [] [] []
  | removed (resource : String) (handle : Handle) {rest : List (String × Handle)}
      {failures : List CleanupFailure} {calls : List CallMade} :
      Removed rest failures calls →
        Removed ((resource, handle) :: rest) failures (⟨.removeContainer handle, .ok ()⟩ :: calls)
  | failed (resource : String) (handle : Handle) (cause : EngineError)
      {rest : List (String × Handle)} {failures : List CleanupFailure} {calls : List CallMade} :
      Removed rest failures calls →
        Removed ((resource, handle) :: rest) ({ resource, target := handle.id, cause } :: failures)
          (⟨.removeContainer handle, .error cause⟩ :: calls)

theorem removeAll_removed (removals : List (String × Handle)) :
    (removeAll removals).Ensures (Removed removals) := by
  induction removals with
  | nil => exact Work.ensures_pure.mpr .nil
  | cons removal rest ih =>
    obtain ⟨resource, handle⟩ := removal
    refine Work.ensures_bind.mpr (Work.ensures_note.mpr ?_)
    refine Work.ensures_bind.mpr (Work.ensures_call.mpr fun answer => ?_)
    cases answer with
    | ok removed => exact ih.mono fun _ _ => .removed resource handle
    | error cause =>
      refine Work.ensures_bind.mpr (Work.ensures_note.mpr (Work.ensures_bind.mpr ?_))
      refine ih.mono fun failures calls removed => Work.ensures_pure.mpr ?_
      simpa only [List.append_nil] using .failed resource handle cause removed

/-- The volume is removed if there is one to remove. -/
inductive VolumeRemoved : Option String → List CleanupFailure → List CallMade → Prop where
  | none : VolumeRemoved none [] []
  | removed (volume : String) :
      VolumeRemoved (some volume) [] [⟨.removeVolume volume, .ok ()⟩]
  | failed (volume : String) (cause : EngineError) :
      VolumeRemoved (some volume) [{ resource := Resource.volume.name, target := volume, cause }]
        [⟨.removeVolume volume, .error cause⟩]

theorem removeVolume_removed (volume : Option String) :
    (removeVolume volume).Ensures (VolumeRemoved volume) := by
  cases volume with
  | none => exact Work.ensures_pure.mpr .none
  | some volume =>
    refine Work.ensures_bind.mpr (Work.ensures_call.mpr fun answer => ?_)
    cases answer with
    | ok removed => exact Work.ensures_pure.mpr (.removed volume)
    | error cause =>
      refine Work.ensures_bind.mpr (Work.ensures_note.mpr (Work.ensures_pure.mpr ?_))
      exact .failed volume cause

/-- The driver is closed by one call. -/
inductive Closed : List CleanupFailure → List CallMade → Prop where
  | ended : Closed [] [⟨.close, .ok ()⟩]
  | failed (cause : EngineError) :
      Closed [{ resource := "driver", target := "engine connection", cause }]
        [⟨.close, .error cause⟩]

theorem closeDriver_closed : closeDriver.Ensures Closed := by
  refine Work.ensures_bind.mpr (Work.ensures_call.mpr fun answer => ?_)
  cases answer with
  | ok closed => exact Work.ensures_pure.mpr .ended
  | error cause =>
    refine Work.ensures_bind.mpr (Work.ensures_note.mpr (Work.ensures_pure.mpr ?_))
    exact .failed cause

/-- The names of the declared sidecars. -/
def declaredNames (build : Build) : List String :=
  build.declared.sidecars.map (·.name)

/-- The agent and its volume are removed too. -/
def discardsAgent (build : Build) : Bool :=
  !build.settings.agent.reuse

/-- The containers that clearing a build away removes, in order, with their names. -/
def removals (build : Build) : List (String × Handle) :=
  build.session.removals build.declaredNames build.discardsAgent

/-- What clearing away comes to when these are the failures. -/
def clearingResult : List CleanupFailure → Except ProvisionError Unit
  | [] => .ok ()
  | failures => .error (.cleanupFailed failures)

/-- How clearing a build away comes out. -/
inductive Cleared (build : Build) : Outcome Unit where
  | cleared {containers volume driver : List CleanupFailure}
      {containerCalls volumeCalls driverCalls : List CallMade}
      (removed : Removed build.removals containers containerCalls)
      (volumeRemoved : VolumeRemoved (build.session.volumeToRemove build.discardsAgent) volume
        volumeCalls)
      (closed : Closed driver driverCalls) :
      Cleared build (clearingResult (containers ++ volume ++ driver))
        (containerCalls ++ (volumeCalls ++ driverCalls)) build.cleaned

theorem Cleared.after_eq {build after : Build} {result : Except ProvisionError Unit}
    {calls : List CallMade} (cleared : Cleared build result calls after) :
    after = build.cleaned := by
  cases cleared
  rfl

/-- A call that gives something up. -/
def Clears : Call → Prop
  | .removeContainer _ | .removeVolume _ | .close => True
  | _ => False

theorem Removed.clears {removals : List (String × Handle)} {failures : List CleanupFailure}
    {calls : List CallMade} (removed : Removed removals failures calls) :
    ∀ call ∈ calls, Clears call.question := by
  induction removed with
  | nil => exact List.forall_mem_nil _
  | removed _ _ _ ih => exact List.forall_mem_cons.mpr ⟨trivial, ih⟩
  | failed _ _ _ _ ih => exact List.forall_mem_cons.mpr ⟨trivial, ih⟩

theorem VolumeRemoved.clears {volume : Option String} {failures : List CleanupFailure}
    {calls : List CallMade} (removed : VolumeRemoved volume failures calls) :
    ∀ call ∈ calls, Clears call.question := by
  cases removed with
  | none => exact List.forall_mem_nil _
  | removed => exact List.forall_mem_singleton.mpr trivial
  | failed => exact List.forall_mem_singleton.mpr trivial

theorem Closed.clears {failures : List CleanupFailure} {calls : List CallMade}
    (closed : Closed failures calls) : ∀ call ∈ calls, Clears call.question := by
  cases closed <;> exact List.forall_mem_singleton.mpr trivial

/-- **Clearing away only removes and closes.** -/
theorem Cleared.clears {build after : Build} {result : Except ProvisionError Unit}
    {calls : List CallMade} (cleared : Cleared build result calls after) :
    ∀ call ∈ calls, Clears call.question := by
  cases cleared with
  | cleared removed volumeRemoved closed =>
    simp only [List.forall_mem_append]
    exact ⟨removed.clears, volumeRemoved.clears, closed.clears⟩

theorem Removed.stays_open {removals : List (String × Handle)} {failures : List CleanupFailure}
    {calls : List CallMade} (removed : Removed removals failures calls) :
    ∀ call ∈ calls, call.question ≠ .close := by
  induction removed with
  | nil => exact List.forall_mem_nil _
  | removed _ _ _ ih => exact List.forall_mem_cons.mpr ⟨by simp, ih⟩
  | failed _ _ _ _ ih => exact List.forall_mem_cons.mpr ⟨by simp, ih⟩

theorem VolumeRemoved.stays_open {volume : Option String} {failures : List CleanupFailure}
    {calls : List CallMade} (removed : VolumeRemoved volume failures calls) :
    ∀ call ∈ calls, call.question ≠ .close := by
  cases removed with
  | none => exact List.forall_mem_nil _
  | removed => exact List.forall_mem_singleton.mpr (by simp)
  | failed => exact List.forall_mem_singleton.mpr (by simp)

/-- **Clearing away closes the way to the engine by its last call, and by no other.** -/
theorem Cleared.closes_last {build after : Build} {result : Except ProvisionError Unit}
    {calls : List CallMade} (cleared : Cleared build result calls after) :
    ∃ removals answer, calls = removals ++ [⟨.close, answer⟩] ∧
      ∀ call ∈ removals, call.question ≠ .close := by
  cases cleared with
  | @cleared _ _ _ containerCalls volumeCalls _ removed volumeRemoved closed =>
    have stays : ∀ call ∈ containerCalls ++ volumeCalls, call.question ≠ .close :=
      List.forall_mem_append.mpr ⟨removed.stays_open, volumeRemoved.stays_open⟩
    cases closed with
    | ended => exact ⟨_, .ok (), (List.append_assoc _ _ _).symm, stays⟩
    | failed cause => exact ⟨_, .error cause, (List.append_assoc _ _ _).symm, stays⟩

/-- Failures are reported together, and success is when there are none. -/
theorem ensures_report {failures : List CleanupFailure} {build : Build} {post : Outcome Unit}
    (reported : post (clearingResult failures) [] build) :
    Ensures (if failures.isEmpty then note .info "Build containers removed"
      else throw (.cleanupFailed failures)) build post := by
  cases failures with
  | nil => exact ensures_note.mpr reported
  | cons failure more => exact ensures_throw.mpr reported

/-- **Clearing a build away comes out in one way for each set of failures.** -/
theorem clean_cleared (build : Build) : Ensures clean build (Cleared build) := by
  simp only [clean, ensures_within, ensures_current_bind, ensures_liftWork_bind]
  refine Work.ensures_bind.mpr ((removeAll_removed build.removals).mono fun _ _ removed => ?_)
  refine Work.ensures_bind.mpr ((removeVolume_removed _).mono fun _ _ volumeRemoved => ?_)
  refine Work.ensures_bind.mpr (closeDriver_closed.mono fun _ _ closed => ?_)
  refine Work.ensures_pure.mpr (ensures_modify_bind.mpr (ensures_report ?_))
  simpa only [List.append_nil] using .cleared removed volumeRemoved closed

end BuildYard.Build
