import BuildYard.Proofs.Build.Ledger
import BuildYard.Proofs.Build.Plays

/-!
# Containers are removed exactly once

An engine that gives out no id twice lets one tell its containers apart. Then
the ledger of a run leaves no choice: what a build launched beside its agent is
in exactly one slot until the build is cleared away, and clearing away removes
it exactly once, whatever else fails. Only clearing away removes, and beside
what is in the slots it removes at most the agent, if the settings do not keep
it.
-/

set_option autoImplicit false

namespace BuildYard.Build

/-- The engine gave out no id twice, nor one that an earlier build left. -/
def DistinctIds (left : CarryOver) (turns : List Turn) : Prop :=
  ((left.agent.toList ++ createdBy (callsOf turns)).map (·.id)).Nodup

instance (left : CarryOver) (turns : List Turn) : Decidable (DistinctIds left turns) :=
  inferInstanceAs (Decidable (List.Nodup _))

section Distinct

variable {left : CarryOver} {turns earlier later : List Turn} {turn : Turn} {build : Build}

theorem DistinctIds.before (distinct : DistinctIds left (earlier ++ later)) :
    DistinctIds left earlier := by
  rw [DistinctIds, callsOf_append, createdBy_append, ← List.append_assoc, List.map_append]
    at distinct
  exact distinct.of_append_left

/-- With ids told apart, the ledger has no container twice. -/
theorem Ledger.nodup (ledger : Ledger left turns build) (distinct : DistinctIds left turns) :
    ((removedBy (callsOf turns) ++ (build.session.slots ++ build.session.agent.toList)).map
      (·.id)).Nodup := by
  have known : (removedBy (callsOf turns) ++
      (build.session.slots ++ build.session.agent.toList)).Subperm
        (left.agent.toList ++ createdBy (callsOf turns)) := by
    rw [List.subperm_iff_count]
    intro handle
    have := ledger.accounted handle
    simp only [List.count_append]
    omega
  obtain ⟨part, same, sublist⟩ := known
  exact (same.map _).nodup (distinct.sublist (sublist.map _))

/-- The containers in slots and the agent are all different. -/
theorem Ledger.nodup_session (ledger : Ledger left turns build)
    (distinct : DistinctIds left turns) :
    (build.session.slots ++ build.session.agent.toList).Nodup := by
  have nodup := ledger.nodup distinct
  rw [List.map_append] at nodup
  exact nodup.of_append_right.of_map _

theorem discarded_sublist (build : Build) :
    build.discarded.Sublist build.session.agent.toList := by
  rw [discarded]
  cases build.discardsAgent with
  | false => exact List.nil_sublist _
  | true => exact List.Sublist.refl _

/-- What is discarded is the agent, and only when the settings do not keep it. -/
theorem mem_discarded {handle : Handle} (member : handle ∈ build.discarded) :
    build.session.agent = some handle ∧ build.settings.agent.reuse = false := by
  rw [discarded, discardsAgent] at member
  cases reuse : build.settings.agent.reuse with
  | true => simp [reuse] at member
  | false => exact ⟨by simpa [reuse] using member, rfl⟩

/-- **A clearing removes each container in a slot exactly once.** -/
theorem Cleared.count_removedBy {after : Build} {result : Except ProvisionError Unit}
    {calls : List CallMade} (cleared : Cleared build result calls after)
    (orderly : build.Orderly)
    (distinct : (build.session.slots ++ build.session.agent.toList).Nodup) {handle : Handle}
    (member : handle ∈ build.session.slots) : (removedBy calls).count handle = 1 := by
  have removed := cleared.removedBy_perm orderly
  have nodup : (build.session.slots ++ build.discarded).Nodup :=
    distinct.sublist ((List.Sublist.refl _).append (discarded_sublist build))
  rw [removed.count_eq]
  exact List.count_eq_one_of_mem nodup (List.mem_append_left _ member)

end Distinct

section Removal

variable {declared : ContainerSet} {settings : Settings} {left : CarryOver} {workspace : String}
  {turns : List Turn} {build : Build}

/-- Containers are removed exactly once in a run. -/
structure RemovedOnce (settings : Settings) (turns : List Turn) (build : Build) : Prop where
  /-- what was launched since the last clearing is in exactly one slot -/
  slot : ∀ handle ∈ launchedBy (callsOf (sinceClean turns)),
    ∃! slot, build.session.held slot = some handle
  /-- until a clearing it stays there, and nothing is removed -/
  kept : ∀ earlier turn later, turns = earlier ++ turn :: later → turn.request ≠ .clean →
    removedBy turn.calls = [] ∧
      ∀ slot handle, turn.before.session.held slot = some handle →
        turn.after.session.held slot = some handle
  /-- a clearing removes it exactly once -/
  removed : ∀ earlier turn later, turns = earlier ++ turn :: later → turn.request = .clean →
    ∀ handle ∈ launchedBy (callsOf (sinceClean earlier)), (removedBy turn.calls).count handle = 1
  /-- and it removes nothing else but the agent that is not to be kept -/
  agent : ∀ earlier turn later, turns = earlier ++ turn :: later → turn.request = .clean →
    ∀ handle ∈ removedBy turn.calls,
      handle ∈ launchedBy (callsOf (sinceClean earlier)) ∨
        turn.before.session.agent = some handle ∧ settings.agent.reuse = false
  /-- in the whole run no container is removed twice -/
  once : ((removedBy (callsOf turns)).map (·.id)).Nodup

/-- **Every run removes its containers exactly once**, whatever fails, if the engine gives out
no id twice. -/
theorem removed_exactly_once (run : Run (fresh declared settings left workspace) turns build)
    (distinct : DistinctIds left turns) : RemovedOnce settings turns build := by
  have ledger := run.ledger
  refine ⟨fun handle launched => ?_, ?_, ?_, ?_, ?_⟩
  · have slots := (ledger.nodup_session distinct).of_append_left
    exact Session.existsUnique_held run.orderly.once slots (ledger.held.mem_iff.mp launched)
  · rintro earlier turn later rfl other
    obtain ⟨before, happens⟩ := run.split
    have balanced := (happens.went before.orderly).balanced other
    exact ⟨balanced.kept, balanced.held⟩
  · rintro earlier turn later rfl clean handle launched
    obtain ⟨before, happens⟩ := run.split
    have cleared := (happens.went before.orderly).cleared_of_clean clean
    have apart := before.ledger.nodup_session (DistinctIds.before distinct)
    have slot := before.ledger.held.mem_iff.mp launched
    exact cleared.count_removedBy before.orderly apart slot
  · rintro earlier turn later rfl clean handle removed
    obtain ⟨before, happens⟩ := run.split
    have cleared := (happens.went before.orderly).cleared_of_clean clean
    rw [(cleared.removedBy_perm before.orderly).mem_iff, List.mem_append] at removed
    rcases removed with slot | discarded
    · exact .inl (before.ledger.held.mem_iff.mpr slot)
    · exact .inr (before.settings_eq ▸ mem_discarded discarded)
  · have nodup := ledger.nodup distinct
    rw [List.map_append] at nodup
    exact nodup.of_append_left

/-- In a whole build whose every removal fails, all that was launched is removed once. -/
theorem removed_exactly_once_wholeBuild :
    DistinctIds {} (played wholeBuild).1 ∧
      (launchedBy (callsOf (played wholeBuild).1)).length = 3 ∧
      RemovedOnce {} (played wholeBuild).1 (played wholeBuild).2 := by
  have distinct : DistinctIds {} (played wholeBuild).1 := by decide +kernel
  exact ⟨distinct, by decide +kernel, removed_exactly_once (run_played wholeBuild) distinct⟩

end Removal

end BuildYard.Build
