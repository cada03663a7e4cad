import BuildYard.Proofs.Build.Runs
import Mathlib.Data.List.Count
import Mathlib.Data.List.Perm.Subperm

/-!
# The ledger of a run

Every container that the engine created for a build is accounted for: it was
passed to a removal, or a slot of the session holds it, or it is the agent, or
it was an agent that the build has replaced. `Ledger` counts them, and says
that the slots hold what was launched since the last clearing. Every move and
every clearing keeps the ledger (`Run.ledger`).
-/

set_option autoImplicit false

namespace BuildYard

/-! ## What calls create and remove -/

namespace CallMade

/-- The container beside the agent that a call launched, if it did. -/
def launched : CallMade → Option Handle
  | ⟨.launchWork _ _ _, .ok handle⟩ => some handle
  | ⟨.launchSidecar _ _ _, .ok handle⟩ => some handle
  | _ => none

/-- The container that a call created, be it the agent or one beside it. -/
def created : CallMade → Option Handle
  | ⟨.launchAgent _ _, .ok handle⟩ => some handle
  | call => call.launched

/-- The container that a call was to remove, whatever came of it. -/
def removal : CallMade → Option Handle
  | ⟨.removeContainer handle, _⟩ => some handle
  | _ => none

end CallMade

/-- The containers launched beside the agent, in order. -/
def launchedBy (calls : List CallMade) : List Handle :=
  calls.filterMap CallMade.launched

/-- All containers created, in order. -/
def createdBy (calls : List CallMade) : List Handle :=
  calls.filterMap CallMade.created

/-- The containers passed to a removal, in order. -/
def removedBy (calls : List CallMade) : List Handle :=
  calls.filterMap CallMade.removal

section Append

variable (calls more : List CallMade)

theorem launchedBy_append : launchedBy (calls ++ more) = launchedBy calls ++ launchedBy more :=
  List.filterMap_append

theorem createdBy_append : createdBy (calls ++ more) = createdBy calls ++ createdBy more :=
  List.filterMap_append

theorem removedBy_append : removedBy (calls ++ more) = removedBy calls ++ removedBy more :=
  List.filterMap_append

end Append

/-! ## The slots of a session -/

/-- A place in a session for a container beside the agent. -/
inductive Slot where
  | checkout
  | work
  | sidecar (name : String)
  deriving DecidableEq

namespace Session

/-- The container in a slot. -/
def held (session : Session) : Slot → Option Handle
  | .checkout => session.checkout
  | .work => session.work
  | .sidecar name => session.sidecar? name

/-- The slots that are taken, each with its container. -/
def entries (session : Session) : List (Slot × Handle) :=
  session.sidecars.map (fun sidecar => (.sidecar sidecar.1, sidecar.2)) ++
    session.work.toList.map (Slot.work, ·) ++ session.checkout.toList.map (Slot.checkout, ·)

/-- The containers in slots. -/
def slots (session : Session) : List Handle :=
  session.entries.map (·.2)

variable {session : Session}

theorem slots_eq (session : Session) :
    session.slots =
      session.sidecars.map (·.2) ++ session.work.toList ++ session.checkout.toList := by
  simp only [slots, entries, List.map_append, List.map_map, Function.comp_def, List.map_id']

/-- Of sidecars with one name each, the one found by name is the one there is. -/
theorem sidecar?_eq_some_iff (once : session.sidecarNames.Nodup) {name : String}
    {handle : Handle} :
    session.sidecar? name = some handle ↔ (name, handle) ∈ session.sidecars := by
  rw [sidecar?, Option.map_eq_some_iff]
  constructor
  · rintro ⟨⟨found, _⟩, search, rfl⟩
    have same : found = name := by simpa using List.find?_some search
    exact same ▸ List.mem_of_find?_eq_some search
  · intro member
    cases search : session.sidecars.find? (·.1 == name) with
    | none => simpa using List.find?_eq_none.mp search _ member
    | some found =>
      have same : found.1 = name := by simpa using List.find?_some search
      have equal := List.inj_on_of_nodup_map once (List.mem_of_find?_eq_some search) member same
      exact ⟨found, rfl, congrArg Prod.snd equal⟩

/-- A new sidecar is found by its name. -/
theorem sidecar?_withSidecar_self {name : String} {handle : Handle}
    (new : name ∉ session.sidecarNames) :
    (session.withSidecar name handle).sidecar? name = some handle := by
  have missing : session.sidecars.find? (·.1 == name) = none := by
    refine List.find?_eq_none.mpr fun sidecar member same => new ?_
    exact List.mem_map.mpr ⟨sidecar, member, by simpa using same⟩
  simp [sidecar?, withSidecar, missing]

theorem held_eq_some_iff (once : session.sidecarNames.Nodup) {slot : Slot} {handle : Handle} :
    session.held slot = some handle ↔ (slot, handle) ∈ session.entries := by
  cases slot with
  | checkout => simp [held, entries]
  | work => simp [held, entries]
  | sidecar name =>
    rw [held, sidecar?_eq_some_iff once]
    simp [entries]

/-- **A container that is in the slots once is in exactly one slot.** -/
theorem existsUnique_held (once : session.sidecarNames.Nodup) (distinct : session.slots.Nodup)
    {handle : Handle} (member : handle ∈ session.slots) :
    ∃! slot, session.held slot = some handle := by
  obtain ⟨⟨slot, _⟩, entry, rfl⟩ := List.mem_map.mp member
  refine ⟨slot, (held_eq_some_iff once).mpr entry, fun other held => ?_⟩
  have equal := List.inj_on_of_nodup_map distinct ((held_eq_some_iff once).mp held) entry rfl
  exact congrArg Prod.fst equal

end Session

namespace Build

/-! ## What moves do to the ledger -/

section Balance

variable {aim : Aim} {build middle after : Build} {call : CallMade} {calls more : List CallMade}

/-- What moves do to the ledger: nothing is removed, what was launched takes slots of its own,
and what the session then knows it knew before or it was created. -/
structure Balanced (build : Build) (calls : List CallMade) (after : Build) : Prop where
  kept : removedBy calls = []
  held : ∀ slot handle, build.session.held slot = some handle →
    after.session.held slot = some handle
  slots : ∀ handle, after.session.slots.count handle =
    build.session.slots.count handle + (launchedBy calls).count handle
  known : ∀ handle,
    after.session.slots.count handle + after.session.agent.toList.count handle ≤
      build.session.slots.count handle + build.session.agent.toList.count handle +
        (createdBy calls).count handle

theorem Balanced.trans (first : Balanced build calls middle)
    (second : Balanced middle more after) : Balanced build (calls ++ more) after where
  kept := by rw [removedBy_append, first.kept, second.kept, List.append_nil]
  held slot handle here := second.held slot handle (first.held slot handle here)
  slots handle := by
    rw [second.slots, first.slots, launchedBy_append, List.count_append, Nat.add_assoc]
  known handle := by
    have := first.known handle
    have := second.known handle
    rw [createdBy_append, List.count_append]
    omega

theorem balanced_refl (build : Build) : Balanced build [] build :=
  ⟨rfl, fun _ _ here => here, fun _ => rfl, fun _ => Nat.le_refl _⟩

theorem balanced_advanced (build : Build) : Balanced build [] build.advanced where
  kept := rfl
  held slot _ here := by cases slot <;> exact here
  slots _ := rfl
  known _ := Nat.le_refl _

/-- A call that neither creates nor removes needs no entry. -/
theorem balanced_idle (removal : call.removal = none) (created : call.created = none)
    (launched : call.launched = none) : Balanced build [call] build where
  kept := by rw [removedBy, List.filterMap_cons_none removal]; rfl
  held _ _ here := here
  slots _ := by rw [launchedBy, List.filterMap_cons_none launched]; rfl
  known _ := by rw [createdBy, List.filterMap_cons_none created]; exact Nat.le_refl _

/-- A call that launched a container beside the agent has it entered in a slot. -/
theorem balanced_launch {session : Session} {handle : Handle} (removal : call.removal = none)
    (created : call.created = some handle) (launched : call.launched = some handle)
    (agent : session.agent = build.session.agent)
    (slots : session.slots.Perm (handle :: build.session.slots))
    (held : ∀ slot handle, build.session.held slot = some handle →
      session.held slot = some handle) : Balanced build [call] { build with session } where
  kept := by rw [removedBy, List.filterMap_cons_none removal]; rfl
  held := held
  slots other := by
    rw [launchedBy, List.filterMap_cons_some launched, slots.count_eq, List.filterMap_nil,
      List.count_cons, List.count_singleton]
  known other := by
    rw [createdBy, List.filterMap_cons_some created, agent, slots.count_eq, List.filterMap_nil,
      List.count_cons, List.count_singleton]
    omega

theorem Move.balanced (move : Move build aim call after) : Balanced build [call] after := by
  cases move with
  | askImage unresolved asks answer =>
    cases asks <;> exact balanced_idle rfl rfl rfl
  | launchAgent volume answer =>
    cases answer with
    | error cause => exact balanced_idle rfl rfl rfl
    | ok handle =>
      refine ⟨rfl, fun _ _ here => here, fun _ => rfl, fun other => ?_⟩
      change build.session.slots.count other + [handle].count other ≤
        _ + _ + [handle].count other
      omega
  -- a container is launched only for a vacant slot, so none is written over
  | launchCheckout phase vacant recorded resolved answer =>
    cases answer with
    | error cause => exact balanced_idle rfl rfl rfl
    | ok handle =>
      refine balanced_launch rfl rfl rfl rfl ?_ fun slot other here => ?_
      · rw [Session.slots_eq, Session.slots_eq, vacant]
        simp [Session.withCheckout, List.perm_append_singleton, -List.append_assoc]
      · cases slot with
        | checkout => cases vacant.symm.trans here
        | work => exact here
        | sidecar name => exact here
  | launchWork phase complete vacant recorded resolved answer =>
    cases answer with
    | error cause => exact balanced_idle rfl rfl rfl
    | ok handle =>
      refine balanced_launch rfl rfl rfl rfl ?_ fun slot other here => ?_
      · rw [Session.slots_eq, Session.slots_eq, vacant]
        simp [Session.withWork]
      · cases slot with
        | checkout => exact here
        | work => cases vacant.symm.trans here
        | sidecar name => exact here
  | launchSidecar phase next recorded resolved answer =>
    cases answer with
    | error cause => exact balanced_idle rfl rfl rfl
    | ok handle =>
      refine balanced_launch rfl rfl rfl rfl ?_ fun slot other here => ?_
      · rw [Session.slots_eq, Session.slots_eq]
        simp [Session.withSidecar]
      · cases slot with
        | checkout => exact here
        | work => exact here
        | sidecar name =>
          obtain ⟨found, search, equal⟩ := Option.map_eq_some_iff.mp here
          refine Option.map_eq_some_iff.mpr ⟨found, ?_, equal⟩
          simp only [Session.withSidecar, List.find?_append, search, Option.some_or]
  | _ => exact balanced_idle rfl rfl rfl

theorem Settles.balanced (settles : Settles build after) : Balanced build [] after := by
  cases settles with
  | keepTag => exact ⟨rfl, fun _ _ here => here, fun _ => rfl, fun _ => Nat.le_refl _⟩
  | noteComplete => exact ⟨rfl, fun _ _ here => here, fun _ => rfl, fun _ => Nat.le_refl _⟩

/-- **Moves remove nothing, and slots take in what they launch.** -/
theorem Moves.balanced (moves : Moves aim build calls after) : Balanced build calls after := by
  induction moves with
  | refl build => exact balanced_refl build
  | call move _ ih => exact move.balanced.trans ih
  | settle settles _ ih => exact settles.balanced.trans ih

/-- **No request but clearing away removes anything.** -/
theorem Went.balanced {request : Request} {result : Except ProvisionError Unit}
    (went : Went build request result calls after) (other : request ≠ .clean) :
    Balanced build calls after := by
  rcases went.cases_moves with ⟨_, moves⟩ | ⟨-, rfl, rfl⟩ | ⟨clean, -⟩
  · exact moves.balanced
  · exact balanced_advanced build
  · exact absurd clean other

end Balance

/-! ## What clearing away does to the ledger -/

section Clear

variable {build after : Build} {result : Except ProvisionError Unit} {calls : List CallMade}

theorem Removed.removedBy_eq {removals : List (String × Handle)}
    {failures : List CleanupFailure} (removed : Removed removals failures calls) :
    removedBy calls = removals.map (·.2) := by
  induction removed with
  | nil => rfl
  | removed resource handle _ ih => exact congrArg (handle :: ·) ih
  | failed resource handle cause _ ih => exact congrArg (handle :: ·) ih

theorem VolumeRemoved.removedBy_eq {volume : Option String} {failures : List CleanupFailure}
    (removed : VolumeRemoved volume failures calls) : removedBy calls = [] := by
  cases removed <;> rfl

theorem Closed.removedBy_eq {failures : List CleanupFailure} (closed : Closed failures calls) :
    removedBy calls = [] := by
  cases closed <;> rfl

/-- **Clearing away removes what is to be removed, each as often as it is listed.** -/
theorem Cleared.removedBy_eq (cleared : Cleared build result calls after) :
    removedBy calls = build.removals.map (·.2) := by
  cases cleared with
  | cleared removed volumeRemoved closed =>
    rw [removedBy_append, removedBy_append, removed.removedBy_eq, volumeRemoved.removedBy_eq,
      closed.removedBy_eq, List.append_nil, List.append_nil]

/-- The agent, if it is to be removed with the rest. -/
def discarded (build : Build) : List Handle :=
  if build.discardsAgent then build.session.agent.toList else []

theorem nodup_eraseDups (names : List String) : names.eraseDups.Nodup := by
  induction length : names.length using Nat.strongRecOn generalizing names with
  | ind _ ih =>
    cases names with
    | nil => exact List.nodup_nil
    | cons name rest =>
      rw [List.eraseDups_cons, List.nodup_cons]
      refine ⟨?_, ih _ ?_ _ rfl⟩
      · simp
      · subst length
        exact Nat.lt_succ_of_le (List.length_filter_le _ rest)

/-- Sidecars in order are the sidecars that run, when these were declared. -/
theorem sidecarsInOrder_perm (orderly : build.Orderly) :
    (build.session.sidecarsInOrder build.declaredNames).Perm build.session.sidecars := by
  have others : build.session.sidecars.filter
      (fun sidecar => !build.declaredNames.contains sidecar.1) = [] := by
    rw [List.filter_eq_nil_iff]
    intro sidecar member
    have declared := orderly.named.subset (List.mem_map_of_mem (f := (·.1)) member)
    simpa using declared
  -- every sidecar that runs is declared, so that none is left to be sorted by name
  rw [Session.sidecarsInOrder, others, List.mergeSort_nil, List.append_nil]
  refine (List.perm_ext_iff_of_nodup ?_ ?_).mpr ?_
  · refine List.pairwise_filterMap.mpr ((nodup_eraseDups _).imp ?_)
    rintro name other distinct _ first _ second rfl
    obtain ⟨_, -, rfl⟩ := Option.map_eq_some_iff.mp first
    obtain ⟨_, -, equal⟩ := Option.map_eq_some_iff.mp second
    exact distinct (congrArg Prod.fst equal).symm
  · exact List.Nodup.of_map _ orderly.once
  · rintro ⟨name, handle⟩
    simp only [List.mem_filterMap, List.mem_eraseDups, Option.map_eq_some_iff, Prod.mk.injEq]
    constructor
    · rintro ⟨_, -, _, found, rfl, rfl⟩
      exact (Session.sidecar?_eq_some_iff orderly.once).mp found
    · intro member
      exact ⟨name, orderly.named.subset (List.mem_map_of_mem member), handle,
        (Session.sidecar?_eq_some_iff orderly.once).mpr member, rfl, rfl⟩

/-- **Clearing away removes every container in a slot, and the agent if it is not kept.** -/
theorem Cleared.removedBy_perm (cleared : Cleared build result calls after)
    (orderly : build.Orderly) :
    (removedBy calls).Perm (build.session.slots ++ build.discarded) := by
  have sidecars := (sidecarsInOrder_perm orderly).map (·.2)
  have agent : (if build.discardsAgent then
      (build.session.agent.map (Resource.agentContainer.name, ·)).toList else []).map (·.2) =
        build.discarded := by
    rw [discarded]
    cases build.discardsAgent <;> cases build.session.agent <;> rfl
  rw [cleared.removedBy_eq, removals, Session.removals, Session.slots_eq]
  simp only [List.map_append, List.map_map, agent]
  refine ((sidecars.append_right _).append_right _).append_right _ |>.trans ?_
  cases build.session.work <;> cases build.session.checkout <;> exact .refl _

end Clear

/-! ## The ledger -/

/-- The ledger of a build that began with what `left` names and went through `turns`. -/
structure Ledger (left : CarryOver) (turns : List Turn) (build : Build) : Prop where
  /-- nothing is removed, held or the agent without having been left or created, nor twice -/
  accounted : ∀ handle,
    (removedBy (callsOf turns)).count handle + build.session.slots.count handle +
        build.session.agent.toList.count handle ≤
      left.agent.toList.count handle + (createdBy (callsOf turns)).count handle
  /-- the slots hold what was launched since the last clearing -/
  held : (launchedBy (callsOf (sinceClean turns))).Perm build.session.slots

section Ledger

variable {left : CarryOver} {turns : List Turn} {turn : Turn}

theorem Balanced.ledger (balanced : Balanced turn.before turn.calls turn.after)
    (other : turn.request ≠ .clean) (ledger : Ledger left turns turn.before) :
    Ledger left (turns ++ [turn]) turn.after where
  accounted handle := by
    have := ledger.accounted handle
    have := balanced.known handle
    rw [callsOf_concat, removedBy_append, createdBy_append, balanced.kept, List.append_nil,
      List.count_append]
    omega
  held := by
    rw [sinceClean_concat other, callsOf_concat, launchedBy_append, List.perm_iff_count]
    intro handle
    rw [List.count_append, balanced.slots, ledger.held.count_eq]

theorem slots_cleaned (build : Build) : build.cleaned.session.slots = [] :=
  rfl

/-- What is known of an agent is removed with it, or stays. -/
theorem agent_cleaned (build : Build) (handle : Handle) :
    build.discarded.count handle + build.cleaned.session.agent.toList.count handle =
      build.session.agent.toList.count handle := by
  change build.discarded.count handle + (if build.discardsAgent then none
    else build.session.agent).toList.count handle = _
  rw [discarded]
  cases build.discardsAgent with
  | false => exact Nat.zero_add _
  | true => exact Nat.add_zero _

theorem Cleared.ledger {result : Except ProvisionError Unit}
    (cleared : Cleared turn.before result turn.calls turn.after) (clean : turn.request = .clean)
    (orderly : turn.before.Orderly) (ledger : Ledger left turns turn.before) :
    Ledger left (turns ++ [turn]) turn.after where
  accounted handle := by
    have before := ledger.accounted handle
    have agent := agent_cleaned turn.before handle
    rw [callsOf_concat, removedBy_append, createdBy_append, List.count_append, List.count_append,
      (cleared.removedBy_perm orderly).count_eq, List.count_append, cleared.after_eq,
      slots_cleaned, List.count_nil]
    omega
  held := by
    rw [sinceClean_clean clean, cleared.after_eq]
    exact .refl _

/-- **Every run of a build keeps the ledger.** -/
theorem Run.ledger {declared : ContainerSet} {settings : Settings} {workspace : String}
    {build : Build} (run : Run (fresh declared settings left workspace) turns build) :
    Ledger left turns build := by
  refine run.induction (Ledger left) ?_ fun turns turn run went ledger => ?_
  · refine ⟨fun handle => ?_, .refl _⟩
    exact Nat.le_of_eq (by
      simp [fresh, Session.ofCarryOver, Session.slots_eq, callsOf, removedBy, createdBy])
  · by_cases clean : turn.request = .clean
    · exact (went.cleared_of_clean clean).ledger clean run.orderly ledger
    · exact (went.balanced clean).ledger clean ledger

end Ledger

end Build

end BuildYard
