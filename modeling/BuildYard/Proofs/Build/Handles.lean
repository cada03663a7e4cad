import BuildYard.Proofs.Build.Atomicity

/-!
# The handles of a build

Every handle that a session stores and every handle that is passed to a removal
was either left by an earlier build or created in this one (`Run.origin`); and
whatever a request creates is stored when it is done (`Went.stored`). In a build
that begins with nothing, a property therefore holds of all handles stored and
removed exactly if it holds of all handles created (`Run.forall_handles_iff`).
-/

set_option autoImplicit false

namespace BuildYard

/-- The handles that a session stores. -/
def Session.handles (session : Session) : List Handle :=
  session.slots ++ session.agent.toList

/-- A call created what it launched, be that an agent or beside one. -/
theorem CallMade.created_eq (call : CallMade) :
    call.created = call.launchedAgent.or call.launched := by
  obtain ⟨question, answer⟩ := call
  cases question with
  | launchAgent image volume => cases answer <;> rfl
  | _ => rfl

theorem agents_or_launched_of_created {handle : Handle} {calls : List CallMade}
    (created : handle ∈ createdBy calls) :
    handle ∈ agentsBy calls ∨ handle ∈ launchedBy calls := by
  obtain ⟨call, made, creates⟩ := List.mem_filterMap.mp created
  rw [call.created_eq, Option.or_eq_some_iff] at creates
  rcases creates with agent | ⟨-, launched⟩
  · exact .inl (List.mem_filterMap.mpr ⟨call, made, agent⟩)
  · exact .inr (List.mem_filterMap.mpr ⟨call, made, launched⟩)

namespace Build

variable {declared : ContainerSet} {settings : Settings} {left : CarryOver} {workspace : String}
  {turns : List Turn} {build after : Build} {request : Request}
  {result : Except ProvisionError Unit} {calls : List CallMade} {handle : Handle}

/-- **A handle that is stored or removed was left or created.** -/
theorem Run.origin (run : Run (fresh declared settings left workspace) turns build)
    (known : handle ∈ build.session.handles ∨ handle ∈ removedBy (callsOf turns)) :
    handle ∈ left.agent.toList ∨ handle ∈ createdBy (callsOf turns) := by
  have accounted := run.ledger.accounted handle
  simp only [Session.handles, ← List.count_pos_iff, List.count_append] at known ⊢
  omega

theorem CallMade.created_of_clears {call : CallMade} (clears : Clears call.question) :
    call.created = none := by
  obtain ⟨question, answer⟩ := call
  cases question with
  | removeContainer handle => rfl
  | removeVolume name => rfl
  | close => rfl
  | _ => exact clears.elim

theorem Cleared.createdBy_eq (cleared : Cleared build result calls after) : createdBy calls = [] :=
  List.filterMap_eq_nil_iff.mpr fun call member =>
    CallMade.created_of_clears (cleared.clears call member)

/-- **What a request creates is stored when it is done.** -/
theorem Went.stored (went : Went build request result calls after)
    (created : handle ∈ createdBy calls) : handle ∈ after.session.handles := by
  rw [Session.handles, List.mem_append]
  rcases went.cases_agent with ⟨-, prepared⟩ | ⟨-, other, beside⟩ | ⟨-, cleared⟩
  · right
    rw [prepared.createdBy_eq] at created
    rcases prepared.agent with ⟨-, none⟩ | ⟨agent, stored, launched, -⟩
    · rw [none] at created
      cases created
    · rw [launched] at created
      rw [stored]
      exact created
  -- beside the agent only what is launched is created, and each launch takes a slot
  · left
    have slots := (went.balanced other).slots handle
    have launched := agents_or_launched_of_created created
    rw [beside.launched] at launched
    have launched := List.count_pos_iff.mpr (launched.resolve_left List.not_mem_nil)
    exact List.count_pos_iff.mp (by omega)
  · rw [cleared.createdBy_eq] at created
    cases created

/-- **A property holds of all handles that a build stores and removes exactly if it holds of all
that are created in it**, when the build began with nothing. -/
theorem Run.forall_handles_iff (run : Run (fresh declared settings left workspace) turns build)
    (nothing : left.agent = none) {holds : Handle → Prop} :
    ((∀ turn ∈ turns, ∀ handle ∈ turn.after.session.handles, holds handle) ∧
        ∀ handle ∈ removedBy (callsOf turns), holds handle) ↔
      ∀ handle ∈ createdBy (callsOf turns), holds handle := by
  constructor
  · rintro ⟨stored, -⟩ handle created
    obtain ⟨call, made, creates⟩ := List.mem_filterMap.mp created
    obtain ⟨turn, member, called⟩ := List.mem_flatMap.mp made
    obtain ⟨earlier, later, rfl⟩ := List.append_of_mem member
    obtain ⟨before, happens⟩ := run.split
    have went := happens.went before.orderly
    exact stored turn member handle (went.stored (List.mem_filterMap.mpr ⟨call, called, creates⟩))
  · intro created
    have known {turns : List Turn} {build : Build}
        (run : Run (fresh declared settings left workspace) turns build) {handle : Handle}
        (known : handle ∈ build.session.handles ∨ handle ∈ removedBy (callsOf turns)) :
        handle ∈ createdBy (callsOf turns) := by
      refine (run.origin known).resolve_left ?_
      rw [nothing]
      exact List.not_mem_nil
    refine ⟨fun turn member handle stored => ?_, fun handle removed =>
      created handle (known run (.inr removed))⟩
    obtain ⟨earlier, later, rfl⟩ := List.append_of_mem member
    obtain ⟨before, happens⟩ := run.split
    have origin := known (before.turn happens) (.inl stored)
    refine created handle ?_
    rw [List.append_cons, callsOf_append, createdBy_append]
    exact List.mem_append_left _ origin

end Build

end BuildYard
