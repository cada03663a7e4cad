import BuildYard.Proofs.Build.Agents
import BuildYard.Proofs.Build.Ledger
import BuildYard.Proofs.Build.Plays

/-!
# Containers and the agent that they share

A container is launched beside an agent, whose namespaces it shares from then
on. The agent of a session may be replaced, though: a preparation that does not
find it launches another one, whether or not containers are bound to it. So the
containers in slots share the namespaces of the agent exactly as long as no
preparation replaces an agent to which containers are bound
(`shared_iff_not_replaced`), and it does happen that one is
(`agent_replaced_while_bound`).
-/

set_option autoImplicit false

namespace BuildYard

/-! ## Bonds -/

/-- A container and the agent beside which it was launched. -/
structure Bond where
  container : Handle
  agent : Handle
  deriving DecidableEq

namespace CallMade

/-- The bond that a call made, if it launched a container beside an agent. -/
def bond : CallMade → Option Bond
  | ⟨.launchWork _ agent _, .ok container⟩ => some { container, agent }
  | ⟨.launchSidecar _ agent _, .ok container⟩ => some { container, agent }
  | _ => none

/-- Every container launched beside the agent has a bond. -/
theorem bond_container (call : CallMade) : call.bond.map (·.container) = call.launched := by
  obtain ⟨question, answer⟩ := call
  cases question with
  | launchWork image agent hints => cases answer <;> rfl
  | launchSidecar image agent hints => cases answer <;> rfl
  | _ => rfl

/-- A bond is with the agent that the call used. -/
theorem usedAgent_of_bond {call : CallMade} {bond : Bond} (made : call.bond = some bond) :
    call.usedAgent = some bond.agent := by
  obtain ⟨question, answer⟩ := call
  cases question with
  | launchWork image agent hints =>
    cases answer with
    | error cause => cases made
    | ok container =>
      obtain rfl := Option.some.inj made
      rfl
  | launchSidecar image agent hints =>
    cases answer with
    | error cause => cases made
    | ok container =>
      obtain rfl := Option.some.inj made
      rfl
  | _ => cases made

end CallMade

/-- The bonds that calls made, in order. -/
def bondsOf (calls : List CallMade) : List Bond :=
  calls.filterMap CallMade.bond

theorem bondsOf_append (calls more : List CallMade) :
    bondsOf (calls ++ more) = bondsOf calls ++ bondsOf more :=
  List.filterMap_append

theorem bondsOf_containers (calls : List CallMade) :
    (bondsOf calls).map (·.container) = launchedBy calls := by
  rw [bondsOf, launchedBy, List.map_filterMap]
  exact congrArg (calls.filterMap ·) (funext CallMade.bond_container)

namespace Build

/-! ## What is to be shared -/

/-- The containers that a build launched since it was last cleared away, with their agents. -/
def bonds (turns : List Turn) : List Bond :=
  bondsOf (callsOf (sinceClean turns))

/-- **Every container in a slot was launched beside the agent of the session**, and beside no
other. -/
def Shared (turns : List Turn) (build : Build) : Prop :=
  ∀ slot container, build.session.held slot = some container →
    ∃ agent, build.session.agent = some agent ∧ { container, agent } ∈ bonds turns ∧
      ∀ bond ∈ bonds turns, bond.container = container → bond.agent = agent

/-- A turn replaces an agent to which containers are bound: it prepares the agent, the engine
does not have it any more, and another one is launched. -/
def Replaces (earlier : List Turn) (turn : Turn) : Prop :=
  turn.request = .prepareAgent ∧
    ∃ bond ∈ bonds earlier, ∃ other ∈ agentsBy turn.calls, other ≠ bond.agent ∧
      ⟨.hasContainer bond.agent.id, .ok false⟩ ∈ turn.calls

/-! ## What turns do to bonds -/

section Turns

variable {build after : Build} {calls : List CallMade}

/-- **Beside the agent, bonds are made with the agent only.** -/
theorem Beside.bonds (beside : Beside build calls after) :
    ∀ bond ∈ bondsOf calls, build.session.agent = some bond.agent := by
  intro bond member
  obtain ⟨call, made, same⟩ := List.mem_filterMap.mp member
  exact beside.used call made bond.agent (CallMade.usedAgent_of_bond same)

theorem Prepared.bonds {result : Except ProvisionError Unit}
    (prepared : Prepared build result calls after) : bondsOf calls = [] := by
  refine List.filterMap_eq_nil_iff.mpr fun call made => ?_
  cases same : call.bond with
  | none => rfl
  | some bond =>
    have unused := prepared.moves.preparation_unused call made
    rw [CallMade.usedAgent_of_bond same] at unused
    cases unused

end Turns

section Runs

variable {declared : ContainerSet} {settings : Settings} {left : CarryOver} {workspace : String}
  {turns : List Turn} {build : Build}

theorem bonds_concat {turn : Turn} (other : turn.request ≠ .clean) :
    bonds (turns ++ [turn]) = bonds turns ++ bondsOf turn.calls := by
  rw [bonds, sinceClean_concat other, callsOf_concat, bondsOf_append, bonds]

theorem bonds_clean {turn : Turn} (clean : turn.request = .clean) :
    bonds (turns ++ [turn]) = [] := by
  rw [bonds, sinceClean_clean clean]
  rfl

/-- The containers in slots are those that have bonds. -/
theorem Run.held_iff_bond (run : Run (fresh declared settings left workspace) turns build)
    {container : Handle} :
    (∃ slot, build.session.held slot = some container) ↔
      ∃ bond ∈ bonds turns, bond.container = container := by
  have slots := run.ledger.held
  rw [← bondsOf_containers] at slots
  rw [← List.mem_map, bonds, slots.mem_iff, Session.slots, List.mem_map]
  constructor
  · rintro ⟨slot, held⟩
    exact ⟨_, (Session.held_eq_some_iff run.orderly.once).mp held, rfl⟩
  · rintro ⟨⟨slot, _⟩, entry, rfl⟩
    exact ⟨slot, (Session.held_eq_some_iff run.orderly.once).mpr entry⟩

/-- **Without an agent there are no bonds.** -/
theorem Run.bonds_of_none (run : Run (fresh declared settings left workspace) turns build)
    (none : build.session.agent = none) : bonds turns = [] := by
  refine run.induction (fun turns build => build.session.agent = .none → bonds turns = [])
    (fun _ => rfl) ?_ none
  intro turns turn run went ih none
  rcases went.cases_agent with ⟨prepare, prepared⟩ | ⟨-, other, beside⟩ | ⟨clean, -⟩
  · rw [bonds_concat (by simp [prepare]), prepared.bonds, List.append_nil]
    rcases prepared.agent with ⟨same, -⟩ | ⟨agent, launched, -⟩
    · exact ih (same.symm.trans none)
    · cases launched.symm.trans none
  · have absent := beside.agent.symm.trans none
    rw [bonds_concat other, ih absent, List.nil_append, List.eq_nil_iff_forall_not_mem]
    intro bond member
    cases absent.symm.trans (beside.bonds bond member)
  · exact bonds_clean clean

/-- **Without an agent all slots are empty.** -/
theorem Run.held_of_none (run : Run (fresh declared settings left workspace) turns build)
    (none : build.session.agent = none) (slot : Slot) : build.session.held slot = .none := by
  refine Option.eq_none_iff_forall_ne_some.mpr fun container held => ?_
  obtain ⟨bond, member, -⟩ := run.held_iff_bond.mp ⟨slot, held⟩
  rw [run.bonds_of_none none] at member
  cases member

/-- All bonds are with the agent of the session. -/
def BoundToAgent (turns : List Turn) (build : Build) : Prop :=
  ∀ bond ∈ bonds turns, build.session.agent = some bond.agent

theorem Run.shared_iff (run : Run (fresh declared settings left workspace) turns build) :
    Shared turns build ↔ BoundToAgent turns build := by
  constructor
  · intro shared bond member
    obtain ⟨slot, held⟩ := run.held_iff_bond.mpr ⟨bond, member, rfl⟩
    obtain ⟨agent, recorded, -, only⟩ := shared slot _ held
    rw [only bond member rfl, recorded]
  · intro bound slot container held
    obtain ⟨bond, member, rfl⟩ := run.held_iff_bond.mp ⟨slot, held⟩
    refine ⟨bond.agent, bound bond member, member, fun other another _ => ?_⟩
    exact Option.some.inj ((bound other another).symm.trans (bound bond member))

/-- **A request keeps all bonds with the agent unless it replaces the agent.** -/
theorem Went.bound {build after : Build} {request : Request} {result : Except ProvisionError Unit}
    {calls : List CallMade} (went : Went build request result calls after)
    (other : request ≠ .clean) {old : List Bond}
    (bound : ∀ bond ∈ old, build.session.agent = some bond.agent)
    (kept : request = .prepareAgent → ∀ bond ∈ old, ∀ agent ∈ agentsBy calls,
      ⟨.hasContainer bond.agent.id, .ok false⟩ ∈ calls → agent = bond.agent) :
    ∀ bond ∈ old ++ bondsOf calls, after.session.agent = some bond.agent := by
  intro bond member
  rcases went.cases_agent with ⟨prepare, prepared⟩ | ⟨-, -, beside⟩ | ⟨clean, -⟩
  · rw [prepared.bonds, List.append_nil] at member
    rcases prepared.agent with ⟨same, -⟩ | ⟨agent, launched, agents, gone⟩
    · rw [same]
      exact bound bond member
    · have again := kept prepare bond member agent (agents ▸ List.mem_singleton_self agent)
        (gone _ (bound bond member))
      rw [launched, again]
  · rw [beside.agent]
    rcases List.mem_append.mp member with before | now
    · exact bound bond before
    · exact beside.bonds bond now
  · exact absurd clean other

theorem Run.boundToAgent (run : Run (fresh declared settings left workspace) turns build)
    (kept : ∀ earlier turn later, turns = earlier ++ turn :: later → ¬ Replaces earlier turn) :
    BoundToAgent turns build := by
  -- the condition is about all turns so far and has to shrink with them
  refine run.induction (fun turns build => (∀ earlier turn later,
    turns = earlier ++ turn :: later → ¬ Replaces earlier turn) → BoundToAgent turns build)
      ?_ ?_ kept
  · intro _ bond member
    cases member
  · intro turns turn run went ih kept
    by_cases clean : turn.request = .clean
    · intro bond member
      rw [bonds_clean clean] at member
      cases member
    · have bound := ih fun earlier other later equal => kept earlier other (later ++ [turn])
        (by rw [equal, List.append_assoc, List.cons_append])
      rw [BoundToAgent, bonds_concat clean]
      refine went.bound clean bound fun prepare bond member agent launched gone => ?_
      by_contra differ
      exact kept turns turn [] rfl ⟨prepare, bond, member, agent, launched, differ, gone⟩

/-- A turn that replaces the agent leaves a container bound to the one before. -/
theorem Replaces.not_bound {turn : Turn} (replaces : Replaces turns turn)
    (went : Went turn.before turn.request turn.result turn.calls turn.after) :
    ¬ BoundToAgent (turns ++ [turn]) turn.after := by
  obtain ⟨prepare, bond, member, other, launched, differ, -⟩ := replaces
  intro bound
  have prepared := went.prepared_of_prepare prepare
  have still : bond ∈ bonds (turns ++ [turn]) := by
    rw [bonds_concat (by simp [prepare])]
    exact List.mem_append_left _ member
  rcases prepared.agent with ⟨-, none⟩ | ⟨agent, recorded, only, -⟩
  · rw [none] at launched
    cases launched
  · rw [only, List.mem_singleton] at launched
    have same := bound bond still
    rw [recorded, ← launched] at same
    exact differ (Option.some.inj same)

/-- **The containers in slots share the namespaces of the agent exactly as long as no
preparation replaces an agent to which containers are bound.** -/
theorem shared_iff_not_replaced
    (run : Run (fresh declared settings left workspace) turns build) :
    (∀ earlier turn later, turns = earlier ++ turn :: later →
        Shared (earlier ++ [turn]) turn.after) ↔
      ∀ earlier turn later, turns = earlier ++ turn :: later → ¬ Replaces earlier turn := by
  constructor
  · rintro shared earlier turn later rfl replaces
    obtain ⟨before, happens⟩ := run.split
    have here := before.turn happens
    have bound := here.shared_iff.mp (shared earlier turn later rfl)
    exact replaces.not_bound (happens.went before.orderly) bound
  · rintro kept earlier turn later rfl
    obtain ⟨before, happens⟩ := run.split
    have here := before.turn happens
    refine here.shared_iff.mpr (here.boundToAgent fun first other rest equal => ?_)
    refine kept first other (rest ++ later) ?_
    rw [← List.singleton_append, ← List.append_assoc, equal, List.append_assoc, List.cons_append]

/-- In a build that keeps its agent all containers share it, and there is one that does. -/
theorem shared_iff_not_replaced_retried :
    (played retried).2.session.work.isSome = true ∧
    ((∀ earlier turn later, (played retried).1 = earlier ++ turn :: later →
        Shared (earlier ++ [turn]) turn.after) ↔
      ∀ earlier turn later, (played retried).1 = earlier ++ turn :: later →
        ¬ Replaces earlier turn) :=
  ⟨by decide +kernel, shared_iff_not_replaced (run_played retried)⟩

end Runs

/-! ## A build that loses its agent -/

/-- While the checkout container runs, the engine loses the agent, and the agent is prepared
again. -/
def agentLost : List ((InMemory → InMemory) × Request) :=
  [(id, .prepareAgent), (id, .runProcess {}),
    (fun engine =>
      (engine.perform (.removeContainer { image := "jenkinsci/slave", id := "agent0002" })).2,
      .prepareAgent)]

/-- **An agent is replaced while a container is bound to it.** -/
theorem agent_replaced_while_bound :
    Run (fresh oneSidecar {} {} ".") (played agentLost).1 (played agentLost).2 ∧
      ¬ Shared (played agentLost).1 (played agentLost).2 := by
  refine ⟨run_played agentLost, fun shared => ?_⟩
  have held : ((played agentLost).2.session.held .checkout).map (·.id) = some "work0003" := by
    decide +kernel
  have bonds : (bonds (played agentLost).1).map (·.agent.id) = ["agent0002"] := by
    decide +kernel
  have agent : (played agentLost).2.session.agent.map (·.id) = some "agent0004" := by
    decide +kernel
  obtain ⟨container, here, -⟩ := Option.map_eq_some_iff.mp held
  obtain ⟨other, recorded, bond, -⟩ := shared .checkout container here
  have same : other.id = "agent0002" := by
    rw [← List.mem_singleton, ← bonds]
    exact List.mem_map_of_mem bond
  rw [recorded, Option.map_some, same] at agent
  exact absurd agent (by decide)

end Build

end BuildYard
