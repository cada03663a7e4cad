import BuildYard.Proofs.Build.Runs

/-!
# What becomes of the agent

Only a preparation looks for the agent and launches one, and only clearing away
forgets it. What other requests do beside the agent of the session leaves it as
it is (`Beside`), and where they use an agent it is that one. A preparation
either keeps the agent or launches one in the place of none or of one that the
engine does not have (`Prepared.agent`).
-/

set_option autoImplicit false

namespace BuildYard

/-! ## What calls have to do with agents -/

namespace CallMade

/-- The agent that a call launched, if it did. -/
def launchedAgent : CallMade → Option Handle
  | ⟨.launchAgent _ _, .ok agent⟩ => some agent
  | _ => none

/-- The agent that a call uses: it attaches to it, or launches a container beside it. -/
def usedAgent : CallMade → Option Handle
  | ⟨.attachAgent agent _, _⟩ => some agent
  | ⟨.launchWork _ agent _, _⟩ => some agent
  | ⟨.launchSidecar _ agent _, _⟩ => some agent
  | _ => none

/-- What a call was answered to whether there is a container with the id `id`, if it asked. -/
def check (id : String) : CallMade → Option (Except EngineError Bool)
  | ⟨.hasContainer other, answer⟩ => if other = id then some answer else none
  | _ => none

end CallMade

/-- The agents that calls launched, in order. -/
def agentsBy (calls : List CallMade) : List Handle :=
  calls.filterMap CallMade.launchedAgent

/-- The answers to whether there is a container with the id `id`, in order. -/
def checksOf (id : String) (calls : List CallMade) : List (Except EngineError Bool) :=
  calls.filterMap (CallMade.check id)

theorem agentsBy_append (calls more : List CallMade) :
    agentsBy (calls ++ more) = agentsBy calls ++ agentsBy more :=
  List.filterMap_append

theorem checksOf_append (id : String) (calls more : List CallMade) :
    checksOf id (calls ++ more) = checksOf id calls ++ checksOf id more :=
  List.filterMap_append

namespace Build

/-! ## Beside the agent -/

section Beside

variable {aim : Aim} {build middle after : Build} {call : CallMade} {calls more : List CallMade}

/-- What happens beside the agent: it stays, none is launched or looked for, and where one is
used it is the agent of the session. -/
structure Beside (build : Build) (calls : List CallMade) (after : Build) : Prop where
  agent : after.session.agent = build.session.agent
  launched : agentsBy calls = []
  checks : ∀ id, checksOf id calls = []
  used : ∀ call ∈ calls, ∀ agent, call.usedAgent = some agent →
    build.session.agent = some agent

theorem beside_nil (agent : after.session.agent = build.session.agent) : Beside build [] after :=
  ⟨agent, rfl, fun _ => rfl, List.forall_mem_nil _⟩

theorem beside_single (agent : after.session.agent = build.session.agent)
    (launched : call.launchedAgent = none) (check : ∀ id, call.check id = none)
    (used : ∀ agent, call.usedAgent = some agent → build.session.agent = some agent) :
    Beside build [call] after where
  agent := agent
  launched := List.filterMap_cons_none launched
  checks id := List.filterMap_cons_none (check id)
  used := List.forall_mem_singleton.mpr used

/-- A call that has nothing to do with agents. -/
theorem beside_unused (agent : after.session.agent = build.session.agent)
    (launched : call.launchedAgent = none) (unused : call.usedAgent = none)
    (check : ∀ id, call.check id = none) : Beside build [call] after := by
  refine beside_single agent launched check fun agent used => ?_
  rw [unused] at used
  cases used

theorem Beside.trans (first : Beside build calls middle) (second : Beside middle more after) :
    Beside build (calls ++ more) after where
  agent := second.agent.trans first.agent
  launched := by rw [agentsBy_append, first.launched, second.launched, List.append_nil]
  checks id := by rw [checksOf_append, first.checks, second.checks, List.append_nil]
  used call member agent used := by
    rcases List.mem_append.mp member with here | later
    · exact first.used call here agent used
    · exact first.agent ▸ second.used call later agent used

theorem noting_agent {answer : Except EngineError Handle} {change : Session → Handle → Session}
    (keeps : ∀ session handle, (change session handle).agent = session.agent) :
    (build.noting answer change).session.agent = build.session.agent := by
  cases answer with
  | error cause => rfl
  | ok handle => exact keeps _ _

/-- **Whatever is not for the preparation of the agent happens beside it.** -/
theorem Move.beside (move : Move build aim call after) (other : aim ≠ .preparation) :
    Beside build [call] after := by
  cases move with
  | attachAgent recorded input answer =>
    refine beside_single rfl rfl (fun _ => rfl) ?_
    rintro _ ⟨⟩
    exact recorded
  | askImage unresolved asks answer =>
    cases asks <;> exact beside_unused rfl rfl rfl fun _ => rfl
  | launchCheckout phase vacant recorded resolved answer =>
    refine beside_single (noting_agent fun _ _ => rfl) rfl (fun _ => rfl) ?_
    rintro _ ⟨⟩
    exact recorded
  | launchWork phase complete vacant recorded resolved answer =>
    refine beside_single (noting_agent fun _ _ => rfl) rfl (fun _ => rfl) ?_
    rintro _ ⟨⟩
    exact recorded
  | launchSidecar phase next recorded resolved answer =>
    refine beside_single (noting_agent fun _ _ => rfl) rfl (fun _ => rfl) ?_
    rintro _ ⟨⟩
    exact recorded
  | exec current complete starter answer =>
    exact beside_unused rfl rfl rfl fun _ => rfl
  | _ => exact absurd rfl other

theorem Moves.beside (moves : Moves aim build calls after) (other : aim ≠ .preparation) :
    Beside build calls after := by
  induction moves with
  | refl => exact beside_nil rfl
  | call move _ ih => exact (move.beside other).trans ih
  | settle settles _ ih =>
    exact (beside_nil (congrArg Session.agent settles.session)).trans ih

end Beside

/-! ## Preparations -/

section Prepared

variable {build after : Build} {calls : List CallMade}

theorem AgentMissing.agentsBy_eq (missing : AgentMissing build.session calls) :
    agentsBy calls = [] := by
  cases missing <;> rfl

theorem VolumeSought.agentsBy_eq {result : Except ProvisionError (String × Bool)}
    (sought : VolumeSought build.session result calls) : agentsBy calls = [] := by
  cases sought with
  | kept => rfl
  | uncertain => rfl
  | created missing => cases missing <;> rfl
  | notCreated missing => cases missing <;> rfl

theorem VolumeSought.checksOf_eq {result : Except ProvisionError (String × Bool)}
    (sought : VolumeSought build.session result calls) (id : String) : checksOf id calls = [] := by
  cases sought with
  | kept => rfl
  | uncertain => rfl
  | created missing => cases missing <;> rfl
  | notCreated missing => cases missing <;> rfl

theorem GivenUp.checksOf_eq {volume : String} {created : Bool}
    (givenUp : GivenUp volume created calls) (id : String) : checksOf id calls = [] := by
  cases givenUp <;> rfl

theorem Moves.preparation_unused (moves : Moves .preparation build calls after) :
    ∀ call ∈ calls, call.usedAgent = none := by
  induction moves with
  | refl => exact List.forall_mem_nil _
  | call move _ ih =>
    refine List.forall_mem_cons.mpr ⟨?_, ih⟩
    cases move <;> rfl
  | settle _ _ ih => exact ih

/-- **A preparation keeps the agent, or it launches one in the place of none or of one that the
engine does not have.** -/
theorem Prepared.agent {result : Except ProvisionError Unit}
    (prepared : Prepared build result calls after) :
    after.session.agent = build.session.agent ∧ agentsBy calls = [] ∨
      ∃ other, after.session.agent = some other ∧ agentsBy calls = [other] ∧
        ∀ agent, build.session.agent = some agent →
          ⟨.hasContainer agent.id, .ok false⟩ ∈ calls := by
  cases prepared with
  | kept => exact .inl ⟨rfl, rfl⟩
  | uncertain => exact .inl ⟨rfl, rfl⟩
  | noVolume missing sought =>
    refine .inl ⟨rfl, ?_⟩
    rw [agentsBy_append, missing.agentsBy_eq, sought.agentsBy_eq, List.append_nil]
  | launched missing sought other =>
    refine .inr ⟨other, rfl, ?_, fun agent recorded => ?_⟩
    · rw [agentsBy_append, agentsBy_append, missing.agentsBy_eq, sought.agentsBy_eq]
      rfl
    · cases missing with
      | unrecorded none => cases none.symm.trans recorded
      | gone same =>
        obtain rfl := Option.some.inj (same.symm.trans recorded)
        exact List.mem_cons_self
  | notLaunched missing sought cause givenUp =>
    refine .inl ⟨rfl, ?_⟩
    rw [agentsBy_append, agentsBy_append, missing.agentsBy_eq, sought.agentsBy_eq]
    cases givenUp <;> rfl

/-- **A preparation that launches no agent looks once for the one there is, and succeeds exactly
if it is there.** -/
theorem Prepared.checked {result : Except ProvisionError Unit}
    (prepared : Prepared build result calls after) {agent : Handle}
    (recorded : build.session.agent = some agent) (none : agentsBy calls = []) :
    ∃ answer, checksOf agent.id calls = [answer] ∧ (answer = .ok true ↔ result = .ok ()) := by
  have once (answer : Except EngineError Bool) :
      checksOf agent.id [⟨.hasContainer agent.id, answer⟩] = [answer] :=
    List.filterMap_cons_some (if_pos rfl)
  -- in each case the recorded agent is asked for first, and nothing else asks for it again
  cases prepared with
  | kept same =>
    obtain rfl := Option.some.inj (same.symm.trans recorded)
    exact ⟨.ok true, once _, iff_of_true rfl rfl⟩
  | uncertain same cause =>
    obtain rfl := Option.some.inj (same.symm.trans recorded)
    exact ⟨.error cause, once _, by simp⟩
  | noVolume missing sought =>
    cases missing with
    | unrecorded absent => cases absent.symm.trans recorded
    | gone same =>
      obtain rfl := Option.some.inj (same.symm.trans recorded)
      refine ⟨.ok false, ?_, by simp⟩
      rw [checksOf_append, once, sought.checksOf_eq, List.append_nil]
  | launched missing sought other =>
    rw [agentsBy_append, agentsBy_append] at none
    simp [agentsBy, CallMade.launchedAgent] at none
  | notLaunched missing sought cause givenUp =>
    cases missing with
    | unrecorded absent => cases absent.symm.trans recorded
    | gone same =>
      obtain rfl := Option.some.inj (same.symm.trans recorded)
      refine ⟨.ok false, ?_, by simp⟩
      rw [checksOf_append, once, checksOf_append, sought.checksOf_eq]
      exact congrArg (Except.ok false :: ·) (givenUp.checksOf_eq _)

end Prepared

/-! ## Clearings -/

/-- A call that gives something up has nothing to do with agents. -/
theorem CallMade.idle_of_clears {call : CallMade} (clears : Clears call.question) :
    call.launchedAgent = none ∧ call.usedAgent = none ∧ ∀ id, call.check id = none := by
  obtain ⟨question, answer⟩ := call
  cases question with
  | removeContainer handle => exact ⟨rfl, rfl, fun _ => rfl⟩
  | removeVolume name => exact ⟨rfl, rfl, fun _ => rfl⟩
  | close => exact ⟨rfl, rfl, fun _ => rfl⟩
  | _ => exact clears.elim

section Cleared

variable {build after : Build} {result : Except ProvisionError Unit} {calls : List CallMade}

theorem Cleared.agentsBy_eq (cleared : Cleared build result calls after) : agentsBy calls = [] :=
  List.filterMap_eq_nil_iff.mpr fun call member =>
    (CallMade.idle_of_clears (cleared.clears call member)).1

theorem Cleared.checksOf_eq (cleared : Cleared build result calls after) (id : String) :
    checksOf id calls = [] :=
  List.filterMap_eq_nil_iff.mpr fun call member =>
    (CallMade.idle_of_clears (cleared.clears call member)).2.2 id

theorem Cleared.unused (cleared : Cleared build result calls after) :
    ∀ call ∈ calls, call.usedAgent = none := fun call member =>
  (CallMade.idle_of_clears (cleared.clears call member)).2.1

/-- The agent that is there after a clearing was there before. -/
theorem agent_of_cleaned {agent : Handle} (kept : build.cleaned.session.agent = some agent) :
    build.session.agent = some agent := by
  change (if build.discardsAgent then none else build.session.agent) = some agent at kept
  cases discards : build.discardsAgent with
  | true => simp [discards] at kept
  | false => simpa [discards] using kept

end Cleared

/-! ## Requests -/

section Requests

variable {build after : Build} {request : Request} {result : Except ProvisionError Unit}
  {calls : List CallMade}

/-- **A request prepares the agent, or happens beside it, or clears the build away.** -/
theorem Went.cases_agent (went : Went build request result calls after) :
    request = .prepareAgent ∧ Prepared build result calls after ∨
      (request ≠ .prepareAgent ∧ request ≠ .clean ∧ Beside build calls after) ∨
      request = .clean ∧ Cleared build result calls after := by
  cases went with
  | prepared prepared => exact .inl ⟨rfl, prepared⟩
  | attached attached =>
    exact .inr (.inl ⟨by simp, by simp, attached.moves.beside (by simp)⟩)
  | held attached =>
    exact .inr (.inl ⟨by simp, by simp, attached.moves.beside (by simp)⟩)
  | ran moves => exact .inr (.inl ⟨by simp, by simp, moves.beside (by simp)⟩)
  | advanced => exact .inr (.inl ⟨by simp, by simp, beside_nil rfl⟩)
  | cleared cleared => exact .inr (.inr ⟨rfl, cleared⟩)

end Requests

end Build

end BuildYard
