import BuildYard.Proofs.Build.Sharing

/-!
# An agent is validated before it is used

An agent that an earlier build left may be gone. It is validated when it is
found there, and so is one that this build launched itself. Whether the agent
was validated the session does not record: it is used as soon as it is known.
So the agents that a turn uses were validated exactly if this build launched
one before or its latest preparation succeeded (`validated_iff_checked`); a
build that never prepares its agent uses one that nobody looked for
(`left_agent_used_unvalidated`). Without any agent whatever needs one fails,
and asks the engine for nothing.
-/

set_option autoImplicit false

namespace BuildYard.Build

/-! ## What is to be validated -/

/-- By the calls `past` an agent was validated: it was launched, or when it was last looked for
it was there. -/
def Validated (past : List CallMade) (agent : Handle) : Prop :=
  agent.id ∈ (agentsBy past).map (·.id) ∨
    (checksOf agent.id past).getLast? = some (.ok true)

/-- **Whatever agent a turn uses was validated before**, earlier in the build. -/
def UsesValidated (earlier : List Turn) (turn : Turn) : Prop :=
  ∀ front call back agent, turn.calls = front ++ call :: back → call.usedAgent = some agent →
    Validated (callsOf earlier ++ front) agent

/-- A turn uses an agent. -/
def UsesAgent (turn : Turn) : Prop :=
  ∃ call ∈ turn.calls, call.usedAgent ≠ none

/-- How a turn that prepared the agent came out. -/
def Turn.preparation (turn : Turn) : Option (Except ProvisionError Unit) :=
  match turn.request with
  | .prepareAgent => some turn.result
  | _ => none

/-- How the preparations came out, in order. -/
def preparations (turns : List Turn) : List (Except ProvisionError Unit) :=
  turns.filterMap Turn.preparation

/-- This build launched an agent, or its latest preparation succeeded. -/
def Checked (turns : List Turn) : Prop :=
  agentsBy (callsOf turns) ≠ [] ∨ (preparations turns).getLast? = some (.ok ())

/-- A request that cannot do without an agent, when there are no containers yet. -/
def Request.needsAgent : Request → Bool
  | .attachAgent _ | .launchAgent _ | .runProcess _ => true
  | _ => false

section Preparations

variable {turns : List Turn} {turn : Turn}

theorem preparations_concat_prepare (prepare : turn.request = .prepareAgent) :
    preparations (turns ++ [turn]) = preparations turns ++ [turn.result] := by
  simp [preparations, Turn.preparation, prepare]

theorem preparations_concat_other (other : turn.request ≠ .prepareAgent) :
    preparations (turns ++ [turn]) = preparations turns := by
  have none : turn.preparation = .none := by
    rw [Turn.preparation]
    cases request : turn.request with
    | prepareAgent => exact absurd request other
    | _ => rfl
  rw [preparations, List.filterMap_append, List.filterMap_cons_none none]
  exact List.append_nil _

end Preparations

/-! ## What is known of the agent -/

/-- The agent of the session was launched by this build; or no agent was, and the latest answer
about it is yes exactly if the latest preparation succeeded. -/
def Tracked (turns : List Turn) (build : Build) : Prop :=
  ∀ agent, build.session.agent = some agent →
    agent ∈ agentsBy (callsOf turns) ∨
      agentsBy (callsOf turns) = [] ∧
        ((checksOf agent.id (callsOf turns)).getLast? = some (.ok true) ↔
          (preparations turns).getLast? = some (.ok ()))

section Tracked

variable {turns : List Turn} {turn : Turn}

/-- What has nothing to do with agents changes nothing that is known of them. -/
theorem Tracked.idle (tracked : Tracked turns turn.before)
    (agent : ∀ agent, turn.after.session.agent = some agent →
      turn.before.session.agent = some agent)
    (launched : agentsBy turn.calls = []) (checks : ∀ id, checksOf id turn.calls = [])
    (other : turn.request ≠ .prepareAgent) : Tracked (turns ++ [turn]) turn.after := by
  intro handle recorded
  rw [callsOf_concat, agentsBy_append, launched, List.append_nil, checksOf_append, checks,
    List.append_nil, preparations_concat_other other]
  exact tracked handle (agent handle recorded)

theorem Tracked.prepared (tracked : Tracked turns turn.before)
    (prepared : Prepared turn.before turn.result turn.calls turn.after)
    (prepare : turn.request = .prepareAgent) : Tracked (turns ++ [turn]) turn.after := by
  intro agent recorded
  rw [callsOf_concat, agentsBy_append, checksOf_append, preparations_concat_prepare prepare]
  rcases prepared.agent with ⟨same, none⟩ | ⟨other, launched, agents, -⟩
  · have before := same.symm.trans recorded
    obtain ⟨answer, checked, succeeds⟩ := prepared.checked before none
    rw [none, List.append_nil]
    refine (tracked agent before).imp_right fun unlaunched => ⟨unlaunched.1, ?_⟩
    rw [checked, List.getLast?_concat, List.getLast?_concat, Option.some.injEq,
      Option.some.injEq]
    exact succeeds
  · obtain rfl := Option.some.inj (launched.symm.trans recorded)
    rw [agents]
    exact .inl (List.mem_append_right _ (List.mem_singleton_self other))

end Tracked

section Runs

variable {declared : ContainerSet} {settings : Settings} {left : CarryOver} {workspace : String}
  {turns : List Turn} {build : Build}

theorem Run.tracked (run : Run (fresh declared settings left workspace) turns build) :
    Tracked turns build := by
  refine run.induction Tracked ?_ fun turns turn run went tracked => ?_
  · exact fun agent _ => .inr ⟨rfl, by simp [callsOf, checksOf, preparations]⟩
  · rcases went.cases_agent with ⟨prepare, prepared⟩ | ⟨other, -, beside⟩ | ⟨clean, cleared⟩
    · exact tracked.prepared prepared prepare
    · exact tracked.idle (fun _ => beside.agent.symm.trans) beside.launched beside.checks other
    · refine tracked.idle (fun agent kept => ?_) cleared.agentsBy_eq cleared.checksOf_eq
        (by simp [clean])
      rw [cleared.after_eq] at kept
      exact agent_of_cleaned kept

/-- **The agent of the session was validated exactly if the build checked it.** -/
theorem Run.validated_iff (run : Run (fresh declared settings left workspace) turns build)
    {agent : Handle} (recorded : build.session.agent = some agent) :
    Validated (callsOf turns) agent ↔ Checked turns := by
  rcases run.tracked agent recorded with launched | ⟨none, checked⟩
  · refine iff_of_true (.inl (List.mem_map_of_mem launched)) (.inl ?_)
    exact List.ne_nil_of_mem launched
  · rw [Validated, Checked, none, checked]
    simp

end Runs

/-! ## Turns that use an agent -/

section Uses

variable {build after : Build} {request : Request} {result : Except ProvisionError Unit}
  {calls : List CallMade}

/-- **Where a request uses an agent it is that of the session**, and the request neither looks
for agents nor launches one. -/
theorem Went.used (went : Went build request result calls after) {call : CallMade}
    {agent : Handle} (member : call ∈ calls) (used : call.usedAgent = some agent) :
    build.session.agent = some agent ∧ Beside build calls after := by
  rcases went.cases_agent with ⟨-, prepared⟩ | ⟨-, -, beside⟩ | ⟨-, cleared⟩
  · cases (prepared.moves.preparation_unused call member).symm.trans used
  · exact ⟨beside.used call member agent used, beside⟩
  · cases (cleared.unused call member).symm.trans used

/-- What happens beside the agent validates none. -/
theorem Beside.validated_iff (beside : Beside build calls after) {past front back : List CallMade}
    {agent : Handle} (split : calls = front ++ back) :
    Validated (past ++ front) agent ↔ Validated past agent := by
  have launched := beside.launched
  have checks := beside.checks agent.id
  rw [split, agentsBy_append, List.append_eq_nil_iff] at launched
  rw [split, checksOf_append, List.append_eq_nil_iff] at checks
  rw [Validated, agentsBy_append, checksOf_append, launched.1, checks.1, List.append_nil,
    List.append_nil, Validated]

end Uses

/-! ## Without an agent -/

section NotPrepared

/-- Without an agent, and so without containers, no process runs. -/
theorem runProcess_notPrepared {build : Build} (absent : build.session.agent = none)
    (checkout : build.session.checkout = none) (work : build.session.work = none)
    (starter : Starter) :
    Ensures (runProcess starter) build fun result calls _ =>
      result = .error .agentNotPrepared ∧ calls = [] := by
  rw [runProcess, ensures_within]
  have place : Ensures (placeFor starter) build fun result calls _ =>
      result = .error .agentNotPrepared ∧ calls = [] := by
    simp only [placeFor, ensures_current_bind]
    cases build.session.phase with
    | preCheckout =>
      simp only [ensureCheckout, bind_assoc, ensures_current_bind, checkout]
      exact (ensures_agent_bind_none absent).mpr ⟨rfl, rfl⟩
    | build =>
      simp only [ensureSidecars, bind_assoc, ensures_current_bind]
      by_cases idle : (build.sidecarsLaunched || build.declared.sidecars.isEmpty) = true
      · rw [if_pos idle, pure_bind]
        simp only [ensureWork, bind_assoc, ensures_current_bind, work]
        exact (ensures_agent_bind_none absent).mpr ⟨rfl, rfl⟩
      · rw [if_neg idle, bind_assoc]
        exact (ensures_agent_bind_none absent).mpr ⟨rfl, rfl⟩
  refine place.bind ?_ ?_
  · rintro _ _ _ ⟨failed, -⟩
    cases failed
  · rintro cause calls _ ⟨failed, none⟩
    exact ⟨congrArg Except.error (Except.error.inj failed), none⟩

theorem Attached.notPrepared_of_none {α : Type} {build : Build} {input : Option Host.Input}
    {result : Except ProvisionError α} {calls : List CallMade}
    (attached : Attached build input result calls) (absent : build.session.agent = none) :
    result = .error .agentNotPrepared ∧ calls = [] := by
  cases attached with
  | notPrepared => exact ⟨rfl, rfl⟩
  | called recorded => cases absent.symm.trans recorded

variable {declared : ContainerSet} {settings : Settings} {left : CarryOver} {workspace : String}
  {turns : List Turn}

/-- **Without an agent whatever needs one fails for that reason, without a call.** -/
theorem Run.notPrepared {turn : Turn}
    (run : Run (fresh declared settings left workspace) turns turn.before)
    (happens : turn.Happens) (absent : turn.before.session.agent = none)
    (needs : turn.request.needsAgent = true) :
    turn.result = .error .agentNotPrepared ∧ turn.calls = [] := by
  suffices ensured : Ensures turn.request.operation turn.before fun result calls _ =>
      result = .error .agentNotPrepared ∧ calls = [] from ensured _ _ happens
  cases request : turn.request with
  | attachAgent input =>
    refine ensures_map.mpr ((attachAgent_attached _ input).mono ?_)
    rintro result calls _ ⟨rfl, attached⟩
    obtain ⟨rfl, none⟩ := attached.notPrepared_of_none absent
    exact ⟨rfl, none⟩
  | launchAgent input =>
    refine ensures_map.mpr ((launchAgent_attached _ input).mono ?_)
    rintro result calls _ ⟨rfl, attached⟩
    obtain ⟨rfl, none⟩ := attached.notPrepared_of_none absent
    exact ⟨rfl, none⟩
  | runProcess starter =>
    have checkout := run.held_of_none absent .checkout
    have work := run.held_of_none absent .work
    refine ensures_map.mpr ((runProcess_notPrepared absent checkout work starter).mono ?_)
    rintro _ calls _ ⟨rfl, none⟩
    exact ⟨rfl, none⟩
  | _ =>
    rw [request] at needs
    cases needs

end NotPrepared

section Validation

variable {declared : ContainerSet} {settings : Settings} {left : CarryOver} {workspace : String}
  {turns : List Turn} {build : Build}

/-- **The agents that a turn uses were validated exactly if this build launched an agent before
or its latest preparation succeeded.** Without an agent a turn that needs one fails, without a
call. -/
theorem validated_iff_checked (run : Run (fresh declared settings left workspace) turns build) :
    ∀ earlier turn later, turns = earlier ++ turn :: later →
      (UsesValidated earlier turn ↔ (UsesAgent turn → Checked earlier)) ∧
        (turn.before.session.agent = none → turn.request.needsAgent = true →
          turn.result = .error .agentNotPrepared ∧ turn.calls = []) := by
  rintro earlier turn later rfl
  obtain ⟨before, happens⟩ := run.split
  have went := happens.went before.orderly
  refine ⟨⟨fun validated uses => ?_, fun checked => ?_⟩, before.notPrepared happens⟩
  · obtain ⟨call, member, uses⟩ := uses
    obtain ⟨agent, used⟩ := Option.ne_none_iff_exists'.mp uses
    obtain ⟨front, back, split⟩ := List.append_of_mem member
    obtain ⟨recorded, beside⟩ := went.used member used
    have earlier := (beside.validated_iff split).mp (validated front call back agent split used)
    exact (before.validated_iff recorded).mp earlier
  · intro front call back agent split used
    have member : call ∈ turn.calls := by
      rw [split]
      exact List.mem_append_right _ List.mem_cons_self
    obtain ⟨recorded, beside⟩ := went.used member used
    refine (beside.validated_iff split).mpr ((before.validated_iff recorded).mpr ?_)
    refine checked ⟨call, member, ?_⟩
    rw [used]
    exact Option.some_ne_none agent

/-- What an earlier build left: an agent, which the engine may have or not. -/
def agentLeft : CarryOver :=
  { agent := some { image := "jenkinsci/slave", id := "agent-prev" }, volume := some "vol-prev" }

/-- The agent that was left is there, is prepared, and is attached to. -/
def foundThenAttached : List ((InMemory → InMemory) × Request) :=
  [(fun engine => engine.addAgent "agent-prev" "jenkinsci/slave", .prepareAgent),
    (id, .attachAgent none)]

/-- An agent that was left is validated by a preparation that finds it. -/
theorem validated_iff_checked_found :
    ∃ first second, (playedAfter agentLeft foundThenAttached).1 = [first, second] ∧
      UsesAgent second ∧ UsesValidated [first] second := by
  refine ⟨_, _, rfl, ⟨_, List.mem_cons_self, by simp [CallMade.usedAgent]⟩, ?_⟩
  have turns := validated_iff_checked (run_playedAfter agentLeft foundThenAttached) [_] _ [] rfl
  exact turns.1.mpr fun _ => .inr rfl

end Validation

/-! ## A build that never prepares its agent -/

/-- The agent that was left is attached to at once; the engine does not have it. -/
def attachedAtOnce : List ((InMemory → InMemory) × Request) :=
  [(id, .attachAgent none)]

/-- **An agent that was left is used although nobody looked for it.** -/
theorem left_agent_used_unvalidated :
    ∃ turn, Run (fresh oneSidecar {} agentLeft ".") [turn] turn.after ∧
      turn.request = .attachAgent none ∧ turn.result = .ok () ∧ ¬ UsesValidated [] turn := by
  refine ⟨_, run_playedAfter agentLeft attachedAtOnce, rfl, rfl, fun validated => ?_⟩
  rcases validated [] _ [] _ rfl rfl with launched | found
  · cases launched
  · cases found

end BuildYard.Build
