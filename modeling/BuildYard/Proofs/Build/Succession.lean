import BuildYard.Proofs.Build.Belongings
import BuildYard.Proofs.Build.Sharing

/-!
# One agent for builds in succession

A build begins with what the build before it left: the agent and its volume, if
the settings keep them. An agent that goes on existing is then the last one that
is launched. Whatever the builds after it do and whatever fails in them, their
preparations find it and create nothing, their containers are launched beside
it, and clearing them away takes neither the agent nor its volume
(`one_agent_in_succession`).
-/

set_option autoImplicit false

namespace BuildYard.Build

/-- One of several builds: what it was to do, what happened to it, and what it was then. -/
structure BuildRun where
  declared : ContainerSet
  settings : Settings
  workspace : String
  turns : List Turn
  after : Build

/-- **Builds in succession.** The first begins with what `first` names, each later one with what
the session of the one before it leaves, and all are to keep the agent. -/
inductive Succession (first : CarryOver) : List BuildRun → CarryOver → Prop where
  | start : Succession first [] first
  | next {runs : List BuildRun} {left : CarryOver} (before : Succession first runs left)
      (run : BuildRun) (reuse : run.settings.agent.reuse = true)
      (happened : Run (fresh run.declared run.settings left run.workspace) run.turns run.after) :
      Succession first (runs ++ [run]) run.after.session.carryOver

/-- The turns of builds, one build after another. -/
def turnsOf (runs : List BuildRun) : List Turn :=
  runs.flatMap BuildRun.turns

/-- Agents that are launched go on existing: the engine never says later that one of them does
not exist. It may fail to say anything. -/
def Lasting (calls : List CallMade) : Prop :=
  ∀ earlier call later agent, calls = earlier ++ call :: later →
    call.launchedAgent = some agent → ⟨.hasContainer agent.id, .ok false⟩ ∉ later

section Lasting

variable {calls more : List CallMade} {agent : Handle}

theorem Lasting.front (lasting : Lasting (calls ++ more)) : Lasting calls := by
  rintro earlier call later agent rfl launched gone
  refine lasting earlier call (later ++ more) agent ?_ launched (List.mem_append_left _ gone)
  rw [List.append_assoc, List.cons_append]

/-- An agent that was launched is not missed by what follows. -/
theorem Lasting.present (lasting : Lasting (calls ++ more)) (launched : agent ∈ agentsBy calls) :
    ⟨.hasContainer agent.id, .ok false⟩ ∉ more := by
  obtain ⟨call, made, launch⟩ := List.mem_filterMap.mp launched
  obtain ⟨earlier, later, rfl⟩ := List.append_of_mem made
  intro gone
  refine lasting earlier call (later ++ more) agent ?_ launch (List.mem_append_right _ gone)
  rw [List.append_assoc, List.cons_append]

end Lasting

/-! ## What a request does to an agent that is there -/

section Requests

variable {build after : Build} {request : Request} {result : Except ProvisionError Unit}
  {calls : List CallMade} {agent : Handle}

/-- **A preparation that is not told that the agent is gone does nothing but look for it.** -/
theorem Prepared.only_looks (prepared : Prepared build result calls after)
    (recorded : build.session.agent = some agent)
    (there : ⟨.hasContainer agent.id, .ok false⟩ ∉ calls) :
    after = build ∧ ∃ answer, calls = [⟨.hasContainer agent.id, answer⟩] := by
  have present {checks more : List CallMade} (missing : AgentMissing build.session checks)
      (same : calls = checks ++ more) : False := by
    cases missing with
    | unrecorded none => cases none.symm.trans recorded
    | gone other =>
      obtain rfl := Option.some.inj (other.symm.trans recorded)
      exact there (same ▸ List.mem_cons_self)
  cases prepared with
  | kept same =>
    obtain rfl := Option.some.inj (same.symm.trans recorded)
    exact ⟨rfl, _, rfl⟩
  | uncertain same cause =>
    obtain rfl := Option.some.inj (same.symm.trans recorded)
    exact ⟨rfl, _, rfl⟩
  | noVolume missing sought => exact (present missing rfl).elim
  | launched missing sought other => exact (present missing rfl).elim
  | notLaunched missing sought cause givenUp => exact (present missing rfl).elim

/-- A preparation that launches an agent records it with the volume that it runs on. -/
theorem Prepared.recorded {image volume : String} (prepared : Prepared build result calls after)
    (launched : ⟨.launchAgent image volume, .ok agent⟩ ∈ calls) :
    after.session.carryOver = { agent := some agent, volume := some volume } := by
  cases prepared with
  | kept => simp at launched
  | uncertain => simp at launched
  | noVolume missing sought =>
    rcases List.mem_append.mp launched with check | search
    · exact absurd check (missing.launchesNoAgent _ _ _)
    · exact absurd search (sought.launchesNoAgent _ _ _)
  | launched missing sought other =>
    rcases List.mem_append.mp launched with check | rest
    · exact absurd check (missing.launchesNoAgent _ _ _)
    rcases List.mem_append.mp rest with search | last
    · exact absurd search (sought.launchesNoAgent _ _ _)
    · cases List.mem_singleton.mp last
      rfl
  | notLaunched missing sought cause givenUp =>
    rcases List.mem_append.mp launched with check | rest
    · exact absurd check (missing.launchesNoAgent _ _ _)
    rcases List.mem_append.mp rest with search | last
    · exact absurd search (sought.launchesNoAgent _ _ _)
    rcases List.mem_cons.mp last with launch | cleanup
    · cases launch
    · exact absurd cleanup (givenUp.launchesNoAgent _ _ _)

theorem Cleared.bonds (cleared : Cleared build result calls after) : bondsOf calls = [] := by
  refine List.filterMap_eq_nil_iff.mpr fun call made => ?_
  cases same : call.bond with
  | none => rfl
  | some bond => cases (cleared.unused call made).symm.trans (CallMade.usedAgent_of_bond same)

theorem Removed.volumesRemovedBy_eq {removals : List (String × Handle)}
    {failures : List CleanupFailure} (removed : Removed removals failures calls) :
    volumesRemovedBy calls = [] := by
  induction removed with
  | nil => rfl
  | removed _ _ _ ih => exact ih
  | failed _ _ _ _ ih => exact ih

theorem VolumeRemoved.volumesRemovedBy_eq {volume : Option String}
    {failures : List CleanupFailure} (removed : VolumeRemoved volume failures calls) :
    volumesRemovedBy calls = volume.toList := by
  cases removed <;> rfl

theorem Closed.volumesRemovedBy_eq {failures : List CleanupFailure}
    (closed : Closed failures calls) : volumesRemovedBy calls = [] := by
  cases closed <;> rfl

/-- **A clearing that keeps the agent removes what is in slots, and no volume.** -/
theorem Cleared.keeping (cleared : Cleared build result calls after) (orderly : build.Orderly)
    (reuse : build.settings.agent.reuse = true) :
    (removedBy calls).Perm build.session.slots ∧ volumesRemovedBy calls = [] ∧
      after.session.carryOver = build.session.carryOver := by
  have keeps : build.discardsAgent = false := by rw [discardsAgent, reuse, Bool.not_true]
  refine ⟨?_, ?_, ?_⟩
  · have removed := cleared.removedBy_perm orderly
    rwa [discarded, keeps, if_neg Bool.false_ne_true, List.append_nil] at removed
  · cases cleared with
    | cleared removed volumeRemoved closed =>
      rw [volumesRemovedBy_append, volumesRemovedBy_append, removed.volumesRemovedBy_eq,
        volumeRemoved.volumesRemovedBy_eq, closed.volumesRemovedBy_eq, Session.volumeToRemove, keeps]
      rfl
  · rw [cleared.after_eq]
    simp only [Session.carryOver, cleaned, Session.cleared, reuse, Bool.not_true,
      Bool.false_eq_true, if_false]

end Requests

/-! ## What a turn does for an agent that is there -/

/-- **A turn serves an agent that is there**, `given` being the containers launched before it: a
preparation creates nothing, whatever is launched is launched beside the agent, and a clearing
removes what is in slots but no volume, and the agent only if its id was given to another
container as well. -/
structure Serves (agent : Handle) (given : List Handle) (turn : Turn) : Prop where
  prepared : turn.request = .prepareAgent →
    createdBy turn.calls = [] ∧ volumesCreatedBy turn.calls = []
  beside : ∀ bond ∈ bondsOf turn.calls, bond.agent = agent
  cleared : turn.request = .clean →
    (removedBy turn.calls).Perm turn.before.session.slots ∧ volumesRemovedBy turn.calls = []
  spared : turn.request = .clean → agent.id ∉ given.map (·.id) →
    agent.id ∉ (removedBy turn.calls).map (·.id)

section Turns

variable {turn : Turn} {agent : Handle} {given : List Handle}

/-- A turn that neither prepares nor clears away serves an agent if it launches all beside it. -/
theorem serves_beside (unprepared : turn.request ≠ .prepareAgent)
    (uncleared : turn.request ≠ .clean)
    (beside : ∀ bond ∈ bondsOf turn.calls, bond.agent = agent) : Serves agent given turn where
  prepared prepare := absurd prepare unprepared
  beside := beside
  cleared clean := absurd clean uncleared
  spared clean := absurd clean uncleared

theorem Prepared.serves (prepared : Prepared turn.before turn.result turn.calls turn.after)
    (prepare : turn.request = .prepareAgent) (recorded : turn.before.session.agent = some agent)
    (there : ⟨.hasContainer agent.id, .ok false⟩ ∉ turn.calls) : Serves agent given turn where
  prepared _ := by
    obtain ⟨-, answer, calls⟩ := prepared.only_looks recorded there
    rw [calls]
    exact ⟨rfl, rfl⟩
  beside bond member := by
    rw [prepared.bonds] at member
    cases member
  cleared clean := by
    rw [prepare] at clean
    cases clean
  spared clean := by
    rw [prepare] at clean
    cases clean

theorem Cleared.serves (cleared : Cleared turn.before turn.result turn.calls turn.after)
    (clean : turn.request = .clean) (orderly : turn.before.Orderly)
    (reuse : turn.before.settings.agent.reuse = true)
    (held : turn.before.session.slots ⊆ given) : Serves agent given turn where
  prepared prepare := by
    rw [clean] at prepare
    cases prepare
  beside bond member := by
    rw [cleared.bonds] at member
    cases member
  cleared _ := ⟨(cleared.keeping orderly reuse).1, (cleared.keeping orderly reuse).2.1⟩
  spared _ other removed := by
    have slots := ((cleared.keeping orderly reuse).1.map (·.id)).subset removed
    exact other (List.map_subset _ held slots)

end Turns

/-! ## What is kept through all builds -/

/-- **One agent serves all turns.** At most one was launched; it and the volume it was launched on
are what is left; and every turn after its launch serves it. -/
structure OneAgent (turns : List Turn) (left : CarryOver) : Prop where
  once : (agentsBy (callsOf turns)).length ≤ 1
  left : ∀ image volume agent, ⟨.launchAgent image volume, .ok agent⟩ ∈ callsOf turns →
    left = { agent := some agent, volume := some volume }
  serves : ∀ earlier turn later, turns = earlier ++ turn :: later →
    ∀ agent ∈ agentsBy (callsOf earlier), Serves agent (launchedBy (callsOf earlier)) turn

section Kept

variable {turns : List Turn} {turn : Turn} {left : CarryOver} {agent : Handle}

theorem oneAgent_nil (left : CarryOver) : OneAgent [] left where
  once := Nat.zero_le 1
  left image volume agent launched := by cases launched
  serves earlier turn later equal := by cases earlier <;> cases equal

/-- The agent that was launched is the one that is left. -/
theorem OneAgent.agent_eq (one : OneAgent turns left) (launched : agent ∈ agentsBy (callsOf turns)) :
    left.agent = some agent := by
  obtain ⟨call, made, launch⟩ := List.mem_filterMap.mp launched
  obtain ⟨question, answer⟩ := call
  cases question with
  | launchAgent image volume =>
    cases answer with
    | error cause => cases launch
    | ok other =>
      obtain rfl := Option.some.inj launch
      rw [one.left image volume other made]
  | _ => cases launch

/-- A turn that launches no agent and leaves what is kept serves on. -/
theorem OneAgent.concat (one : OneAgent turns turn.before.session.carryOver)
    (none : agentsBy turn.calls = [])
    (kept : turn.after.session.carryOver = turn.before.session.carryOver)
    (serves : ∀ agent ∈ agentsBy (callsOf turns),
      Serves agent (launchedBy (callsOf turns)) turn) :
    OneAgent (turns ++ [turn]) turn.after.session.carryOver where
  once := by
    rw [callsOf_concat, agentsBy_append, none, List.append_nil]
    exact one.once
  left image volume agent launched := by
    rw [callsOf_concat] at launched
    rw [kept]
    rcases List.mem_append.mp launched with before | now
    · exact one.left image volume agent before
    · have here : agent ∈ agentsBy turn.calls := List.mem_filterMap.mpr ⟨_, now, rfl⟩
      rw [none] at here
      cases here
  serves earlier other later equal := by
    cases later using List.reverseRecOn with
    | nil =>
      obtain ⟨rfl, same⟩ := List.append_inj' equal rfl
      obtain rfl := List.singleton_injective same
      exact serves
    | append_singleton later last _ =>
      rw [← List.cons_append, ← List.append_assoc] at equal
      exact one.serves earlier other later (List.append_inj' equal rfl).1

/-- The turn that launches the first agent. -/
theorem OneAgent.launched (one : OneAgent turns turn.before.session.carryOver)
    (none : agentsBy (callsOf turns) = [])
    (prepared : Prepared turn.before turn.result turn.calls turn.after) :
    OneAgent (turns ++ [turn]) turn.after.session.carryOver where
  once := by
    rw [callsOf_concat, agentsBy_append, none, List.nil_append]
    rcases prepared.agent with ⟨-, same⟩ | ⟨agent, -, same, -⟩
    · rw [same]
      exact Nat.zero_le 1
    · rw [same]
      exact Nat.le_refl 1
  left image volume agent launched := by
    rw [callsOf_concat] at launched
    rcases List.mem_append.mp launched with before | now
    · have here : agent ∈ agentsBy (callsOf turns) := List.mem_filterMap.mpr ⟨_, before, rfl⟩
      rw [none] at here
      cases here
    · exact prepared.recorded now
  serves earlier other later equal agent launched := by
    cases later using List.reverseRecOn with
    | nil =>
      obtain ⟨rfl, -⟩ := List.append_inj' equal rfl
      rw [none] at launched
      cases launched
    | append_singleton later last _ =>
      rw [← List.cons_append, ← List.append_assoc] at equal
      exact one.serves earlier other later (List.append_inj' equal rfl).1 agent launched

/-- **Every request keeps to the one agent.** -/
theorem OneAgent.went (one : OneAgent turns turn.before.session.carryOver)
    (went : Went turn.before turn.request turn.result turn.calls turn.after)
    (orderly : turn.before.Orderly) (reuse : turn.before.settings.agent.reuse = true)
    (held : turn.before.session.slots ⊆ launchedBy (callsOf turns))
    (lasting : Lasting (callsOf (turns ++ [turn]))) :
    OneAgent (turns ++ [turn]) turn.after.session.carryOver := by
  rw [callsOf_concat] at lasting
  rcases went.cases_agent with ⟨prepare, prepared⟩ | ⟨unprepared, uncleared, beside⟩ |
    ⟨clean, cleared⟩
  · cases launched : agentsBy (callsOf turns) with
    | nil => exact one.launched launched prepared
    | cons agent others =>
      have member : agent ∈ agentsBy (callsOf turns) := launched ▸ List.mem_cons_self
      have recorded : turn.before.session.agent = some agent := one.agent_eq member
      obtain ⟨same, answer, calls⟩ := prepared.only_looks recorded (lasting.present member)
      refine one.concat (by rw [calls]; rfl) (by rw [same]) fun other also => ?_
      exact prepared.serves prepare (one.agent_eq also) (lasting.present also)
  · have volume := (went.supplies unprepared uncleared).volume
    refine one.concat beside.launched ?_ fun agent launched => ?_
    · rw [Session.carryOver, Session.carryOver, beside.agent, volume]
    · refine serves_beside unprepared uncleared fun bond member => ?_
      have recorded : turn.before.session.agent = some agent := one.agent_eq launched
      exact Option.some.inj ((beside.bonds bond member).symm.trans recorded)
  · refine one.concat cleared.agentsBy_eq (cleared.keeping orderly reuse).2.2 fun agent _ => ?_
    exact cleared.serves clean orderly reuse held

/-- What is in slots was launched in the run. -/
theorem Run.slots_subset {declared : ContainerSet} {settings : Settings} {workspace : String}
    {build : Build} (run : Run (fresh declared settings left workspace) turns build) :
    build.session.slots ⊆ launchedBy (callsOf turns) := by
  obtain ⟨earlier, split⟩ : sinceClean turns <:+ turns := List.rtakeWhile_suffix _ _
  refine List.Subset.trans run.ledger.held.symm.subset ?_
  rw [← split, callsOf_append, launchedBy_append, split]
  exact List.subset_append_right _ _

/-- **Every build keeps to the one agent**, if those before it did. -/
theorem OneAgent.run {earlier : List Turn} {declared : ContainerSet} {settings : Settings}
    {workspace : String} {build : Build} (one : OneAgent earlier left)
    (reuse : settings.agent.reuse = true)
    (run : Run (fresh declared settings left workspace) turns build)
    (lasting : Lasting (callsOf (earlier ++ turns))) :
    OneAgent (earlier ++ turns) build.session.carryOver := by
  -- agents go on existing in all builds so far, and those are fewer turns before the last
  refine run.induction (fun turns build => Lasting (callsOf (earlier ++ turns)) →
    OneAgent (earlier ++ turns) build.session.carryOver) ?_ ?_ lasting
  · intro _
    rwa [List.append_nil]
  · intro turns turn run went ih lasting
    rw [← List.append_assoc] at lasting ⊢
    have before := ih (by rw [callsOf_concat] at lasting; exact lasting.front)
    have reused : turn.before.settings.agent.reuse = true := by rw [run.settings_eq, reuse]
    refine before.went went run.orderly reused ?_ lasting
    refine List.Subset.trans run.slots_subset ?_
    rw [callsOf_append, launchedBy_append]
    exact List.subset_append_right _ _

end Kept

section Succession

variable {first left : CarryOver} {runs : List BuildRun}

theorem turnsOf_concat (runs : List BuildRun) (run : BuildRun) :
    turnsOf (runs ++ [run]) = turnsOf runs ++ run.turns := by
  rw [turnsOf, List.flatMap_append, List.flatMap_singleton, turnsOf]

/-- **One agent serves any number of builds.** Where launched agents go on existing, builds in
succession launch at most one, leave it and its volume to each other, and serve it from its launch
on, whatever is asked of them and whatever fails. -/
theorem one_agent_in_succession (succession : Succession first runs left)
    (lasting : Lasting (callsOf (turnsOf runs))) : OneAgent (turnsOf runs) left := by
  induction succession with
  | start => exact oneAgent_nil first
  | next before run reuse happened ih =>
    rw [turnsOf_concat] at lasting ⊢
    have earlier := ih (by rw [callsOf_append] at lasting; exact lasting.front)
    exact earlier.run reuse happened lasting

/-! ## Two builds -/

/-- Agents that the engine never misses go on existing. -/
theorem lasting_of_not_missed {calls : List CallMade}
    (found : ∀ agent ∈ agentsBy calls, .container agent.id ∉ missedBy calls) : Lasting calls := by
  rintro earlier call later agent rfl launched gone
  have made : call ∈ earlier ++ call :: later := List.mem_append_right _ List.mem_cons_self
  refine found agent (List.mem_filterMap.mpr ⟨call, made, launched⟩) ?_
  exact List.mem_filterMap.mpr
    ⟨_, List.mem_append_right _ (List.mem_cons_of_mem _ gone), rfl⟩

/-- A build that an engine in memory answers, begun with what `left` names. -/
def BuildRun.played (left : CarryOver) (engine : InMemory)
    (requests : List ((InMemory → InMemory) × Request)) : BuildRun :=
  let (turns, after) := play InMemory.answer requests (fresh oneSidecar {} left ".") engine
  { declared := oneSidecar, settings := {}, workspace := ".", turns, after }

theorem Succession.played {first left : CarryOver} {runs : List BuildRun}
    (before : Succession first runs left) (engine : InMemory)
    (requests : List ((InMemory → InMemory) × Request)) :
    Succession first (runs ++ [.played left engine requests])
      (BuildRun.played left engine requests).after.session.carryOver :=
  before.next (.played left engine requests) rfl (run_play InMemory.answer requests _ engine)

/-- A build whose agent is gone and can be launched only when it is prepared again; in the end no
removal succeeds. -/
def agentReplaced : BuildRun :=
  .played { agent := some { image := "jenkinsci/slave", id := "agent-prev" } } {}
    [(fun engine => engine.failOn "launch_agent_container", .prepareAgent),
      (fun engine => engine.succeedOn "launch_agent_container", .prepareAgent),
      (id, .runProcess {}), (fun engine => engine.failOn "remove_container", .clean)]

/-- The next build, whose engine cannot tell at first whether the agent is there. -/
def agentFound : BuildRun :=
  .played agentReplaced.after.session.carryOver
    (({ given := 9, failing := ["has_container"] } : InMemory).addAgent "agent0003" "jenkinsci/slave")
    [(id, .prepareAgent), (fun engine => engine.succeedOn "has_container", .prepareAgent),
      (id, .advancePhase), (id, .runProcess {}), (id, .clean)]

/-- Two builds launch one agent, and all that they launch is launched beside it. -/
theorem one_agent_in_succession_found :
    (agentsBy (callsOf (turnsOf [agentReplaced, agentFound]))).map (·.id) = ["agent0003"] ∧
      (bondsOf (callsOf agentFound.turns)).map (fun bond => (bond.container.id, bond.agent.id)) =
        [("side0010", "agent0003"), ("work0011", "agent0003")] ∧
      Lasting (callsOf (turnsOf [agentReplaced, agentFound])) ∧
      OneAgent (turnsOf [agentReplaced, agentFound]) agentFound.after.session.carryOver := by
  have found : Lasting (callsOf (turnsOf [agentReplaced, agentFound])) :=
    lasting_of_not_missed (by decide +kernel)
  exact ⟨by decide +kernel, by decide +kernel, found,
    one_agent_in_succession ((Succession.start.played _ _).played _ _) found⟩

end Succession

end BuildYard.Build
