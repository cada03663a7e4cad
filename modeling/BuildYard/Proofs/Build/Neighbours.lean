import BuildYard.Proofs.Build.Attempts
import BuildYard.Proofs.Build.Belongings

/-!
# Builds that share an engine

Builds that keep nothing may use one engine in memory at the same time: their
calls reach it in any order, and whatever does not give something up may fail
at any time. No build then touches what belongs to another, each can be cleared
away without a failure, and the engine holds at any time what the sessions of
the builds record, and nothing else (`neighbours_undisturbed`). The engine
relies on the builds asking about their own only, and the builds rely on the
engine supplying nothing twice and denying nothing that is there.
-/

set_option autoImplicit false

namespace BuildYard.Build

/-! ## Builds side by side -/

/-- The course of a build from its beginning: what was asked when it began, its turns, and what
has become of it. -/
structure Life where
  declared : ContainerSet
  settings : Settings
  workspace : String
  opening : List (Exchange Action Action.Answer)
  turns : List Turn
  build : Build

namespace Life

/-- All calls to the engine. -/
def calls (life : Life) : List CallMade :=
  callsMade life.opening ++ callsOf life.turns

/-- The build began with nothing that an earlier one left, and then took its turns. -/
def Lived (life : Life) : Prop :=
  ∃ first, (begin life.declared (.ofCarryOver {}) life.settings).Yields life.opening (.ok first) ∧
    Run { first with workspace := life.workspace } life.turns life.build

variable {life : Life}

theorem Lived.opening (lived : life.Lived) :
    ∃ answer, callsMade life.opening = [⟨.serverVersion, answer⟩] := by
  obtain ⟨first, begun, -⟩ := lived
  exact (begin_fresh _ _ {} life.workspace _ _ begun).1

theorem Lived.run (lived : life.Lived) :
    Run (fresh life.declared life.settings {} life.workspace) life.turns life.build := by
  obtain ⟨first, begun, run⟩ := lived
  rwa [(begin_fresh _ _ {} life.workspace _ _ begun).2 first rfl] at run

/-- All that a build created it has passed to a removal, or it belongs to it, or it has missed
it. -/
theorem Lived.accounted (lived : life.Lived) :
    Accounted [] life.calls life.build.session.things := by
  obtain ⟨answer, opening⟩ := lived.opening
  rw [calls, opening]
  exact (accounted_same rfl rfl).trans lived.run.accounted

theorem Lived.ownFirst (lived : life.Lived) : OwnFirst [] life.calls := by
  obtain ⟨answer, opening⟩ := lived.opening
  rw [calls, opening]
  exact OwnFirst.append ⟨nofun, trivial⟩ lived.run.ownFirst

end Life

section Neighbours

variable {ι : Type} [DecidableEq ι]

/-- The calls that one user made. -/
def callsBy (user : ι) (log : List (ι × CallMade)) : List CallMade :=
  (log.filter (·.1 = user)).map (·.2)

theorem mem_callsBy {user : ι} {log : List (ι × CallMade)} {call : CallMade} :
    call ∈ callsBy user log ↔ (user, call) ∈ log := by
  simp [callsBy]

theorem callsBy_append (user : ι) (log more : List (ι × CallMade)) :
    callsBy user (log ++ more) = callsBy user log ++ callsBy user more := by
  simp only [callsBy, List.filter_append, List.map_append]

theorem callsBy_cons_self (user : ι) (call : CallMade) (log : List (ι × CallMade)) :
    callsBy user ((user, call) :: log) = call :: callsBy user log := by
  simp [callsBy]

theorem callsBy_sublist (user : ι) (log : List (ι × CallMade)) :
    (callsBy user log).Sublist (log.map (·.2)) :=
  List.filter_sublist.map _

/-- Builds that begin with nothing and keep nothing, and an engine, empty at first, that serves
them all: each build's calls are those that it makes by itself, in its own order. -/
structure Neighbours (lives : ι → Life) (start : InMemory) (log : List (ι × CallMade))
    (engine : InMemory) : Prop where
  lived : ∀ user, (lives user).Lived
  discards : ∀ user, (lives user).settings.agent.reuse = false
  empty : start.Empty
  served : InMemory.Served start log engine
  calls : ∀ user, callsBy user log = (lives user).calls

/-- Builds do not get into each other's way. -/
structure Undisturbed (lives : ι → Life) (engine : InMemory) : Prop where
  /-- no build tries to remove what another one created -/
  own : ∀ user other, user ≠ other →
    ∀ thing ∈ gaveUpBy (lives user).calls, thing ∉ gotBy (lives other).calls
  /-- clearing a build away never fails -/
  cleared : ∀ user, ∀ turn ∈ (lives user).turns, turn.request = .clean → turn.result = .ok ()
  /-- the engine holds what belongs to the builds -/
  holds : ∀ thing, engine.Holds thing ↔ ∃ user, thing ∈ (lives user).build.session.things
  /-- once the last of each build was a clearing, there is nothing left -/
  emptied : (∀ user, ∀ turn ∈ (lives user).turns.getLast?, turn.request = .clean) →
    engine.containers = [] ∧ engine.volumes = []

namespace Neighbours

variable {lives : ι → Life} {start engine : InMemory} {log earlier later : List (ι × CallMade)}
  {user other : ι} {call : CallMade} {thing : Thing}

theorem stocked (neighbours : Neighbours lives start log engine) :
    InMemory.Stocked (log.map (·.2)) engine :=
  neighbours.served.stocked neighbours.empty

/-- **What was created has one owner.** -/
theorem owner_unique (neighbours : Neighbours lives start log engine)
    (got : thing ∈ gotBy (lives user).calls) (got' : thing ∈ gotBy (lives other).calls) :
    user = other := by
  have owned {user : ι} (got : thing ∈ gotBy (lives user).calls) :
      (user, thing) ∈ log.filterMap fun entry => entry.2.got.map (entry.1, ·) := by
    obtain ⟨call, member, creates⟩ := List.mem_filterMap.mp got
    rw [← neighbours.calls user, mem_callsBy] at member
    exact List.mem_filterMap.mpr ⟨(user, call), member, by rw [creates]; rfl⟩
  have once : ((log.filterMap fun entry => entry.2.got.map (entry.1, ·)).map Prod.snd).Nodup := by
    have same := neighbours.stocked.once
    rw [gotBy, List.filterMap_map] at same
    rw [List.map_filterMap]
    refine (congrArg List.Nodup (List.filterMap_congr fun entry _ => ?_)).mpr same
    rw [Option.map_map]
    exact Option.map_id' ..
  exact congrArg Prod.fst (List.inj_on_of_nodup_map once (owned got) (owned got') rfl)

/-- What a build tries to remove it has created. -/
theorem got_of_gaveUp (neighbours : Neighbours lives start log engine)
    (gaveUp : thing ∈ gaveUpBy (lives user).calls) : thing ∈ gotBy (lives user).calls := by
  obtain ⟨abandoned, same, -⟩ := (neighbours.lived user).accounted
  exact same.subset (List.mem_append_left _ gaveUp)

theorem got_nodup (neighbours : Neighbours lives start log engine) (user : ι) :
    (gotBy (lives user).calls).Nodup := by
  rw [← neighbours.calls user]
  exact neighbours.stocked.once.sublist ((callsBy_sublist user log).filterMap _)

/-- What a build tries to remove, at any time, it has not tried to remove before. -/
theorem gaveUp_once {before after : List CallMade}
    (neighbours : Neighbours lives start log engine)
    (calls : (lives user).calls = before ++ call :: after) (gaveUp : call.gaveUp = some thing) :
    thing ∉ gaveUpBy before := by
  obtain ⟨abandoned, same, -⟩ := (neighbours.lived user).accounted
  have nodup := (same.nodup_iff.mpr (neighbours.got_nodup user)).of_append_left
  have here : gaveUpBy (call :: after) = thing :: gaveUpBy after :=
    List.filterMap_cons_some gaveUp
  rw [calls, gaveUpBy_append, here] at nodup
  intro member
  exact List.disjoint_of_nodup_append nodup member List.mem_cons_self

/-- **What a call is about is there**, unless its own build has tried to remove it. -/
theorem held_at (neighbours : Neighbours lives start (earlier ++ (user, call) :: later) engine)
    {middle : InMemory} (served : InMemory.Served start earlier middle)
    (about : call.about = some thing) (kept : thing ∉ gaveUpBy (callsBy user earlier)) :
    middle.Holds thing := by
  have calls := neighbours.calls user
  rw [callsBy_append, callsBy_cons_self] at calls
  have got : thing ∈ gotBy (callsBy user earlier) := by
    have first := (neighbours.lived user).ownFirst
    rw [← calls] at first
    exact first.mem_of_about about
  refine ((served.stocked neighbours.empty).holds thing).mpr ⟨?_, fun lost => ?_⟩
  · exact ((callsBy_sublist user earlier).filterMap _).subset got
  -- whoever has removed it had created it, and there is only one who did
  · obtain ⟨_, member, loses⟩ := List.mem_filterMap.mp lost
    obtain ⟨⟨other, taken⟩, here, rfl⟩ := List.mem_map.mp member
    have gaveUp : thing ∈ gaveUpBy (callsBy other earlier) :=
      List.mem_filterMap.mpr ⟨taken, mem_callsBy.mpr here, CallMade.gaveUp_of_lost loses⟩
    have gaveUp_calls : thing ∈ gaveUpBy (lives other).calls := by
      rw [← neighbours.calls other, callsBy_append, gaveUpBy_append]
      exact List.mem_append_left _ gaveUp
    have got_calls : thing ∈ gotBy (lives user).calls := by
      rw [← calls, gotBy_append]
      exact List.mem_append_left _ got
    obtain rfl := neighbours.owner_unique got_calls (neighbours.got_of_gaveUp gaveUp_calls)
    exact kept gaveUp

/-- **Whatever a build tries to remove is removed.** -/
theorem lost_of_gaveUp (neighbours : Neighbours lives start log engine)
    (made : call ∈ (lives user).calls) (gaveUp : call.gaveUp = some thing) :
    call.lost = some thing := by
  rw [← neighbours.calls user, mem_callsBy] at made
  obtain ⟨earlier, later, rfl⟩ := List.append_of_mem made
  obtain ⟨middle, served, spares, answered⟩ := neighbours.served.split
  have calls := neighbours.calls user
  rw [callsBy_append, callsBy_cons_self] at calls
  have kept := neighbours.gaveUp_once calls.symm gaveUp
  have held := neighbours.held_at served (CallMade.about_of_gaveUp gaveUp) kept
  have reachable := (served.stocked neighbours.empty).reachable
  obtain ⟨question, answer⟩ := call
  dsimp only at answered
  subst answered
  exact InMemory.perform_gaveUp reachable spares held gaveUp

/-- **A build never misses what it has created and not tried to remove.** -/
theorem settled (neighbours : Neighbours lives start log engine) (user : ι) :
    (gaveUpBy (lives user).calls ++ (lives user).build.session.things).Perm
      (gotBy (lives user).calls) := by
  obtain ⟨abandoned, same, missed⟩ := (neighbours.lived user).accounted
  suffices none : abandoned = [] by
    rw [none, List.append_nil] at same
    exact same
  refine List.eq_nil_iff_forall_not_mem.mpr fun thing member => ?_
  have nodup := same.nodup_iff.mpr (neighbours.got_nodup user)
  obtain ⟨call, made, misses⟩ := List.mem_filterMap.mp (missed thing member)
  rw [← neighbours.calls user, mem_callsBy] at made
  obtain ⟨earlier, later, rfl⟩ := List.append_of_mem made
  obtain ⟨middle, served, -, answered⟩ := neighbours.served.split
  have kept : thing ∉ gaveUpBy (callsBy user earlier) := by
    intro gaveUp
    refine List.disjoint_of_nodup_append nodup ?_ (List.mem_append_right _ member)
    rw [← neighbours.calls user, callsBy_append, gaveUpBy_append]
    exact List.mem_append_left _ gaveUp
  have held := neighbours.held_at served (CallMade.about_of_missed misses) kept
  have stocked := served.stocked neighbours.empty
  have nonempty := (stocked.out thing ((stocked.holds thing).mp held).1).nonempty
  obtain ⟨question, answer⟩ := call
  dsimp only at answered
  subst answered
  exact InMemory.perform_missed nonempty misses held

/-- **Every attempt to give something up succeeds.** -/
theorem tried_ok (neighbours : Neighbours lives start log engine) {tried : Tried}
    (made : tried.call ∈ (lives user).calls) : tried.answer = .ok () := by
  obtain ⟨release, answer⟩ := tried
  cases release with
  | container label handle =>
    have lost := neighbours.lost_of_gaveUp made rfl
    cases answer with
    | error cause => cases lost
    | ok done => rfl
  | volume name =>
    have lost := neighbours.lost_of_gaveUp made rfl
    cases answer with
    | error cause => cases lost
    | ok done => rfl
  | driver =>
    rw [← neighbours.calls user, mem_callsBy] at made
    obtain ⟨earlier, later, rfl⟩ := List.append_of_mem made
    obtain ⟨middle, served, spares, answered⟩ := neighbours.served.split
    have reachable := (served.stocked neighbours.empty).reachable
    exact answered.trans (InMemory.perform_close reachable spares)

theorem clean_ok (neighbours : Neighbours lives start log engine) {turn : Turn}
    (member : turn ∈ (lives user).turns) (clean : turn.request = .clean) :
    turn.result = .ok () := by
  obtain ⟨earlier, later, split⟩ := List.append_of_mem member
  have run := (neighbours.lived user).run
  rw [split] at run
  obtain ⟨before, happens⟩ := run.split
  have cleared := (happens.went before.orderly).cleared_of_clean clean
  rw [← arranged_sidecars turn.before] at cleared
  obtain ⟨tried, -, calls, ok, -⟩ := cleared.attemptsAll before.orderly (.refl _)
  refine ok.mpr fun one made => ?_
  have here : one.call ∈ turn.calls := calls ▸ List.mem_map_of_mem made
  have called : one.call ∈ (lives user).calls :=
    List.mem_append_right _ (List.mem_flatMap.mpr ⟨turn, member, here⟩)
  exact neighbours.tried_ok called

/-- **The engine holds what belongs to the builds**, and nothing else. -/
theorem holds_iff (neighbours : Neighbours lives start log engine) :
    engine.Holds thing ↔ ∃ user, thing ∈ (lives user).build.session.things := by
  rw [neighbours.stocked.holds]
  constructor
  · rintro ⟨got, kept⟩
    obtain ⟨_, member, creates⟩ := List.mem_filterMap.mp got
    obtain ⟨⟨user, call⟩, here, rfl⟩ := List.mem_map.mp member
    have made := mem_callsBy.mpr here
    rw [neighbours.calls user] at made
    have mine := (neighbours.settled user).symm.subset (List.mem_filterMap.mpr ⟨_, made, creates⟩)
    refine ⟨user, (List.mem_append.mp mine).resolve_left fun gaveUp => kept ?_⟩
    obtain ⟨taken, taken_made, gives⟩ := List.mem_filterMap.mp gaveUp
    have lost := neighbours.lost_of_gaveUp taken_made gives
    rw [← neighbours.calls user, mem_callsBy] at taken_made
    exact List.mem_filterMap.mpr ⟨taken, List.mem_map_of_mem taken_made, lost⟩
  · rintro ⟨user, belongs⟩
    have settled := neighbours.settled user
    have got := settled.subset (List.mem_append_right _ belongs)
    refine ⟨?_, fun lost => ?_⟩
    · rw [← neighbours.calls user] at got
      exact ((callsBy_sublist user log).filterMap _).subset got
    · obtain ⟨_, member, loses⟩ := List.mem_filterMap.mp lost
      obtain ⟨⟨other, taken⟩, here, rfl⟩ := List.mem_map.mp member
      have made := mem_callsBy.mpr here
      rw [neighbours.calls other] at made
      have gaveUp : thing ∈ gaveUpBy (lives other).calls :=
        List.mem_filterMap.mpr ⟨_, made, CallMade.gaveUp_of_lost loses⟩
      obtain rfl := neighbours.owner_unique got (neighbours.got_of_gaveUp gaveUp)
      have nodup := settled.nodup_iff.mpr (neighbours.got_nodup user)
      exact List.disjoint_of_nodup_append nodup gaveUp belongs

end Neighbours

/-! ## Playing builds side by side -/

/-- Builds, and the engine that has served them so far. -/
structure SideBySide (ι : Type) where
  lives : ι → Life
  log : List (ι × CallMade)
  engine : InMemory

omit [DecidableEq ι] in
/-- What a program asks of an engine in memory is served by it. -/
theorem served_record {α : Type} (user : ι) (work : Work α) {start engine : InMemory}
    {log : List (ι × CallMade)} (served : InMemory.Served start log engine)
    (spares : InMemory.Spares engine.failing) :
    InMemory.Served start
      (log ++ (callsMade (work.record InMemory.answer engine).1).map (user, ·))
      (work.record InMemory.answer engine).2.2 := by
  induction work generalizing log engine with
  | done value => simpa [Program.record, callsMade] using served
  | ask action next ih =>
    cases action with
    | engine call =>
      have kept := (engine.perform_keeps call).2
      have later := ih (engine.perform call).1 (served.call spares user call) (by rwa [kept])
      rw [List.append_assoc] at later
      exact later
    | _ => exact ih _ served spares

/-- One turn of one build, with these operations failing. -/
def SideBySide.turn (shared : SideBySide ι) (failing : List String) (user : ι) (request : Request) :
    SideBySide ι :=
  let life := shared.lives user
  let (turn, engine) := Turn.answered InMemory.answer request life.build
    { shared.engine with failing }
  { lives := Function.update shared.lives user
      { life with turns := life.turns ++ [turn], build := turn.after }
    log := shared.log ++ turn.calls.map (user, ·)
    engine }

theorem callsBy_map (user other : ι) (calls : List CallMade) :
    callsBy user (calls.map (other, ·)) = if other = user then calls else [] := by
  split <;> simp_all [callsBy, List.filter_map, Function.comp_def]

/-- **Neighbours stay neighbours by every turn that one of them takes.** -/
theorem Neighbours.turn {shared : SideBySide ι} {start : InMemory} {failing : List String}
    (neighbours : Neighbours shared.lives start shared.log shared.engine)
    (spares : InMemory.Spares failing) (user : ι) (request : Request) :
    Neighbours (shared.turn failing user request).lives start
      (shared.turn failing user request).log (shared.turn failing user request).engine where
  empty := neighbours.empty
  served := served_record user _ (neighbours.served.arrange failing) spares
  lived other := by
    by_cases same : other = user
    · subst same
      obtain ⟨first, begun, run⟩ := neighbours.lived other
      have happens := Turn.happens_answered InMemory.answer request (shared.lives other).build
        { shared.engine with failing }
      simp only [SideBySide.turn, Function.update_self]
      exact ⟨first, begun, .turn run happens⟩
    · simp only [SideBySide.turn, Function.update_of_ne same]
      exact neighbours.lived other
  discards other := by
    by_cases same : other = user
    · subst same
      simp only [SideBySide.turn, Function.update_self]
      exact neighbours.discards other
    · simp only [SideBySide.turn, Function.update_of_ne same]
      exact neighbours.discards other
  calls other := by
    have before := neighbours.calls other
    by_cases same : other = user
    · subst same
      simp only [SideBySide.turn, Function.update_self, callsBy_append, callsBy_map, if_pos, before,
        Life.calls, callsOf_concat, List.append_assoc]
    · have apart : ¬user = other := fun equal => same equal.symm
      simp only [SideBySide.turn, Function.update_of_ne same, callsBy_append, callsBy_map,
        if_neg apart, List.append_nil, before]

/-- Turns of several builds, one after another. -/
def SideBySide.play (shared : SideBySide ι) (schedule : List (List String × ι × Request)) :
    SideBySide ι :=
  schedule.foldl (fun shared (failing, user, request) => shared.turn failing user request) shared

theorem Neighbours.play {shared : SideBySide ι} {start : InMemory}
    {schedule : List (List String × ι × Request)}
    (neighbours : Neighbours shared.lives start shared.log shared.engine)
    (spares : ∀ entry ∈ schedule, InMemory.Spares entry.1) :
    Neighbours (shared.play schedule).lives start (shared.play schedule).log
      (shared.play schedule).engine := by
  induction schedule generalizing shared with
  | nil => exact neighbours
  | cons entry schedule ih =>
    obtain ⟨here, later⟩ := List.forall_mem_cons.mp spares
    exact ih (neighbours.turn here entry.2.1 entry.2.2) later

/-- A build that has just begun. -/
def justBegun : Life :=
  let opening := (begin oneSidecar (.ofCarryOver {}) agentNotKept).record InMemory.answer {}
  { declared := oneSidecar, settings := agentNotKept, workspace := "."
    opening := opening.1, turns := [], build := fresh oneSidecar agentNotKept {} "." }

theorem lived_justBegun : justBegun.Lived :=
  ⟨_, Program.yields_record InMemory.answer _ {}, .start⟩

/-- Two builds that have just begun on an engine. -/
def bothBegun : SideBySide Bool :=
  { lives := fun _ => justBegun
    log := [(false, ⟨.serverVersion, .ok "24.0.7"⟩), (true, ⟨.serverVersion, .ok "24.0.7"⟩)]
    engine := (({} : InMemory).perform .serverVersion).2.perform .serverVersion |>.2 }

theorem neighbours_bothBegun :
    Neighbours bothBegun.lives {} bothBegun.log bothBegun.engine where
  lived _ := lived_justBegun
  discards _ := rfl
  empty := ⟨rfl, rfl, rfl⟩
  served := (InMemory.Served.start.call (by decide) false .serverVersion).call (by decide) true
    .serverVersion
  calls user := by cases user <;> rfl

/-! ## Builds do not disturb each other -/

/-- **Builds that keep nothing share an engine without getting into each other's way**, however
their calls are interleaved and whatever fails on the way, as long as nothing fails that gives
something up. -/
theorem neighbours_undisturbed {lives : ι → Life} {start engine : InMemory}
    {log : List (ι × CallMade)} (neighbours : Neighbours lives start log engine) :
    Undisturbed lives engine where
  own user other apart thing gaveUp got :=
    apart (neighbours.owner_unique (neighbours.got_of_gaveUp gaveUp) got)
  cleared user turn member clean := neighbours.clean_ok member clean
  holds thing := neighbours.holds_iff
  emptied ended := by
    have nothing (thing : Thing) : ¬engine.Holds thing := by
      rw [neighbours.holds_iff]
      rintro ⟨user, belongs⟩
      rw [(neighbours.lived user).run.things_eq_nil (neighbours.discards user) (ended user)]
        at belongs
      cases belongs
    refine ⟨List.eq_nil_iff_forall_not_mem.mpr fun container member => ?_,
      List.eq_nil_iff_forall_not_mem.mpr fun name => nothing (.volume name)⟩
    exact nothing (.container container.id) (List.mem_map_of_mem member)

/-- Two builds in turn: the agent of the second cannot be launched at first, and the sidecar of
the first cannot be launched at all. -/
def alternating : List (List String × Bool × Request) :=
  [([], false, .prepareAgent), (["launch_agent_container"], true, .prepareAgent),
    ([], true, .prepareAgent), ([], true, .runProcess {}), ([], false, .advancePhase),
    (["launch_sidecar_container"], false, .runProcess {}),
    (["has_container", "exec_in_container"], true, .clean), ([], false, .clean)]

/-- What the two builds have created and removed, and that nothing is left of it. -/
theorem neighbours_undisturbed_alternating :
    gaveUpBy ((bothBegun.play alternating).lives false).calls =
        [.container "agent0002", .volume "vol0001"] ∧
      gaveUpBy ((bothBegun.play alternating).lives true).calls =
        [.volume "vol0003", .container "work0006", .container "agent0005", .volume "vol0004"] ∧
      Neighbours (bothBegun.play alternating).lives {} (bothBegun.play alternating).log
        (bothBegun.play alternating).engine ∧
      Undisturbed (bothBegun.play alternating).lives (bothBegun.play alternating).engine := by
  have neighbours : Neighbours (bothBegun.play alternating).lives {}
      (bothBegun.play alternating).log (bothBegun.play alternating).engine :=
    neighbours_bothBegun.play (by decide)
  exact ⟨by decide +kernel, by decide +kernel, neighbours, neighbours_undisturbed neighbours⟩

end Neighbours

end BuildYard.Build
