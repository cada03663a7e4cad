import BuildYard.Proofs.Build.Needs
import BuildYard.Proofs.Build.Sharing

/-!
# Processes and what they need

Running a process first launches what the process needs and what does not run
yet. Each way to ensure a container meets the need for it, the sidecars by an
induction over those that were not looked at, and when no need is left the
process is started in the container of its phase (`runProcess_processed`).
-/

set_option autoImplicit false

namespace BuildYard.Build

/-! ## One container -/

/-- An operation that launches a container for a need and yields it. -/
def launchNeed (need : Need) (beside : Handle) : Operation Handle := do
  let image ← resolveImage need.source
  match need.slot with
  | .sidecar _ =>
    call (.creationFailed need.slot.resource image) (.launchSidecar image beside need.hints)
  | _ => call (.creationFailed need.slot.resource image) (.launchWork image beside need.hints)

theorem ImageKnown.attempted {beside : Handle} {need : Need} {build after : Build}
    {image : String} {calls : List CallMade}
    (known : ImageKnown build need.source (.ok image) calls after)
    (answer : Except EngineError Handle) :
    Attempted beside need build (answer.mapError (.creationFailed need.slot.resource image))
      (calls ++ [need.launch image beside answer]) after := by
  cases answer with
  | error cause => exact .notLaunched cause known
  | ok container => exact .launched container known

theorem launchNeed_attempted (need : Need) (beside : Handle) (build : Build) :
    Ensures (launchNeed need beside) build (Attempted beside need build) := by
  obtain ⟨slot, source, hints⟩ := need
  refine (resolveImage_known build source).bind ?_ ?_
  · intro image calls after known
    cases slot with
    | checkout => exact ensures_call.mpr fun answer => known.attempted answer
    | work => exact ensures_call.mpr fun answer => known.attempted answer
    | sidecar name => exact ensures_call.mpr fun answer => known.attempted answer
  · intro cause calls after unknown
    exact .noImage unknown

section Ensure

variable {build : Build} {beside : Handle}

/-- What a result leaves of a need of one container: `Meets` without the container. -/
def Meeting (beside : Handle) (needs : List Need) (build : Build) : Outcome Handle :=
  fun result => Meets beside needs build (result.map fun _ => ())

/-- A container that is launched, reported and recorded meets a need. -/
theorem launchNeed_meets (need : Need) (beside : Handle) (vacant : build.session.held need.slot = none)
    (report : Handle → String) :
    Ensures (launchNeed need beside >>= fun container =>
        note .info (report container) >>= fun _ =>
          changeSession (·.holding need.slot container) >>= fun _ => pure container)
      build (Meeting beside [need] build) := by
  refine (launchNeed_attempted need beside build).bind ?_ ?_
  · intro container calls middle attempted
    simp only [ensures_note_bind, ensures_changeSession_bind, ensures_pure]
    exact .launched vacant attempted (.met _)
  · intro cause calls after attempted
    exact .failed vacant attempted

theorem ensureCheckout_meets (recorded : build.session.agent = some beside) :
    Ensures ensureCheckout build
      (Meeting beside ((Need.checkout build.settings).ifVacant build.session.checkout) build) := by
  simp only [ensureCheckout, ensures_current_bind]
  cases vacant : build.session.checkout with
  | some container => exact ensures_pure.mpr (.met build)
  | none =>
    refine (ensures_agent_bind recorded).mpr (ensures_current_bind.mpr ?_)
    have meets := launchNeed_meets (.checkout build.settings) beside vacant
      fun container => "Launched checkout container " ++ container.display
    rwa [launchNeed, bind_assoc] at meets

theorem ensureWork_meets (recorded : build.session.agent = some beside) :
    Ensures ensureWork build
      (Meeting beside ((Need.work build.declared).ifVacant build.session.work) build) := by
  simp only [ensureWork, ensures_current_bind]
  cases vacant : build.session.work with
  | some container => exact ensures_pure.mpr (.met build)
  | none =>
    refine (ensures_agent_bind recorded).mpr (ensures_current_bind.mpr ?_)
    exact launchNeed_meets (.work build.declared) beside vacant _

end Ensure

/-! ## Sidecars -/

section Sidecars

variable {build : Build} {beside : Handle} {done rest : List Sidecar} {sidecar : Sidecar}

/-- Of the sidecars that were not looked at, those that do not run. -/
def stillNeeded (build : Build) (done rest : List Sidecar) : List Need :=
  (rest.drop (build.session.sidecars.length - done.length)).map Need.sidecar

theorem Complete.neededSidecars (complete : build.Complete) : build.neededSidecars = [] := by
  have count : build.declared.sidecars.length ≤ build.session.sidecars.length := by
    simpa only [Session.sidecarNames, declaredNames, List.length_map] using
      (congrArg List.length complete).ge
  rw [Build.neededSidecars, List.drop_of_length_le count, List.map_nil]

/-- The sidecars that were looked at run, and they are the first that run. -/
theorem Upto.done_first (upto : build.Upto done rest) :
    done.map (·.name) <+: build.session.sidecarNames := by
  have first : done.map (·.name) <+: build.declaredNames := by
    rw [declaredNames, upto.declared, List.map_append]
    exact List.prefix_append _ _
  refine List.prefix_of_prefix_length_le first upto.orderly.named ?_
  simpa only [List.length_map, Session.sidecarNames] using upto.count

/-- When a name comes a second time, no more run than were looked at. -/
theorem Upto.count_of_old (upto : build.Upto done (sidecar :: rest))
    (old : sidecar.name ∈ done.map (·.name)) : build.session.sidecars.length = done.length := by
  refine Nat.le_antisymm (Nat.not_lt.mp fun running => ?_) upto.count
  have once := (upto.step running).done_first.sublist.nodup upto.orderly.once
  rw [List.map_append, List.map_singleton, List.nodup_append] at once
  exact once.2.2 _ old _ (List.mem_singleton_self _) rfl

theorem stillNeeded_nil : build.stillNeeded done [] = [] := by
  rw [stillNeeded, List.drop_nil, List.map_nil]

/-- If no more run than were looked at, the next is needed. -/
theorem stillNeeded_of_count (count : build.session.sidecars.length = done.length) :
    build.stillNeeded done rest = rest.map Need.sidecar := by
  rw [stillNeeded, count, Nat.sub_self, List.drop_zero]

/-- If more run than were looked at, the next is not needed. -/
theorem stillNeeded_of_running (running : done.length < build.session.sidecars.length) :
    build.stillNeeded done (sidecar :: rest) = build.stillNeeded (done ++ [sidecar]) rest := by
  obtain ⟨more, count⟩ := Nat.exists_eq_add_of_lt running
  have before : build.session.sidecars.length - done.length = more + 1 := by omega
  have after : build.session.sidecars.length - (done ++ [sidecar]).length = more := by
    rw [List.length_append, List.length_singleton]
    omega
  rw [stillNeeded, stillNeeded, before, after, List.drop_succ_cons]

/-- A sidecar that is launched is looked at, and all up to it run. -/
theorem Upto.attempted {container : Handle} {calls : List CallMade} {after : Build}
    (upto : build.Upto done (sidecar :: rest)) (next : build.Next sidecar)
    (recorded : build.session.agent = some beside)
    (attempted : Attempted beside (.sidecar sidecar) build (.ok container) calls after) :
    (after.holding (.sidecar sidecar.name) container).Upto (done ++ [sidecar]) rest := by
  have same := attempted.after_eq
  cases attempted with
  | launched container known =>
    have resolved := known.tag?_eq
    rw [same] at resolved ⊢
    have launch := @Move.launchSidecar { build with resolved := after.resolved } _ _ _ upto.phase
      ⟨next.declared, next.new⟩ recorded resolved (.ok container)
    have orderly := launch.orderly
      ⟨upto.orderly.named, upto.orderly.once, upto.orderly.latch⟩
    exact upto.launched orderly

theorem launchSidecars_meets (upto : build.Upto done rest)
    (recorded : build.session.agent = some beside) :
    Ensures (launchSidecars beside (done.map (·.name)).reverse rest) build
      (Meets beside (build.stillNeeded done rest) build) := by
  induction rest generalizing done build with
  | nil =>
    rw [stillNeeded_nil]
    exact ensures_pure.mpr (.met build)
  | cons sidecar rest ih =>
    have seen : (done.map (·.name)).reverse.contains sidecar.name = true ↔
        sidecar.name ∈ done.map (·.name) := by
      rw [List.contains_iff_mem, List.mem_reverse]
    have names : sidecar.name :: (done.map (·.name)).reverse =
        ((done ++ [sidecar]).map (·.name)).reverse := by simp
    rw [launchSidecars, names]
    by_cases old : sidecar.name ∈ done.map (·.name)
    · rw [if_pos (seen.mpr old), ensures_throw_bind,
        stillNeeded_of_count (upto.count_of_old old)]
      exact .collided rfl (upto.done_first.subset old)
    · rw [if_neg (mt seen.mp old), ensures_current_bind]
      by_cases there : sidecar.name ∈ build.session.sidecarNames
      · have running := (upto.running_iff old).mp there
        rw [if_pos (sidecar?_isSome_iff.mpr there), ensures_note_bind,
          stillNeeded_of_running running]
        exact ih (upto.step running) recorded
      · have count : build.session.sidecars.length = done.length :=
          Nat.le_antisymm (Nat.not_lt.mp (mt (upto.running_iff old).mpr there)) upto.count
        have vacant : build.session.held (Need.sidecar sidecar).slot = none :=
          Option.not_isSome_iff_eq_none.mp (mt sidecar?_isSome_iff.mp there)
        rw [if_neg (mt sidecar?_isSome_iff.mp there), stillNeeded_of_count count]
        refine (launchNeed_attempted (.sidecar sidecar) beside build).bind ?_ ?_
        · intro container calls middle attempted
          simp only [ensures_note_bind, ensures_changeSession_bind]
          have same := attempted.session_eq
          have further := upto.attempted (upto.next old there) recorded attempted
          have meets := ih further ((congrArg Session.agent same).trans recorded)
          have longer : (middle.holding (.sidecar sidecar.name) container).session.sidecars.length =
              (done ++ [sidecar]).length := by
            simp only [holding, Session.holding, Session.withSidecar, List.length_append, same,
              count, List.length_singleton]
          rw [stillNeeded_of_count longer] at meets
          exact meets.mono fun _ _ _ => .launched vacant attempted
        · intro cause calls after attempted
          exact .failed vacant attempted

/-- The sidecars that do not run are launched in order. -/
theorem ensureSidecars_meets (orderly : build.Orderly) (phase : build.session.phase = .build)
    (recorded : build.session.agent = some beside) :
    Ensures ensureSidecars build (Meets beside build.neededSidecars build) := by
  simp only [ensureSidecars, ensures_current_bind]
  by_cases idle : (build.sidecarsLaunched || build.declared.sidecars.isEmpty) = true
  · rw [if_pos idle]
    rw [(orderly.complete_of_idle idle).neededSidecars]
    exact ensures_pure.mpr (.met build)
  · rw [if_neg idle]
    refine (ensures_agent_bind recorded).mpr ?_
    have upto : build.Upto [] build.declared.sidecars := ⟨orderly, phase, rfl, Nat.zero_le _⟩
    refine ((launchSidecars_meets upto recorded).and (launchSidecars_moves upto recorded)).bind ?_ ?_
    · rintro ⟨⟩ calls after ⟨meets, -, complete⟩
      have noted := meets.append (.noted (complete rfl) (.met _))
      rw [List.append_nil] at noted
      exact ensures_modify.mpr noted
    · rintro cause calls after ⟨meets, -⟩
      exact meets

end Sidecars

/-! ## Processes -/

/-- A process with what the images of its phase add to its variables. -/
def equipped (build : Build) (starter : Starter) : Starter :=
  match build.session.phase with
  | .preCheckout => starter
  | .build => starter.withMissing build.declared.environment

/-- Without an agent nothing is in a slot. -/
def Anchored (build : Build) : Prop :=
  build.session.agent = none → ∀ slot, build.session.held slot = none

/-- **How running a process comes out.** Without an agent nothing is done. Otherwise needs are met,
and if none is left the process is started in the container of the phase. -/
inductive Processed (build : Build) (starter : Starter) : Outcome Running where
  | notPrepared (unrecorded : build.session.agent = none) :
      Processed build starter (.error .agentNotPrepared) [] build
  | stopped {beside : Handle} {cause : ProvisionError} {calls : List CallMade} {after : Build}
      (recorded : build.session.agent = some beside)
      (meets : Meets beside build.needs build (.error cause) calls after) :
      Processed build starter (.error cause) calls after
  | ran {beside container : Handle} {calls : List CallMade} {after : Build}
      (recorded : build.session.agent = some beside)
      (meets : Meets beside build.needs build (.ok ()) calls after)
      (current : after.session.current = some container) (answer : Except EngineError Running) :
      Processed build starter (answer.mapError (.executionFailed container.id))
        (calls ++ [⟨.exec container.id (build.equipped starter), answer⟩]) after

section Processes

variable {build : Build} {beside : Handle}

/-- A place for a process is found by meeting all needs, and the process is equipped. -/
theorem placeFor_meets (orderly : build.Orderly) (recorded : build.session.agent = some beside)
    (starter : Starter) :
    Ensures (placeFor starter) build fun result calls after =>
      Meets beside build.needs build (result.map fun _ => ()) calls after ∧
        ∀ place, result = .ok place → place.2 = build.equipped starter := by
  simp only [placeFor, ensures_current_bind, needs, equipped]
  cases phase : build.session.phase with
  | preCheckout =>
    refine (ensureCheckout_meets recorded).bind ?_ ?_
    · intro container calls after meets
      refine ensures_pure.mpr ⟨?_, ?_⟩
      · rw [List.append_nil]
        exact meets
      · rintro _ ⟨⟩
        rfl
    · intro cause calls after meets
      refine ⟨meets, ?_⟩
      rintro _ ⟨⟩
  | build =>
    refine (ensureSidecars_meets orderly phase recorded).bind ?_ ?_
    · rintro ⟨⟩ calls middle meets
      have there := (congrArg CarryOver.agent meets.carryOver_eq).trans recorded
      have work : middle.session.work = build.session.work :=
        meets.held_other .work fun need member => by
          obtain ⟨sidecar, -, rfl⟩ := List.mem_map.mp member
          exact Slot.noConfusion
      refine (ensureWork_meets there).bind ?_ ?_
      · intro container more after further
        rw [meets.sameFrame.declared, work] at further
        refine ensures_pure.mpr ⟨?_, ?_⟩
        · rw [List.append_nil]
          exact meets.append further
        · rintro _ ⟨⟩
          rfl
      · intro cause more after further
        rw [meets.sameFrame.declared, work] at further
        refine ⟨meets.append further, ?_⟩
        rintro _ ⟨⟩
    · intro cause calls after meets
      refine ⟨meets.stopped _, ?_⟩
      rintro _ ⟨⟩

/-- Without an agent, and so with nothing in slots, no place is found. -/
theorem placeFor_notPrepared (anchored : build.Anchored)
    (unrecorded : build.session.agent = none) (starter : Starter) :
    Ensures (placeFor starter) build fun result calls after =>
      result = .error .agentNotPrepared ∧ calls = [] ∧ after = build := by
  simp only [placeFor, ensures_current_bind]
  cases phase : build.session.phase with
  | preCheckout =>
    have none : build.session.checkout = none := anchored unrecorded .checkout
    simp only [ensureCheckout, bind_assoc, ensures_current_bind, none]
    exact (ensures_agent_bind_none unrecorded).mpr ⟨rfl, rfl, rfl⟩
  | build =>
    have none : build.session.work = none := anchored unrecorded .work
    simp only [ensureSidecars, bind_assoc, ensures_current_bind]
    by_cases idle : (build.sidecarsLaunched || build.declared.sidecars.isEmpty) = true
    · simp only [if_pos idle, pure_bind, ensureWork, bind_assoc, ensures_current_bind, none]
      exact (ensures_agent_bind_none unrecorded).mpr ⟨rfl, rfl, rfl⟩
    · simp only [if_neg idle, bind_assoc]
      exact (ensures_agent_bind_none unrecorded).mpr ⟨rfl, rfl, rfl⟩

/-- **Running a process meets what the process needs.** -/
theorem runProcess_processed (orderly : build.Orderly) (anchored : build.Anchored)
    (starter : Starter) : Ensures (runProcess starter) build (Processed build starter) := by
  rw [runProcess, ensures_within]
  cases recorded : build.session.agent with
  | none =>
    refine (placeFor_notPrepared anchored recorded starter).bind ?_ ?_
    · rintro place calls after ⟨⟨⟩, -⟩
    · rintro cause calls after ⟨⟨⟩, rfl, rfl⟩
      exact .notPrepared recorded
  | some beside =>
    refine ((placeFor_meets orderly recorded starter).and (placeFor_moves orderly starter)).bind ?_ ?_
    · rintro ⟨container, given⟩ calls after ⟨⟨meets, equipped⟩, -, placed⟩
      obtain rfl := equipped _ rfl
      refine ensures_note_bind.mpr (ensures_call.mpr fun answer => ?_)
      exact .ran recorded meets (placed _ rfl).1 answer
    · rintro cause calls after ⟨⟨meets, -⟩, -⟩
      exact .stopped recorded meets

end Processes

/-- A turn that is to run a process comes out in one of these ways. -/
theorem Turn.Happens.processed {turn : Turn} {starter : Starter} (happens : turn.Happens)
    (request : turn.request = .runProcess starter) (orderly : turn.before.Orderly)
    (anchored : turn.before.Anchored) :
    ∃ result, turn.result = result.map (fun _ => ()) ∧
      Processed turn.before starter result turn.calls turn.after := by
  have ensured : Ensures (Request.runProcess starter).operation turn.before
      fun outcome calls after => ∃ result : Except ProvisionError Running,
        outcome = result.map (fun _ => ()) ∧ Processed turn.before starter result calls after :=
    ensures_map.mpr ((runProcess_processed orderly anchored starter).mono
      fun result _ _ processed => ⟨result, rfl, processed⟩)
  rw [← request] at ensured
  exact ensured _ _ happens

section Runs

variable {declared : ContainerSet} {settings : Settings} {left : CarryOver} {workspace : String}
  {turns : List Turn} {build : Build}

theorem Run.processed (run : Run (fresh declared settings left workspace) turns build)
    (starter : Starter) : Ensures (runProcess starter) build (Processed build starter) :=
  runProcess_processed run.orderly run.held_of_none starter

end Runs

end BuildYard.Build
