import BuildYard.Proofs.Build.Ledger
import BuildYard.Proofs.Build.Plays

/-!
# Containers are launched once and in order

The calls of a run, each in the phase in which it was made, tell what a build
may ask for next: no container is launched twice between two clearings, the
sidecars come in the order of their declaration, and before the first process
of the build phase all of them run. `Due` says what a call needs of the calls
before it, and `InOrder` that every call since the last clearing had what it
needs, and that the session shows exactly what was launched.
-/

set_option autoImplicit false

namespace BuildYard

/-! ## Calls in their phase -/

/-- A sidecar that was launched, with what it was launched from. -/
structure SidecarLaunch where
  image : String
  hints : Hints
  handle : Handle

namespace CallMade

/-- The container for processes that a call launched, if it did. -/
def launchedWork : CallMade → Option Handle
  | ⟨.launchWork _ _ _, .ok handle⟩ => some handle
  | _ => none

/-- The sidecar that a call launched, if it did. -/
def launchedSidecar : CallMade → Option SidecarLaunch
  | ⟨.launchSidecar image _ hints, .ok handle⟩ => some { image, hints, handle }
  | _ => none

end CallMade

namespace Build

/-- A call and the phase in which it was made. -/
abbrev Event := Phase × CallMade

/-- The calls of a turn; it keeps its phase until its calls are made. -/
def Turn.events (turn : Turn) : List Event :=
  turn.calls.map (turn.before.session.phase, ·)

/-- The calls of several turns in their phases. -/
def eventsOf (turns : List Turn) : List Event :=
  turns.flatMap Turn.events

/-- The containers for processes that were launched in a phase, in order. -/
def launchedIn (phase : Phase) (events : List Event) : List Handle :=
  (events.filter (·.1 = phase)).filterMap (·.2.launchedWork)

/-- The sidecars that were launched, in order. -/
def sidecarsIn (events : List Event) : List SidecarLaunch :=
  events.filterMap (·.2.launchedSidecar)

section Events

variable {turns : List Turn} {turn : Turn} {events : List Event} {phase other : Phase}
  {call : CallMade}

theorem eventsOf_concat : eventsOf (turns ++ [turn]) = eventsOf turns ++ turn.events := by
  simp only [eventsOf, List.flatMap_append, List.flatMap_singleton]

theorem launchedIn_concat_self : launchedIn phase (events ++ [(phase, call)]) =
    launchedIn phase events ++ call.launchedWork.toList := by
  simp only [launchedIn, List.filter_append, List.filterMap_append]
  cases launched : call.launchedWork <;> simp [launched]

theorem launchedIn_concat_other (differ : other ≠ phase) :
    launchedIn phase (events ++ [(other, call)]) = launchedIn phase events := by
  simp [launchedIn, differ]

theorem launchedIn_concat_none (none : call.launchedWork = none) :
    launchedIn phase (events ++ [(other, call)]) = launchedIn phase events := by
  by_cases same : other = phase
  · rw [same, launchedIn_concat_self, none, Option.toList_none, List.append_nil]
  · exact launchedIn_concat_other same

theorem sidecarsIn_concat : sidecarsIn (events ++ [(phase, call)]) =
    sidecarsIn events ++ call.launchedSidecar.toList := by
  simp only [sidecarsIn, List.filterMap_append]
  cases launched : call.launchedSidecar <;> simp [launched]

end Events

/-! ## What a call needs of those before it -/

/-- The sidecars declared first, as many as run. -/
def begun (build : Build) : List Sidecar :=
  build.declared.sidecars.take build.session.sidecars.length

/-- A sidecar was launched as it is declared, and is in the slot of its name. -/
structure Placed (build : Build) (sidecar : Sidecar) (launch : SidecarLaunch) : Prop where
  image : build.tag? sidecar.container.image = some launch.image
  hints : launch.hints = sidecar.container.effectiveHints
  held : build.session.held (.sidecar sidecar.name) = some launch.handle

/-- All declared sidecars were launched, one after another. -/
def AllLaunched (build : Build) (past : List Event) : Prop :=
  List.Forall₂ (Placed build) build.declared.sidecars (sidecarsIn past)

/-- The slot for the processes of a phase. -/
def slotOf : Phase → Slot
  | .preCheckout => .checkout
  | .build => .work

/-- **What a call of a phase needs**, the build and the calls before it since the last
clearing being these: a container for processes is launched where there was none, in the build
phase after all sidecars; sidecars wait for that phase; and a process needs the container of
its phase, and in the build phase all sidecars. -/
def Due (build : Build) (past : List Event) (phase : Phase) : Call → Prop
  | .launchWork _ _ _ =>
    launchedIn phase past = [] ∧ (phase = .build → AllLaunched build past)
  | .launchSidecar _ _ _ => phase = .build
  | .exec id _ =>
    (phase = .build → AllLaunched build past) ∧
      ∃ container, container.id = id ∧ launchedIn phase past = [container] ∧
        build.session.held (slotOf phase) = some container
  | _ => True

/-- Every event of a list has what it needs of those before it. -/
def EachDue (build : Build) (events : List Event) : Prop :=
  ∀ front phase call back, events = front ++ (phase, call) :: back →
    Due build front phase call.question

theorem eachDue_nil (build : Build) : EachDue build [] := by
  intro front phase call back equal
  cases front <;> cases equal

theorem eachDue_concat {build : Build} {events : List Event} {phase : Phase} {call : CallMade}
    (each : EachDue build events) (due : Due build events phase call.question) :
    EachDue build (events ++ [(phase, call)]) := by
  intro front other made back equal
  cases back using List.reverseRecOn with
  | nil =>
    obtain ⟨rfl, same⟩ := List.append_inj' equal rfl
    obtain ⟨rfl, rfl⟩ := Prod.mk.inj (List.singleton_injective same)
    exact due
  | append_singleton back last _ =>
    rw [← List.cons_append, ← List.append_assoc] at equal
    exact each _ _ _ _ (List.append_inj' equal rfl).1

/-- **The calls since the last clearing are in order, and the session shows what they
launched.** -/
structure InOrder (build : Build) (events : List Event) : Prop where
  processes : ∀ phase, launchedIn phase events = (build.session.held (slotOf phase)).toList
  sidecars : List.Forall₂ (Placed build) build.begun (sidecarsIn events)
  once : (build.begun.map (·.name)).Nodup
  due : EachDue build events

/-! ## What is due stays due -/

/-- A build has all that another had: its declarations, its tags and its containers. -/
structure Grown (build after : Build) : Prop where
  declared : after.declared = build.declared
  tags : ∀ source tag, build.tag? source = some tag → after.tag? source = some tag
  held : ∀ slot handle, build.session.held slot = some handle →
    after.session.held slot = some handle

section Grown

variable {aim : Aim} {build after : Build} {events : List Event}

theorem Grown.placed (grown : Grown build after) {sidecar : Sidecar} {launch : SidecarLaunch}
    (placed : Placed build sidecar launch) : Placed after sidecar launch :=
  ⟨grown.tags _ _ placed.image, placed.hints, grown.held _ _ placed.held⟩

theorem Grown.allLaunched (grown : Grown build after) (all : AllLaunched build events) :
    AllLaunched after events := by
  rw [AllLaunched, grown.declared]
  exact all.imp fun _ _ => grown.placed

theorem Grown.due (grown : Grown build after) {phase : Phase} {call : Call}
    (due : Due build events phase call) : Due after events phase call := by
  cases call with
  | launchWork image agent hints =>
    exact ⟨due.1, fun same => grown.allLaunched (due.2 same)⟩
  | launchSidecar image agent hints => exact due
  | exec id starter =>
    obtain ⟨all, container, same, launched, held⟩ := due
    exact ⟨fun same => grown.allLaunched (all same), container, same, launched,
      grown.held _ _ held⟩
  | _ => exact trivial

theorem Move.grown {call : CallMade} (move : Move build aim call after) : Grown build after where
  declared := move.sameFrame.declared
  tags source tag known := by
    cases move with
    | launchAgent volume answer => cases answer <;> exact known
    | launchCheckout _ _ _ _ answer => cases answer <;> exact known
    | launchWork _ _ _ _ _ answer => cases answer <;> exact known
    | launchSidecar _ _ _ _ answer => cases answer <;> exact known
    | _ => exact known
  held := move.balanced.held

theorem Settles.grown (settles : Settles build after) : Grown build after where
  declared := settles.sameFrame.declared
  tags source tag known := by
    cases settles with
    | keepTag =>
      obtain ⟨entry, found, equal⟩ := Option.map_eq_some_iff.mp known
      refine Option.map_eq_some_iff.mpr ⟨entry, ?_, equal⟩
      rw [keepingTag, List.find?_append, found, Option.some_or]
    | noteComplete => exact known
  held := settles.balanced.held

theorem grown_advanced (build : Build) : Grown build build.advanced where
  declared := rfl
  tags _ _ known := known
  held := (balanced_advanced build).held

/-- A build with the same containers in its slots has its calls in order, too. -/
theorem InOrder.of_grown (order : InOrder build events) (grown : Grown build after)
    (slots : after.session.held = build.session.held)
    (sidecars : after.session.sidecars = build.session.sidecars) : InOrder after events where
  processes phase := slots ▸ order.processes phase
  sidecars := by
    rw [begun, grown.declared, sidecars]
    exact order.sidecars.imp fun _ _ => grown.placed
  once := by
    rw [begun, grown.declared, sidecars]
    exact order.once
  due front phase call back equal := grown.due (order.due front phase call back equal)

end Grown

/-! ## Moves keep the order -/

section Moves

variable {aim : Aim} {build after : Build} {events : List Event} {call : CallMade}

/-- A call that launches nothing beside the agent keeps the order if it is due. -/
theorem InOrder.idle (order : InOrder build events) {phase : Phase}
    (work : call.launchedWork = none) (sidecar : call.launchedSidecar = none)
    (due : Due build events phase call.question) : InOrder build (events ++ [(phase, call)]) where
  processes other := (launchedIn_concat_none work).trans (order.processes other)
  sidecars := by
    rw [sidecarsIn_concat, sidecar, Option.toList_none, List.append_nil]
    exact order.sidecars
  once := order.once
  due := eachDue_concat order.due due

/-- A container for processes that is launched into the vacant slot of the phase keeps the
order. -/
theorem InOrder.launch (order : InOrder build events) {session : Session} {phase : Phase}
    {handle : Handle} (grown : Grown build { build with session })
    (work : call.launchedWork = some handle) (sidecar : call.launchedSidecar = none)
    (slot : session.held (slotOf phase) = some handle)
    (others : ∀ other, other ≠ phase →
      session.held (slotOf other) = build.session.held (slotOf other))
    (sidecars : session.sidecars = build.session.sidecars)
    (due : Due build events phase call.question) (vacant : launchedIn phase events = []) :
    InOrder { build with session } (events ++ [(phase, call)]) where
  processes other := by
    by_cases same : other = phase
    · rw [same, launchedIn_concat_self, vacant, work, slot]
      rfl
    · rw [launchedIn_concat_other fun equal => same equal.symm, order.processes, others _ same]
  sidecars := by
    rw [sidecarsIn_concat, sidecar, Option.toList_none, List.append_nil, begun, sidecars]
    exact order.sidecars.imp fun _ _ => grown.placed
  once := by
    rw [begun, sidecars]
    exact order.once
  due := eachDue_concat (fun _ _ _ _ equal => grown.due (order.due _ _ _ _ equal))
    (grown.due due)

/-- When all sidecars run, all declared sidecars were launched. -/
theorem InOrder.allLaunched (order : InOrder build events) (complete : build.Complete) :
    AllLaunched build events := by
  have lengths : build.session.sidecars.length = build.declared.sidecars.length := by
    simpa only [Session.sidecarNames, declaredNames, List.length_map] using
      congrArg List.length complete
  have all : build.begun = build.declared.sidecars := by
    rw [begun, lengths, List.take_length]
  rw [AllLaunched, ← all]
  exact order.sidecars

theorem Orderly.begun_names (orderly : build.Orderly) :
    build.begun.map (·.name) = build.session.sidecarNames := by
  have first := List.prefix_iff_eq_take.mp orderly.named
  rw [first, begun, List.map_take, declaredNames, Session.sidecarNames, List.length_map]

theorem Next.begun_concat {sidecar : Sidecar} (next : build.Next sidecar) (handle : Handle) :
    begun { build with session := build.session.withSidecar sidecar.name handle } =
      build.begun ++ [sidecar] := by
  have here := next.declared
  simp only [begun, Session.withSidecar, List.length_append, List.length_singleton,
    List.take_add_one, here, Option.toList_some]

theorem Move.inOrder (move : Move build aim call after) (orderly : build.Orderly)
    (order : InOrder build events) :
    InOrder after (events ++ [(build.session.phase, call)]) := by
  have grown := move.grown
  have once : (after.begun.map (·.name)).Nodup :=
    (move.orderly orderly).begun_names ▸ (move.orderly orderly).once
  cases move with
  | askImage unresolved asks answer => cases asks <;> exact order.idle rfl rfl trivial
  | launchAgent volume answer =>
    cases answer with
    | error cause => exact order.idle rfl rfl trivial
    | ok handle =>
      have idle : InOrder build (events ++ [(build.session.phase,
          ⟨.launchAgent build.settings.images.agent volume, .ok handle⟩)]) :=
        order.idle rfl rfl trivial
      exact idle.of_grown grown rfl rfl
  | @launchCheckout agent image phase vacant recorded resolved answer =>
    have free : launchedIn .preCheckout events = [] := by
      rw [order.processes, slotOf, Session.held, vacant, Option.toList_none]
    have due : Due build events .preCheckout (.launchWork image agent {}) :=
      ⟨free, fun same => absurd same (by decide)⟩
    rw [phase]
    cases answer with
    | error cause => exact order.idle rfl rfl due
    | ok handle =>
      refine order.launch grown rfl rfl rfl (fun other differ => ?_) rfl due free
      cases other with
      | preCheckout => exact absurd rfl differ
      | build => rfl
  | @launchWork agent image phase complete vacant recorded resolved answer =>
    have free : launchedIn .build events = [] := by
      rw [order.processes, slotOf, Session.held, vacant, Option.toList_none]
    have due : Due build events .build
        (.launchWork image agent build.declared.work.effectiveHints) :=
      ⟨free, fun _ => order.allLaunched complete⟩
    rw [phase]
    cases answer with
    | error cause => exact order.idle rfl rfl due
    | ok handle =>
      refine order.launch grown rfl rfl rfl (fun other differ => ?_) rfl due free
      cases other with
      | preCheckout => rfl
      | build => exact absurd rfl differ
  | @launchSidecar agent image sidecar phase next recorded resolved answer =>
    rw [phase]
    cases answer with
    | error cause => exact order.idle rfl rfl rfl
    | ok handle =>
      -- the next sidecar stands right behind those that run, so one more of them is begun
      have more := next.begun_concat handle
      refine ⟨fun other => ?_, ?_, once, ?_⟩
      · rw [launchedIn_concat_none rfl, order.processes]
        cases other <;> rfl
      · rw [noting, more, sidecarsIn_concat]
        refine List.rel_append (order.sidecars.imp fun _ _ => grown.placed) (.cons ?_ .nil)
        exact ⟨resolved, rfl, Session.sidecar?_withSidecar_self next.new⟩
      · exact eachDue_concat (fun _ _ _ _ equal => grown.due (order.due _ _ _ _ equal)) rfl
  | @exec container current complete starter answer =>
    have held : build.session.held (slotOf build.session.phase) = some container := by
      rw [← current, Session.current]
      cases build.session.phase <;> rfl
    have launched : launchedIn build.session.phase events = [container] := by
      rw [order.processes, held, Option.toList_some]
    have ready : build.session.phase = .build → AllLaunched build events :=
      fun same => order.allLaunched (complete same)
    exact order.idle rfl rfl ⟨ready, container, rfl, launched, held⟩
  | _ => exact order.idle rfl rfl trivial

theorem Moves.inOrder {calls : List CallMade} (moves : Moves aim build calls after)
    (orderly : build.Orderly) (order : InOrder build events) :
    InOrder after (events ++ calls.map (build.session.phase, ·)) := by
  induction moves generalizing events with
  | refl =>
    rw [List.map_nil, List.append_nil]
    exact order
  | call move _ ih =>
    have rest := ih (move.orderly orderly) (move.inOrder orderly order)
    rw [move.sameFrame.phase, List.append_assoc] at rest
    exact rest
  | settle settles _ ih =>
    have settled := order.of_grown settles.grown (by cases settles <;> rfl)
      (by cases settles <;> rfl)
    have rest := ih (settles.orderly orderly) settled
    rwa [settles.sameFrame.phase] at rest

end Moves

/-! ## Runs keep the order -/

/-- A build with empty slots has no calls to account for. -/
theorem inOrder_nil {build : Build} (processes : ∀ phase, build.session.held (slotOf phase) = none)
    (sidecars : build.session.sidecars = []) : InOrder build [] where
  processes phase := by
    rw [processes]
    rfl
  sidecars := by
    rw [begun, sidecars]
    exact .nil
  once := by
    rw [begun, sidecars]
    exact List.nodup_nil
  due := eachDue_nil build

section Runs

variable {declared : ContainerSet} {settings : Settings} {left : CarryOver} {workspace : String}
  {turns : List Turn} {build : Build}

theorem Run.inOrder (run : Run (fresh declared settings left workspace) turns build) :
    InOrder build (eventsOf (sinceClean turns)) := by
  refine run.induction (fun turns build => InOrder build (eventsOf (sinceClean turns))) ?_ ?_
  · exact inOrder_nil (fun phase => by cases phase <;> rfl) rfl
  · intro turns turn run went order
    by_cases clean : turn.request = .clean
    · rw [sinceClean_clean clean, (went.cleared_of_clean clean).after_eq]
      exact inOrder_nil (fun phase => by cases phase <;> rfl) rfl
    · rw [sinceClean_concat clean, eventsOf_concat]
      rcases went.cases_moves with ⟨_, moves⟩ | ⟨-, calls, after⟩ | ⟨is_clean, -⟩
      · exact moves.inOrder run.orderly order
      · rw [Turn.events, calls, List.map_nil, List.append_nil, after]
        exact order.of_grown (grown_advanced _) (funext fun slot => by cases slot <;> rfl) rfl
      · exact absurd is_clean clean

/-- The phase stays, or it advances. -/
def PhaseKept (before after : Build) : Prop :=
  after.session.phase = before.session.phase ∨
    before.session.phase = .preCheckout ∧ after.session.phase = .build

theorem Went.phaseKept {before after : Build} {request : Request}
    {result : Except ProvisionError Unit} {calls : List CallMade}
    (went : Went before request result calls after) : PhaseKept before after := by
  rcases went.cases_moves with ⟨_, moves⟩ | ⟨-, -, rfl⟩ | ⟨-, cleared⟩
  · exact .inl moves.sameFrame.phase
  · cases phase : before.session.phase with
    | preCheckout => exact .inr ⟨phase, rfl⟩
    | build => exact .inl phase.symm
  · rw [cleared.after_eq]
    exact .inl rfl

end Runs

section Launching

variable {declared : ContainerSet} {settings : Settings} {left : CarryOver} {workspace : String}
  {turns : List Turn} {build : Build}

/-- **Containers are launched once and in order.** In any run the calls since the last clearing
are in order: each call has what it needs of those before it, and the session shows what they
launched, one container for each phase and one for each of the first sidecars. The phase never
goes back, and clearing away only removes and closes. -/
theorem launched_once_in_order
    (run : Run (fresh declared settings left workspace) turns build) :
    InOrder build (eventsOf (sinceClean turns)) ∧
      ∀ earlier turn later, turns = earlier ++ turn :: later →
        PhaseKept turn.before turn.after ∧
          (turn.request = .clean → ∀ call ∈ turn.calls, Clears call.question) := by
  refine ⟨run.inOrder, ?_⟩
  rintro earlier turn later rfl
  obtain ⟨before, happens⟩ := run.split
  have went := happens.went before.orderly
  exact ⟨went.phaseKept, fun clean => (went.cleared_of_clean clean).clears⟩

/-- A sidecar that could not be launched is launched by the next process; then all is in
order. -/
theorem launched_once_in_order_retried :
    (sidecarsIn (eventsOf (sinceClean (played retried).1))).map (·.image) = ["postgres"] ∧
      InOrder (played retried).2 (eventsOf (sinceClean (played retried).1)) :=
  ⟨by decide +kernel, (launched_once_in_order (run_played retried)).1⟩

end Launching

end Build

end BuildYard
