import BuildYard.Proofs.Build.Agents
import BuildYard.Proofs.Build.Ledger

/-!
# What a process needs

A process needs the container of its phase, and in the build phase the sidecars
before it. What of that does not run yet is a list of needs in the order in
which they are met: each is a slot, the source of the image that goes there, and
the hints. Needs are met from the front of that list, and the first that cannot
be met ends it (`Meets`). What was met until then is launched and stays, and
what was not is still needed (`Meets.progress`).
-/

set_option autoImplicit false

namespace BuildYard

/-! ## Sources that mean the same image -/

namespace ImageSource

variable {first second third : ImageSource}

theorem same_symm (same : first.same second = true) : second.same first = true := by
  cases first <;> cases second <;> simp_all [ImageSource.same, Path.same]

theorem same_trans (same : first.same second = true) (next : second.same third = true) :
    first.same third = true := by
  cases first <;> cases second <;> cases third <;> simp_all [ImageSource.same, Path.same]

/-- Sources that mean the same image are the same as the same sources. -/
theorem same_congr (same : first.same second = true) (other : ImageSource) :
    other.same first = other.same second :=
  Bool.eq_iff_iff.mpr
    ⟨fun one => same_trans one same, fun one => same_trans one (same_symm same)⟩

end ImageSource

/-- A build knows the same tag for sources that mean the same image. -/
theorem Build.tag?_congr {first second : ImageSource} (same : first.same second = true)
    (build : Build) : build.tag? first = build.tag? second := by
  simp only [tag?, ImageSource.same_congr same]

/-! ## Slots -/

/-- What messages call the container in a slot. -/
def Slot.resource : Slot → Resource
  | checkout => .checkoutContainer
  | work => .workContainer
  | sidecar _ => .sidecarContainer

namespace Session

/-- The session with a container in a slot. -/
def holding (session : Session) : Slot → Handle → Session
  | .checkout, container => session.withCheckout container
  | .work, container => session.withWork container
  | .sidecar name, container => session.withSidecar name container

variable {session : Session} {slot other : Slot} (container : Handle)

theorem carryOver_holding : (session.holding slot container).carryOver = session.carryOver := by
  cases slot <;> rfl

theorem phase_holding : (session.holding slot container).phase = session.phase := by
  cases slot <;> rfl

theorem held_holding_self (vacant : session.held slot = none) :
    (session.holding slot container).held slot = some container := by
  cases slot with
  | checkout => rfl
  | work => rfl
  | sidecar name =>
    have new : name ∉ session.sidecarNames := fun taken => by
      obtain ⟨sidecar, member, same⟩ := List.mem_map.mp taken
      exact List.find?_eq_none.mp (Option.map_eq_none_iff.mp vacant) sidecar member
        (beq_iff_eq.mpr same)
    exact sidecar?_withSidecar_self new

theorem held_holding_of_ne (differ : other ≠ slot) :
    (session.holding slot container).held other = session.held other := by
  cases slot with
  | checkout => cases other with
    | checkout => exact absurd rfl differ
    | work => rfl
    | sidecar name => rfl
  | work => cases other with
    | checkout => rfl
    | work => exact absurd rfl differ
    | sidecar name => rfl
  | sidecar name => cases other with
    | checkout => rfl
    | work => rfl
    | sidecar second =>
      have names : (name == second) = false := beq_eq_false_iff_ne.mpr fun same =>
        differ (same ▸ rfl)
      simp only [holding, withSidecar, held, sidecar?, List.find?_append, List.find?_cons, names,
        List.find?_nil, Option.or_none]

end Session

/-- The call was to launch a container beside the agent, whatever came of it. -/
def CallMade.isLaunch : CallMade → Bool
  | ⟨.launchWork _ _ _, _⟩ => true
  | ⟨.launchSidecar _ _ _, _⟩ => true
  | _ => false

/-- The launches beside the agent, in order, with those that failed. -/
def launchesIn (calls : List CallMade) : List CallMade :=
  calls.filter CallMade.isLaunch

namespace Build

/-- A container that a process needs and that does not run. -/
structure Need where
  slot : Slot
  source : ImageSource
  hints : Hints

namespace Need

/-- The call that launches the container, with its answer. -/
def launch (need : Need) (image : String) (beside : Handle)
    (answer : Except EngineError Handle) : CallMade :=
  match need.slot with
  | .sidecar _ => ⟨.launchSidecar image beside need.hints, answer⟩
  | _ => ⟨.launchWork image beside need.hints, answer⟩

/-- The checkout container is launched from an image that the settings name. -/
def checkout (settings : Settings) : Need :=
  { slot := .checkout, source := .named settings.images.checkout false, hints := {} }

def work (declared : ContainerSet) : Need :=
  { slot := .work, source := declared.work.image, hints := declared.work.effectiveHints }

def sidecar (sidecar : Sidecar) : Need :=
  { slot := .sidecar sidecar.name
    source := sidecar.container.image
    hints := sidecar.container.effectiveHints }

end Need

/-- What is needed of a slot with this container in it, if any. -/
def Need.ifVacant (need : Need) (held : Option Handle) : List Need :=
  if held.isSome then [] else [need]

/-- The sidecars that do not run, in the order of their declaration. -/
def neededSidecars (build : Build) : List Need :=
  (build.declared.sidecars.drop build.session.sidecars.length).map Need.sidecar

/-- **What a process still needs**, in the order in which it is launched. -/
def needs (build : Build) : List Need :=
  match build.session.phase with
  | .preCheckout => (Need.checkout build.settings).ifVacant build.session.checkout
  | .build => build.neededSidecars ++ (Need.work build.declared).ifVacant build.session.work

/-- The build with a container in a slot. -/
def holding (build : Build) (slot : Slot) (container : Handle) : Build :=
  { build with session := build.session.holding slot container }

/-! ## How needs are met -/

/-- How the launch of a container comes out that is needed and not there. -/
inductive Attempted (beside : Handle) (need : Need) (build : Build) : Outcome Handle where
  | noImage {cause : ProvisionError} {calls : List CallMade} {after : Build}
      (unknown : ImageKnown build need.source (.error cause) calls after) :
      Attempted beside need build (.error cause) calls after
  | notLaunched {image : String} {calls : List CallMade} {after : Build} (cause : EngineError)
      (known : ImageKnown build need.source (.ok image) calls after) :
      Attempted beside need build (.error (.creationFailed need.slot.resource image cause))
        (calls ++ [need.launch image beside (.error cause)]) after
  | launched {image : String} {calls : List CallMade} {after : Build} (container : Handle)
      (known : ImageKnown build need.source (.ok image) calls after) :
      Attempted beside need build (.ok container)
        (calls ++ [need.launch image beside (.ok container)]) after

/-- **How needs are met, one after another.** Each is met by a launch into its slot. The first that
cannot be met ends it: a sidecar whose name another has, or an attempt that fails. That all
sidecars run may be noted on the way. -/
inductive Meets (beside : Handle) : List Need → Build → Outcome Unit where
  | met (build : Build) : Meets beside [] build (.ok ()) [] build
  | noted {needs : List Need} {build after : Build} {result : Except ProvisionError Unit}
      {calls : List CallMade} (complete : build.Complete)
      (rest : Meets beside needs { build with sidecarsLaunched := true } result calls after) :
      Meets beside needs build result calls after
  | collided {need : Need} {needs : List Need} {build : Build} {name : String}
      (slot : need.slot = .sidecar name) (taken : name ∈ build.session.sidecarNames) :
      Meets beside (need :: needs) build (.error (.sidecarCollision name)) [] build
  | failed {need : Need} {needs : List Need} {build after : Build} {cause : ProvisionError}
      {calls : List CallMade} (vacant : build.session.held need.slot = none)
      (attempted : Attempted beside need build (.error cause) calls after) :
      Meets beside (need :: needs) build (.error cause) calls after
  | launched {need : Need} {needs : List Need} {build middle after : Build} {container : Handle}
      {result : Except ProvisionError Unit} {calls more : List CallMade}
      (vacant : build.session.held need.slot = none)
      (attempted : Attempted beside need build (.ok container) calls middle)
      (rest : Meets beside needs (middle.holding need.slot container) result more after) :
      Meets beside (need :: needs) build result (calls ++ more) after

/-- An attempt changes at most the tags that the build knows. -/
theorem Attempted.after_eq {beside : Handle} {need : Need} {build after : Build}
    {result : Except ProvisionError Handle} {calls : List CallMade}
    (attempted : Attempted beside need build result calls after) :
    after = { build with resolved := after.resolved } := by
  cases attempted with
  | noImage unknown => exact unknown.after_eq
  | notLaunched cause known => exact known.after_eq
  | launched container known => exact known.after_eq

theorem Attempted.session_eq {beside : Handle} {need : Need} {build after : Build}
    {result : Except ProvisionError Handle} {calls : List CallMade}
    (attempted : Attempted beside need build result calls after) :
    after.session = build.session := by
  rw [attempted.after_eq]

section Meets

variable {beside : Handle} {needs others : List Need} {build middle after : Build}
  {cause : ProvisionError} {result : Except ProvisionError Unit} {calls more : List CallMade}

/-- What is needed next is met next. -/
theorem Meets.append (first : Meets beside needs build (.ok ()) calls middle)
    (second : Meets beside others middle result more after) :
    Meets beside (needs ++ others) build result (calls ++ more) after := by
  generalize equal : (Except.ok () : Except ProvisionError Unit) = met at first
  induction first with
  | met build => exact second
  | noted complete _ ih => exact .noted complete (ih second equal)
  | collided slot taken => cases equal
  | failed vacant attempted => cases equal
  | launched vacant attempted _ ih =>
    rw [List.append_assoc]
    exact .launched vacant attempted (ih second equal)

/-- What cannot be met ends it, whatever is needed next. -/
theorem Meets.stopped (others : List Need) (meets : Meets beside needs build (.error cause) calls after) :
    Meets beside (needs ++ others) build (.error cause) calls after := by
  generalize equal : (Except.error cause : Except ProvisionError Unit) = stopped at meets ⊢
  induction meets with
  | met build => cases equal
  | noted complete _ ih => exact .noted complete (ih equal)
  | collided slot taken => exact .collided slot taken
  | failed vacant attempted => exact .failed vacant attempted
  | launched vacant attempted _ ih => exact .launched vacant attempted (ih equal)

/-- Only slots, the tags and the latch change. -/
theorem Meets.sameFrame (meets : Meets beside needs build result calls after) :
    SameFrame build after := by
  induction meets with
  | met build => exact ⟨rfl, rfl, rfl, rfl⟩
  | noted complete _ ih => exact ⟨ih.declared, ih.settings, ih.workspace, ih.phase⟩
  | collided slot taken => exact ⟨rfl, rfl, rfl, rfl⟩
  | failed vacant attempted =>
    rw [attempted.after_eq]
    exact ⟨rfl, rfl, rfl, rfl⟩
  | @launched need _ build middle _ container _ _ _ vacant attempted _ ih =>
    have same : SameFrame build (middle.holding need.slot container) := by
      rw [attempted.after_eq]
      exact ⟨rfl, rfl, rfl, Session.phase_holding container⟩
    exact same.trans ih

theorem Meets.carryOver_eq (meets : Meets beside needs build result calls after) :
    after.session.carryOver = build.session.carryOver := by
  induction meets with
  | met build => rfl
  | noted complete _ ih => exact ih
  | collided slot taken => rfl
  | failed vacant attempted => rw [attempted.session_eq]
  | launched vacant attempted _ ih =>
    rw [ih, holding, Session.carryOver_holding, attempted.session_eq]

/-- What is in a slot stays there. -/
theorem Meets.held_kept {slot : Slot} {container : Handle}
    (meets : Meets beside needs build result calls after)
    (held : build.session.held slot = some container) :
    after.session.held slot = some container := by
  induction meets with
  | met build => exact held
  | noted complete _ ih => exact ih held
  | collided taken => exact held
  | failed vacant attempted => rwa [attempted.session_eq]
  | @launched need _ _ _ _ container _ _ _ vacant attempted _ ih =>
    refine ih ?_
    have differ : slot ≠ need.slot := by
      rintro rfl
      cases vacant.symm.trans held
    rwa [holding, Session.held_holding_of_ne container differ, attempted.session_eq]

/-- What is not needed stays as it is. -/
theorem Meets.held_other (meets : Meets beside needs build result calls after) (slot : Slot)
    (other : ∀ need ∈ needs, slot ≠ need.slot) :
    after.session.held slot = build.session.held slot := by
  induction meets with
  | met build => rfl
  | noted complete _ ih => exact ih other
  | collided taken => rfl
  | failed vacant attempted => rw [attempted.session_eq]
  | @launched need _ _ _ _ container _ _ _ vacant attempted _ ih =>
    rw [ih fun need member => other need (List.mem_cons_of_mem _ member), holding,
      Session.held_holding_of_ne container (other need List.mem_cons_self), attempted.session_eq]

end Meets

/-! ## How far it came -/

section Launches

variable {build after : Build} {beside : Handle} {need : Need} {rest : List Need}
  {calls : List CallMade} {image : String}

theorem isLaunch_launch (answer : Except EngineError Handle) :
    (need.launch image beside answer).isLaunch = true := by
  obtain ⟨slot, source, hints⟩ := need
  cases slot <;> rfl

theorem launched_launch (container : Handle) :
    (need.launch image beside (.ok container)).launched = some container := by
  obtain ⟨slot, source, hints⟩ := need
  cases slot <;> rfl

theorem launched_launch_error (cause : EngineError) :
    (need.launch image beside (.error cause)).launched = none := by
  obtain ⟨slot, source, hints⟩ := need
  cases slot <;> rfl

theorem not_isLaunch_of_asks {source : ImageSource} {call : CallMade}
    (asks : source.Asks call.question) : call.isLaunch = false ∧ call.launched = none := by
  obtain ⟨question, answer⟩ := call
  cases asks <;> exact ⟨rfl, rfl⟩

theorem ImageKnown.asks {source : ImageSource} {result : Except ProvisionError String}
    (known : ImageKnown build source result calls after) :
    ∀ call ∈ calls, source.Asks call.question := by
  cases known with
  | known => exact List.forall_mem_nil _
  | resolved _ resolved => exact resolved.asks
  | failed _ resolved => exact resolved.asks

/-- On the way to an image nothing is launched. -/
theorem launches_of_asks {source : ImageSource}
    (asks : ∀ call ∈ calls, source.Asks call.question) :
    launchesIn calls = [] ∧ launchedBy calls = [] := by
  constructor
  · refine List.filter_eq_nil_iff.mpr fun call member => ?_
    rw [(not_isLaunch_of_asks (asks call member)).1]
    exact Bool.false_ne_true
  · exact List.filterMap_eq_nil_iff.mpr fun call member =>
      (not_isLaunch_of_asks (asks call member)).2

/-- An attempt ends with a launch, unless it does not come to that. -/
theorem launchesIn_concat (asks : ∀ call ∈ calls, need.source.Asks call.question)
    (answer : Except EngineError Handle) :
    launchesIn (calls ++ [need.launch image beside answer]) = [need.launch image beside answer] := by
  rw [launchesIn, List.filter_append, ← launchesIn, (launches_of_asks asks).1, List.nil_append,
    List.filter_cons_of_pos (isLaunch_launch answer), List.filter_nil]

theorem Need.ifVacant_eq_cons {held : Option Handle} {other : Need}
    (needed : need.ifVacant held = other :: rest) : other = need ∧ rest = [] := by
  cases held with
  | none =>
    obtain ⟨rfl, rfl⟩ := List.cons.inj needed
    exact ⟨rfl, rfl⟩
  | some container => cases needed

/-- What was needed first and is there then is not needed any more. -/
theorem needs_holding (needed : build.needs = need :: rest) (container : Handle) :
    (build.holding need.slot container).needs = rest := by
  simp only [needs, holding, Session.phase_holding] at needed ⊢
  cases phase : build.session.phase with
  | preCheckout =>
    simp only [phase] at needed ⊢
    obtain ⟨rfl, rfl⟩ := Need.ifVacant_eq_cons needed
    rfl
  | build =>
    simp only [phase, neededSidecars] at needed ⊢
    cases still : build.declared.sidecars.drop build.session.sidecars.length with
    | nil =>
      rw [still, List.map_nil, List.nil_append] at needed
      obtain ⟨rfl, rfl⟩ := Need.ifVacant_eq_cons needed
      change (build.declared.sidecars.drop build.session.sidecars.length).map _ ++ [] = []
      rw [still, List.map_nil, List.nil_append]
    | cons sidecar more =>
      rw [still, List.map_cons, List.cons_append] at needed
      obtain ⟨rfl, rfl⟩ := List.cons.inj needed
      have count : ((build.session.holding (.sidecar sidecar.name) container).sidecars).length =
          build.session.sidecars.length + 1 := List.length_append
      change (build.declared.sidecars.drop (build.session.holding (.sidecar sidecar.name)
        container).sidecars.length).map _ ++ _ = _
      rw [count, ← List.tail_drop, still]
      rfl

end Launches

/-- How meeting needs ended: with nothing left, or with a need that was not met, and the launch
that failed if it came to that. -/
inductive Ended (beside : Handle) (after : Build) :
    Except ProvisionError Unit → List Need → List CallMade → Prop where
  | all : Ended beside after (.ok ()) [] []
  | collided {need : Need} {rest : List Need} {name : String} (slot : need.slot = .sidecar name)
      (taken : name ∈ after.session.sidecarNames) :
      Ended beside after (.error (.sidecarCollision name)) (need :: rest) []
  | noImage {need : Need} {rest : List Need} {cause : ResolutionError}
      (vacant : after.session.held need.slot = none) (unknown : after.tag? need.source = none) :
      Ended beside after (.error (.imageResolutionFailed need.source.describe cause))
        (need :: rest) []
  | notLaunched {need : Need} {rest : List Need} {image : String} {cause : EngineError}
      (vacant : after.session.held need.slot = none)
      (known : after.tag? need.source = some image) :
      Ended beside after (.error (.creationFailed need.slot.resource image cause))
        (need :: rest) [need.launch image beside (.error cause)]

/-- **How far meeting needs came.** Those in `met` have a container each that was launched for
them, in order, and those in `rest` are still needed. -/
structure Progress (beside : Handle) (build : Build) (needs : List Need)
    (result : Except ProvisionError Unit) (calls : List CallMade) (after : Build)
    (met rest : List Need) : Prop where
  split : needs = met ++ rest
  entered : List.Forall₂ (fun need container =>
    build.session.held need.slot = none ∧ after.session.held need.slot = some container)
      met (launchedBy calls)
  launches : ∃ launches last, launchesIn calls = launches ++ last ∧
    Ended beside after result rest last ∧ List.Forall₂ (fun need launch =>
      ∃ image container, after.tag? need.source = some image ∧
        launch = need.launch image beside (.ok container)) met launches
  left : build.needs = needs → after.needs = rest

section Progress

variable {beside : Handle} {need : Need} {needs : List Need} {build after : Build}
  {result : Except ProvisionError Unit} {calls : List CallMade}

theorem Attempted.needs_eq {result : Except ProvisionError Handle}
    (attempted : Attempted beside need build result calls after) : after.needs = build.needs := by
  rw [attempted.after_eq]
  rfl

/-- An attempt that fails launches nothing, and it was the last. -/
theorem Attempted.fails {cause : ProvisionError}
    (attempted : Attempted beside need build (.error cause) calls after)
    (vacant : build.session.held need.slot = none) (rest : List Need) :
    launchedBy calls = [] ∧ Ended beside after (.error cause) (need :: rest) (launchesIn calls) := by
  rw [← attempted.session_eq] at vacant
  cases attempted with
  | noImage unknown =>
    have none := launches_of_asks unknown.asks
    rw [none.1]
    cases unknown with
    | failed unresolved resolved => exact ⟨none.2, .noImage vacant unresolved⟩
  | notLaunched cause known =>
    rw [launchesIn_concat known.asks]
    refine ⟨?_, .notLaunched vacant known.tag?_eq⟩
    rw [launchedBy_append, (launches_of_asks known.asks).2, List.nil_append, launchedBy,
      List.filterMap_cons_none (launched_launch_error cause), List.filterMap_nil]

/-- An attempt that succeeds launches one container. -/
theorem Attempted.succeeds {container : Handle}
    (attempted : Attempted beside need build (.ok container) calls after) :
    launchedBy calls = [container] ∧ ∃ image, after.tag? need.source = some image ∧
      launchesIn calls = [need.launch image beside (.ok container)] := by
  cases attempted with
  | launched container known =>
    refine ⟨?_, _, known.tag?_eq, launchesIn_concat known.asks _⟩
    rw [launchedBy_append, (launches_of_asks known.asks).2, List.nil_append, launchedBy,
      List.filterMap_cons_some (launched_launch container), List.filterMap_nil]

theorem Attempted.unrun {result : Except ProvisionError Handle}
    (attempted : Attempted beside need build result calls after) {container : String}
    {starter : Starter} {answer : Except EngineError Running} :
    ⟨.exec container starter, answer⟩ ∉ calls := by
  have asked {source : ImageSource} {calls : List CallMade}
      (asks : ∀ call ∈ calls, source.Asks call.question) :
      ⟨.exec container starter, answer⟩ ∉ calls := fun member => by
    cases asks _ member
  have launch {image : String} {other : Except EngineError Handle} :
      ⟨.exec container starter, answer⟩ ≠ need.launch image beside other := fun same => by
    have launches : (need.launch image beside other).isLaunch = true := isLaunch_launch other
    rw [← same] at launches
    cases launches
  cases attempted with
  | noImage unknown => exact asked unknown.asks
  | notLaunched cause known =>
    exact fun member => (List.mem_append.mp member).elim (asked known.asks)
      fun last => launch (List.mem_singleton.mp last)
  | launched made known =>
    exact fun member => (List.mem_append.mp member).elim (asked known.asks)
      fun last => launch (List.mem_singleton.mp last)

/-- A build that keeps a tag knows it for the sources that had none. -/
theorem tag?_keepingTag (build : Build) (source other : ImageSource) (tag : String) :
    (build.keepingTag source tag).tag? other =
      (build.tag? other).or (if source.same other then some tag else none) := by
  simp only [tag?, keepingTag, List.find?_append, List.find?_cons, List.find?_nil, Option.map_or]
  cases source.same other <;> rfl

theorem Attempted.tag_kept {source : ImageSource} {tag : String}
    {result : Except ProvisionError Handle}
    (attempted : Attempted beside need build result calls after)
    (known : build.tag? source = some tag) : after.tag? source = some tag := by
  have kept {result : Except ProvisionError String} {calls : List CallMade}
      (image : ImageKnown build need.source result calls after) : after.tag? source = some tag := by
    cases image with
    | known => exact known
    | resolved => rw [tag?_keepingTag, known, Option.some_or]
    | failed => exact known
  cases attempted with
  | noImage unknown => exact kept unknown
  | notLaunched cause image => exact kept image
  | launched container image => exact kept image

/-- What is in a slot was there or was launched. -/
theorem Meets.held_added {slot : Slot} {container : Handle}
    (meets : Meets beside needs build result calls after)
    (held : after.session.held slot = some container) :
    build.session.held slot = some container ∨ container ∈ launchedBy calls := by
  induction meets with
  | met build => exact .inl held
  | noted complete _ ih => exact ih held
  | collided taken => exact .inl held
  | failed vacant attempted => exact .inl (attempted.session_eq ▸ held)
  | @launched need _ build middle _ new _ calls more vacant attempted _ ih =>
    have here : launchedBy calls = [new] := attempted.succeeds.1
    rw [launchedBy_append, here]
    rcases ih held with before | later
    · by_cases same : slot = need.slot
      · rw [same, holding, Session.held_holding_self new (attempted.session_eq ▸ vacant)] at before
        exact .inr (List.mem_append_left _ (Option.some.inj before ▸ List.mem_singleton_self _))
      · rw [holding, Session.held_holding_of_ne new same, attempted.session_eq] at before
        exact .inl before
    · exact .inr (List.mem_append_right _ later)

/-- On the way to containers no process is started. -/
theorem Meets.unrun (meets : Meets beside needs build result calls after) {container : String}
    {starter : Starter} {answer : Except EngineError Running} :
    ⟨.exec container starter, answer⟩ ∉ calls := by
  induction meets with
  | met build => exact List.not_mem_nil
  | noted complete _ ih => exact ih
  | collided slot taken => exact List.not_mem_nil
  | failed vacant attempted => exact attempted.unrun
  | launched vacant attempted _ ih =>
    exact fun member => (List.mem_append.mp member).elim attempted.unrun ih

/-- A tag that is known stays known. -/
theorem Meets.tag_kept {source : ImageSource} {tag : String}
    (meets : Meets beside needs build result calls after)
    (known : build.tag? source = some tag) : after.tag? source = some tag := by
  induction meets with
  | met build => exact known
  | noted complete _ ih => exact ih known
  | collided slot taken => exact known
  | failed vacant attempted => exact attempted.tag_kept known
  | launched vacant attempted _ ih => exact ih (attempted.tag_kept known)

/-- A slot that is vacant beside one that is taken was vacant before. -/
theorem held_of_holding {slot other : Slot} {container : Handle}
    (vacant : build.session.held slot = none)
    (held : (build.holding slot container).session.held other = none) :
    build.session.held other = none := by
  have differ : other ≠ slot := by
    rintro rfl
    cases held.symm.trans (Session.held_holding_self container vacant)
  rwa [holding, Session.held_holding_of_ne container differ] at held

/-- **Needs are met from the front**, and what is not met is still needed. -/
theorem Meets.progress (meets : Meets beside needs build result calls after) :
    ∃ met rest, Progress beside build needs result calls after met rest := by
  induction meets with
  | met build => exact ⟨[], [], rfl, .nil, ⟨[], [], rfl, .all, .nil⟩, id⟩
  | noted complete _ ih =>
    obtain ⟨met, rest, progress⟩ := ih
    exact ⟨met, rest, progress.split, progress.entered, progress.launches, progress.left⟩
  | collided slot taken =>
    exact ⟨[], _, rfl, .nil, ⟨[], [], rfl, .collided slot taken, .nil⟩, id⟩
  | failed vacant attempted =>
    obtain ⟨none, ended⟩ := attempted.fails vacant _
    exact ⟨[], _, rfl, none ▸ .nil, ⟨[], _, rfl, ended, .nil⟩, attempted.needs_eq.trans⟩
  | @launched need needs build middle after container result calls more vacant attempted meets ih =>
    obtain ⟨met, rest, progress⟩ := ih
    obtain ⟨launches, last, further, ended, each⟩ := progress.launches
    obtain ⟨here, image, known, launch⟩ := attempted.succeeds
    have vacant' : middle.session.held need.slot = none := attempted.session_eq ▸ vacant
    refine ⟨need :: met, rest, congrArg _ progress.split, ?_, ?_, fun needed => ?_⟩
    · rw [launchedBy_append, here]
      refine .cons ⟨vacant, meets.held_kept ?_⟩ (progress.entered.imp ?_)
      · exact Session.held_holding_self container vacant'
      · rintro other second ⟨before, now⟩
        exact ⟨attempted.session_eq ▸ held_of_holding vacant' before, now⟩
    · refine ⟨need.launch image beside (.ok container) :: launches, last, ?_, ended, ?_⟩
      · rw [launchesIn, List.filter_append, ← launchesIn, ← launchesIn, launch, further]
        rfl
      · exact .cons ⟨image, container, meets.tag_kept known, rfl⟩ each
    · refine progress.left (needs_holding ?_ container)
      exact attempted.needs_eq.trans needed

end Progress

end Build

end BuildYard
