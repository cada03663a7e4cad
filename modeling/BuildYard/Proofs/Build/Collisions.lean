import BuildYard.Proofs.Build.Setbacks

/-!
# Sidecars of one name

Two sidecars of one name cannot both run. Of a set that declares such, the first
sidecar whose name is taken (`CollidesAt`) holds back all that comes after it,
whatever fails and however often it is tried: in no run is a container launched
for it, for a later sidecar or for the work itself, and no process of the build
phase is started. A process is refused for that name unless one of the sidecars
in front cannot be launched. Where all names differ, none is ever refused for
its name (`collision_holds_back`).
-/

set_option autoImplicit false

namespace BuildYard

namespace ContainerSet

/-- The sidecar `second` is the first whose name is taken, by one of those in front. -/
structure CollidesAt (declared : ContainerSet) (front : List Sidecar) (second : Sidecar) : Prop where
  behind : front ++ [second] <+: declared.sidecars
  distinct : (front.map (·.name)).Nodup
  taken : second.name ∈ front.map (·.name)

/-- If not all names differ, there is a first sidecar whose name is taken. -/
theorem exists_collidesAt {declared : ContainerSet}
    (repeated : ¬ (declared.sidecars.map (·.name)).Nodup) :
    ∃ front second, declared.CollidesAt front second := by
  suffices found : ∀ sidecars : List Sidecar, ¬ (sidecars.map (·.name)).Nodup →
      ∃ front second, front ++ [second] <+: sidecars ∧ (front.map (·.name)).Nodup ∧
        second.name ∈ front.map (·.name) by
    obtain ⟨front, second, behind, distinct, taken⟩ := found declared.sidecars repeated
    exact ⟨front, second, behind, distinct, taken⟩
  intro sidecars repeated
  induction sidecars using List.reverseRecOn with
  | nil => exact absurd List.nodup_nil repeated
  | append_singleton front second ih =>
    by_cases distinct : (front.map (·.name)).Nodup
    · refine ⟨front, second, List.prefix_rfl, distinct, ?_⟩
      rw [List.map_append, List.nodup_append] at repeated
      by_contra new
      refine repeated ⟨distinct, List.nodup_singleton _, ?_⟩
      rintro name old _ fresh rfl
      obtain rfl := List.mem_singleton.mp fresh
      exact new old
    · obtain ⟨front', second', behind, rest⟩ := ih distinct
      exact ⟨front', second', behind.trans (List.prefix_append _ _), rest⟩

end ContainerSet

namespace Build

/-- The call was to launch a container for a need, from the tag of its image and whatever came
of it. -/
def Need.LaunchedFor (after : Build) (need : Need) (call : CallMade) : Prop :=
  ∃ image beside answer, after.tag? need.source = some image ∧
    call = need.launch image beside answer

/-! ## Where meeting needs ends -/

section Meets

variable {beside : Handle} {needs : List Need} {build after : Build} {cause : ProvisionError}
  {result : Except ProvisionError Unit} {calls : List CallMade}

/-- Launches are for the first of the needs, one for each. -/
theorem Meets.tried (meets : Meets beside needs build result calls after) :
    ∃ met rest tried, needs = met ++ rest ∧ (build.needs = needs → after.needs = rest) ∧
      tried <+: needs ∧ List.Forall₂ (Need.LaunchedFor after) tried (launchesIn calls) ∧
        (tried = met ∨ ∃ need, tried = met ++ [need] ∧ need ∈ rest.head? ∧
          after.session.held need.slot = none) := by
  obtain ⟨met, rest, progress⟩ := meets.progress
  obtain ⟨launches, last, made, ended, each⟩ := progress.launches
  have each : List.Forall₂ (Need.LaunchedFor after) met launches := by
    refine each.imp ?_
    rintro need launch ⟨image, container, known, same⟩
    exact ⟨image, beside, .ok container, known, same⟩
  refine ⟨met, rest, ?_⟩
  rw [made, progress.split]
  cases ended with
  | all | collided | noImage =>
    refine ⟨met, rfl, progress.split ▸ progress.left, List.prefix_append _ _, ?_, .inl rfl⟩
    rwa [List.append_nil]
  | @notLaunched need rest image reason vacant known =>
    refine ⟨met ++ [need], rfl, progress.split ▸ progress.left,
      ⟨rest, by rw [List.append_assoc, List.singleton_append]⟩, ?_, .inr ⟨need, rfl, rfl, vacant⟩⟩
    exact List.rel_append each (.cons ⟨image, beside, _, known, rfl⟩ .nil)

/-- Why a need was not met that others came before: another sidecar has its name, or the attempt
for it, the last thing that was done, failed. -/
inductive Unmet (need : Need) (cause : ProvisionError) (calls : List CallMade) (after : Build) :
    Prop where
  | collided {name : String} (slot : need.slot = .sidecar name)
      (taken : name ∈ after.session.sidecarNames) (same : cause = .sidecarCollision name) :
      Unmet need cause calls after
  | failed {beside : Handle} {middle : Build} {earlier last : List CallMade}
      (split : calls = earlier ++ last) (vacant : after.session.held need.slot = none)
      (attempted : Attempted beside need middle (.error cause) last after) :
      Unmet need cause calls after

/-- **If not all needs are met, there is a first that is not.** -/
theorem Meets.unmet (meets : Meets beside needs build (.error cause) calls after) :
    ∃ need rest, (build.needs = needs → after.needs = need :: rest) ∧
      Unmet need cause calls after := by
  generalize equal : (Except.error cause : Except ProvisionError Unit) = stopped at meets
  induction meets with
  | met build => cases equal
  | noted complete _ ih => exact ih equal
  | @collided need needs build name slot taken =>
    exact ⟨need, needs, id, .collided slot taken (Except.error.inj equal)⟩
  | @failed need needs build after reason calls vacant attempted =>
    obtain rfl := Except.error.inj equal
    refine ⟨need, needs, attempted.needs_eq.trans, ?_⟩
    exact .failed (List.nil_append _).symm (attempted.session_eq ▸ vacant) attempted
  | @launched need needs build middle after container result calls more vacant attempted _ ih =>
    obtain ⟨last, rest, left, unmet⟩ := ih equal
    refine ⟨last, rest, fun needed => left (needs_holding ?_ container), ?_⟩
    · exact attempted.needs_eq.trans needed
    · cases unmet with
      | collided slot taken same => exact .collided slot taken same
      | failed split vacant attempted =>
        exact .failed (by rw [split, List.append_assoc]) vacant attempted

end Meets

/-! ## What runs in front of a taken name -/

section Front

variable {front : List Sidecar} {second : Sidecar} {build : Build}

/-- Of names that differ none that is left is one of the first. -/
theorem not_mem_of_left {first names : List String} {name : String} (prefixed : first <+: names)
    (distinct : names.Nodup) (left : name ∈ names.drop first.length) : name ∉ first := by
  obtain ⟨rest, rfl⟩ := prefixed
  rw [List.drop_left] at left
  exact fun member => (List.nodup_append.mp distinct).2.2 _ member _ left rfl

/-- Only sidecars in front of a taken name run. -/
theorem Orderly.names_front (orderly : build.Orderly)
    (collides : build.declared.CollidesAt front second) :
    build.session.sidecarNames <+: front.map (·.name) := by
  have behind : front.map (·.name) ++ [second.name] <+: build.declaredNames := by
    have names := collides.behind.map (·.name)
    rwa [List.map_append] at names
  rcases List.prefix_or_prefix_of_prefix behind orderly.named with more | first
  · -- a run of the second one beside that of its name is no run once
    have once := more.sublist.nodup orderly.once
    rw [List.nodup_append] at once
    exact absurd rfl (once.2.2 _ collides.taken _ (List.mem_singleton_self _))
  · rcases List.prefix_concat_iff.mp first with all | inside
    · have once := orderly.once
      rw [all, List.nodup_append] at once
      exact absurd rfl (once.2.2 _ collides.taken _ (List.mem_singleton_self _))
    · exact inside

theorem Orderly.count_le (orderly : build.Orderly)
    (collides : build.declared.CollidesAt front second) :
    build.session.sidecars.length ≤ front.length := by
  simpa only [Session.sidecarNames, List.length_map] using (orderly.names_front collides).length_le

/-- What is needed begins with what is left of those in front, and the second one. -/
theorem Orderly.needs_front (orderly : build.Orderly) (phase : build.session.phase = .build)
    (collides : build.declared.CollidesAt front second) :
    ∃ rest, build.needs =
      (front.drop build.session.sidecars.length).map Need.sidecar ++ .sidecar second :: rest := by
  obtain ⟨later, declared⟩ := collides.behind
  refine ⟨later.map Need.sidecar ++ (Need.work build.declared).ifVacant build.session.work, ?_⟩
  have few := orderly.count_le collides
  simp only [needs, phase, neededSidecars, ← declared]
  rw [List.append_assoc, List.drop_append_of_le_length few]
  simp

/-- **The next that is needed** is one of those in front, and does not run, or is the second one
behind all of those. -/
theorem Orderly.next_front (orderly : build.Orderly) (phase : build.session.phase = .build)
    (collides : build.declared.CollidesAt front second) {need : Need} {rest : List Need}
    (needed : build.needs = need :: rest) :
    (∃ sidecar ∈ front, need = .sidecar sidecar ∧
        build.session.sidecars.length < front.length ∧
        sidecar.name ∉ build.session.sidecarNames) ∨
      need = .sidecar second ∧ build.session.sidecarNames = front.map (·.name) := by
  obtain ⟨more, needs⟩ := orderly.needs_front phase collides
  have names := List.prefix_iff_eq_take.mp (orderly.names_front collides)
  rw [Session.sidecarNames, List.length_map] at names
  rw [needed] at needs
  cases left : front.drop build.session.sidecars.length with
  | nil =>
    rw [left, List.map_nil, List.nil_append] at needs
    refine .inr ⟨(List.cons.inj needs).1, names.trans (List.take_of_length_le ?_)⟩
    rw [List.length_map]
    exact List.drop_eq_nil_iff.mp left
  | cons sidecar others =>
    rw [left, List.map_cons, List.cons_append] at needs
    have member : sidecar ∈ front.drop build.session.sidecars.length :=
      left ▸ List.mem_cons_self
    refine .inl ⟨sidecar, List.mem_of_mem_drop member, (List.cons.inj needs).1, ?_, ?_⟩
    · refine Nat.not_le.mp fun all => ?_
      rw [List.drop_of_length_le all] at left
      cases left
    · refine not_mem_of_left (orderly.names_front collides) collides.distinct ?_
      rw [Session.sidecarNames, List.length_map, ← List.map_drop]
      exact List.mem_map_of_mem member

end Front

/-! ## What a turn comes to -/

/-- What may be launched behind a taken name: before the build phase a checkout container, and in it
those of the sidecars in front that do not run. -/
def allowedNeeds (settings : Settings) (front : List Sidecar) (build : Build) : List Need :=
  match build.session.phase with
  | .preCheckout => [.checkout settings]
  | .build => (front.drop build.session.sidecars.length).map Need.sidecar

namespace Turn

/-- The turn ended with an attempt to resolve and to launch `sidecar` that failed. -/
def FailedFor (turn : Turn) (sidecar : Sidecar) : Prop :=
  ∃ cause beside middle earlier last, turn.result = .error cause ∧ turn.calls = earlier ++ last ∧
    Attempted beside (.sidecar sidecar) middle (.error cause) last turn.after

/-- **What a turn does not do behind a taken name**: of what may be launched the first are, one after
another, as far as it comes, and no process of the build phase is started. -/
structure HeldBack (turn : Turn) (settings : Settings) (front : List Sidecar) (second : Sidecar) :
    Prop where
  launches : ∃ tried, tried <+: turn.before.allowedNeeds settings front ∧
    List.Forall₂ (Need.LaunchedFor turn.after) tried (launchesIn turn.calls)
  unrun : turn.before.session.phase = .build → ∀ container starter answer,
    ⟨.exec container starter, answer⟩ ∉ turn.calls
  running : turn.after.session.sidecarNames <+: front.map (·.name)
  noWork : turn.after.session.work = none
  /-- a process is refused for the name, while all in front run, or one of them failed -/
  refused : ∀ starter, turn.request = .runProcess starter → turn.before.session.phase = .build →
    turn.before.session.agent.isSome →
      turn.result = .error (.sidecarCollision second.name) ∧
          turn.after.session.sidecarNames = front.map (·.name) ∨
        ∃ sidecar ∈ front, turn.FailedFor sidecar

end Turn

section Turns

variable {front : List Sidecar} {second : Sidecar} {build after : Build} {aim : Aim}
  {calls : List CallMade}

theorem Orderly.not_complete (orderly : build.Orderly)
    (collides : build.declared.CollidesAt front second) : ¬ build.Complete := by
  intro complete
  have few := (orderly.names_front collides).length_le
  have all := (collides.behind.map (·.name)).length_le
  rw [show build.session.sidecarNames = build.declaredNames from complete] at few
  rw [List.map_append, List.length_append, List.map_singleton, List.length_singleton] at all
  exact absurd (Nat.le_trans all few) (Nat.not_succ_le_self _)

/-- Without all sidecars no work container is launched. -/
theorem Moves.work_none (moves : Moves aim build calls after) (orderly : build.Orderly)
    (collides : build.declared.CollidesAt front second) (vacant : build.session.work = none) :
    after.session.work = none := by
  induction moves with
  | refl => exact vacant
  | settle settles _ ih =>
    exact ih (settles.orderly orderly) (settles.sameFrame.declared ▸ collides)
      (settles.session.symm ▸ vacant)
  | call move _ ih =>
    refine ih (move.orderly orderly) (move.sameFrame.declared ▸ collides) ?_
    cases move with
    | launchAgent volume answer => cases answer <;> exact vacant
    | launchCheckout _ _ _ _ answer => cases answer <;> exact vacant
    | launchWork _ complete => exact absurd complete (orderly.not_complete collides)
    | launchSidecar _ _ _ _ answer => cases answer <;> exact vacant
    | _ => exact vacant

/-- Only for a process are containers launched beside the agent, or processes started. -/
theorem Moves.idle (moves : Moves aim build calls after) (other : aim ≠ .process) :
    launchesIn calls = [] ∧
      ∀ container starter answer, ⟨.exec container starter, answer⟩ ∉ calls := by
  induction moves with
  | refl => exact ⟨rfl, fun _ _ _ => List.not_mem_nil⟩
  | settle _ _ ih => exact ih
  | call move _ ih =>
    obtain ⟨launches, unrun⟩ := ih
    cases move with
    | askImage | launchCheckout | launchWork | launchSidecar | exec => exact absurd rfl other
    | _ =>
      refine ⟨launches, fun container starter answer member => ?_⟩
      cases member with
      | tail _ later => exact unrun container starter answer later

/-- Clearing away launches and starts nothing. -/
theorem Cleared.idle {result : Except ProvisionError Unit}
    (cleared : Cleared build result calls after) :
    launchesIn calls = [] ∧
      ∀ container starter answer, ⟨.exec container starter, answer⟩ ∉ calls := by
  refine ⟨List.filter_eq_nil_iff.mpr fun call member => ?_, fun _ _ _ member => ?_⟩
  · have clears := cleared.clears call member
    obtain ⟨question, answer⟩ := call
    cases question <;> first | exact clears.elim | exact Bool.false_ne_true
  · exact cleared.clears _ member

/-- Only for a process anything is launched beside the agent, or started. -/
theorem Went.idle_of_other {request : Request} {result : Except ProvisionError Unit}
    (went : Went build request result calls after)
    (other : ∀ starter, request ≠ .runProcess starter) :
    launchesIn calls = [] ∧
      ∀ container starter answer, ⟨.exec container starter, answer⟩ ∉ calls := by
  cases went with
  | prepared prepared => exact prepared.moves.idle nofun
  | attached attached => exact attached.moves.idle nofun
  | held attached => exact attached.moves.idle nofun
  | ran moves => exact absurd rfl (other _)
  | advanced => exact ⟨rfl, fun _ _ _ => List.not_mem_nil⟩
  | cleared cleared => exact cleared.idle

/-- The slot of a sidecar is vacant if the sidecar does not run, and only then. -/
theorem held_sidecar_eq_none {sidecar : Sidecar}
    (vacant : build.session.held (Need.sidecar sidecar).slot = none) :
    sidecar.name ∉ build.session.sidecarNames := by
  rw [← sidecar?_isSome_iff, Option.not_isSome_iff_eq_none]
  exact vacant

/-- As many needs are left as sidecars do not run, and the work container. -/
theorem length_needs (phase : build.session.phase = .build) (vacant : build.session.work = none) :
    build.needs.length = build.declared.sidecars.length - build.session.sidecars.length + 1 := by
  simp only [needs, phase, neededSidecars, vacant, Need.ifVacant, Option.isSome_none,
    Bool.false_eq_true, if_false, List.length_append, List.length_map, List.length_drop,
    List.length_singleton]

section Meets

variable {beside : Handle}

/-- What is tried is allowed. -/
theorem Meets.allowed {result : Except ProvisionError Unit}
    (meets : Meets beside build.needs build result calls after) (orderly : build.Orderly)
    (orderly' : after.Orderly) (collides : build.declared.CollidesAt front second)
    (vacant : build.session.work = none) (vacant' : after.session.work = none) :
    ∃ tried, tried <+: build.allowedNeeds build.settings front ∧
      List.Forall₂ (Need.LaunchedFor after) tried (launchesIn calls) := by
  obtain ⟨met, rest, tried, split, left, first, each, last⟩ := meets.tried
  refine ⟨tried, ?_, each⟩
  cases phase : build.session.phase with
  | preCheckout =>
    refine first.trans ?_
    simp only [needs, allowedNeeds, phase, Need.ifVacant]
    by_cases there : build.session.checkout.isSome = true
    · rw [if_pos there]
      exact List.nil_prefix
    · simp only [if_neg there, List.prefix_rfl]
  | build =>
    have phase' : after.session.phase = .build := meets.sameFrame.phase.trans phase
    have declared := meets.sameFrame.declared
    have collides' : after.declared.CollidesAt front second := declared ▸ collides
    obtain ⟨more, needs⟩ := orderly.needs_front phase collides
    simp only [allowedNeeds, phase]
    -- both are the first of the needs, so it is enough that no more are tried than are left in front
    refine List.prefix_of_prefix_length_le first (needs ▸ List.prefix_append _ _) ?_
    have few := orderly'.count_le collides'
    have front_le := collides.behind.length_le
    have lengths := congrArg List.length split
    rw [List.length_append, length_needs phase vacant, ← left rfl, length_needs phase' vacant',
      declared] at lengths
    rw [List.length_append, List.length_singleton] at front_le
    rw [List.length_map, List.length_drop]
    rcases last with rfl | ⟨need, rfl, next, free⟩
    · omega
    · obtain ⟨others, rfl⟩ : ∃ others, rest = need :: others := by
        cases rest with
        | nil => cases next
        | cons head others => exact ⟨others, by rw [Option.some.inj next]⟩
      have inside : after.session.sidecars.length < front.length := by
        rcases orderly'.next_front phase' collides' (left rfl) with ⟨-, -, -, inside, -⟩ | ⟨rfl, all⟩
        · exact inside
        · exact absurd (all ▸ collides.taken) (held_sidecar_eq_none free)
      rw [List.length_append, List.length_singleton]
      omega

/-- **Behind a taken name needs are never all met**: a process is refused for the name while all
sidecars in front run, or the attempt for one of them failed. -/
theorem Meets.refused {result : Except ProvisionError Unit}
    (meets : Meets beside build.needs build result calls after) (orderly : after.Orderly)
    (phase : build.session.phase = .build) (collides : build.declared.CollidesAt front second) :
    ∃ cause, result = .error cause ∧
      (cause = .sidecarCollision second.name ∧
          after.session.sidecarNames = front.map (·.name) ∨
        ∃ sidecar ∈ front, ∃ beside middle earlier last, calls = earlier ++ last ∧
          Attempted beside (.sidecar sidecar) middle (.error cause) last after) := by
  have phase' : after.session.phase = .build := meets.sameFrame.phase.trans phase
  have collides' : after.declared.CollidesAt front second := meets.sameFrame.declared ▸ collides
  cases result with
  | ok done =>
    obtain ⟨more, needs⟩ := orderly.needs_front phase' collides'
    obtain ⟨met, rest, progress⟩ := meets.progress
    obtain ⟨launches, last, -, ended, -⟩ := progress.launches
    have none : after.needs = [] := by
      rw [progress.left rfl]
      cases ended
      rfl
    simp [none] at needs
  | error cause =>
    refine ⟨cause, rfl, ?_⟩
    obtain ⟨need, rest, left, unmet⟩ := meets.unmet
    rcases orderly.next_front phase' collides' (left rfl) with
      ⟨sidecar, member, rfl, -, idle⟩ | ⟨rfl, all⟩
    · cases unmet with
      | collided slot taken same => exact absurd (Slot.sidecar.inj slot ▸ taken) idle
      | failed split vacant attempted => exact .inr ⟨sidecar, member, _, _, _, _, split, attempted⟩
    · cases unmet with
      | collided slot taken same => exact .inl ⟨Slot.sidecar.inj slot ▸ same, all⟩
      | failed split vacant attempted =>
        exact absurd (all ▸ collides.taken) (held_sidecar_eq_none vacant)

end Meets

/-- Behind a taken name a process launches what is allowed at most, and in the build phase it does
not run. -/
theorem Processed.heldBack {starter : Starter} {result : Except ProvisionError Running}
    (processed : Processed build starter result calls after) (orderly : build.Orderly)
    (orderly' : after.Orderly) (collides : build.declared.CollidesAt front second)
    (vacant : build.session.work = none) (vacant' : after.session.work = none) :
    (∃ tried, tried <+: build.allowedNeeds build.settings front ∧
      List.Forall₂ (Need.LaunchedFor after) tried (launchesIn calls)) ∧
    (build.session.phase = .build →
      (∀ container starter answer, ⟨.exec container starter, answer⟩ ∉ calls) ∧
      (build.session.agent.isSome → ∃ cause, result = .error cause ∧
        (cause = .sidecarCollision second.name ∧
            after.session.sidecarNames = front.map (·.name) ∨
          ∃ sidecar ∈ front, ∃ beside middle earlier last, calls = earlier ++ last ∧
            Attempted beside (.sidecar sidecar) middle (.error cause) last after))) := by
  cases processed with
  | notPrepared unrecorded =>
    refine ⟨⟨[], List.nil_prefix, .nil⟩, fun _ => ⟨fun _ _ _ => List.not_mem_nil, fun prepared => ?_⟩⟩
    rw [unrecorded] at prepared
    cases prepared
  | stopped recorded meets =>
    refine ⟨meets.allowed orderly orderly' collides vacant vacant', fun phase => ⟨?_, fun _ => ?_⟩⟩
    · exact fun _ _ _ => meets.unrun
    · obtain ⟨cause, failed, refused⟩ := meets.refused orderly' phase collides
      obtain rfl := Except.error.inj failed
      exact ⟨_, rfl, refused⟩
  | ran recorded meets current answer =>
    rw [(launches_concat_exec _ _ _ answer).1]
    refine ⟨meets.allowed orderly orderly' collides vacant vacant', fun phase => ?_⟩
    obtain ⟨cause, failed, -⟩ := meets.refused orderly' phase collides
    cases failed

end Turns

/-! ## Names that all differ -/

section Distinct

variable {build after : Build} {calls : List CallMade}

/-- An operation fails for other reasons than that a name is taken. -/
def NotRefused {α : Type} (result : Except ProvisionError α) : Prop :=
  ∀ name, result ≠ .error (.sidecarCollision name)

theorem notRefused_ok {α : Type} (value : α) :
    NotRefused (.ok value : Except ProvisionError α) := by
  rintro name ⟨⟩

theorem notRefused_notPrepared {α : Type} :
    NotRefused (.error .agentNotPrepared : Except ProvisionError α) := by
  rintro name ⟨⟩

theorem NotRefused.map {α β : Type} {f : α → β} {result : Except ProvisionError α}
    (other : NotRefused result) : NotRefused (result.map f) := by
  cases result with
  | ok value => exact notRefused_ok _
  | error cause => exact fun name same => other name (congrArg Except.error (Except.error.inj same))

theorem notRefused_mapError {α : Type} {wrap : EngineError → ProvisionError}
    (other : ∀ cause name, wrap cause ≠ .sidecarCollision name) (answer : Except EngineError α) :
    NotRefused (answer.mapError wrap) := by
  cases answer with
  | ok value => exact notRefused_ok _
  | error cause => exact fun name same => other cause name (Except.error.inj same)

/-- Where all names differ, no sidecar has the name of one that is needed. -/
theorem Orderly.not_running (orderly : build.Orderly) (distinct : build.declaredNames.Nodup)
    {need : Need} {rest : List Need} {name : String} (needed : build.needs = need :: rest)
    (slot : need.slot = .sidecar name) : name ∉ build.session.sidecarNames := by
  simp only [needs] at needed
  split at needed
  · obtain ⟨rfl, -⟩ := Need.ifVacant_eq_cons needed
    cases slot
  · cases left : build.declared.sidecars.drop build.session.sidecars.length with
    | nil =>
      rw [neededSidecars, left, List.map_nil, List.nil_append] at needed
      obtain ⟨rfl, -⟩ := Need.ifVacant_eq_cons needed
      cases slot
    | cons sidecar more =>
      rw [neededSidecars, left, List.map_cons, List.cons_append] at needed
      obtain ⟨rfl, -⟩ := List.cons.inj needed
      obtain rfl := Slot.sidecar.inj slot
      refine not_mem_of_left orderly.named distinct ?_
      rw [declaredNames, Session.sidecarNames, List.length_map, ← List.map_drop, left]
      exact List.mem_map_of_mem List.mem_cons_self

theorem Attempted.notRefused {beside : Handle} {need : Need} {result : Except ProvisionError Handle}
    (attempted : Attempted beside need build result calls after) : NotRefused result := by
  rintro name rfl
  cases attempted with
  | noImage unknown => cases unknown

theorem Meets.notRefused {beside : Handle} {result : Except ProvisionError Unit}
    (meets : Meets beside build.needs build result calls after) (orderly : after.Orderly)
    (distinct : after.declaredNames.Nodup) : NotRefused result := by
  rintro name rfl
  obtain ⟨need, rest, left, unmet⟩ := meets.unmet
  cases unmet with
  | collided slot taken same => exact orderly.not_running distinct (left rfl) slot taken
  | failed split vacant attempted => exact attempted.notRefused name rfl

theorem Processed.notRefused {starter : Starter} {result : Except ProvisionError Running}
    (processed : Processed build starter result calls after) (orderly : after.Orderly)
    (distinct : after.declaredNames.Nodup) : NotRefused result := by
  cases processed with
  | notPrepared => exact notRefused_notPrepared
  | stopped recorded meets =>
    exact fun name same => meets.notRefused orderly distinct name
      (congrArg Except.error (Except.error.inj same))
  | ran recorded meets current answer =>
    refine notRefused_mapError ?_ answer
    exact fun _ _ => nofun

theorem Prepared.notRefused {result : Except ProvisionError Unit}
    (prepared : Prepared build result calls after) : NotRefused result := by
  rintro name rfl
  cases prepared with
  | noVolume missing sought => cases sought

theorem Cleared.notRefused {result : Except ProvisionError Unit}
    (cleared : Cleared build result calls after) : NotRefused result := by
  cases cleared with
  | @cleared containers volume driver =>
    cases containers ++ volume ++ driver with
    | nil => exact notRefused_ok ()
    | cons failure more => rintro name ⟨⟩

theorem attachAgent_notRefused (build : Build) (input : Option Host.Input) :
    Ensures (attachAgent input) build fun result _ _ => NotRefused result := by
  rw [attachAgent, ensures_within]
  cases recorded : build.session.agent with
  | none => exact (ensures_agent_bind_none recorded).mpr notRefused_notPrepared
  | some handle =>
    refine (ensures_agent_bind recorded).mpr (ensures_call.mpr (notRefused_mapError ?_))
    rintro cause name ⟨⟩

theorem launchAgent_notRefused (build : Build) (input : Option Host.Input) :
    Ensures (launchAgent input) build fun result _ _ => NotRefused result := by
  rw [launchAgent, ensures_within]
  cases recorded : build.session.agent with
  | none => exact (ensures_agent_bind_none recorded).mpr notRefused_notPrepared
  | some handle =>
    refine (ensures_agent_bind recorded).mpr ((attachAgent_notRefused build input).bind ?_ ?_)
    · intro process calls after _
      refine ensures_liftOr.mpr (Work.ensures_wait.mpr (notRefused_mapError ?_))
      rintro cause name ⟨⟩
    · exact fun cause calls after other name same => other name
        (congrArg Except.error (Except.error.inj same))

/-- Where all names differ, no request is refused for a name. -/
theorem Turn.Happens.notRefused {turn : Turn} (happens : turn.Happens)
    (orderly : turn.before.Orderly) (anchored : turn.before.Anchored)
    (distinct : turn.before.declaredNames.Nodup) : NotRefused turn.result := by
  suffices ensured : Ensures turn.request.operation turn.before
      fun result _ _ => NotRefused result from ensured _ _ happens
  cases turn.request with
  | prepareAgent => exact (prepareAgent_prepared _).mono fun _ _ _ => Prepared.notRefused
  | attachAgent input =>
    exact ensures_map.mpr ((attachAgent_notRefused _ input).mono fun _ _ _ => NotRefused.map)
  | launchAgent input =>
    exact ensures_map.mpr ((launchAgent_notRefused _ input).mono fun _ _ _ => NotRefused.map)
  | runProcess starter =>
    refine ensures_map.mpr (((runProcess_processed orderly anchored starter).and
      (runProcess_moves orderly starter)).mono ?_)
    rintro result calls after ⟨processed, moves⟩
    refine (processed.notRefused (moves.orderly orderly) ?_).map
    rwa [declaredNames, moves.sameFrame.declared]
  | advancePhase =>
    refine (advancePhase_advanced _).mono ?_
    rintro _ _ _ ⟨rfl, -, -⟩
    exact notRefused_ok _
  | clean => exact (clean_cleared _).mono fun _ _ _ => Cleared.notRefused

end Distinct

section Runs

variable {declared : ContainerSet} {settings : Settings} {left : CarryOver} {workspace : String}
  {turns : List Turn} {build : Build} {front : List Sidecar} {second : Sidecar}

theorem Run.work_none (run : Run (fresh declared settings left workspace) turns build)
    (collides : declared.CollidesAt front second) : build.session.work = none := by
  refine run.induction (fun _ build => build.session.work = none) rfl
    fun turns turn run went vacant => ?_
  rcases went.cases_moves with ⟨_, moves⟩ | ⟨-, -, after⟩ | ⟨-, cleared⟩
  · exact moves.work_none run.orderly (run.declared_eq.symm ▸ collides) vacant
  · rw [after]
    exact vacant
  · rw [cleared.after_eq]
    rfl

/-- **Every turn of a run is held back by a taken name.** -/
theorem Turn.Happens.heldBack {turn : Turn} (happens : turn.Happens)
    (run : Run (fresh declared settings left workspace) turns turn.before)
    (collides : declared.CollidesAt front second) : turn.HeldBack settings front second := by
  have later := run.turn happens
  have went := happens.went run.orderly
  have collides' : turn.before.declared.CollidesAt front second := run.declared_eq.symm ▸ collides
  have running : turn.after.session.sidecarNames <+: front.map (·.name) :=
    later.orderly.names_front (later.declared_eq.symm ▸ collides)
  by_cases process : ∃ starter, turn.request = .runProcess starter
  · obtain ⟨starter, request⟩ := process
    obtain ⟨result, same, processed⟩ := happens.processed request run.orderly run.held_of_none
    obtain ⟨launches, inBuild⟩ := processed.heldBack run.orderly later.orderly collides'
      (run.work_none collides) (later.work_none collides)
    refine ⟨run.settings_eq ▸ launches, fun phase => (inBuild phase).1, running,
      later.work_none collides, fun _ _ phase prepared => ?_⟩
    obtain ⟨cause, failed, refused⟩ := (inBuild phase).2 prepared
    rw [failed] at same
    refine refused.imp ?_ ?_
    · rintro ⟨rfl, all⟩
      exact ⟨same, all⟩
    · rintro ⟨sidecar, member, beside, middle, earlier, last, split, attempted⟩
      exact ⟨sidecar, member, cause, beside, middle, earlier, last, same, split, attempted⟩
  · have idle := went.idle_of_other fun starter request => process ⟨starter, request⟩
    refine ⟨⟨[], List.nil_prefix, idle.1 ▸ .nil⟩, fun _ => idle.2, running,
      later.work_none collides, fun starter request => absurd ⟨starter, request⟩ process⟩

/-- **Of sidecars of one name the second holds back all that comes after it**, from the first whose
name is taken on, in every turn of every run. Where all names differ, none is refused. -/
theorem collision_holds_back (run : Run (fresh declared settings left workspace) turns build) :
    (¬ (declared.sidecars.map (·.name)).Nodup →
      ∃ front second, declared.CollidesAt front second) ∧
    (∀ front second, declared.CollidesAt front second →
      ∀ turn ∈ turns, turn.HeldBack settings front second) ∧
    ((declared.sidecars.map (·.name)).Nodup → ∀ turn ∈ turns, NotRefused turn.result) := by
  refine ⟨ContainerSet.exists_collidesAt, fun front second collides turn member => ?_,
    fun distinct turn member => ?_⟩
  · obtain ⟨earlier, more, rfl⟩ := List.append_of_mem member
    obtain ⟨before, happens⟩ := run.split
    exact happens.heldBack before collides
  · obtain ⟨earlier, more, rfl⟩ := List.append_of_mem member
    obtain ⟨before, happens⟩ := run.split
    refine happens.notRefused before.orderly before.held_of_none ?_
    rwa [declaredNames, before.declared_eq]

/-- A set that declares two sidecars of one name, and one after them. -/
def twoOfOneName : ContainerSet :=
  let sidecar (name : String) : Sidecar := { name, container := { image := .named name false } }
  { work := { image := .named "maven" false }
    sidecars := [sidecar "db", sidecar "db", sidecar "cache"] }

/-- A build of this set is to run a process, and once more after it was cleared away; by then the
sidecars cannot be launched. -/
def heldBackTwice : List Turn × Build :=
  play InMemory.answer
    [(id, .prepareAgent), (id, .runProcess {}), (id, .advancePhase), (id, .runProcess {}),
      (id, .clean),
      (fun engine => engine.failOn "launch_sidecar_container", .runProcess {})]
    (fresh twoOfOneName {} {} ".") {}

/-- With two sidecars of one name one of them is launched, and that is all. -/
theorem collision_holds_back_twoOfOneName :
    heldBackTwice.1.map (fun turn => (turn.result.isOk, (launchesIn turn.calls).length)) =
        [(true, 0), (true, 1), (true, 0), (false, 1), (true, 0), (false, 1)] ∧
      ∀ front second, twoOfOneName.CollidesAt front second →
        ∀ turn ∈ heldBackTwice.1, turn.HeldBack {} front second :=
  ⟨by decide +kernel, (collision_holds_back (run_play InMemory.answer _ _ _)).2.1⟩

end Runs

end Build

end BuildYard
