import BuildYard.Proofs.Build.Processes
import BuildYard.Proofs.Build.Removal
import Mathlib.Data.List.Forall2

/-!
# What a process that fails to run leaves

A process may fail to run at any of the containers that it needs, or in the
last. What runs then goes on running, and what was launched on the way is
recorded, so that clearing away removes it and the next process does not launch
it again. No process was started unless that is what failed, and the container
whose image or agent was missing was not launched
(`failing_process_leaves`).
-/

set_option autoImplicit false

namespace BuildYard.Build

/-- The call was to launch a container for a need, whatever came of it. -/
def Need.LaunchedBy (need : Need) (call : CallMade) : Prop :=
  ∃ image beside answer, call = need.launch image beside answer

/-- **Only what is missing is launched**: containers for needs, from the first on and each for a
vacant slot. What was launched is not missing afterwards, and nothing is if the process runs. -/
structure OnlyMissing (build : Build) (result : Except ProvisionError Running)
    (calls : List CallMade) (after : Build) : Prop where
  attempts : ∃ tried, tried <+: build.needs ∧
    List.Forall₂ Need.LaunchedBy tried (launchesIn calls) ∧
      ∀ need ∈ tried, build.session.held need.slot = none
  left : after.needs = build.needs.drop (launchedBy calls).length
  all : ∀ running, result = .ok running → after.needs = []

/-- **What stays when a process was to run**: the phase, the agent and its volume, and what is in
slots; beside that, only what was launched is in slots, and clearing away removes it. -/
structure Kept (build : Build) (calls : List CallMade) (after : Build) : Prop where
  phase : after.session.phase = build.session.phase
  carryOver : after.session.carryOver = build.session.carryOver
  kept : ∀ slot container, build.session.held slot = some container →
    after.session.held slot = some container
  added : ∀ slot container, after.session.held slot = some container →
    build.session.held slot = some container ∨ container ∈ launchedBy calls
  cleared : Ensures clean after fun _ removals _ => launchedBy calls ⊆ removedBy removals

/-- **What is left when a process did not run** for the reason `cause`. -/
structure Setback (build : Build) (cause : ProvisionError) (calls : List CallMade)
    (after : Build) : Prop extends Kept build calls after where
  unrun : ∀ container starter answer, ⟨.exec container starter, answer⟩ ∈ calls →
    ∃ reason, cause = .executionFailed container reason
  /-- the first container that is still needed has no image, nor has any that was launched the
  same source -/
  noImage : ∀ image reason, cause = .imageResolutionFailed image reason →
    ∃ met need rest, build.needs = met ++ need :: rest ∧ after.needs = need :: rest ∧
      need.source.describe = image ∧ after.session.held need.slot = none ∧
        List.Forall₂ Need.LaunchedBy met (launchesIn calls) ∧
          ∀ other ∈ met, other.source.same need.source = false
  noAgent : cause = .agentNotPrepared → calls = [] ∧ after = build
  /-- the next time only what is missing then is launched -/
  again : ∀ starter, Ensures (runProcess starter) after (OnlyMissing after)

section Setbacks

variable {build after : Build} {beside : Handle} {starter : Starter} {calls : List CallMade}
  {cause : ProvisionError}

section Meets

variable {needs met rest : List Need} {result : Except ProvisionError Unit}

theorem Progress.launched_each (progress : Progress beside build needs result calls after met rest) :
    ∃ launches last, launchesIn calls = launches ++ last ∧ Ended beside after result rest last ∧
      List.Forall₂ Need.LaunchedBy met launches := by
  obtain ⟨launches, last, made, ended, each⟩ := progress.launches
  refine ⟨launches, last, made, ended, each.imp ?_⟩
  rintro need launch ⟨image, container, -, same⟩
  exact ⟨image, beside, .ok container, same⟩

/-- What was tried was needed first, and its slots were vacant. -/
theorem Meets.attempts (meets : Meets beside needs build result calls after) :
    ∃ tried, tried <+: needs ∧ List.Forall₂ Need.LaunchedBy tried (launchesIn calls) ∧
      ∀ need ∈ tried, build.session.held need.slot = none := by
  obtain ⟨met, rest, progress⟩ := meets.progress
  obtain ⟨launches, last, made, ended, each⟩ := progress.launched_each
  obtain ⟨vacant, -⟩ := (List.forall₂_and_left _ _).mp progress.entered
  rw [made, progress.split]
  cases ended with
  | all | collided | noImage =>
    refine ⟨met, List.prefix_append _ _, ?_, vacant⟩
    rwa [List.append_nil]
  | @notLaunched need rest image reason last =>
    refine ⟨met ++ [need], ⟨rest, by rw [List.append_assoc, List.singleton_append]⟩, ?_, ?_⟩
    · exact List.rel_append each (.cons ⟨image, beside, _, rfl⟩ .nil)
    · intro other member
      rcases List.mem_append.mp member with before | here
      · exact vacant other before
      · rw [List.mem_singleton.mp here]
        refine Option.eq_none_iff_forall_ne_some.mpr fun container held => ?_
        cases last.symm.trans (meets.held_kept held)

/-- Of all that a process needs, what was launched is not needed any more. -/
theorem Meets.left (meets : Meets beside build.needs build result calls after) :
    after.needs = build.needs.drop (launchedBy calls).length := by
  obtain ⟨met, rest, progress⟩ := meets.progress
  rw [progress.left rfl, progress.split, ← progress.entered.length_eq, List.drop_left]

theorem Meets.all (meets : Meets beside build.needs build (.ok ()) calls after) :
    after.needs = [] := by
  obtain ⟨met, rest, progress⟩ := meets.progress
  obtain ⟨launches, last, -, ended, -⟩ := progress.launches
  rw [progress.left rfl]
  cases ended
  rfl

end Meets

/-- Clearing away removes what meeting needs has launched. -/
theorem Meets.cleared {result : Except ProvisionError Unit}
    (meets : Meets beside build.needs build result calls after) (orderly : after.Orderly) :
    Ensures clean after fun _ removals _ => launchedBy calls ⊆ removedBy removals := by
  obtain ⟨met, rest, progress⟩ := meets.progress
  have held : List.Forall₂ (fun container (_ : Need) =>
      (∃ slot, after.session.held slot = some container) ∧ True) (launchedBy calls) met :=
    .flip (progress.entered.imp fun need _ entered => ⟨⟨need.slot, entered.2⟩, trivial⟩)
  refine (clean_cleared after).mono fun _ removals _ cleared container launched => ?_
  obtain ⟨slot, here⟩ := ((List.forall₂_and_left _ _).mp held).1 container launched
  have entry := (Session.held_eq_some_iff orderly.once).mp here
  refine (cleared.removedBy_perm orderly).symm.subset (List.mem_append_left _ ?_)
  exact List.mem_map.mpr ⟨_, entry, rfl⟩

/-- Where the image of a container is missing, that container is the first still needed. -/
theorem Meets.noImage {image : String} {reason : ResolutionError}
    (meets : Meets beside build.needs build (.error (.imageResolutionFailed image reason)) calls after) :
    ∃ met need rest, build.needs = met ++ need :: rest ∧ after.needs = need :: rest ∧
      need.source.describe = image ∧ after.session.held need.slot = none ∧
        List.Forall₂ Need.LaunchedBy met (launchesIn calls) ∧
          ∀ other ∈ met, other.source.same need.source = false := by
  obtain ⟨met, rest, progress⟩ := meets.progress
  obtain ⟨launches, last, made, ended, each⟩ := progress.launches
  have tagged : List.Forall₂ (fun (need : Need) (_ : CallMade) =>
      (∃ tag, after.tag? need.source = some tag) ∧ True) met launches := by
    refine each.imp ?_
    rintro need launch ⟨tag, container, known, -⟩
    exact ⟨⟨tag, known⟩, trivial⟩
  have known := ((List.forall₂_and_left _ _).mp tagged).1
  cases ended with
  | @noImage need rest reason vacant unknown =>
    refine ⟨met, need, rest, progress.split, progress.left rfl, rfl, vacant, ?_, ?_⟩
    · rw [made, List.append_nil]
      refine each.imp ?_
      rintro need launch ⟨image, container, -, same⟩
      exact ⟨image, beside, .ok container, same⟩
    · intro other member
      refine Bool.eq_false_iff.mpr fun same => ?_
      obtain ⟨tag, there⟩ := known other member
      rw [tag?_congr same, unknown] at there
      cases there

/-- A process that needs all that it needs never lacks the agent. -/
theorem Meets.prepared (meets : Meets beside build.needs build (.error cause) calls after) :
    cause ≠ .agentNotPrepared := by
  obtain ⟨met, rest, progress⟩ := meets.progress
  obtain ⟨launches, last, -, ended, -⟩ := progress.launches
  rintro rfl
  cases ended

theorem Meets.kept {result : Except ProvisionError Unit}
    (meets : Meets beside build.needs build result calls after) (orderly : after.Orderly) :
    Kept build calls after where
  phase := meets.sameFrame.phase
  carryOver := meets.carryOver_eq
  kept _ _ := meets.held_kept
  added _ _ := meets.held_added
  cleared := meets.cleared orderly

/-! ## A process that is to run -/

/-- The start of a process launches nothing. -/
theorem launches_concat_exec (calls : List CallMade) (container : String) (starter : Starter)
    (answer : Except EngineError Running) :
    launchesIn (calls ++ [⟨.exec container starter, answer⟩]) = launchesIn calls ∧
      launchedBy (calls ++ [⟨.exec container starter, answer⟩]) = launchedBy calls := by
  rw [launchesIn, List.filter_append, launchedBy_append]
  exact ⟨List.append_nil _, List.append_nil _⟩

theorem kept_refl (build : Build) : Kept build [] build where
  phase := rfl
  carryOver := rfl
  kept _ _ := id
  added _ _ := .inl
  cleared := (clean_cleared build).mono fun _ _ _ _ => List.nil_subset _

theorem Processed.kept {result : Except ProvisionError Running}
    (processed : Processed build starter result calls after) (orderly : after.Orderly) :
    Kept build calls after := by
  cases processed with
  | notPrepared unrecorded => exact kept_refl build
  | stopped recorded meets => exact meets.kept orderly
  | @ran _ container calls _ recorded meets current answer =>
    obtain ⟨-, launched⟩ := launches_concat_exec calls container.id
      (build.equipped starter) answer
    have kept := meets.kept orderly
    exact ⟨kept.phase, kept.carryOver, kept.kept, launched ▸ kept.added, launched ▸ kept.cleared⟩

theorem Processed.onlyMissing {result : Except ProvisionError Running}
    (processed : Processed build starter result calls after) :
    OnlyMissing build result calls after := by
  cases processed with
  | notPrepared unrecorded =>
    refine ⟨⟨[], List.nil_prefix, .nil, List.forall_mem_nil _⟩, rfl, ?_⟩
    rintro _ ⟨⟩
  | stopped recorded meets =>
    refine ⟨meets.attempts, meets.left, ?_⟩
    rintro _ ⟨⟩
  | @ran _ container calls _ recorded meets current answer =>
    obtain ⟨launches, launched⟩ := launches_concat_exec calls container.id
      (build.equipped starter) answer
    exact ⟨launches ▸ meets.attempts, launched ▸ meets.left, fun _ _ => meets.all⟩

/-- After a process was to run, slots are vacant without an agent as before. -/
theorem Processed.anchored {result : Except ProvisionError Running}
    (processed : Processed build starter result calls after) (anchored : build.Anchored) :
    after.Anchored := by
  cases processed with
  | notPrepared unrecorded => exact anchored
  | stopped recorded meets =>
    intro none
    cases none.symm.trans ((congrArg CarryOver.agent meets.carryOver_eq).trans recorded)
  | ran recorded meets current answer =>
    intro none
    cases none.symm.trans ((congrArg CarryOver.agent meets.carryOver_eq).trans recorded)

/-- **What is left when a process did not run**, if only what is missing is launched from then on. -/
theorem Processed.setback (processed : Processed build starter (.error cause) calls after)
    (orderly : after.Orderly)
    (again : ∀ starter, Ensures (runProcess starter) after (OnlyMissing after)) :
    Setback build cause calls after := by
  have kept := processed.kept orderly
  generalize failed : (Except.error cause : Except ProvisionError Running) = result at processed
  cases processed with
  | notPrepared unrecorded =>
    obtain rfl := Except.error.inj failed
    refine ⟨kept, ?_, ?_, fun _ => ⟨rfl, rfl⟩, again⟩
    · rintro _ _ _ ⟨⟩
    · rintro _ _ ⟨⟩
  | stopped recorded meets =>
    obtain rfl := Except.error.inj failed
    refine ⟨kept, fun _ _ _ run => absurd run meets.unrun, ?_,
      fun none => absurd none meets.prepared, again⟩
    rintro image reason rfl
    exact meets.noImage
  | @ran _ container _ _ recorded meets current answer =>
    cases answer with
    | ok running => cases failed
    | error reason =>
      obtain rfl := Except.error.inj failed
      refine ⟨kept, fun other starter answer run => ?_, ?_, ?_, again⟩
      · rcases List.mem_append.mp run with before | last
        · exact absurd before meets.unrun
        · cases List.mem_singleton.mp last
          exact ⟨reason, rfl⟩
      · rintro _ _ ⟨⟩
      · rintro ⟨⟩

end Setbacks

section Runs

variable {declared : ContainerSet} {settings : Settings} {left : CarryOver} {workspace : String}
  {turns : List Turn} {build : Build}

/-- **A process that is to run launches only what is missing, and when it fails to run, what runs
goes on running and what was launched is recorded**, at whatever point of whatever run. -/
theorem failing_process_leaves (run : Run (fresh declared settings left workspace) turns build)
    (starter : Starter) : Ensures (runProcess starter) build fun result calls after =>
      OnlyMissing build result calls after ∧
        ∀ cause, result = .error cause → Setback build cause calls after := by
  refine ((runProcess_moves run.orderly starter).and (run.processed starter)).mono ?_
  rintro result calls after ⟨moves, processed⟩
  refine ⟨processed.onlyMissing, ?_⟩
  rintro cause rfl
  have orderly := moves.orderly run.orderly
  have anchored := processed.anchored run.held_of_none
  refine processed.setback orderly fun starter => ?_
  exact (runProcess_processed orderly anchored starter).mono fun _ _ _ => Processed.onlyMissing

/-- Where the sidecar cannot be launched at first, the next process launches it and what comes
after it. -/
theorem failing_process_leaves_retried :
    (played retried).1.map (fun turn => (turn.result.isOk, (launchesIn turn.calls).length)) =
        [(true, 0), (true, 1), (true, 0), (false, 1), (true, 2)] ∧
      Ensures (runProcess {}) (played (retried.take 3)).2 fun result calls after =>
        OnlyMissing (played (retried.take 3)).2 result calls after ∧
          ∀ cause, result = .error cause →
            Setback (played (retried.take 3)).2 cause calls after :=
  ⟨by decide +kernel, failing_process_leaves (run_played (retried.take 3)) {}⟩

end Runs

end BuildYard.Build
