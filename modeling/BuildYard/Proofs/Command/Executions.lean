import BuildYard.Proofs.Build.Order
import BuildYard.Proofs.Build.Setbacks
import BuildYard.Proofs.Command.Conduct

/-!
# Which commands are executed

An execution is a process that was asked for in a container, with what was told
of its end: what waiting for it came to, or why it did not start. The executions
are read off what was done (`execsOf`).

One command is one execution, unless something that it needs could not be
launched (`runCommand_undertaken`). The commands of a build are executed in
their order, each in the container of its slot, up to the first that does not
end with the exit code 0, and what that comes to is what all of them come to
(`runPhases_followed`). By induction on the commands: what one of them leaves in
the slots stays there for the others.
-/

set_option autoImplicit false

namespace BuildYard

/-! ## Executions -/

/-- A process that was asked for in a container, with what was told of its end. -/
structure Exec where
  container : String
  starter : Starter
  /-- nothing if nobody waited for it -/
  report : Option (Except EngineError Int)

/-- What is told of the end of a process: why it did not start, or what waiting for it at once
came to. -/
def Deed.reported : Except EngineError Running → List Deed → Option (Except EngineError Int)
  | .error cause, _ => some (.error cause)
  | .ok _, ⟨.wait _, answer⟩ :: _ => some answer
  | .ok _, _ => none

/-- The executions among deeds, in order, those that failed to start among them. -/
def execsOf : List Deed → List Exec
  | [] => []
  | ⟨.engine (.exec container starter), answer⟩ :: later =>
    ⟨container, starter, Deed.reported answer later⟩ :: execsOf later
  | _ :: later => execsOf later

/-- Asking for a process in a container. -/
def Action.Executes : Action → Prop
  | .engine (.exec _ _) => True
  | _ => False

namespace Action

variable {action : Action}

theorem Places.not_executes (places : action.Places) : ¬ action.Executes := by
  cases action with
  | engine call => cases call <;> first | exact id | exact places.elim
  | _ => exact id

end Action

section Execs

variable {deed : Deed} {made more : List Deed}

theorem execsOf_cons_of_not (other : ¬ deed.question.Executes) :
    execsOf (deed :: made) = execsOf made := by
  obtain ⟨action, answer⟩ := deed
  cases action with
  | engine call => cases call <;> first | rfl | exact absurd trivial other
  | _ => rfl

theorem execsOf_of_none (none : ∀ deed ∈ made, ¬ deed.question.Executes) :
    execsOf made = [] := by
  induction made with
  | nil => rfl
  | cons deed made ih =>
    obtain ⟨here, later⟩ := List.forall_mem_cons.mp none
    rw [execsOf_cons_of_not here, ih later]

/-- What is done after a process was waited for tells nothing more of its end. -/
theorem execsOf_append (awaited : Awaited made) :
    execsOf (made ++ more) = execsOf made ++ execsOf more := by
  induction made with
  | nil => rfl
  | cons deed made ih =>
    have rest := ih fun earlier other later process split started =>
      awaited (deed :: earlier) other later process (congrArg _ split) started
    obtain ⟨action, answer⟩ := deed
    by_cases executes : action.Executes
    · cases action with
      | engine call =>
        cases call with
        | exec container starter =>
          rw [List.cons_append, execsOf, execsOf, rest, List.cons_append]
          cases answer with
          | error cause => rfl
          | ok process =>
            obtain ⟨code, later, rfl⟩ := awaited [] _ made process rfl rfl
            rfl
        | _ => exact executes.elim
      | _ => exact executes.elim
    · rw [List.cons_append, execsOf_cons_of_not executes, execsOf_cons_of_not executes, rest]

end Execs

/-! ## One process -/

namespace Build

variable {build after : Build} {beside : Handle} {calls : List CallMade}

/-- What a build became while processes ran beside its agent. -/
structure Onward (beside : Handle) (build after : Build) : Prop where
  orderly : after.Orderly
  recorded : after.session.agent = some beside
  declared : after.declared = build.declared
  held : ∀ slot container, build.session.held slot = some container →
    after.session.held slot = some container

theorem Onward.trans {middle : Build} (first : Onward beside build middle)
    (second : Onward beside middle after) : Onward beside build after where
  orderly := second.orderly
  recorded := second.recorded
  declared := second.declared.trans first.declared
  held slot container there := second.held slot container (first.held slot container there)

/-- What was not met is still needed. -/
theorem Meets.needed {cause : ProvisionError}
    (meets : Meets beside build.needs build (.error cause) calls after) : after.needs ≠ [] := by
  obtain ⟨met, rest, progress⟩ := meets.progress
  obtain ⟨launches, last, -, ended, -⟩ := progress.launches
  rw [progress.left rfl]
  cases ended <;> exact List.cons_ne_nil _ _

theorem Meets.onward {result : Except ProvisionError Unit}
    (meets : Meets beside build.needs build result calls after) (orderly : after.Orderly)
    (recorded : build.session.agent = some beside) : Onward beside build after where
  orderly := orderly
  recorded := (congrArg CarryOver.agent meets.carryOver_eq).trans recorded
  declared := meets.sameFrame.declared
  held _ _ := meets.held_kept

theorem current_eq_held (build : Build) :
    build.session.current = build.session.held (slotOf build.session.phase) := by
  rw [Session.current]
  cases build.session.phase <;> rfl

/-- **How running a process comes out beside an agent.** Something that it needs could not be
launched, or it is asked for, as the last that is done, in the container of its phase. -/
theorem runProcess_executes (orderly : build.Orderly)
    (recorded : build.session.agent = some beside) (starter : Starter) :
    Does (runProcess starter) build fun result made after =>
      Onward beside build after ∧ after.session.phase = build.session.phase ∧
        ∃ placing, (∀ deed ∈ placing, deed.question.Places) ∧
          (made = placing ∧ (∃ cause, result = .error cause) ∧ after.needs ≠ [] ∨
            ∃ container answer,
              made = placing ++ [⟨.engine (.exec container.id (build.equipped starter)), answer⟩] ∧
                after.session.held (slotOf build.session.phase) = some container ∧
                  result = answer.mapError (.executionFailed container.id)) := by
  have anchored : build.Anchored := fun none => nomatch none.symm.trans recorded
  have ensured := (runProcess_processed orderly anchored starter).and
    (runProcess_moves orderly starter)
  refine ((runProcess_does starter).and ensured.does).mono ?_
  rintro result made after ⟨⟨placing, places, done⟩, processed, moves⟩
  have asked {container : String} {starter : Starter} {answer : Except EngineError Running} :
      ⟨.exec container starter, answer⟩ ∉ callsMade placing := by
    intro member
    obtain ⟨deed, member, same⟩ := List.mem_filterMap.mp member
    have executes := (places deed member).not_executes
    rw [CallMade.question_of_ofAction same] at executes
    exact executes trivial
  have phase {result : Except ProvisionError Unit} {calls : List CallMade}
      (meets : Meets beside build.needs build result calls after) :
      Onward beside build after ∧ after.session.phase = build.session.phase :=
    ⟨meets.onward (moves.orderly orderly) recorded, meets.sameFrame.phase⟩
  rcases done with ⟨rfl, failed⟩ | ⟨id, started, answer, rfl, came⟩
  · generalize equal : callsMade made = calls at processed
    cases processed with
    | notPrepared unrecorded => cases unrecorded.symm.trans recorded
    | stopped there meets =>
      cases there.symm.trans recorded
      exact ⟨(phase meets).1, (phase meets).2, made, places, .inl ⟨rfl, failed, meets.needed⟩⟩
    | ran there meets current answer =>
      exact absurd (equal ▸ List.mem_append_right _ List.mem_cons_self) asked
  · have last : callsMade (placing ++ [⟨.engine (.exec id started), answer⟩]) =
        callsMade placing ++ [⟨.exec id started, answer⟩] := callsMade_append ..
    rw [last] at processed
    generalize equal : callsMade placing ++ [⟨.exec id started, answer⟩] = calls at processed
    cases processed with
    | notPrepared unrecorded => cases unrecorded.symm.trans recorded
    | stopped there meets =>
      exact absurd (equal ▸ List.mem_append_right _ List.mem_cons_self) meets.unrun
    | @ran beside container calls after there meets current answer' =>
      cases there.symm.trans recorded
      obtain ⟨-, same⟩ := List.append_inj' equal rfl
      cases same
      refine ⟨(phase meets).1, (phase meets).2, placing, places, .inr ⟨container, _, rfl, ?_, rfl⟩⟩
      rw [← (phase meets).2, ← current_eq_held]
      exact current

end Build

/-! ## Commands -/

namespace Command

open Build (Does Onward slotOf)

/-- A command for the container in a slot. -/
abbrev Plan.Item := Slot × Starter

/-- A checkout command. -/
def Plan.fetch (plan : Plan) (cmds : List String) : Plan.Item :=
  (.checkout, plan.starter cmds)

/-- The commands of a plan in their order; the last one has what the images add to its
variables. -/
def Plan.commands (plan : Plan) (environment : List (String × String)) : List Plan.Item :=
  plan.checkout.map plan.fetch ++ [(.work, (plan.starter plan.command).withMissing environment)]

/-- A command was asked for in the container of its slot. -/
structure Performed (session : Session) (command : Plan.Item) (exec : Exec) : Prop where
  starter : exec.starter = command.2
  place : ∃ container, session.held command.1 = some container ∧ exec.container = container.id

/-- A command was performed and ended with the exit code 0. -/
structure Succeeded (session : Session) (command : Plan.Item) (exec : Exec) : Prop extends
    Performed session command exec where
  report : exec.report = some (.ok 0)

/-- **How one command comes out.** Something that it needs could not be launched; or it was
performed, and what was told of its end is what it comes to. -/
inductive Undertaken (build : Build) (command : Plan.Item) :
    List Exec → Except Failure Int → Prop where
  | unplaced {failure : Failure} (needed : build.needs ≠ []) :
      Undertaken build command [] (.error failure)
  | failed {exec : Exec} {cause : EngineError} {failure : Failure}
      (performed : Performed build.session command exec)
      (report : exec.report = some (.error cause)) :
      Undertaken build command [exec] (.error failure)
  | exited {exec : Exec} {code : Int} (performed : Performed build.session command exec)
      (report : exec.report = some (.ok code)) : Undertaken build command [exec] (.ok code)

/-- **How commands come out.** Those before one succeeded, and that one was undertaken last; what it
comes to is what all come to. It is the last of them if that is the exit code 0. -/
inductive Followed (build : Build) : List Plan.Item → List Exec → Except Failure Int → Prop where
  | upTo {done rest : List Plan.Item} {command : Plan.Item} {before last : List Exec}
      {outcome : Except Failure Int}
      (succeeded : List.Forall₂ (Succeeded build.session) done before)
      (undertaken : Undertaken build command last outcome) (whole : outcome = .ok 0 → rest = []) :
      Followed build (done ++ command :: rest) (before ++ last) outcome

section Commands

variable {build after : Build} {beside : Handle}

theorem Onward.succeeded {commands : List Plan.Item} {execs : List Exec}
    (onward : Onward beside build after)
    (succeeded : List.Forall₂ (Succeeded build.session) commands execs) :
    List.Forall₂ (Succeeded after.session) commands execs := by
  refine succeeded.imp fun command exec succeeded => ?_
  obtain ⟨container, held, same⟩ := succeeded.place
  exact ⟨⟨succeeded.starter, container, onward.held _ _ held, same⟩, succeeded.report⟩

theorem Undertaken.succeeded {command : Plan.Item} {execs : List Exec}
    (undertaken : Undertaken build command execs (.ok 0)) :
    ∃ exec, execs = [exec] ∧ Succeeded build.session command exec := by
  cases undertaken with
  | exited performed report => exact ⟨_, rfl, performed, report⟩

/-- A command that was undertaken is carried to its end, with whatever would have come after it if
it did not end with the exit code 0. -/
theorem Undertaken.followed {command : Plan.Item} {execs : List Exec}
    {outcome : Except Failure Int} (undertaken : Undertaken build command execs outcome)
    (other : outcome ≠ .ok 0) (rest : List Plan.Item) :
    Followed build (command :: rest) execs outcome :=
  .upTo .nil undertaken fun zero => absurd zero other

/-- What succeeded before commands were carried to their end is carried with them. -/
theorem Followed.later {done commands : List Plan.Item} {before execs : List Exec}
    {outcome : Except Failure Int} (followed : Followed build commands execs outcome)
    (succeeded : List.Forall₂ (Succeeded build.session) done before) :
    Followed build (done ++ commands) (before ++ execs) outcome := by
  cases followed with
  | upTo earlier undertaken whole =>
    rw [← List.append_assoc, ← List.append_assoc]
    exact .upTo (List.rel_append succeeded earlier) undertaken whole

/-- **A command is undertaken**: whether or not it starts, and whatever waiting for it comes to. -/
theorem runCommand_undertaken (plan : Plan) (cmds : List String) (orderly : build.Orderly)
    (recorded : build.session.agent = some beside) :
    Does (runCommand plan cmds) build fun result made after =>
      Onward beside build after ∧ after.session.phase = build.session.phase ∧
        Undertaken after (slotOf build.session.phase, build.equipped (plan.starter cmds))
          (execsOf made) result := by
  refine Build.does_get_bind.mpr (does_tell_bind.mpr ?_)
  have unrun {placing : List Deed} (places : ∀ deed ∈ placing, deed.question.Places) :
      execsOf placing = [] :=
    execsOf_of_none fun deed member => (places deed member).not_executes
  have split {placing : List Deed} (places : ∀ deed ∈ placing, deed.question.Places)
      (more : List Deed) : execsOf (placing ++ more) = execsOf more := by
    rw [execsOf_append (awaited_of_none (started?_eq_none places)), unrun places, List.nil_append]
  refine does_ofOperation_bind (Build.runProcess_executes orderly recorded _) ?_ ?_
  · rintro process made after ⟨onward, phase, placing, places, ⟨-, ⟨cause, failed⟩, -⟩ |
      ⟨container, answer, rfl, held, came⟩⟩
    · cases failed
    · obtain rfl := eq_ok_of_mapError came
      refine (does_wait process _ after).mono ?_
      rintro _ _ _ ⟨rfl, answer, rfl, rfl⟩
      refine ⟨onward, phase, ?_⟩
      rw [List.append_assoc, split places]
      cases answer with
      | error cause => exact .failed ⟨rfl, container, held, rfl⟩ rfl
      | ok code => exact .exited ⟨rfl, container, held, rfl⟩ rfl
  · rintro cause made after ⟨onward, phase, placing, places, ⟨rfl, -, needed⟩ |
      ⟨container, answer, rfl, held, came⟩⟩
    · rw [unrun places]
      exact ⟨onward, phase, .unplaced needed⟩
    · obtain ⟨failure, rfl⟩ := eq_error_of_mapError came
      rw [split places]
      exact ⟨onward, phase, .failed ⟨rfl, container, held, rfl⟩ rfl⟩

/-- How the checkout commands come out: all succeed, or one is the last whatever would come after
them. -/
inductive Fetched (build : Build) (commands : List Plan.Item) (execs : List Exec) :
    Except Failure (Option Int) → Prop where
  | all (succeeded : List.Forall₂ (Succeeded build.session) commands execs) :
      Fetched build commands execs (.ok none)
  | stopped (outcome : Except Failure Int)
      (followed : ∀ rest, Followed build (commands ++ rest) execs outcome) :
      Fetched build commands execs (outcome.map some)

/-- **The checkout commands are undertaken up to one that is not successful.** -/
theorem runCheckout_fetched (plan : Plan) (commands : List (List String)) (orderly : build.Orderly)
    (recorded : build.session.agent = some beside) (phase : build.session.phase = .preCheckout) :
    Does (runCheckout plan commands) build fun result made after =>
      Onward beside build after ∧ after.session.phase = .preCheckout ∧
        Fetched after (commands.map plan.fetch) (execsOf made) result := by
  induction commands generalizing build with
  | nil =>
    refine Build.does_pure.mpr ⟨⟨orderly, recorded, rfl, fun _ _ => id⟩, phase, .all .nil⟩
  | cons cmds rest ih =>
    have command : (slotOf build.session.phase, build.equipped (plan.starter cmds)) =
        plan.fetch cmds := by
      rw [Build.equipped, phase]
      rfl
    have undertaken := runCommand_undertaken plan cmds orderly recorded
    rw [command, phase] at undertaken
    refine (undertaken.and (runCommand_ran plan cmds build)).bind ?_ ?_
    · rintro code made after ⟨⟨onward, phase, undertaken⟩, ran⟩
      split
      · next zero =>
        subst zero
        obtain ⟨exec, execs, succeeded⟩ := undertaken.succeeded
        refine (ih onward.orderly onward.recorded phase).mono ?_
        rintro result more last ⟨further, phase, fetched⟩
        refine ⟨onward.trans further, phase, ?_⟩
        rw [execsOf_append ran.awaited, execs]
        have first := Onward.succeeded further (.cons succeeded .nil)
        cases fetched with
        | all succeeded => exact .all (List.rel_append first succeeded)
        | stopped outcome followed => exact .stopped outcome fun rest => (followed rest).later first
      · next other =>
        refine does_tell_bind.mpr (Build.does_pure.mpr ⟨onward, phase, ?_⟩)
        rw [List.append_nil]
        refine .stopped (.ok code) fun more => ?_
        exact undertaken.followed (fun zero => other (Except.ok.inj zero)) _
    · rintro cause made after ⟨⟨onward, phase, undertaken⟩, ran⟩
      have other : Except.error cause ≠ .ok (0 : Int) := by
        intro same
        cases same
      exact ⟨onward, phase, .stopped (.error cause) fun more => undertaken.followed other _⟩

theorem advancePhase_onward (orderly : build.Orderly)
    (recorded : build.session.agent = some beside) :
    Does Build.advancePhase build fun result made after => result = .ok () ∧ made = [] ∧
      Onward beside build after ∧ after.session.phase = .build := by
  refine ((Build.advancePhase_advanced build).does.and Build.advancePhase_does).mono ?_
  rintro result made after ⟨⟨rfl, -, rfl⟩, rfl⟩
  have grown := Build.grown_advanced build
  refine ⟨rfl, rfl, ⟨?_, recorded, grown.declared, grown.held⟩, rfl⟩
  exact ⟨orderly.named, orderly.once, orderly.latch⟩

/-- **The commands of a plan are carried out in their order**, beside an agent. -/
theorem runPhases_followed (plan : Plan) (orderly : build.Orderly)
    (recorded : build.session.agent = some beside) (phase : build.session.phase = .preCheckout) :
    Does (runPhases plan) build fun result made after =>
      Onward beside build after ∧ Awaited made ∧
        Followed after (plan.commands build.declared.environment) (execsOf made) result := by
  have fetches := (runCheckout_fetched plan plan.checkout orderly recorded phase).and
    (runCheckout_ran plan plan.checkout build)
  refine fetches.bind ?_ ?_
  · rintro outcome made after ⟨⟨onward, -, fetched⟩, ran⟩
    generalize equal : Except.ok outcome = result at fetched
    cases fetched with
    | stopped outcome' followed =>
      cases outcome' with
      | error cause => cases equal
      | ok code =>
        cases equal
        refine Build.does_pure.mpr ⟨onward, ?_, ?_⟩
        · rw [List.append_nil]
          exact ran.awaited
        · rw [List.append_nil]
          exact followed _
    | all succeeded =>
      cases equal
      refine does_ofOperation_bind (advancePhase_onward onward.orderly onward.recorded) ?_ ?_
      · rintro _ _ middle ⟨-, rfl, advanced, phase⟩
        refine ((runCommand_undertaken plan plan.command advanced.orderly advanced.recorded).and
          (runCommand_ran plan plan.command middle)).mono ?_
        rintro result more last ⟨⟨further, -, undertaken⟩, ran'⟩
        have all := (onward.trans advanced).trans further
        refine ⟨all, ran.awaited.append ran'.awaited, ?_⟩
        rw [List.nil_append, execsOf_append ran.awaited]
        have before := Onward.succeeded (advanced.trans further) succeeded
        rw [Build.equipped, phase, (onward.trans advanced).declared] at undertaken
        exact .upTo before undertaken fun _ => rfl
      · rintro cause _ _ ⟨⟨⟩, -⟩
  · rintro cause made after ⟨⟨onward, -, fetched⟩, ran⟩
    refine ⟨onward, ran.awaited, ?_⟩
    generalize equal : Except.error cause = result at fetched
    cases fetched with
    | all succeeded => cases equal
    | stopped outcome followed =>
      cases outcome with
      | ok code => cases equal
      | error cause =>
        cases equal
        exact followed _

end Commands

end Command

end BuildYard
