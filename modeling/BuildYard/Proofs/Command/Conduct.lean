import BuildYard.Proofs.Command.Duties

/-!
# What happens to a build until it is cleared away

The commands of a build run one after another beside its agent, and any of them
may fail. What happens is a list of events: requests to the build, and what is
asked of the processes that they started. Whatever they come to, every process
that was started in a container was then waited for, and an agent that was
attached was told to stop and waited for in the end (`runWithAgent_tended`).
-/

set_option autoImplicit false

namespace BuildYard

/-! ## Kinds of actions -/

namespace Action

/-- What may be asked while the commands of a build run. -/
def Runs : Action → Prop
  | .wait _ | .engine (.exec _ _) => True
  | action => action.Places

/-- Writing a file. -/
def Writes : Action → Prop
  | .writeFile _ _ => True
  | _ => False

theorem Places.runs {action : Action} (places : action.Places) : action.Runs := by
  cases action with
  | engine call => cases call <;> trivial
  | _ => trivial

theorem Runs.not_writes {action : Action} (runs : action.Runs) : ¬action.Writes := by
  cases action with
  | writeFile path text => exact runs.elim
  | _ => exact id

theorem Prepares.not_writes {action : Action} (prepares : action.Prepares) : ¬action.Writes := by
  cases action with
  | writeFile path text => exact prepares.elim
  | _ => exact id

end Action

/-! ## Processes -/

namespace Deed

/-- The process that a deed started in a container, if it started one. -/
def started? : Deed → Option Running
  | ⟨.engine (.exec _ _), .ok process⟩ => some process
  | _ => none

/-- The process of the agent that a deed attached, if it attached one. -/
def attached? : Deed → Option Running
  | ⟨.engine (.attachAgent _ _), .ok process⟩ => some process
  | _ => none

end Deed

/-- Every process that was started in a container was then waited for. -/
def Awaited (made : List Deed) : Prop :=
  ∀ earlier deed later process, made = earlier ++ deed :: later →
    Deed.started? deed = some process → ∃ answer rest, later = ⟨.wait process, answer⟩ :: rest

/-- In the end every agent that was attached was told to stop and waited for. -/
def Detached (made : List Deed) : Prop :=
  ∀ earlier deed later process, made = earlier ++ deed :: later →
    Deed.attached? deed = some process → ∃ between stopped left answer,
      later = between ++ [⟨.stop process, (stopped, left)⟩, ⟨.wait left, answer⟩]

section Processes

variable {made more : List Deed}

theorem awaited_of_none (none : ∀ deed ∈ made, Deed.started? deed = none) : Awaited made := by
  rintro earlier deed later process rfl started
  have idle := none deed (List.mem_append_right _ List.mem_cons_self)
  rw [started] at idle
  cases idle

theorem awaited_pair {deed : Deed} {process : Running} (started : Deed.started? deed = some process)
    (answer : Except EngineError Int) : Awaited [deed, ⟨.wait process, answer⟩] := by
  intro earlier other later process' split started'
  match earlier with
  | [] =>
    obtain ⟨rfl, rfl⟩ := List.cons.inj split
    obtain rfl := Option.some.inj (started.symm.trans started')
    exact ⟨answer, [], rfl⟩
  | [_] =>
    obtain ⟨rfl, -⟩ := List.cons.inj (List.cons.inj split).2
    cases started'
  | _ :: _ :: _ => simp at split

theorem Awaited.append (first : Awaited made) (second : Awaited more) : Awaited (made ++ more) := by
  intro earlier deed later process split started
  obtain ⟨rest, rfl, rfl⟩ | ⟨between, rfl, rfl⟩ := split_append split
  · obtain ⟨answer, others, rfl⟩ := first earlier deed rest process rfl started
    exact ⟨answer, others ++ more, rfl⟩
  · exact second between deed later process rfl started

theorem detached_of_none (none : ∀ deed ∈ made, Deed.attached? deed = none) : Detached made := by
  rintro earlier deed later process rfl attached
  have apart := none deed (List.mem_append_right _ List.mem_cons_self)
  rw [attached] at apart
  cases apart

/-- One agent is attached, and in the end it is told to stop and waited for. -/
theorem detached_single {deed : Deed} {process left : Running} {stopped : Bool}
    {answer : Except EngineError Int} (before : ∀ deed ∈ made, Deed.attached? deed = none)
    (attached : Deed.attached? deed = some process)
    (after : ∀ deed ∈ more, Deed.attached? deed = none) :
    Detached (made ++ deed ::
      (more ++ [⟨.stop process, (stopped, left)⟩, ⟨.wait left, answer⟩])) := by
  intro earlier other later process' split attached'
  have elsewhere : ∀ rest : List Deed, (∀ deed ∈ rest, Deed.attached? deed = none) →
      other ∉ rest := by
    intro rest none member
    rw [none other member] at attached'
    cases attached'
  have late : ∀ deed ∈ more ++ [⟨.stop process, (stopped, left)⟩, ⟨.wait left, answer⟩],
      Deed.attached? deed = none := by
    refine List.forall_mem_append.mpr ⟨after, ?_⟩
    exact List.forall_mem_cons.mpr ⟨rfl, List.forall_mem_singleton.mpr rfl⟩
  obtain ⟨-, rfl, rfl⟩ := (List.append_cons_inj_of_notMem (elsewhere _ before)
    (elsewhere _ late)).mp split
  obtain rfl := Option.some.inj (attached.symm.trans attached')
  exact ⟨more, stopped, left, answer, rfl⟩

end Processes

namespace Command

open Build (Turn Request Run Does)

/-! ## Events -/

/-- Something that happens to a build before it is cleared away. -/
inductive Event where
  | turn (turn : Turn)
  | waited (process : Running) (answer : Except EngineError Int)
  | stopped (process : Running) (answer : Bool × Running)

namespace Event

/-- What was done in an event. -/
def deeds : Event → List Deed
  | turn taken => deedsOf taken.trace
  | waited process answer => [⟨.wait process, answer⟩]
  | stopped process answer => [⟨.stop process, answer⟩]

def turn? : Event → Option Turn
  | turn taken => some taken
  | _ => none

end Event

/-- What was done in events. -/
def doneIn (events : List Event) : List Deed :=
  events.flatMap Event.deeds

/-- The requests among events. -/
def turnsIn (events : List Event) : List Turn :=
  events.filterMap Event.turn?

/-- Events by which a build became another, with what was done in them; it was not cleared
away. -/
def Led (build : Build) (made : List Deed) (after : Build) : Prop :=
  ∃ events, doneIn events = made ∧ Run build (turnsIn events) after ∧
    ∀ turn ∈ turnsIn events, turn.request ≠ .clean

namespace Led

variable {build middle after : Build} {made more : List Deed}

theorem refl (build : Build) : Led build [] build :=
  ⟨[], rfl, .start, List.forall_mem_nil _⟩

theorem trans (first : Led build made middle) (second : Led middle more after) :
    Led build (made ++ more) after := by
  obtain ⟨events, rfl, run, kept⟩ := first
  obtain ⟨later, rfl, further, kept'⟩ := second
  have turns : turnsIn (events ++ later) = turnsIn events ++ turnsIn later :=
    List.filterMap_append
  refine ⟨events ++ later, List.flatMap_append, ?_, ?_⟩
  · rw [turns]
    exact run.append further
  · rw [turns]
    exact List.forall_mem_append.mpr ⟨kept, kept'⟩

theorem turn {turn : Turn} (happens : turn.Happens) (other : turn.request ≠ .clean) :
    Led turn.before (deedsOf turn.trace) turn.after :=
  ⟨[.turn turn], List.flatMap_singleton .., .turn .start happens,
    List.forall_mem_singleton.mpr other⟩

theorem waited (build : Build) (process : Running) (answer : Except EngineError Int) :
    Led build [⟨.wait process, answer⟩] build :=
  ⟨[.waited process answer], rfl, .start, List.forall_mem_nil _⟩

theorem stopped (build : Build) (process : Running) (answer : Bool × Running) :
    Led build [⟨.stop process, answer⟩] build :=
  ⟨[.stopped process answer], rfl, .start, List.forall_mem_nil _⟩

end Led

/-! ## The commands -/

/-- Commands that ran for a build: events in which every process was waited for. -/
structure Ran (build : Build) (made : List Deed) (after : Build) : Prop where
  led : Led build made after
  awaited : Awaited made
  runs : ∀ deed ∈ made, deed.question.Runs

namespace Ran

variable {build middle after : Build} {made more : List Deed}

theorem refl (build : Build) : Ran build [] build :=
  ⟨.refl build, awaited_of_none (List.forall_mem_nil _), List.forall_mem_nil _⟩

theorem trans (first : Ran build made middle) (second : Ran middle more after) :
    Ran build (made ++ more) after :=
  ⟨first.led.trans second.led, first.awaited.append second.awaited,
    List.forall_mem_append.mpr ⟨first.runs, second.runs⟩⟩

/-- Nothing is attached when commands run. -/
theorem attached?_eq_none (ran : Ran build made after) :
    ∀ deed ∈ made, Deed.attached? deed = none := by
  intro deed member
  obtain ⟨action, answer⟩ := deed
  have runs := ran.runs _ member
  cases action with
  | engine call => cases call <;> first | rfl | exact runs.elim
  | _ => rfl

end Ran

/-- What finding a place for a process does starts no process. -/
theorem started?_eq_none {placing : List Deed} (places : ∀ deed ∈ placing, deed.question.Places) :
    ∀ deed ∈ placing, Deed.started? deed = none := by
  intro deed member
  obtain ⟨action, answer⟩ := deed
  have here := places _ member
  cases action with
  | engine call => cases call <;> first | rfl | exact here.elim
  | _ => rfl

/-- A process is asked for, whether or not it starts. -/
theorem does_runProcess (starter : Starter) (build : Build) :
    Does (Build.runProcess starter) build fun result made after =>
      Led build made after ∧ ∃ placing, (∀ deed ∈ placing, deed.question.Places) ∧
        (made = placing ∧ (∃ cause, result = .error cause) ∨
          ∃ container starter answer,
            made = placing ++ [⟨.engine (.exec container starter), answer⟩] ∧
              result = answer.mapError (.executionFailed container)) := by
  have turns := @Build.does_turn _ build _ (.runProcess starter) rfl
  refine (turns.and (Build.runProcess_does starter)).mono ?_
  rintro result made after ⟨⟨turn, happens, request, rfl, rfl, rfl⟩, done⟩
  exact ⟨.turn happens (by rw [request]; exact nofun), done⟩

/-- What a command does once its process runs. -/
theorem does_wait (process : Running) (line : String) (build : Build) :
    Does (do
        let code ← OnBuild.ofDuty (.attempt EngineError.chain (Work.act (.wait process)))
        OnBuild.ofDuty (tell .debug (line ++ " exited with " ++ toString code))
        pure code) build fun result made after => after = build ∧ ∃ answer,
      made = [⟨.wait process, answer⟩] ∧
        result = answer.mapError fun cause => .ofChain cause.chain := by
  refine Build.does_bind.mpr (does_ofDuty.mpr (does_attempt.mpr ?_))
  refine (Program.ensures_question rfl).mpr fun answer => ?_
  cases answer with
  | ok code => exact does_tell_bind.mpr (Build.does_pure.mpr ⟨rfl, _, rfl, rfl⟩)
  | error cause => exact ⟨rfl, _, rfl, rfl⟩

/-- **A command runs; if its process starts, it is waited for.** -/
theorem runCommand_ran (plan : Plan) (cmds : List String) (build : Build) :
    Does (runCommand plan cmds) build fun _ made after => Ran build made after := by
  refine Build.does_get_bind.mpr (does_tell_bind.mpr ?_)
  refine does_ofOperation_bind (does_runProcess (plan.starter cmds) build) ?_ ?_
  · rintro process made after ⟨led, placing, places, ⟨-, cause, failed⟩ |
      ⟨container, starter, answer, rfl, came⟩⟩
    · cases failed
    · obtain rfl := eq_ok_of_mapError came
      refine (does_wait process _ after).mono ?_
      rintro _ _ _ ⟨rfl, answer, rfl, -⟩
      refine ⟨led.trans (.waited _ process answer), ?_, ?_⟩
      · rw [List.append_assoc]
        exact (awaited_of_none (started?_eq_none places)).append (awaited_pair rfl answer)
      · refine List.forall_mem_append.mpr ⟨List.forall_mem_append.mpr ⟨?_, ?_⟩, ?_⟩
        · exact fun deed member => (places deed member).runs
        · exact List.forall_mem_singleton.mpr trivial
        · exact List.forall_mem_singleton.mpr trivial
  · rintro cause made after ⟨led, placing, places, ⟨rfl, -⟩ |
      ⟨container, starter, answer, rfl, came⟩⟩
    · exact ⟨led, awaited_of_none (started?_eq_none places),
        fun deed member => (places deed member).runs⟩
    · obtain ⟨failure, rfl⟩ := eq_error_of_mapError came
      refine ⟨led, ?_, ?_⟩
      · refine (awaited_of_none (started?_eq_none places)).append (awaited_of_none ?_)
        exact List.forall_mem_singleton.mpr rfl
      · refine List.forall_mem_append.mpr ⟨fun deed member => (places deed member).runs, ?_⟩
        exact List.forall_mem_singleton.mpr trivial

/-- However many commands there are and whatever they come to, every process that starts is
waited for. -/
theorem runCheckout_ran (plan : Plan) (commands : List (List String)) (build : Build) :
    Does (runCheckout plan commands) build fun _ made after => Ran build made after := by
  induction commands generalizing build with
  | nil => exact Build.does_pure.mpr (.refl build)
  | cons cmds rest ih =>
    refine (runCommand_ran plan cmds build).bind ?_ fun _ _ _ ran => ran
    intro code made after ran
    split
    · exact (ih after).mono fun _ more last further => ran.trans further
    · refine does_tell_bind.mpr (Build.does_pure.mpr ?_)
      rwa [List.append_nil]

theorem advancePhase_ran (build : Build) :
    Does Build.advancePhase build fun _ made after => Ran build made after := by
  have turns := @Build.does_turn _ build _ .advancePhase (id_map _).symm
  refine (turns.and Build.advancePhase_does).mono ?_
  rintro _ _ after ⟨⟨turn, happens, request, rfl, rfl, none⟩, rfl⟩
  refine ⟨?_, awaited_of_none (List.forall_mem_nil _), List.forall_mem_nil _⟩
  rw [← none]
  exact .turn happens (by rw [request]; exact nofun)

theorem runPhases_ran (plan : Plan) (build : Build) :
    Does (runPhases plan) build fun _ made after => Ran build made after := by
  refine (runCheckout_ran plan plan.checkout build).bind ?_ fun _ _ _ ran => ran
  intro outcome made after ran
  cases outcome with
  | some code =>
    refine Build.does_pure.mpr ?_
    rwa [List.append_nil]
  | none =>
    refine does_ofOperation_bind (advancePhase_ran after) ?_ ?_
    · intro _ more middle advanced
      refine (runCommand_ran plan plan.command middle).mono fun _ _ last further => ?_
      exact ran.trans (advanced.trans further)
    · intro _ more middle advanced
      exact ran.trans advanced

/-! ## The agent beside them -/

/-- What was done for a build until it is cleared away. -/
structure Tended (build : Build) (made : List Deed) (after : Build) : Prop where
  led : Led build made after
  awaited : Awaited made
  detached : Detached made
  unwritten : ∀ deed ∈ made, ¬deed.question.Writes

/-- Waiting for a process and reporting how it ended is one deed. -/
theorem does_wait_report {process : Running} {report : Except EngineError Int → Duty Unit}
    (reports : ∀ answer, Work.Does (report answer).run fun result made =>
      result = .ok () ∧ made = []) :
    Work.Does (Duty.ofWork (Work.act (.wait process)) >>= report).run fun result made =>
      result = .ok () ∧ ∃ answer, made = [⟨.wait process, answer⟩] := by
  refine Program.ensures_lift_andThen.mpr ((Program.ensures_question rfl).mpr fun answer => ?_)
  refine (reports answer).mono ?_
  rintro _ _ ⟨rfl, rfl⟩
  exact ⟨rfl, answer, rfl⟩

/-- Letting go of an agent tells it to stop, then waits for it. -/
theorem does_detach (process : Running) :
    Work.Does (detach process).run fun result made => result = .ok () ∧
      ∃ stopped left answer,
        made = [⟨.stop process, (stopped, left)⟩, ⟨.wait left, answer⟩] := by
  refine Program.ensures_lift_andThen.mpr ((Program.ensures_question rfl).mpr ?_)
  rintro ⟨stopped, left⟩
  have stops (result : Except Failure Unit) (more : List Deed)
      (done : result = .ok () ∧ ∃ answer, more = [⟨.wait left, answer⟩]) :
      result = .ok () ∧ ∃ stopped' left' answer,
        [⟨.stop process, (stopped, left)⟩] ++ more =
          [⟨.stop process, (stopped', left')⟩, ⟨.wait left', answer⟩] := by
    obtain ⟨rfl, answer, rfl⟩ := done
    exact ⟨rfl, stopped, left, answer, rfl⟩
  cases stopped with
  | true =>
    refine Program.ensures_andThen.mpr (does_tell.mpr ((does_wait_report ?_).mono ?_))
    · rintro (cause | code)
      · exact does_tell.mpr ⟨rfl, rfl⟩
      · exact does_tell.mpr ⟨rfl, rfl⟩
    · exact fun result more done => stops result more done
  | false =>
    refine (does_wait_report ?_).mono stops
    rintro (cause | code)
    · exact does_tell.mpr ⟨rfl, rfl⟩
    · exact does_tell.mpr ⟨rfl, rfl⟩

theorem prepareAgent_does (build : Build) :
    Does Build.prepareAgent build fun _ made after => Led build made after ∧
      ∀ deed ∈ made, deed.question.Prepares := by
  have turns := @Build.does_turn _ build _ .prepareAgent (id_map _).symm
  refine (turns.and Build.prepareAgent_asks.does).mono ?_
  rintro _ _ after ⟨⟨turn, happens, request, rfl, rfl, rfl⟩, prepares⟩
  exact ⟨.turn happens (by rw [request]; exact nofun), prepares⟩

theorem does_attachAgent (build : Build) :
    Does (Build.attachAgent none) build fun result made after => Led build made after ∧
      (made = [] ∧ (∃ cause, result = .error cause) ∨
        ∃ handle answer, made = [⟨.engine (.attachAgent handle none), answer⟩] ∧
          result = answer.mapError (.executionFailed handle.id)) := by
  have turns := @Build.does_turn _ build _ (.attachAgent none) rfl
  refine (turns.and (Build.attachAgent_does none)).mono ?_
  rintro result made after ⟨⟨turn, happens, request, rfl, rfl, rfl⟩, done⟩
  exact ⟨.turn happens (by rw [request]; exact nofun), done⟩

/-- Preparing an agent starts no process. -/
theorem prepares_apart {made : List Deed} (prepares : ∀ deed ∈ made, deed.question.Prepares) :
    ∀ deed ∈ made, Deed.started? deed = none ∧ Deed.attached? deed = none := by
  intro deed member
  obtain ⟨action, answer⟩ := deed
  have here := prepares _ member
  cases action with
  | engine call => cases call <;> first | exact ⟨rfl, rfl⟩ | exact here.elim
  | _ => exact ⟨rfl, rfl⟩

section Tending

variable {build after last : Build} {made : List Deed}

/-- A build whose agent could not be attached. -/
theorem Tended.unattached (led : Led build made after)
    (apart : ∀ deed ∈ made, Deed.started? deed = none ∧ Deed.attached? deed = none)
    (unwritten : ∀ deed ∈ made, ¬deed.question.Writes) : Tended build made after :=
  ⟨led, awaited_of_none fun deed member => (apart deed member).1,
    detached_of_none fun deed member => (apart deed member).2, unwritten⟩

/-- Commands that ran between attaching an agent and letting go of it. -/
theorem Tended.attached {ran : List Deed} {handle : Handle} {process left : Running}
    {stopped : Bool} {answer : Except EngineError Int}
    (led : Led build (made ++ [⟨.engine (.attachAgent handle none), .ok process⟩]) after)
    (prepares : ∀ deed ∈ made, deed.question.Prepares) (runs : Ran after ran last) :
    Tended build (made ++ ⟨.engine (.attachAgent handle none), .ok process⟩ ::
      (ran ++ [⟨.stop process, (stopped, left)⟩, ⟨.wait left, answer⟩])) last := by
  have apart := prepares_apart prepares
  refine ⟨?_, ?_, ?_, ?_⟩
  · have released := (Led.stopped last process (stopped, left)).trans (.waited last left answer)
    simpa using led.trans (runs.led.trans released)
  · have start : Awaited [⟨.engine (.attachAgent handle none), .ok process⟩] :=
      awaited_of_none (List.forall_mem_singleton.mpr rfl)
    have release : Awaited [⟨.stop process, (stopped, left)⟩, ⟨.wait left, answer⟩] :=
      awaited_of_none (List.forall_mem_cons.mpr ⟨rfl, List.forall_mem_singleton.mpr rfl⟩)
    have before := awaited_of_none fun deed member => (apart deed member).1
    simpa using before.append (start.append (runs.awaited.append release))
  · exact detached_single (fun deed member => (apart deed member).2) rfl runs.attached?_eq_none
  · refine List.forall_mem_append.mpr ⟨fun deed member => (prepares deed member).not_writes, ?_⟩
    refine List.forall_mem_cons.mpr ⟨id, List.forall_mem_append.mpr ⟨?_, ?_⟩⟩
    · exact fun deed member => (runs.runs deed member).not_writes
    · exact List.forall_mem_cons.mpr ⟨id, List.forall_mem_singleton.mpr id⟩

end Tending

/-- **Whatever happens to the agent and to the commands, every process was waited for and the
agent was let go of.** -/
theorem runWithAgent_tended (plan : Plan) (build : Build) :
    Does (runWithAgent plan) build fun _ made after => Tended build made after := by
  refine does_ofOperation_bind (prepareAgent_does build) ?_ ?_
  · rintro _ made prepared ⟨led, prepares⟩
    have unwritten : ∀ deed ∈ made, ¬deed.question.Writes := fun deed member =>
      (prepares deed member).not_writes
    refine does_ofOperation_bind (does_attachAgent prepared) ?_ ?_
    · rintro process _ after ⟨ledOn, ⟨-, cause, failed⟩ | ⟨handle, answer, rfl, came⟩⟩
      · cases failed
      · obtain rfl := eq_ok_of_mapError came
        have phases : Work.Does ((runPhases plan).run.run after) fun last made =>
            Ran after made last.2 := runPhases_ran plan after
        refine Build.does_bind.mpr (Build.does_lift.mpr (phases.mono fun last ran runs => ?_))
        refine Build.does_bind.mpr (does_ofDuty.mpr ((does_detach process).mono ?_))
        rintro _ _ ⟨rfl, stopped, left, answer, rfl⟩
        have tended := @Tended.attached _ _ _ _ _ _ _ left stopped answer (led.trans ledOn)
          prepares runs
        obtain ⟨outcome, last⟩ := last
        cases outcome with
        | ok code => exact Build.does_pure.mpr (by simpa using tended)
        | error failure => exact Build.does_throw.mpr (by simpa using tended)
    · rintro cause _ after ⟨ledOn, ⟨rfl, -⟩ | ⟨handle, answer, rfl, came⟩⟩
      · exact .unattached (led.trans ledOn) (by simpa using prepares_apart prepares)
          (by simpa using unwritten)
      · obtain ⟨failure, rfl⟩ := eq_error_of_mapError came
        refine .unattached (led.trans ledOn) ?_ ?_
        · refine List.forall_mem_append.mpr ⟨prepares_apart prepares, ?_⟩
          exact List.forall_mem_singleton.mpr ⟨rfl, rfl⟩
        · exact List.forall_mem_append.mpr ⟨unwritten, List.forall_mem_singleton.mpr id⟩
  · rintro cause made after ⟨led, prepares⟩
    exact .unattached led (prepares_apart prepares) fun deed member =>
      (prepares deed member).not_writes

end Command

end BuildYard
