import BuildYard.Proofs.Build.Drives
import BuildYard.Proofs.Program.Questions

/-!
# With what the engine's program is run

A driver by command line runs the engine's program with variables that say how
the engine is reached. Whatever it does, it runs the program with the variables
of its endpoint, and leaves the keys where they are, until it is closed
(`ByCommand.attempt_asks`). So does the yard for all that a build asks
(`Yard.perform_asks`). The process of an agent only passes on what the program
wrote (`ByCommand.attach_passesOn`), so that waiting for it runs nothing.
-/

set_option autoImplicit false

namespace BuildYard

open Program (Asks)

/-! ## Questions -/

namespace Host

variable {α : Type} {allowed : Ask → Prop}

/-- The run of the engine's program that a question is, whether or not to its end. -/
def Ask.invocation? : Ask → Option Invocation
  | .invoke invocation _ | .start invocation _ => some invocation
  | _ => none

/-- The engine's program is run with these variables, if at all, and no keys are stored or
discarded. -/
def Ask.RunsWith (environment : List (String × String)) : Ask → Prop
  | .invoke invocation _ | .start invocation _ => invocation.environment = environment
  | .storeKeys _ | .discardKeys _ => False
  | _ => True

/-- A question by which a process passes on what it wrote. -/
def Ask.PassesOn : Ask → Prop
  | .log _ | .write _ _ => True
  | _ => False

/-- A question that does not run the engine's program. -/
def Ask.RunsNothing (ask : Ask) : Prop :=
  ask.invocation? = none

theorem Ask.RunsWith.environment_eq {environment : List (String × String)} {ask : Ask}
    {invocation : Invocation} (runs : ask.RunsWith environment)
    (run : ask.invocation? = some invocation) : invocation.environment = environment := by
  cases ask with
  | invoke _ _ => exact Option.some.inj run ▸ runs
  | start _ _ => exact Option.some.inj run ▸ runs
  | _ => cases run

theorem Ask.PassesOn.runsWith {environment : List (String × String)} {ask : Ask}
    (passes : ask.PassesOn) : ask.RunsWith environment := by
  cases ask with
  | log _ => trivial
  | write _ _ => trivial
  | _ => exact passes.elim

theorem asks_note {level : Log.Level} {part : Log.Part} {text : String}
    (logs : ∀ entry, allowed (.log entry)) : Asks allowed (note level part text) :=
  Program.asks_question (logs _)

theorem asks_within {span : Log.Span} {task : Task α} (logs : ∀ entry, allowed (.log entry))
    (asks : Asks allowed task) : Asks allowed (within span task) :=
  (Program.asks_question (logs _)).bind fun _ =>
    asks.bind fun _ => (Program.asks_question (logs _)).bind fun _ => Program.asks_pure

end Host

/-! ## Processes -/

namespace Course

variable {α : Type} {allowed : Host.Ask → Prop}

/-- Whatever the answers, a process asks from now on only what is allowed. -/
def Asks (allowed : Host.Ask → Prop) : Course → Prop
  | ended _ | lost _ => True
  | step next | deaf next | idle next => next.Asks allowed
  | ask question next => allowed question ∧ ∀ answer, (next answer).Asks allowed
  | look found => ∀ heard, (found heard).Asks allowed
  | listen stopped silent => stopped.Asks allowed ∧ silent.Asks allowed

theorem asks_after {task : Host.Task α} {next : α → Course} (first : Program.Asks allowed task)
    (later : ∀ a, (next a).Asks allowed) : (after task next).Asks allowed := by
  induction task with
  | done value => exact later value
  | ask question reply ih => exact ⟨first.1, fun answer => ih answer (first.2 answer)⟩

theorem Asks.advance {course : Course} (asks : course.Asks allowed) (told listening : Bool) :
    Program.Asks allowed (course.advance told listening) := by
  induction course generalizing told listening with
  | ended result => trivial
  | lost text => trivial
  | step next ih => exact ih asks told listening
  | ask question next ih => exact ⟨asks.1, fun answer => ih answer (asks.2 answer) told listening⟩
  | deaf next ih => exact ih asks told false
  | look found ih => exact ih _ (asks _) false _
  | listen stopped silent stops keeps =>
    rw [Course.advance]
    split
    · exact stops asks.1 false false
    · exact keeps asks.2 false false
    · trivial
  | idle stopped ih =>
    rw [Course.advance]
    split
    · exact ih asks false false
    · trivial

end Course

theorem Running.wait_asks {allowed : Host.Ask → Prop} {process : Running}
    (asks : process.course.Asks allowed) : Program.Asks allowed process.wait := by
  refine Asks.bind (Asks.bind (asks.advance _ _) fun _ => Program.asks_pure) fun settled => ?_
  split <;> exact Program.asks_pure

/-! ## The driver by command line -/

namespace ByCommand

open Host.Ask (RunsWith PassesOn)

variable {driver : ByCommand}

theorem debug_asks {allowed : Host.Ask → Prop} {text : String}
    (logs : ∀ entry, allowed (.log entry)) : Asks allowed (debug text).run :=
  Asks.lift (Host.asks_note logs)

/-! ### Runs to the end -/

theorem invoke_asks (arguments : List String) (input : Option Bytes) :
    Asks (RunsWith driver.endpoint.environment) (driver.invoke arguments input).run := by
  have same : RunsWith driver.endpoint.environment
      (.invoke (driver.invocation arguments) input) := rfl
  refine (debug_asks fun _ => trivial).andThen fun _ => ?_
  refine (Asks.lift (Program.asks_question same)).andThen fun outcome => ?_
  cases outcome with
  | notStarted cause => exact (debug_asks fun _ => trivial).andThen fun _ => Program.asks_pure
  | unread => exact Program.asks_pure
  | ended code out err => exact Program.asks_pure

theorem run_asks (operation : String) (arguments : List String) (input : Option Bytes) :
    Asks (RunsWith driver.endpoint.environment) (driver.run operation arguments input).run := by
  refine (invoke_asks arguments input).andThen fun output => ?_
  split <;> exact Program.asks_pure

/-- A run whose output does not matter. -/
theorem run_void_asks (operation : String) (arguments : List String) (input : Option Bytes) :
    Asks (RunsWith driver.endpoint.environment)
      ((fun _ => ()) <$> driver.run operation arguments input : Attempt Unit).run := by
  rw [map_eq_pure_bind]
  exact (run_asks operation arguments input).andThen fun _ => Program.asks_pure

theorem probe_asks (operation : String) (arguments : List String) :
    Asks (RunsWith driver.endpoint.environment) (driver.probe operation arguments).run := by
  refine (invoke_asks arguments none).andThen fun output => ?_
  split
  · exact Program.asks_pure
  · split
    · exact (debug_asks fun _ => trivial).andThen fun _ => Program.asks_pure
    · exact Program.asks_pure

/-! ### Launches -/

theorem create_asks (creation : Launch.Creation) :
    Asks (RunsWith driver.endpoint.environment) (driver.create creation).run := by
  rw [create]
  split
  · exact run_asks _ _ _
  · exact Program.asks_pure

theorem copyOut_asks (id path : String) :
    Asks (RunsWith driver.endpoint.environment) (driver.copyOut id path).run := by
  refine (invoke_asks _ none).andThen fun output => ?_
  split
  · exact Program.asks_pure
  · split <;> exact Program.asks_pure

theorem step_asks (step : Launch.Step) :
    Asks (RunsWith driver.endpoint.environment) (driver.step step) := by
  cases step with
  | create creation => exact create_asks creation
  | copyOut id path => exact copyOut_asks id path
  | copyIn id dir archive => exact run_void_asks _ _ _
  | start id => exact run_void_asks _ _ _
  | discard id => exact (run_asks _ _ _).map _
  | readFile path => exact Program.asks_question trivial
  | report level text => exact Host.asks_note fun _ => trivial

theorem perform_asks {α : Type} (plan : Launch.Plan α) :
    Asks (RunsWith driver.endpoint.environment) (plan.perform driver.step).run := by
  refine Asks.map _ (Program.asks_through (fun step _ => ?_) _ _)
  exact (step_asks step).bind fun _ => Program.asks_pure

/-! ### Processes -/

theorem start_asks (arguments : List String) (input : Option Host.Input) :
    Asks (RunsWith driver.endpoint.environment) (driver.start arguments input).run := by
  have same : RunsWith driver.endpoint.environment
      (.start (driver.invocation arguments) input) := rfl
  refine (Asks.lift (Program.asks_question same)).andThen fun answer => ?_
  cases answer <;> exact Program.asks_pure

theorem attach_asks (agent : Handle) (input : Option Host.Input) :
    Asks (RunsWith driver.endpoint.environment) (driver.attach agent input).run :=
  (start_asks _ input).andThen fun _ =>
    (debug_asks fun _ => trivial).andThen fun _ => Program.asks_pure

theorem exec_asks (container : String) (starter : Starter) :
    Asks (RunsWith driver.endpoint.environment) (driver.exec container starter).run :=
  (debug_asks fun _ => trivial).andThen fun _ =>
    (start_asks _ none).andThen fun _ => Program.asks_pure

theorem passOn_asks (description : String) (sinks : Sinks) (child : Host.Child) :
    Asks PassesOn (passOn description sinks child) := by
  have remarks (lines : List String) :
      Asks PassesOn (lines.forM fun line =>
        Host.remark .warn .processes line (some description)) := by
    induction lines with
    | nil => exact Program.asks_pure
    | cons line rest ih => exact (Program.asks_question trivial).bind fun _ => ih
  obtain ⟨out, err⟩ := sinks
  rw [passOn]
  cases out with
  | some sink =>
    refine (Program.asks_question trivial).bind fun _ => ?_
    cases err with
    | some sink => exact (Program.asks_question trivial).bind fun _ => Program.asks_pure
    | none => exact (remarks _).bind fun _ => Program.asks_pure
  | none =>
    cases err with
    | some sink => exact (Program.asks_question trivial).bind fun _ => Program.asks_pure
    | none => exact (remarks _).bind fun _ => Program.asks_pure

theorem course_asks (description : String) (sinks : Sinks) (child : Host.Child) :
    (course description sinks child).Asks PassesOn := by
  refine Course.asks_after (passOn_asks description sinks child) fun passed => ?_
  cases child.ending with
  | exited code => trivial
  | signalled => trivial
  | untilStopped => exact Course.asks_after (Program.asks_question trivial) fun _ => trivial

/-- **The process of an agent only passes on what the program wrote.** -/
theorem attach_passesOn (agent : Handle) (input : Option Host.Input) :
    (driver.attach agent input).ComesTo fun result =>
      ∀ process, result = .ok process → process.course.Asks PassesOn := by
  have failed (cause : EngineError) (process : Running)
      (succeeded : Except.error cause = .ok process) : process.course.Asks PassesOn := by
    cases succeeded
  refine Attempt.comesTo_andThen failed fun child => ?_
  refine Attempt.comesTo_andThen failed fun _ => Attempt.comesTo_pure ?_
  rintro _ ⟨⟩
  exact course_asks _ _ child

/-! ### Operations -/

/-- **Whatever the driver does, the program is run with the variables of its endpoint, and the
keys stay**, unless it is closed. -/
theorem attempt_asks (call : Call) (open_ : call ≠ .close) :
    Asks (RunsWith driver.endpoint.environment) (driver.attempt call).run := by
  cases call with
  | serverVersion =>
    exact (run_asks _ _ _).andThen fun _ =>
      (debug_asks fun _ => trivial).andThen fun _ => Program.asks_pure
  | hasVolume name =>
    rw [attempt]
    split
    · exact Program.asks_pure
    · exact probe_asks _ _
  | createVolume =>
    refine (run_asks _ _ _).andThen fun name => ?_
    split
    · exact Program.asks_pure
    · exact (debug_asks fun _ => trivial).andThen fun _ => Program.asks_pure
  | removeVolume name => exact run_void_asks _ _ _
  | hasContainer id =>
    rw [attempt]
    split
    · exact Program.asks_pure
    · exact probe_asks _ _
  | launchAgent image volume => exact perform_asks _
  | attachAgent agent input => exact attach_asks agent input
  | launchWork image agent hints => exact perform_asks _
  | launchSidecar image agent hints => exact perform_asks _
  | exec container starter => exact exec_asks container starter
  | removeContainer handle => exact run_void_asks _ _ _
  | pullImage image => exact run_void_asks _ _ _
  | hasImage image => exact probe_asks _ _
  | buildImage context tag forcePull => exact run_void_asks _ _ _
  | close => exact absurd rfl open_

/-- Closing the driver runs nothing. -/
theorem close_asks : Asks Host.Ask.RunsNothing (driver.attempt .close).run := by
  rw [attempt, Endpoint.close]
  split
  · exact Program.asks_pure
  · next dir _ =>
    refine (Asks.lift (Host.asks_note fun _ => rfl)).andThen fun _ => ?_
    have discards : Asks Host.Ask.RunsNothing (Host.ask (.discardKeys dir)) :=
      Program.asks_question rfl
    refine (Asks.lift discards).andThen fun answer => ?_
    cases answer <;> exact Program.asks_pure

end ByCommand

/-! ## Actions -/

/-- What a build asks besides waiting for a process and closing the way to the engine. -/
def Action.Ordinary : Action → Prop
  | .log _ | .context _ _ _ | .freshNumber => True
  | .engine call => call ≠ .close
  | _ => False

theorem Driver.spanned_asks {α : Type} {allowed : Host.Ask → Prop} {part : Log.Part}
    {call : Call} {task : Host.Task α} (logs : ∀ entry, allowed (.log entry))
    (asks : Asks allowed task) : Asks allowed (spanned part call task) := by
  cases call with
  | close => exact asks
  | _ => exact Host.asks_within logs asks

namespace Yard

open Host.Ask (RunsWith PassesOn RunsNothing)

variable {driver : ByCommand} {action : Action}

/-- **Whatever a build asks, the program is run with the variables of the driver, and the keys
stay.** -/
theorem perform_asks (ordinary : action.Ordinary) :
    Asks (RunsWith driver.endpoint.environment) (perform action (some (.byCommand driver))) := by
  have asked {α β : Type} {task : Host.Task α} {f : α → β}
      (asks : Asks (RunsWith driver.endpoint.environment) task) :
      Asks (RunsWith driver.endpoint.environment) (task >>= fun a => pure (f a)) :=
    asks.bind fun _ => Program.asks_pure
  cases action with
  | log entry => exact asked (Program.asks_question trivial)
  | context workspace context file => exact asked (Program.asks_question trivial)
  | freshNumber => exact asked (Program.asks_question trivial)
  | engine call =>
    exact asked (asked (Driver.spanned_asks (fun _ => trivial)
      (ByCommand.attempt_asks call ordinary)))
  | _ => exact ordinary.elim

/-- Closing the way to the engine runs nothing. -/
theorem perform_close_asks :
    Asks RunsNothing (perform (.engine .close) (some (.byCommand driver))) :=
  (Asks.bind (ByCommand.close_asks) fun _ => Program.asks_pure).bind fun _ => Program.asks_pure

/-- A process that only passes on what was written runs nothing when it is waited for. -/
theorem perform_wait_asks {process : Running} {driver : Option Driver}
    (passes : process.course.Asks PassesOn) : Asks PassesOn (perform (.wait process) driver) :=
  (Running.wait_asks passes).bind fun _ => Program.asks_pure

/-- What a build asks leaves the driver as it is. -/
theorem perform_stays (stays : action.Ordinary ∨ ∃ process, action = .wait process) :
    Host.Ensures (perform action (some (.byCommand driver))) fun answer _ =>
      answer.2 = some (.byCommand driver) := by
  cases action with
  | engine call =>
    obtain open_ | ⟨_, ⟨⟩⟩ := stays
    have same : driver.next call = driver := by
      cases call with
      | close => exact absurd rfl open_
      | _ => rfl
    refine Program.ensures_bind.mpr (Program.ensures_bind.mpr fun _ _ _ => ?_)
    exact Program.ensures_pure.mpr (Program.ensures_pure.mpr (by rw [same]))
  | log entry => exact Program.ensures_bind.mpr fun _ _ _ => Program.ensures_pure.mpr rfl
  | context workspace context file =>
    exact Program.ensures_bind.mpr fun _ _ _ => Program.ensures_pure.mpr rfl
  | freshNumber => exact Program.ensures_bind.mpr fun _ _ _ => Program.ensures_pure.mpr rfl
  | wait process => exact Program.ensures_bind.mpr fun _ _ _ => Program.ensures_pure.mpr rfl
  | _ => obtain ordinary | ⟨_, ⟨⟩⟩ := stays; exact ordinary.elim

/-- Closing leaves the driver without its keys. -/
theorem perform_close :
    Host.Ensures (perform (.engine .close) (some (.byCommand driver))) fun answer _ =>
      answer.2 = some (.byCommand { driver with endpoint := driver.endpoint.closed }) := by
  refine Program.ensures_bind.mpr (Program.ensures_bind.mpr fun _ _ _ => ?_)
  exact Program.ensures_pure.mpr (Program.ensures_pure.mpr rfl)

/-- The process of an agent that was attached only passes on what the program wrote. -/
theorem perform_attach {agent : Handle} {input : Option Host.Input} :
    Host.Ensures (perform (.engine (.attachAgent agent input)) (some (.byCommand driver)))
      fun answer _ => ∀ process, answer.1 = .ok process → process.course.Asks PassesOn := by
  refine Program.ensures_bind.mpr (Program.ensures_bind.mpr ?_)
  refine (Driver.ensures_spanned.mpr (ByCommand.attach_passesOn agent input)).mono ?_
  intro answer made passes
  exact Program.ensures_pure.mpr (Program.ensures_pure.mpr passes)

end Yard

end BuildYard
