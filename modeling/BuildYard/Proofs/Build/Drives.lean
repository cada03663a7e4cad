import BuildYard.Proofs.Build.Handles
import BuildYard.Proofs.Engine.Naming

/-!
# Runs that a driver carries out

The yard carries out the actions of a build: it passes calls to the driver that
is connected, and asks the host for the rest. A run is `Driven` if its actions
are carried out so, and its log tells what the host was asked for each of them.
A driver to an engine outside stays one, whatever is connected on the way, and
what a run creates has the names that the engine's replies give it
(`Driven.named`). Requests that are carried out while a world answers the host's
questions are such a run (`driven_drive`).
-/

set_option autoImplicit false

namespace BuildYard

variable {α β : Type}

/-! ## Connecting -/

/-- The driver, if one is connected, is a way to an engine outside. -/
def Remote (driver : Option Driver) : Prop :=
  ∀ connected, driver = some connected → connected.kind?.isSome

/-- Whatever is asked, `holds` is true of what an attempt comes to. -/
abbrev Attempt.ComesTo (attempt : Attempt α) (holds : Except EngineError α → Prop) : Prop :=
  Attempt.Ensures attempt fun result _ => holds result

theorem Attempt.comesTo_pure {a : α} {holds : Except EngineError α → Prop} (here : holds (.ok a)) :
    Attempt.ComesTo (pure a) holds :=
  Program.ensures_ok.mpr here

/-- What holds of every failure holds of something and what follows if it holds of that. -/
theorem Attempt.comesTo_andThen {attempt : Attempt α} {f : α → Attempt β}
    {holds : Except EngineError β → Prop} (failed : ∀ cause, holds (.error cause))
    (next : ∀ a, (f a).ComesTo holds) : Attempt.ComesTo (attempt >>= f) holds := by
  refine Program.ensures_andThen.mpr fun trace result _ => ?_
  cases result with
  | error cause => exact failed cause
  | ok a => exact next a

/-- A failure, or a driver of a kind. -/
def Connects (kind : DriverKind) (result : Except EngineError Driver) : Prop :=
  ∀ driver, result = .ok driver → driver.kind? = some kind

theorem connects_error {kind : DriverKind} (cause : EngineError) :
    Connects kind (.error cause) := by
  intro driver succeeded
  cases succeeded

theorem connects_ok {driver : Driver} {kind : DriverKind} (same : driver.kind? = some kind) :
    Connects kind (.ok driver) := by
  rintro _ ⟨⟩
  exact same

theorem Driver.connectCommand_connects (engine : EngineSettings) (agent : AgentSettings) :
    (connectCommand engine agent).ComesTo (Connects .cli) := by
  refine Attempt.comesTo_andThen connects_error fun endpoint => Attempt.comesTo_pure ?_
  exact connects_ok rfl

theorem Driver.connectApi_connects (engine : EngineSettings) (agent : AgentSettings) :
    (connectApi engine agent).ComesTo (Connects .native) := by
  have opened : Attempt.ComesTo
      (do
        let endpoint ← Endpoint.ofSettings engine
        endpoint.host.forM checkHost
        pure (byApi { endpoint, agent }))
      (Connects .native) := by
    refine Attempt.comesTo_andThen connects_error fun endpoint => ?_
    refine Attempt.comesTo_andThen connects_error fun _ => Attempt.comesTo_pure ?_
    exact connects_ok rfl
  dsimp only [connectApi]
  split
  · exact Attempt.comesTo_andThen connects_error fun _ => opened
  · exact opened

theorem Driver.connect_connects (kind : DriverKind) (settings : Settings) :
    (Driver.connect kind settings).ComesTo (Connects kind) := by
  refine Attempt.comesTo_andThen connects_error fun _ => ?_
  cases kind with
  | cli => exact connectCommand_connects settings.engine settings.agent
  | native => exact connectApi_connects settings.engine settings.agent

/-! ## Actions -/

namespace Yard

/-- **Carrying out an action leaves a driver to an engine outside, and what a call creates is
named by the engine's reply.** -/
theorem perform_named {driver : Option Driver} (remote : Remote driver) (action : Action) :
    Host.Ensures (perform action driver) fun answer made =>
      Remote answer.2 ∧
        ∀ call, CallMade.ofAction ⟨action, answer.1⟩ = some call → NamedByReply call made := by
  cases action with
  | engine call =>
    cases driver with
    | none =>
      refine Program.ensures_pure.mpr ⟨remote, fun made same => ?_⟩
      obtain rfl := Option.some.inj same
      cases call <;> exact namedByReply_of_none rfl rfl
    | some driver =>
      have outside := remote driver rfl
      refine Program.ensures_bind.mpr (((driver.perform_named outside call).and
        (driver.perform_kind outside call)).mono ?_)
      rintro ⟨answer, after⟩ made ⟨⟨named, -⟩, kind⟩
      refine Program.ensures_pure.mpr ⟨?_, fun call same => ?_⟩
      · rintro _ ⟨⟩
        exact kind ▸ outside
      · obtain rfl := Option.some.inj same
        exact (List.append_nil made).symm ▸ named
  | connect kind settings =>
    refine Program.ensures_bind.mpr ((Driver.connect_connects kind settings).mono ?_)
    intro result made connects
    cases result with
    | error cause =>
      exact Program.ensures_pure.mpr
        ⟨remote, fun call made => nomatch CallMade.question_of_ofAction made⟩
    | ok connected =>
      refine Program.ensures_pure.mpr
        ⟨?_, fun call made => nomatch CallMade.question_of_ofAction made⟩
      rintro _ ⟨⟩
      exact Option.isSome_iff_exists.mpr ⟨kind, connects connected rfl⟩
  | _ =>
    exact Program.ensures_bind.mpr fun _ _ _ => Program.ensures_pure.mpr
      ⟨remote, fun call made => nomatch CallMade.question_of_ofAction made⟩

end Yard

/-- An action, and what the host was asked to carry it out. -/
abbrev Carried := RelayedExchange Action Action.Answer Host.Ask Host.Ask.Answer

namespace Build

/-! ## Runs that are carried out -/

/-- A run whose actions the yard carries out, beginning with one driver and ending with another;
`log` are the actions, each with what the host was asked for it. -/
structure Driven (start : Build) (driver : Option Driver) (turns : List Turn)
    (log : List Carried) (build : Build) (last : Option Driver) : Prop where
  run : Run start turns build
  carried : Program.Relayed Yard.perform driver log last
  traces : log.map (·.exchange) = turns.flatMap Turn.trace

section Driven

variable {start build : Build} {driver last : Option Driver} {turns : List Turn}
  {log : List Carried}

theorem Driven.callsOf_eq (driven : Driven start driver turns log build last) :
    callsOf turns = callsMade (log.map (·.exchange)) := by
  rw [driven.traces, callsMade, List.filterMap_flatMap]
  rfl

/-- **Whatever was created in a run was named by the reply to its creation**, if the driver is one
to an engine outside. -/
theorem Driven.named (driven : Driven start driver turns log build last) (remote : Remote driver)
    {carried : Carried} (member : carried ∈ log) {call : CallMade}
    (called : CallMade.ofAction carried.exchange = some call) :
    NamedByReply call (requests carried.asked) := by
  have kept := driven.carried.keeps Remote
    (fun action _ _ _ _ remote yields => (Yard.perform_named remote action _ _ yields).1) remote
  obtain ⟨before, after, remote, yields⟩ := kept.2 carried member
  exact (Yard.perform_named remote carried.exchange.question _ _ yields).2 call called

/-- The last turn of a run that is carried out is carried out after the others. -/
theorem Driven.of_concat {turn : Turn}
    (driven : Driven start driver (turns ++ [turn]) log build last) :
    ∃ earlier now middle, log = earlier ++ now ∧
      Driven start driver turns earlier turn.before middle ∧ turn.Happens ∧
      Program.Relayed Yard.perform middle now last ∧ now.map (·.exchange) = turn.trace := by
  have traces := driven.traces
  rw [List.flatMap_append, List.flatMap_singleton] at traces
  obtain ⟨earlier, now, rfl, traced, traced_now⟩ := List.map_eq_append_iff.mp traces
  obtain ⟨middle, relayed, relayed_now⟩ := driven.carried.of_append
  obtain ⟨run, happens⟩ := driven.run.split
  exact ⟨earlier, now, middle, rfl, ⟨run, relayed, traced⟩, happens, relayed_now, traced_now⟩

/-- A run of one turn carries that turn out. -/
theorem Driven.of_singleton {turn : Turn}
    (driven : Driven start driver [turn] log build last) :
    turn.Happens ∧ Program.Relayed Yard.perform driver log last ∧
      log.map (·.exchange) = turn.trace := by
  have run : Run start ([] ++ turn :: []) build := driven.run
  have traces := driven.traces
  rw [List.flatMap_singleton] at traces
  exact ⟨run.split.2, driven.carried, traces⟩

end Driven

/-! ## Runs that a world answers -/

section Drive

variable {σ : Type} (world : (ask : Host.Ask) → σ → ask.Answer × σ)

/-- The turn that a request takes when the yard carries it out and a world answers the host's
questions; what was asked for it; and the driver and the world after it. -/
def Turn.carriedOut (request : Request) (before : Build) (driver : Option Driver) (now : σ) :
    Turn × List Carried × Option Driver × σ :=
  let (log, (result, after), driver, now) :=
    (request.operation.runOn before).relay Yard.perform world driver now
  ({ request, before, trace := log.map (·.exchange), result, after }, log, driver, now)

/-- Requests carried out one after another: the turns, what was asked for them, and the build and
the driver in the end. -/
def drive : List Request → Build → Option Driver → σ →
    List Turn × List Carried × Build × Option Driver
  | [], build, driver, _ => ([], [], build, driver)
  | request :: rest, build, driver, now =>
    let (turn, log, driver, now) := Turn.carriedOut world request build driver now
    let (turns, more, last) := drive rest turn.after driver now
    (turn :: turns, log ++ more, last)

variable {start build : Build} {driver middle : Option Driver} {turns : List Turn}
  {log : List Carried}

/-- A run that is carried out goes on with a request that is. -/
theorem Driven.carriedOut (driven : Driven start driver turns log build middle)
    (request : Request) (now : σ) :
    Driven start driver (turns ++ [(Turn.carriedOut world request build middle now).1])
      (log ++ (Turn.carriedOut world request build middle now).2.1)
      (Turn.carriedOut world request build middle now).1.after
      (Turn.carriedOut world request build middle now).2.2.1 := by
  obtain ⟨relayed, yields⟩ :=
    Program.relayed_relay Yard.perform world (request.operation.runOn build) middle now
  refine ⟨.turn driven.run yields, driven.carried.append relayed, ?_⟩
  rw [List.map_append, driven.traces, List.flatMap_append, List.flatMap_singleton]
  rfl

/-- One request that is carried out is a run. -/
theorem driven_carriedOut (request : Request) (start : Build) (driver : Option Driver) (now : σ) :
    Driven start driver [(Turn.carriedOut world request start driver now).1]
      (Turn.carriedOut world request start driver now).2.1
      (Turn.carriedOut world request start driver now).1.after
      (Turn.carriedOut world request start driver now).2.2.1 := by
  have none : Driven start driver [] [] start driver := ⟨.start, .nil driver, rfl⟩
  exact none.carriedOut world request now

/-- The turns are those that the requests take. -/
theorem drive_requests (requests : List Request) (start : Build) (driver : Option Driver)
    (now : σ) : (drive world requests start driver now).1.map (·.request) = requests := by
  induction requests generalizing start driver now with
  | nil => rfl
  | cons request rest ih => exact congrArg (request :: ·) (ih _ _ _)

/-- **Whatever the world answers, carrying out requests is a run that is carried out.** -/
theorem driven_drive (requests : List Request) (start : Build) (driver : Option Driver) (now : σ) :
    Driven start driver (drive world requests start driver now).1
      (drive world requests start driver now).2.1 (drive world requests start driver now).2.2.1
      (drive world requests start driver now).2.2.2 := by
  suffices continued : ∀ (turns : List Turn) (log : List Carried) (build : Build)
      (middle : Option Driver), Driven start driver turns log build middle →
        Driven start driver (turns ++ (drive world requests build middle now).1)
          (log ++ (drive world requests build middle now).2.1)
          (drive world requests build middle now).2.2.1
          (drive world requests build middle now).2.2.2 from
    continued [] [] start driver ⟨.start, .nil driver, rfl⟩
  -- a run takes turns at its end, so the induction is over what is still to be carried out
  intro turns log build middle driven
  induction requests generalizing turns log build middle now with
  | nil => simpa only [drive, List.append_nil] using driven
  | cons request rest ih =>
    have next := ih (Turn.carriedOut world request build middle now).2.2.2 _ _ _ _
      (driven.carriedOut world request now)
    simpa only [drive, List.append_assoc, List.singleton_append] using next

end Drive

end Build

end BuildYard
